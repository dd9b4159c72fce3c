import Mathlib.Data.List.ReduceOption
import ModemWatch.Proofs.Twins

/-!
# Replays side by side

Take a replay with several variants and one with a single variant of them.  What happens to the
whole can be done to the part as well: all steps are the same, but an answer goes to the request in
the same place, which has another number there, and answers to requests of other variants are left
out.  Step by step the session of the variant and the one that is alone stay twins, and they send the
same requests.

* `Replay.directed`, `Replay.directedAll` — steps for one variant;
* `Replay.Rested`, `Replay.Beside` — what holds between two steps, of a replay and of two;
* `Replay.Beside.apply`, `Replay.Beside.apply_other` — a step, and one that is left out;
* `Replay.Beside.follow` — a row of steps.
-/

namespace ModemWatch

/-- The requests of a report, without their numbers. -/
def Report.asked (report : Report) : List Request := report.requests.map (fun o => o.request)

/-- What was reported of the steps that were kept, and nothing for the others. -/
def spread : List Bool → List (List Request) → List (List Request)
  | [], _ => []
  | false :: kept, asked => [] :: spread kept asked
  | true :: kept, asked => asked.headD [] :: spread kept asked.tail

namespace Replay

/-- The number that a request gets when the other variants are left out. -/
def place (v : Variant) (n : Serial) (sent : List Outgoing) : Serial :=
  (v.part sent).findIdx (fun o => o.serial == n) + 1

/-- A step for one variant: answers to requests of others are left out. -/
def directed (v : Variant) (step : Step) (r : Replay) : Option Step :=
  match step with
  | .respond serial reply =>
    match r.target serial with
    | .error _ => none
    | .ok (n, request) =>
      if v.owns ⟨n, request⟩ then some (.respond (some (place v n r.sent)) reply) else none
  | step => some step

/-- Steps for one variant, as they are taken one after the other. -/
def directedAll (v : Variant) : Nat → List Step → Replay → List (Option Step)
  | _, [], _ => []
  | number, step :: steps, r =>
    match r.apply number step with
    | .error _ => []
    | .ok (_, r') => r.directed v step :: directedAll v (number + 1) steps r'

/-- Between two steps: the sessions of the variants are in order and have nothing to do, and all
requests were reported. -/
structure Rested (variants : List Variant) (r : Replay) : Prop where
  order : r.host.InOrder r.sent
  variants : r.host.variants = variants
  idle : r.host.Idle
  taken : r.host.platform.transport.queued = []

/-- The session of the variant in one replay has a twin in another, which has no other session. -/
def Beside (v : Variant) (r r' : Replay) : Prop :=
  ∃ j, Host.Twin v j r.sent r'.sent r.host r'.host

end Replay

/-- A host with one variant has one session. -/
theorem Host.length_of_variants {h : Host} {v : Variant} (hv : h.variants = [v]) :
    h.sessions.length = 1 := by
  have hlength := congrArg List.length hv
  rwa [variants, List.length_map] at hlength

namespace Replay

variable {v : Variant} {r r' r₁ : Replay} {n : Serial} {q : Request} {serial : Option Serial}

/-- The request that is answered stands in its place among those of its variant. -/
theorem exists_place (ho : r.host.InOrder r.sent) (htarget : r.target serial = .ok (n, q))
    (hown : v.owns ⟨n, q⟩ = true) :
    ∃ i, place v n r.sent = i + 1 ∧ (v.part r.sent)[i]? = some ⟨n, q⟩ := by
  obtain ⟨o, hmem, rfl, rfl⟩ := mem_of_target htarget
  have hpart : o ∈ v.part r.sent := List.mem_filter.mpr ⟨hmem, hown⟩
  have hlt : (v.part r.sent).findIdx (fun e => e.serial == o.serial) < (v.part r.sent).length :=
    List.findIdx_lt_length.mpr ⟨o, hpart, beq_self_eq_true _⟩
  refine ⟨_, rfl, List.getElem?_eq_some_iff.mpr ⟨hlt, ?_⟩⟩
  have hserial := beq_iff_eq.mp (List.findIdx_getElem (w := hlt))
  have hthere := (List.mem_filter.mp (List.getElem_mem hlt)).1
  exact ho.traced.eq_of_serial (List.mem_append_left _ hthere) (List.mem_append_left _ hmem) hserial

/-- Alone, the request in a place is found by it. -/
theorem target_place {i : Nat} {o : Outgoing} (hsent : r'.sent = renumbered (v.part r.sent))
    (hi : (v.part r.sent)[i]? = some o) :
    r'.target (some (i + 1)) = .ok (i + 1, o.request) := by
  have hfound : r'.sent? (i + 1) = some o.request := by
    rw [sent?, hsent, find?_renumbered hi]
    rfl
  simp only [target, Option.some_or, hfound]

/-- **A step that is kept for a variant does the same to both.** -/
theorem twin_perform {j : SessionId} (ht : Host.Twin v j r.sent r'.sent r.host r'.host)
    (hh : r.host.InOrder r.sent) (hg : r'.host.InOrder r'.sent)
    (hone : r'.host.sessions.length = 1) {step step' : Step} {answered : Option Serial} {h : Host}
    (hstep : r.perform step = .ok (answered, h)) (hkept : r.directed v step = some step') :
    ∃ answered' g, r'.perform step' = .ok (answered', g) ∧
      Host.Twin v j r.sent r'.sent h g := by
  cases step with
  | display valid state | battery valid state | charger valid state | tethering valid state =>
      obtain rfl := Option.some.inj hkept
      obtain ⟨-, rfl⟩ := Prod.mk.inj (Except.ok.inj hstep)
      exact ⟨none, _, rfl, ht.setSignal hh hg ..⟩
  | screen on =>
      obtain rfl := Option.some.inj hkept
      obtain ⟨-, rfl⟩ := Prod.mk.inj (Except.ok.inj hstep)
      exact ⟨none, _, rfl, ht.screen hh hg on⟩
  | batteryPoll state =>
      obtain rfl := Option.some.inj hkept
      obtain ⟨-, rfl⟩ := Prod.mk.inj (Except.ok.inj hstep)
      exact ⟨none, _, rfl, ht.setPower state⟩
  | watchFailed reason =>
      obtain rfl := Option.some.inj hkept
      obtain ⟨-, rfl⟩ := Prod.mk.inj (Except.ok.inj hstep)
      exact ⟨none, _, rfl, ht.emit hh.watched hg.watched (.failed reason)⟩
  | failAll status =>
      obtain rfl := Option.some.inj hkept
      obtain ⟨-, rfl⟩ := Prod.mk.inj (Except.ok.inj hstep)
      exact ⟨none, _, rfl, ht.failAll status⟩
  | shutdown =>
      obtain rfl := Option.some.inj hkept
      obtain ⟨-, rfl⟩ := Prod.mk.inj (Except.ok.inj hstep)
      exact ⟨none, _, rfl, ht.shutdownAll hh hg hone⟩
  | respond serial reply =>
      obtain ⟨n, q, htarget, rfl⟩ := perform_respond hstep
      simp only [directed, htarget] at hkept
      split at hkept
      · next hown =>
          obtain rfl := Option.some.inj hkept
          obtain ⟨i, hplace, hi⟩ := exists_place hh htarget hown
          obtain ⟨s, s', -, -, -, hx⟩ := ht.session
          have hthere : (v.part (r.host.platform.transport.ledger r.sent))[i]? = some ⟨n, q⟩ := by
            rw [Transport.ledger, Variant.part_append]
            exact (List.getElem?_append_left (List.getElem?_eq_some_iff.mp hi).1).trans hi
          have hsame := target_place hx.taken hi
          rw [hplace]
          refine ⟨some (i + 1), _, ?_, ht.respond hh hg hthere (reply.completion q)⟩
          simp only [perform, hsame]
      · cases hkept

/-- **A step that is left out does nothing** to the session of the variant. -/
theorem twin_left_out {j : SessionId} (ht : Host.Twin v j r.sent r'.sent r.host r'.host)
    (hh : r.host.InOrder r.sent) {step : Step} {answered : Option Serial} {h : Host}
    (hstep : r.perform step = .ok (answered, h)) (hleft : r.directed v step = none) :
    Host.Twin v j r.sent r'.sent h r'.host := by
  cases step with
  | respond serial reply =>
      obtain ⟨n, q, htarget, rfl⟩ := perform_respond hstep
      simp only [directed, htarget] at hleft
      split at hleft
      · cases hleft
      · next hother =>
          -- what waits for the session is of its variant, by the ledger
          refine ht.respond_other hh (fun w hw hnumber => hother ?_) (reply.completion q)
          obtain ⟨o, ho, rfl, rfl⟩ := mem_of_target htarget
          exact ht.owns_of_waiting hh hw (List.mem_append_left _ ho) hnumber.symm
  | display | battery | charger | tethering | screen | batteryPoll | watchFailed | failAll
    | shutdown => cases hleft

/-! ## Reports -/

section Report

variable {variants : List Variant} (number : Nat) (action : String) (answered : Option Serial)

theorem requests_report (r : Replay) : (r.report number action answered).1.requests =
    r.host.settle.platform.transport.queued := rfl

/-- After a report nobody has anything to do. -/
theorem rested_report (ho : r.host.InOrder r.sent) (hv : r.host.variants = variants) :
    Rested variants (r.report number action answered).2 where
  order := by
    have hdone := (ho.settle.step .takeOutgoing).step .collectSlot
    rwa [show ∀ h : Host, h.takes .collectSlot = [] from fun _ => rfl, List.append_nil] at hdone
  variants := (Host.variants_settle r.host).trans hv
  idle := Host.idle_settle r.host
  taken := rfl

/-- **Both report the same**, as far as the variant is concerned. -/
theorem beside_report (r' : Replay) {j : SessionId}
    (ht : Host.Twin v j r.sent r'.sent r.host r'.host)
    (hh : r.host.InOrder r.sent) (hg : r'.host.InOrder r'.sent) (hv : r.host.Only v j)
    (hone : r'.host.sessions.length = 1) (number' : Nat) (action' : String)
    (answered' : Option Serial) :
    Beside v (r.report number action answered).2 (r'.report number' action' answered').2 ∧
      (r'.report number' action' answered').1.asked =
        (v.part (r.report number action answered).1.requests).map (fun o => o.request) := by
  have hsettled := ht.settle hh hg hv hone
  obtain ⟨s, s', -, -, -, hx⟩ := hsettled.session
  exact ⟨⟨j, hsettled.collect⟩, hx.requests_queued⟩

/-- What is reported of a step that is left out is not of the variant. -/
theorem beside_left_out {j : SessionId} (ht : Host.Twin v j r.sent r'.sent r.host r'.host)
    (hh : r.host.InOrder r.sent) (hr' : Rested [v] r') (hv : r.host.Only v j)
    (hone : r'.host.sessions.length = 1) :
    Beside v (r.report number action answered).2 r' ∧
      v.part (r.report number action answered).1.requests = [] := by
  have hsettled := ht.settle hh hr'.order hv hone
  rw [Host.settle_of_idle hr'.idle] at hsettled
  obtain ⟨s, s', -, -, -, hx⟩ := hsettled.session
  have hrequests := hx.requests_queued
  rw [hr'.taken, List.map_nil, eq_comm, List.map_eq_nil_iff] at hrequests
  exact ⟨⟨j, hsettled.collect_other hr'.taken⟩, hrequests⟩

end Report

section Apply

variable {variants : List Variant} {number number' : Nat} {step step' : Step}
  {steps : List Step} {report : Report} {reports : List Report} {last : Replay}

theorem Rested.apply (hr : Rested variants r) (happly : r.apply number step = .ok (report, r₁)) :
    Rested variants r₁ := by
  obtain ⟨answered, h, hstep, -, rfl⟩ := exists_of_apply happly
  have hsilent := silently_perform hstep
  exact rested_report (r := { r with host := h }) _ _ _ (hr.order.silently hsilent)
    (hsilent.variants_eq.trans hr.variants)

/-- **A step that is kept for a variant.** -/
theorem Beside.apply (hb : Beside v r r') (hr : Rested variants r) (hd : variants.Nodup)
    (hr' : Rested [v] r') (happly : r.apply number step = .ok (report, r₁))
    (hkept : r.directed v step = some step') (number' : Nat) :
    ∃ report' r₁', r'.apply number' step' = .ok (report', r₁') ∧ Beside v r₁ r₁' ∧
      report'.asked = (v.part report.requests).map (fun o => o.request) := by
  -- the step itself sends nothing; after it both settle and report
  obtain ⟨j, ht⟩ := hb
  obtain ⟨answered, h, hstep, rfl, rfl⟩ := exists_of_apply happly
  obtain ⟨answered', g, hstep', ht'⟩ :=
    twin_perform ht hr.order hr'.order (Host.length_of_variants hr'.variants) hstep hkept
  have hsilent := silently_perform hstep
  have hsilent' := silently_perform hstep'
  have honly : h.Only v j := ht'.only (by rw [hsilent.variants_eq, hr.variants]; exact hd)
  have hlength := Host.length_of_variants (hsilent'.variants_eq.trans hr'.variants)
  obtain ⟨hbeside, hasked⟩ := beside_report (r := { r with host := h })
    number step.action answered { r' with host := g } ht'
    (hr.order.silently hsilent) (hr'.order.silently hsilent') honly hlength number' step'.action
    answered'
  refine ⟨_, _, ?_, hbeside, hasked⟩
  rw [Replay.apply, hstep']

/-- **A step that is left out for a variant.** -/
theorem Beside.apply_other (hb : Beside v r r') (hr : Rested variants r) (hd : variants.Nodup)
    (hr' : Rested [v] r') (happly : r.apply number step = .ok (report, r₁))
    (hleft : r.directed v step = none) : Beside v r₁ r' ∧ v.part report.requests = [] := by
  obtain ⟨j, ht⟩ := hb
  obtain ⟨answered, h, hstep, rfl, rfl⟩ := exists_of_apply happly
  have ht' := twin_left_out ht hr.order hstep hleft
  have hsilent := silently_perform hstep
  have honly : h.Only v j := ht'.only (by rw [hsilent.variants_eq, hr.variants]; exact hd)
  exact beside_left_out (r := { r with host := h }) number step.action answered ht'
    (hr.order.silently hsilent) hr' honly (Host.length_of_variants hr'.variants)

theorem Rested.follow (hr : Rested variants r)
    (hfollow : follow number steps r = .ok (reports, last)) : Rested variants last := by
  induction steps generalizing number r reports with
  | nil =>
      obtain ⟨-, rfl⟩ := Prod.mk.inj (Except.ok.inj hfollow)
      exact hr
  | cons step steps ih =>
      obtain ⟨report, r₁, rest, happly, hrest, -⟩ := follow_cons_eq_ok.mp hfollow
      exact ih (hr.apply happly) hrest

/-- **A row of steps.**  The steps that are kept for a variant can be taken without the others, and
then the reports are those of the whole, as far as the variant is concerned. -/
theorem Beside.follow (hb : Beside v r r') (hr : Rested variants r) (hd : variants.Nodup)
    (hr' : Rested [v] r') (hfollow : follow number steps r = .ok (reports, last)) (number' : Nat) :
    ∃ reports' last', Replay.follow number' (directedAll v number steps r).reduceOption r' =
        .ok (reports', last') ∧ Beside v last last' ∧
      spread ((directedAll v number steps r).map Option.isSome) (reports'.map Report.asked) =
        reports.map (fun report => (v.part report.requests).map (fun o => o.request)) := by
  induction steps generalizing number number' r r' reports with
  | nil =>
      obtain ⟨rfl, rfl⟩ := Prod.mk.inj (Except.ok.inj hfollow)
      exact ⟨[], r', rfl, hb, rfl⟩
  | cons step steps ih =>
      obtain ⟨report, r₁, rest, happly, hrest, rfl⟩ := follow_cons_eq_ok.mp hfollow
      simp only [directedAll, happly]
      cases hkept : r.directed v step with
      | none =>
          obtain ⟨hb', hnone⟩ := hb.apply_other hr hd hr' happly hkept
          obtain ⟨reports', last', hfollow', hb'', hspread⟩ :=
            ih hb' (hr.apply happly) hr' hrest number'
          refine ⟨reports', last', hfollow', hb'', ?_⟩
          simp only [List.map_cons, Option.isSome_none, spread, hspread, hnone, List.map_nil]
      | some step' =>
          obtain ⟨report', r₁', happly', hb', hasked⟩ := hb.apply hr hd hr' happly hkept number'
          obtain ⟨reports', last', hfollow', hb'', hspread⟩ :=
            ih hb' (hr.apply happly) (hr'.apply happly') hrest (number' + 1)
          refine ⟨report' :: reports', last', ?_, hb'', ?_⟩
          · rw [List.reduceOption_cons_of_some]
            exact follow_cons_eq_ok.mpr ⟨report', r₁', reports', happly', hfollow', rfl⟩
          · simp only [List.map_cons, Option.isSome_some, spread, List.headD_cons, List.tail_cons,
              hspread, hasked]

end Apply

end Replay

end ModemWatch
