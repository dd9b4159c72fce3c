import Mathlib.Data.List.Induction
import ModemWatch.Proofs.Mirror
import ModemWatch.Replay.Run

/-!
# What a replay leaves behind

A run of a scenario yields reports only.  Following the same steps while keeping the state tells, of
every report, which state it was made in: `after` is the replay of some first steps together with
the state it has come to.  If a scenario runs through, then so do its first steps, and they have the
first reports of the whole.

* `Replay.follow`, `Replay.after` — steps with the state they lead to;
* `Replay.run_eq_after`, `Replay.exists_after_of_run` — a run, and what its first steps came to;
* `Replay.after_induction` — what the start brings about and every step keeps;
* `Host.variants_run` — the variants that run are those that were started;
* `Replay.through_perform` — what a step makes happen; `Replay.silently_perform` that it sends
  nothing, so all that is sent the sessions send when they work.
-/

namespace ModemWatch

/-! ## Which variants run -/

/-- Each variant is tracked once. -/
theorem Settings.nodup_tracked (s : Settings) : s.tracked.Nodup :=
  List.Nodup.filter _ (by decide : (Named.all : List Variant).Nodup)

/-- There is one monitor for each tracked variant. -/
theorem Settings.variants_monitors (s : Settings) :
    s.monitors.map (fun m => m.variant) = s.tracked := by
  rw [monitors, List.map_map]
  exact List.map_id _

/-- The variants that a happening starts. -/
def Happening.starts : Happening → List Variant
  | .start m => [m.variant]
  | _ => []

namespace Host

/-- The variants of the sessions, in order. -/
def variants (h : Host) : List Variant := h.sessions.map (fun s => s.tracker.variant)

theorem variants_deliver (h : Host) (letters : List (SessionId × Message)) :
    (h.deliver letters).variants = h.variants := by
  refine List.ext_getElem? fun j => ?_
  rw [variants, variants, List.getElem?_map, List.getElem?_map, getElem?_deliver, Option.map_map]
  congr 1
  funext s
  exact congrArg Tracker.variant (Session.tracker_receiveAll _ s)

theorem variants_withSession {h : Host} {id : SessionId}
    {f : Session → Platform → Session × Platform}
    (hf : ∀ s : Session, (f s h.platform).1.tracker.variant = s.tracker.variant) :
    (h.withSession id f).variants = h.variants := by
  refine List.ext_getElem? fun j => ?_
  rw [variants, variants, List.getElem?_map, List.getElem?_map, getElem?_withSession]
  split
  · rw [Option.map_map]
    congr 1
    funext s
    exact hf s
  · rfl

theorem variants_step (h : Host) (e : Happening) :
    (h.step e).variants = h.variants ++ e.starts := by
  cases e with
  | start m =>
      have hnew := (Session.started h.sessions.length m h.platform).variant
      simp only [step, start, variants, Happening.starts, List.map_append, List.map_singleton, hnew]
  | signal u =>
      simp only [step, signal, postTo_eq_deliver, variants_deliver, Happening.starts,
        List.append_nil]
      rfl
  | respond n a =>
      simp only [step, respond, answer_eq_deliver, variants_deliver, Happening.starts,
        List.append_nil]
      rfl
  | failAll status =>
      simp only [step, failAll, answer_eq_deliver, variants_deliver, Happening.starts,
        List.append_nil]
      rfl
  | emit event =>
      simp only [step, emit, postTo_eq_deliver, variants_deliver, Happening.starts,
        List.append_nil]
  | processOne id =>
      simp only [Happening.starts, List.append_nil]
      exact variants_withSession fun s => (Session.same_processOne id s h.platform).variant
  | shutdown id =>
      simp only [Happening.starts, List.append_nil]
      refine variants_withSession fun s => ?_
      cases hopen : s.closed with
      | true => simp [Session.shutdown, hopen]
      | false =>
          rw [Session.shutdown_of_open id h.platform hopen]
          exact (Tracker.recorded_stopPolling s.tracker).variant
  | closeOutgoing | failNextWatch | writeScreen | setPower | takeOutgoing | collectSlot =>
      exact (List.append_nil _).symm

/-- **The variants that run are those that were started.** -/
theorem variants_run (h : Host) (es : List Happening) :
    (h.run es).variants = h.variants ++ es.flatMap Happening.starts := by
  induction es generalizing h with
  | nil => exact (List.append_nil _).symm
  | cons e es ih =>
      refine (ih (h.step e)).trans ?_
      rw [variants_step, List.append_assoc, List.flatMap_cons]

theorem variants_settle (h : Host) : h.settle.variants = h.variants := by
  obtain ⟨es, hes, hrun⟩ := exists_run_settle h
  have hnone : es.flatMap Happening.starts = [] := by
    rw [List.flatMap_eq_nil_iff]
    intro e he
    obtain ⟨id, rfl⟩ := hes e he
    rfl
  rw [hrun, variants_run, hnone, List.append_nil]

theorem variants_startAll (monitors : List Monitor) (h : Host) :
    (h.startAll monitors).variants = h.variants ++ monitors.map (fun m => m.variant) := by
  rw [startAll_eq_run, variants_run, List.flatMap_map, List.map_eq_flatMap]
  rfl

end Host

/-! ## Without anything sent -/

/-- Nothing is sent: no session starts or works, and nobody takes requests. -/
def Happening.Silent : Happening → Prop
  | .start _ | .processOne _ | .takeOutgoing => False
  | _ => True

/-- What the steps of a scenario make happen: something about the signals, the poll sources, the
watches or the radio, or the end of a session. -/
def Happening.Scripted : Happening → Prop
  | .signal _ | .respond .. | .failAll _ | .emit _ | .writeScreen _ | .setPower _ | .shutdown _ =>
    True
  | .closeOutgoing | .failNextWatch _ | .start _ | .processOne _ | .takeOutgoing | .collectSlot =>
    False

/-- Something that the sessions may hear of: about the signals, the poll sources, the watches or the
radio. -/
def Happening.Outside : Happening → Prop
  | .signal _ | .respond .. | .failAll _ | .emit _ | .writeScreen _ | .setPower _ => True
  | .shutdown _ | .closeOutgoing | .failNextWatch _ | .start _ | .processOne _ | .takeOutgoing
  | .collectSlot => False

theorem Happening.Outside.scripted {e : Happening} (he : e.Outside) : e.Scripted := by
  cases e with
  | shutdown => trivial
  | _ => exact he

theorem Happening.Scripted.silent {e : Happening} (he : e.Scripted) : e.Silent := by
  cases e with
  | start | processOne | takeOutgoing => exact he
  | _ => trivial

namespace Host

/-- One host comes of another without anything sent. -/
def Silently (h h' : Host) : Prop := ∃ es : List Happening, (∀ e ∈ es, e.Silent) ∧ h' = h.run es

variable {h h₁ : Host}

theorem silently_step (h : Host) {e : Happening} (he : e.Silent) : h.Silently (h.step e) :=
  through_step h he

theorem Through.silently (hs : h.Through Happening.Scripted h₁) : h.Silently h₁ :=
  hs.mono fun _ => Happening.Scripted.silent

theorem Silently.variants_eq (hs : h.Silently h₁) : h₁.variants = h.variants := by
  obtain ⟨es, hes, rfl⟩ := hs
  have hnone : es.flatMap Happening.starts = [] := by
    rw [List.flatMap_eq_nil_iff]
    intro e he
    cases e with
    | start m => exact absurd (hes _ he) not_false
    | _ => rfl
  rw [variants_run, hnone, List.append_nil]

theorem Through.scripted (hs : h.Through Happening.Outside h₁) : h.Through Happening.Scripted h₁ :=
  hs.mono fun _ => Happening.Outside.scripted

theorem through_setSignal (h : Host) (k : SignalKind) (valid : Option Bool)
    (state : Option k.State) : h.Through Happening.Outside (h.setSignal k valid state) := by
  have hone : ∀ (h : Host) (u : SignalUpdate), h.Through Happening.Outside (h.signal u) :=
    fun h u => through_step h (e := .signal u) trivial
  unfold setSignal
  cases valid with
  | none =>
      cases state with
      | none => exact Through.refl h
      | some state => exact hone _ _
  | some valid =>
      cases state with
      | none => exact hone _ _
      | some state => exact (hone _ _).trans (hone _ _)

theorem through_setUp (h : Host) (i : InitialState) :
    h.Through Happening.Scripted (h.setUp i) := by
  refine Through.trans ?_ (through_step _ (e := .setPower i.batteryPoll) trivial)
  refine Through.trans ?_ (through_setSignal ..).scripted
  refine Through.trans ?_ (through_setSignal ..).scripted
  refine Through.trans ?_ (through_setSignal ..).scripted
  refine Through.trans ?_ (through_setSignal ..).scripted
  exact through_step h (e := .writeScreen (.ofScreen i.screenOn)) trivial

theorem silently_setUp (h : Host) (i : InitialState) : h.Silently (h.setUp i) :=
  (through_setUp h i).silently

theorem through_shutdownAll (h : Host) : h.Through Happening.Scripted h.shutdownAll := by
  refine ⟨(List.range h.sessions.length).map .shutdown, fun e he => ?_, shutdownAll_eq_run h⟩
  obtain ⟨id, -, rfl⟩ := List.mem_map.mp he
  trivial

end Host

namespace Replay

/-! ## The start -/

/-- What a start comes to: one session for each tracked variant. -/
theorem start_eq_ok {s : Scenario} {r : Replay} :
    start s = .ok r ↔ s.settings.validate = .ok () ∧ r =
      { host := ((Host.new s.slot s.interface).setUp s.initial).startAll
          (s.settings.withScreenStatePath screenPath).monitors } := by
  unfold start
  cases hvalid : s.settings.validate with
  | error invalid => simp
  | ok _ => simp [eq_comm]

/-- Only settings keep a replay from its start. -/
theorem start_eq_error {s : Scenario} {invalid : InvalidSettings} :
    start s = .error invalid ↔ s.settings.validate = .error invalid := by
  unfold start
  cases hvalid : s.settings.validate with
  | error invalid' => simp
  | ok _ => simp

/-! ## Steps with the state they lead to -/

/-- Takes steps one after the other, the first with the given number: their reports, and the state
after the last one. -/
def follow : Nat → List Step → Replay → Except NoAnswer (List Report × Replay)
  | _, [], r => .ok ([], r)
  | number, step :: steps, r =>
    match r.apply number step with
    | .error e => .error e
    | .ok (report, r) =>
      match follow (number + 1) steps r with
      | .error e => .error e
      | .ok (reports, r) => .ok (report :: reports, r)

/-- Starts a scenario and takes some steps: the reports, and the state after the last one. -/
def after (s : Scenario) (steps : List Step) : Except Failure (List Report × Replay) :=
  match start s with
  | .error invalid => .error invalid.failure
  | .ok r =>
    let (first, r) := r.report 0 "start" none
    match follow 1 steps r with
    | .error e => .error e.failure
    | .ok (reports, r) => .ok (first :: reports, r)

theorem perform_respond {r : Replay} {serial : Option Serial} {reply : Reply}
    {answered : Option Serial} {h : Host}
    (hstep : r.perform (.respond serial reply) = .ok (answered, h)) :
    ∃ n q, r.target serial = .ok (n, q) ∧ h = (r.host.respond n (reply.completion q)).2 := by
  unfold perform at hstep
  simp only at hstep
  split at hstep
  · cases hstep
  · next n q htarget =>
      obtain ⟨-, rfl⟩ := Prod.mk.inj (Except.ok.inj hstep)
      exact ⟨n, q, htarget, rfl⟩

/-- What is answered was reported. -/
theorem mem_of_target {r : Replay} {serial : Option Serial} {n : Serial} {q : Request}
    (h : r.target serial = .ok (n, q)) : ∃ o ∈ r.sent, o.serial = n ∧ o.request = q := by
  unfold target at h
  split at h
  · cases h
  · next m hm =>
      split at h
      · cases h
      · next request hsent =>
          obtain ⟨rfl, rfl⟩ := Prod.mk.inj (Except.ok.inj h)
          obtain ⟨o, ho, rfl⟩ := Option.map_eq_some_iff.mp hsent
          exact ⟨o, List.mem_of_find?_eq_some ho, by simpa using List.find?_some ho, rfl⟩

/-- A step that ends no session only makes something happen outside them. -/
theorem through_perform_of_ne {r : Replay} {step : Step} {answered : Option Serial} {h : Host}
    (hstep : r.perform step = .ok (answered, h)) (hne : step ≠ .shutdown) :
    r.host.Through Happening.Outside h := by
  have hone : ∀ (h : Host) {e : Happening}, e.Outside → h.Through Happening.Outside (h.step e) :=
    fun h _ he => Host.through_step h he
  cases step with
  | display valid state | battery valid state | charger valid state | tethering valid state =>
      obtain ⟨-, rfl⟩ := Prod.mk.inj (Except.ok.inj hstep)
      exact Host.through_setSignal ..
  | screen on =>
      obtain ⟨-, rfl⟩ := Prod.mk.inj (Except.ok.inj hstep)
      exact (hone r.host (e := .writeScreen (.ofScreen on)) trivial).trans
        (hone _ (e := .emit .changed) trivial)
  | batteryPoll state =>
      obtain ⟨-, rfl⟩ := Prod.mk.inj (Except.ok.inj hstep)
      exact hone r.host (e := .setPower state) trivial
  | watchFailed reason =>
      obtain ⟨-, rfl⟩ := Prod.mk.inj (Except.ok.inj hstep)
      exact hone r.host (e := .emit (.failed reason)) trivial
  | failAll status =>
      obtain ⟨-, rfl⟩ := Prod.mk.inj (Except.ok.inj hstep)
      exact hone r.host (e := .failAll status) trivial
  | shutdown => exact absurd rfl hne
  | respond serial reply =>
      obtain ⟨n, q, -, rfl⟩ := perform_respond hstep
      exact hone r.host (e := .respond n (reply.completion q)) trivial

/-- What a step makes happen, before the sessions work. -/
theorem through_perform {r : Replay} {step : Step} {answered : Option Serial} {h : Host}
    (hstep : r.perform step = .ok (answered, h)) : r.host.Through Happening.Scripted h := by
  by_cases hne : step = .shutdown
  · subst hne
    obtain ⟨-, rfl⟩ := Prod.mk.inj (Except.ok.inj hstep)
    exact Host.through_shutdownAll r.host
  · exact (through_perform_of_ne hstep hne).scripted

/-- A step sends nothing, before the sessions work. -/
theorem silently_perform {r : Replay} {step : Step} {answered : Option Serial} {h : Host}
    (hstep : r.perform step = .ok (answered, h)) : r.host.Silently h :=
  (through_perform hstep).silently

/-- A step lets something happen, and then the sessions work. -/
theorem exists_of_apply {r r' : Replay} {number : Nat} {step : Step} {report : Report}
    (h : r.apply number step = .ok (report, r')) :
    ∃ answered h, r.perform step = .ok (answered, h) ∧
      report = (({ r with host := h } : Replay).report number step.action answered).1 ∧
      r' = (({ r with host := h } : Replay).report number step.action answered).2 := by
  unfold Replay.apply at h
  cases hstep : r.perform step with
  | error e => rw [hstep] at h; cases h
  | ok x =>
      rw [hstep] at h
      have hreport := Except.ok.inj h
      exact ⟨x.1, x.2, rfl, congrArg Prod.fst hreport.symm, congrArg Prod.snd hreport.symm⟩

section Follow

variable {number : Nat} {step : Step} {steps pre post : List Step} {r r' : Replay}
  {reports : List Report}

theorem applyAll_eq_follow (number : Nat) (steps : List Step) (r : Replay) :
    applyAll number steps r = (follow number steps r).map (fun x => x.1) := by
  induction steps generalizing number r with
  | nil => rfl
  | cons step steps ih =>
      rw [applyAll, follow]
      cases r.apply number step with
      | error e => rfl
      | ok x =>
          simp only [ih]
          cases follow (number + 1) steps x.2 <;> rfl

theorem follow_cons_eq_ok :
    follow number (step :: steps) r = .ok (reports, r') ↔
      ∃ report r₁ rest, r.apply number step = .ok (report, r₁) ∧
        follow (number + 1) steps r₁ = .ok (rest, r') ∧ reports = report :: rest := by
  rw [follow]
  constructor
  · intro h
    cases happly : r.apply number step with
    | error e => rw [happly] at h; cases h
    | ok x =>
        rw [happly] at h
        cases hfollow : follow (number + 1) steps x.2 with
        | error e => simp only [hfollow] at h; cases h
        | ok y =>
            simp only [hfollow, Except.ok.injEq, Prod.mk.injEq] at h
            obtain ⟨rfl, rfl⟩ := h
            exact ⟨x.1, x.2, y.1, rfl, hfollow, rfl⟩
  · rintro ⟨report, r₁, rest, happly, hfollow, rfl⟩
    simp only [happly, hfollow]

theorem follow_append_eq_ok :
    follow number (pre ++ post) r = .ok (reports, r') ↔
      ∃ first r₁ rest, follow number pre r = .ok (first, r₁) ∧
        follow (number + pre.length) post r₁ = .ok (rest, r') ∧ reports = first ++ rest := by
  induction pre generalizing number r reports with
  | nil =>
      constructor
      · exact fun h => ⟨[], r, reports, rfl, h, rfl⟩
      · rintro ⟨first, r₁, rest, hpre, hpost, rfl⟩
        obtain ⟨rfl, rfl⟩ := Prod.mk.inj (Except.ok.inj hpre)
        exact hpost
  | cons step pre ih =>
      have hlength : number + (step :: pre).length = number + 1 + pre.length := by
        rw [List.length_cons]
        omega
      rw [List.cons_append, hlength]
      constructor
      · intro h
        obtain ⟨report, r₁, rest, happly, hfollow, rfl⟩ := follow_cons_eq_ok.mp h
        obtain ⟨first, r₂, last, hpre, hpost, rfl⟩ := ih.mp hfollow
        exact ⟨report :: first, r₂, last,
          follow_cons_eq_ok.mpr ⟨report, r₁, first, happly, hpre, rfl⟩, hpost, rfl⟩
      · rintro ⟨first, r₂, last, hpre, hpost, rfl⟩
        obtain ⟨report, r₁, rest, happly, hfollow, rfl⟩ := follow_cons_eq_ok.mp hpre
        exact follow_cons_eq_ok.mpr
          ⟨report, r₁, rest ++ last, happly, ih.mpr ⟨rest, r₂, last, hfollow, hpost, rfl⟩, rfl⟩

theorem length_follow (h : follow number steps r = .ok (reports, r')) :
    reports.length = steps.length := by
  induction steps generalizing number r reports with
  | nil =>
      obtain ⟨rfl, rfl⟩ := Prod.mk.inj (Except.ok.inj h)
      rfl
  | cons step steps ih =>
      obtain ⟨report, r₁, rest, -, hfollow, rfl⟩ := follow_cons_eq_ok.mp h
      rw [List.length_cons, List.length_cons, ih hfollow]

end Follow

section After

variable {s : Scenario} {step : Step} {steps pre post : List Step} {r r' : Replay}
  {reports : List Report}

theorem after_eq_ok :
    after s steps = .ok (reports, r) ↔
      ∃ r₀ rest, start s = .ok r₀ ∧
        follow 1 steps (r₀.report 0 "start" none).2 = .ok (rest, r) ∧
        reports = (r₀.report 0 "start" none).1 :: rest := by
  rw [after]
  constructor
  · intro h
    cases hstart : start s with
    | error invalid => rw [hstart] at h; cases h
    | ok r₀ =>
        rw [hstart] at h
        cases hfollow : follow 1 steps (r₀.report 0 "start" none).2 with
        | error e => simp only [hfollow] at h; cases h
        | ok y =>
            simp only [hfollow, Except.ok.injEq, Prod.mk.injEq] at h
            obtain ⟨rfl, rfl⟩ := h
            exact ⟨r₀, y.1, rfl, hfollow, rfl⟩
  · rintro ⟨r₀, rest, hstart, hfollow, rfl⟩
    simp only [hstart, hfollow]

/-- **The reports of a run are those of all its steps.** -/
theorem run_eq_after (s : Scenario) : run s = (after s s.steps).map (fun x => x.1) := by
  rw [run, after]
  cases start s with
  | error invalid => rfl
  | ok r =>
      simp only [applyAll_eq_follow]
      cases follow 1 s.steps (r.report 0 "start" none).2 <;> rfl

theorem run_eq_ok : run s = .ok reports ↔ ∃ r, after s s.steps = .ok (reports, r) := by
  rw [run_eq_after]
  constructor
  · intro h
    cases hafter : after s s.steps with
    | error e => rw [hafter] at h; cases h
    | ok x =>
        rw [hafter] at h
        obtain rfl : x.1 = reports := Except.ok.inj h
        exact ⟨x.2, rfl⟩
  · rintro ⟨r, h⟩
    rw [h]
    rfl

theorem length_after (h : after s steps = .ok (reports, r)) :
    reports.length = steps.length + 1 := by
  obtain ⟨r₀, rest, -, hfollow, rfl⟩ := after_eq_ok.mp h
  rw [List.length_cons, length_follow hfollow]

theorem after_append (h : after s (pre ++ post) = .ok (reports, r')) :
    ∃ first r rest, after s pre = .ok (first, r) ∧
      follow (pre.length + 1) post r = .ok (rest, r') ∧ reports = first ++ rest := by
  obtain ⟨r₀, all, hstart, hfollow, rfl⟩ := after_eq_ok.mp h
  obtain ⟨first, r, rest, hpre, hpost, rfl⟩ := follow_append_eq_ok.mp hfollow
  refine ⟨_ :: first, r, rest, after_eq_ok.mpr ⟨r₀, first, hstart, hpre, rfl⟩, ?_, rfl⟩
  rwa [Nat.add_comm]

theorem after_append_of_follow {first rest : List Report} (hpre : after s pre = .ok (first, r))
    (hpost : follow (pre.length + 1) post r = .ok (rest, r')) :
    after s (pre ++ post) = .ok (first ++ rest, r') := by
  obtain ⟨r₀, begun, hstart, hfollow, rfl⟩ := after_eq_ok.mp hpre
  rw [Nat.add_comm] at hpost
  refine after_eq_ok.mpr ⟨r₀, begun ++ rest, hstart, ?_, rfl⟩
  exact follow_append_eq_ok.mpr ⟨begun, r, rest, hfollow, hpost, rfl⟩

/-- What the steps that follow come to. -/
theorem exists_follow_of_after {first all : List Report} (hpre : after s pre = .ok (first, r))
    (h : after s (pre ++ post) = .ok (all, r')) :
    ∃ rest, follow (pre.length + 1) post r = .ok (rest, r') ∧ all = first ++ rest := by
  obtain ⟨first', r₁, rest, hfirst, hrest, rfl⟩ := after_append h
  obtain ⟨rfl, rfl⟩ := Prod.mk.inj (Except.ok.inj (hpre.symm.trans hfirst))
  exact ⟨rest, hrest, rfl⟩

/-- **What the first steps came to.**  Their reports are the first of the run. -/
theorem exists_after_of_run (h : run s = .ok reports) (hsteps : s.steps = pre ++ post) :
    ∃ r, after s pre = .ok (reports.take (pre.length + 1), r) := by
  obtain ⟨last, hafter⟩ := run_eq_ok.mp h
  rw [hsteps] at hafter
  obtain ⟨first, r, rest, hpre, -, hreports⟩ := after_append hafter
  refine ⟨r, ?_⟩
  rw [hreports, ← length_after hpre, List.take_left]
  exact hpre

/-- **What the start brings about and every step keeps holds after all steps.** -/
theorem after_induction {P : List Step → List Report → Replay → Prop}
    (hstart : ∀ r, start s = .ok r →
      P [] [(r.report 0 "start" none).1] (r.report 0 "start" none).2)
    (hstep : ∀ pre reports r step report r', after s pre = .ok (reports, r) → P pre reports r →
      r.apply (pre.length + 1) step = .ok (report, r') →
      P (pre ++ [step]) (reports ++ [report]) r')
    (h : after s steps = .ok (reports, r)) : P steps reports r := by
  induction steps using List.reverseRecOn generalizing reports r with
  | nil =>
      obtain ⟨r₀, rest, hr, hfollow, rfl⟩ := after_eq_ok.mp h
      obtain ⟨rfl, rfl⟩ := Prod.mk.inj (Except.ok.inj hfollow)
      exact hstart r₀ hr
  | append_singleton pre step ih =>
      obtain ⟨first, r₁, rest, hpre, hlast, rfl⟩ := after_append h
      obtain ⟨report, r₂, none, happly, hnil, rfl⟩ := follow_cons_eq_ok.mp hlast
      obtain ⟨rfl, rfl⟩ := Prod.mk.inj (Except.ok.inj hnil)
      exact hstep pre first r₁ step report r₂ hpre (ih hpre) happly

/-- All requests that went out were reported. -/
theorem sent_after (h : after s steps = .ok (reports, r)) :
    r.sent = reports.flatMap (fun report => report.requests) := by
  refine after_induction (P := fun _ reports r =>
    r.sent = reports.flatMap (fun report => report.requests)) ?_ ?_ h
  · intro r hstart
    obtain ⟨-, rfl⟩ := start_eq_ok.mp hstart
    rw [List.flatMap_singleton]
    rfl
  · intro pre reports r step report r' _ ih happly
    obtain ⟨answered, h, -, rfl, rfl⟩ := exists_of_apply happly
    rw [List.flatMap_append, List.flatMap_singleton, ← ih]
    rfl

end After

end Replay

end ModemWatch
