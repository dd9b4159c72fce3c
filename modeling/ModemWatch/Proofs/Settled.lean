import ModemWatch.Proofs.Showing
import ModemWatch.Proofs.Sound

/-!
# What a replay has told the modem

Every step of a replay ends with all queues worked off and all requests reported.  Without a poll
bridge, and while nobody ends the sessions, the host is sound after each step; so the reports so far
tell what follows from the signals.  For each rule of a tracked variant the last reported request of
its class carries the rule's value, and without any request the modem is taken to hold that value
anyway.  The one exception is a class that the modem refused.  The interval that applies at the slot
is the one that follows from the signals.

* `Replay.Refused` — a step answered "not supported" to a request that waited;
* `Replay.Tended` — what holds after every step; `Replay.tended_after`, by induction on the steps;
* `Replay.up_to_date` — what the reports of a run tell.
-/

namespace ModemWatch

namespace Replay

/-- A step answers "not supported" to a waiting request of the class. -/
def Refused (s : Scenario) (steps : List Step) (c : RequestClass) : Prop :=
  ∃ before serial rest reports r n q, steps = before ++ .respond serial .notSupported :: rest ∧
    after s before = .ok (reports, r) ∧ r.target serial = .ok (n, q) ∧
    r.host.platform.transport.isPending n = true ∧ q.cls? = some c

theorem Refused.append {s : Scenario} {steps : List Step} {c : RequestClass}
    (h : Refused s steps c) (more : List Step) : Refused s (steps ++ more) c := by
  obtain ⟨before, serial, rest, reports, r, n, q, rfl, hafter⟩ := h
  exact ⟨before, serial, rest ++ more, reports, r, n, q, by simp, hafter⟩

theorem Refused.mem {s : Scenario} {steps : List Step} {c : RequestClass}
    (h : Refused s steps c) : ∃ serial, Step.respond serial .notSupported ∈ steps := by
  obtain ⟨before, serial, rest, reports, r, n, q, rfl, -⟩ := h
  exact ⟨serial, by simp⟩

/-- The requests of several reports, oldest first. -/
def requests (reports : List Report) : List Request :=
  (reports.flatMap (fun report => report.requests)).map (fun o => o.request)

end Replay

/-! ## Steps on a sound host -/

namespace Host

variable {h : Host} {intervals : Intervals} {i : Interface} {taken : List Outgoing}
  {refused : RequestClass → Prop}

theorem Sound.setSignal (hs : h.Sound intervals i taken refused) (k : SignalKind)
    (valid : Option Bool) (state : Option k.State) :
    (h.setSignal k valid state).Sound intervals i taken refused := by
  cases valid with
  | none =>
      cases state with
      | none => exact hs
      | some state => exact hs.signal ⟨k, .state state⟩
  | some valid =>
      cases state with
      | none => exact hs.signal ⟨k, .valid valid⟩
      | some state => exact (hs.signal ⟨k, .valid valid⟩).signal ⟨k, .state state⟩

theorem Sound.setUp (hs : h.Sound intervals i taken refused) (shown : InitialState) :
    (h.setUp shown).Sound intervals i taken refused := by
  unfold Host.setUp Host.setInitial
  refine Sound.setPower ?_ _
  refine Sound.setSignal ?_ _ _ _
  refine Sound.setSignal ?_ _ _ _
  refine Sound.setSignal ?_ _ _ _
  refine Sound.setSignal ?_ _ _ _
  exact hs.writeScreen _

/-- Sessions of different variants that are not yet there may be started. -/
theorem Sound.startAll (hs : h.Sound intervals i taken refused) {monitors : List Monitor}
    (hall : ∀ m ∈ monitors, m.watchPath = none ∧ m.intervals = intervals)
    (hnodup : (h.variants ++ monitors.map (fun m => m.variant)).Nodup) :
    (h.startAll monitors).Sound intervals i taken refused := by
  induction monitors generalizing h with
  | nil => exact hs
  | cons m monitors ih =>
      obtain ⟨hm, hi⟩ := hall m List.mem_cons_self
      have hfresh : ∀ (j : SessionId) (s : Session), h.sessions[j]? = some s →
          s.tracker.variant ≠ m.variant := by
        intro j s hget heq
        have hmem : s.tracker.variant ∈ h.variants :=
          List.mem_map_of_mem (List.mem_of_getElem? hget)
        have hdisjoint := (List.nodup_append.mp hnodup).2.2
        exact hdisjoint _ hmem m.variant (by simp) heq
      have hvariants : (h.start m).variants = h.variants ++ [m.variant] :=
        variants_step h (.start m)
      refine ih (hs.start hm hi hfresh) (fun m' hm' => hall m' (List.mem_cons_of_mem _ hm')) ?_
      rw [hvariants, List.append_assoc]
      exact hnodup

end Host

/-- Only the reply "not supported" refuses a class. -/
theorem Reply.eq_notSupported {reply : Reply} {q : Request} {c : RequestClass}
    (h : (reply.completion q).outcome c = .notSupported) : reply = .notSupported := by
  obtain ⟨-, hresponse, herror⟩ := Completion.outcome_eq_notSupported_iff.mp h
  cases reply with
  | notSupported => rfl
  | ok | failure | wrongResponse => cases herror
  | txFailed | timeout => cases hresponse

namespace Replay

variable {s : Scenario} {r : Replay} {intervals : Intervals} {i : Interface}
  {refused : RequestClass → Prop}

/-- What a step lets happen keeps a host sound, if a refusal is counted. -/
theorem sound_perform (hs : r.host.Sound intervals i r.sent refused) {step : Step}
    {answered : Option Serial} {h : Host} (hstep : r.perform step = .ok (answered, h))
    (hopen : step ≠ .shutdown)
    (hrefused : ∀ serial n q c, step = .respond serial .notSupported →
      r.target serial = .ok (n, q) → r.host.platform.transport.isPending n = true →
      q.cls? = some c → refused c) : h.Sound intervals i r.sent refused := by
  cases step with
  | display valid state | battery valid state | charger valid state | tethering valid state =>
      obtain ⟨-, rfl⟩ := Prod.mk.inj (Except.ok.inj hstep)
      exact hs.setSignal ..
  | screen on =>
      obtain ⟨-, rfl⟩ := Prod.mk.inj (Except.ok.inj hstep)
      exact (hs.writeScreen (.ofScreen on)).emit .changed
  | batteryPoll state =>
      obtain ⟨-, rfl⟩ := Prod.mk.inj (Except.ok.inj hstep)
      exact hs.setPower state
  | watchFailed reason =>
      obtain ⟨-, rfl⟩ := Prod.mk.inj (Except.ok.inj hstep)
      exact hs.emit (.failed reason)
  | failAll status =>
      obtain ⟨-, rfl⟩ := Prod.mk.inj (Except.ok.inj hstep)
      exact hs.failAll status
  | shutdown => exact absurd rfl hopen
  | respond serial reply =>
      obtain ⟨n, q, htarget, rfl⟩ := perform_respond hstep
      refine hs.respond n (reply.completion q) fun k hk hout => ?_
      obtain rfl := Reply.eq_notSupported hout
      -- the ledger says which class the answered request was of
      obtain ⟨o, ho, hserial, hrequest⟩ := mem_of_target htarget
      have hpending : r.host.platform.transport.isPending n = true := by
        rw [Transport.isPending, hk, Option.isSome_some]
      obtain ⟨w, hw, rfl⟩ := Option.map_eq_some_iff.mp hk
      have hnumber : w.1 = n := by simpa using List.find?_some hw
      have hcls := hs.traced.cls_eq (List.mem_of_find?_eq_some hw)
        (List.mem_append_left _ ho) (hserial.trans hnumber.symm)
      rw [hrequest] at hcls
      exact hrefused serial n q w.2.cls rfl htarget hpending hcls

/-! ## After every step -/

/-- The host is sound and idle, it runs the tracked variants, and every request was reported. -/
structure Tended (s : Scenario) (steps : List Step) (reports : List Report) (r : Replay) :
    Prop where
  sound : r.host.Sound s.settings.intervals s.interface r.sent (Refused s steps)
  idle : r.host.Idle
  variants : r.host.variants = s.settings.tracked
  taken : r.host.platform.transport.queued = []
  sent : r.sent = reports.flatMap (fun report => report.requests)

theorem tended_report {steps : List Step} (reports : List Report)
    (hs : r.host.Sound s.settings.intervals s.interface r.sent (Refused s steps))
    (hvariants : r.host.variants = s.settings.tracked)
    (hsent : r.sent = reports.flatMap (fun report => report.requests))
    (number : Nat) (action : String) (answered : Option Serial) :
    Tended s steps (reports ++ [(r.report number action answered).1])
      (r.report number action answered).2 where
  sound := hs.settle.takeOutgoing.collectSlot
  idle := Host.idle_settle r.host
  variants := (Host.variants_settle r.host).trans hvariants
  taken := rfl
  sent := by
    rw [List.flatMap_append, List.flatMap_singleton, ← hsent]
    rfl

theorem tended_start (hpoll : s.settings.poll.enabled = false) (hstart : start s = .ok r) :
    Tended s [] [(r.report 0 "start" none).1] (r.report 0 "start" none).2 := by
  obtain ⟨-, rfl⟩ := start_eq_ok.mp hstart
  have hvariants : ((s.settings.withScreenStatePath screenPath).monitors).map
      (fun m => m.variant) = s.settings.tracked :=
    Settings.variants_monitors _
  have hnone : ((Host.new s.slot s.interface).setUp s.initial).variants = [] :=
    (Host.silently_setUp ..).variants_eq
  refine tended_report [] ?_ ?_ rfl 0 "start" none
  · refine ((Host.sound_new s.slot s.settings.intervals s.interface).setUp s.initial).startAll
      ?_ (by rw [hnone, hvariants]; exact s.settings.nodup_tracked)
    intro m hm
    obtain ⟨v, -, rfl⟩ := List.mem_map.mp hm
    exact ⟨if_neg (by simpa [Settings.withScreenStatePath] using hpoll), rfl⟩
  · rw [Host.variants_startAll, hnone, hvariants]
    rfl

theorem Tended.apply {pre : List Step} {reports : List Report} (ht : Tended s pre reports r)
    (hafter : after s pre = .ok (reports, r)) {number : Nat} {step : Step} {report : Report}
    {r' : Replay} (happly : r.apply number step = .ok (report, r')) (hopen : step ≠ .shutdown) :
    Tended s (pre ++ [step]) (reports ++ [report]) r' := by
  obtain ⟨answered, h, hstep, rfl, rfl⟩ := exists_of_apply happly
  refine tended_report (r := { r with host := h }) reports ?_
    ((silently_perform hstep).variants_eq.trans ht.variants) ht.sent number step.action answered
  refine sound_perform (ht.sound.mono fun c hc => hc.append [step]) hstep hopen ?_
  rintro serial n q c rfl htarget hpending hcls
  exact ⟨pre, serial, [], reports, r, n, q, rfl, hafter, htarget, hpending, hcls⟩

theorem tended_after (hpoll : s.settings.poll.enabled = false) {steps : List Step}
    {reports : List Report} (hopen : Step.shutdown ∉ steps)
    (hafter : after s steps = .ok (reports, r)) : Tended s steps reports r := by
  refine after_induction (P := fun steps reports r => Step.shutdown ∉ steps →
    Tended s steps reports r) ?_ ?_ hafter hopen
  · exact fun r₀ hstart _ => tended_start hpoll hstart
  · intro pre reports r step report r' hafter ih happly hopen
    have hpre : Step.shutdown ∉ pre := fun hmem => hopen (List.mem_append_left _ hmem)
    have hstep : step ≠ .shutdown := by
      rintro rfl
      exact hopen (List.mem_append_right _ (List.mem_singleton_self _))
    exact (ih hpre).apply hafter happly hstep

/-! ## What the reports tell -/

theorem Tended.told {steps : List Step} {reports : List Report} (ht : Tended s steps reports r)
    {v : Variant} (hv : v ∈ s.settings.devmon.tracking) {rule : DecisionRule}
    (hrule : rule ∈ v.profile.rules) (hrefused : ¬Refused s steps rule.cls) :
    Told s.interface (requests reports) rule r.host.platform.sources.snapshot := by
  have hmem : v ∈ r.host.variants := by
    rw [ht.variants]
    exact Settings.mem_tracked.mpr hv
  obtain ⟨session, hsession, rfl⟩ := List.mem_map.mp hmem
  obtain ⟨j, hget⟩ := List.mem_iff_getElem?.mp hsession
  have htold := ht.sound.told ht.idle hget hrule hrefused
  rwa [Transport.ledger, ht.taken, List.append_nil, ht.sent] at htold

theorem Tended.applied {steps : List Step} {reports : List Report} (ht : Tended s steps reports r)
    (hsome : s.settings.devmon.tracking ≠ []) : r.host.platform.slot.intervals.applied =
      some (r.host.platform.sources.snapshot.cellInfoInterval s.settings.intervals) := by
  refine ht.sound.applied ht.idle fun hnone => hsome ?_
  rw [List.eq_nil_iff_forall_not_mem]
  intro v hv
  have hmem : v ∈ r.host.variants := by
    rw [ht.variants]
    exact Settings.mem_tracked.mpr hv
  simp [Host.variants, hnone] at hmem

/-- **A replay keeps the modem up to date.**  After every report before the sessions are ended, the
reported requests tell for each rule of a tracked variant, unless the modem refused its class, what
follows from the signals; and the interval that follows from the signals applies. -/
theorem up_to_date {reports : List Report} {pre post : List Step}
    (hpoll : s.settings.poll.enabled = false) (hrun : run s = .ok reports)
    (hsteps : s.steps = pre ++ post) (hopen : Step.shutdown ∉ pre) :
    ∃ r, after s pre = .ok (reports.take (pre.length + 1), r) ∧
      r.host.platform.sources.snapshot = s.shown pre ∧
      (∀ v ∈ s.settings.devmon.tracking, ∀ rule ∈ v.profile.rules, ¬Refused s pre rule.cls →
        Told s.interface (requests (reports.take (pre.length + 1))) rule
          r.host.platform.sources.snapshot) ∧
      (s.settings.devmon.tracking ≠ [] → r.host.platform.slot.intervals.applied =
        some (r.host.platform.sources.snapshot.cellInfoInterval s.settings.intervals)) := by
  obtain ⟨r, hafter⟩ := exists_after_of_run hrun hsteps
  have ht := tended_after hpoll hopen hafter
  refine ⟨r, hafter, snapshot_after hafter, ?_, ht.applied⟩
  intro v hv rule hrule hrefused
  exact ht.told hv hrule hrefused

/-- A device that is used for a while, charged, and switched off. -/
def evening : Scenario where
  interface := .v15
  settings := {
    devmon := { tracking := [.indicationFilter, .deviceState] }
    poll := { enabled := false } }
  steps := [.display (some true) (some .on), .respond none .ok, .charger (some true) (some .on),
    .failAll .timeout, .display (some false) none, .shutdown]

/-- Nothing is refused on that evening, so before the end all rules have been told; and with the
display gone the long interval applies. -/
theorem up_to_date_evening :
    ∃ reports r, run evening = .ok reports ∧
      after evening evening.steps.dropLast = .ok (reports.take 6, r) ∧
      (∀ v : Variant, ∀ rule ∈ v.profile.rules,
        Told .v15 (requests (reports.take 6)) rule (evening.shown evening.steps.dropLast)) ∧
      r.host.platform.slot.intervals.applied = some 30000 := by
  have hok : (run evening).toOption.isSome = true := by decide +kernel
  obtain ⟨reports, hrun⟩ : ∃ reports, run evening = .ok reports := by
    cases h : run evening with
    | error e => rw [h] at hok; cases hok
    | ok reports => exact ⟨reports, rfl⟩
  have hsteps : evening.steps = evening.steps.dropLast ++ [.shutdown] := rfl
  have hopen : Step.shutdown ∉ evening.steps.dropLast := by decide
  obtain ⟨r, hafter, hshown, htold, happlied⟩ := up_to_date rfl hrun hsteps hopen
  have hlong : (evening.shown evening.steps.dropLast).cellInfoInterval
      evening.settings.intervals = 30000 := by decide
  rw [hshown] at htold happlied
  rw [hlong] at happlied
  refine ⟨reports, r, hrun, hafter, ?_, happlied (List.cons_ne_nil _ _)⟩
  intro v rule hrule
  have hv : v ∈ evening.settings.devmon.tracking := by cases v <;> decide
  refine htold v hv rule hrule fun hrefused => ?_
  obtain ⟨serial, hmem⟩ := hrefused.mem
  simp [evening] at hmem

end Replay

end ModemWatch
