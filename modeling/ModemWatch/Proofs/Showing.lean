import ModemWatch.Proofs.Replaying

/-!
# What the signals show

Only a write to a signal changes what the signals show.  Sessions come, work and go without leaving
a trace there, and so do answers, watches and the screen.  What is shown at any point of a replay is
therefore what the initial state and the steps so far have written, one write after the other.

* `Host.snapshot_run` — after any happenings the signals show what was written in them;
* `Replay.snapshot_after` — after any steps of a scenario they show `Scenario.shown`.
-/

namespace ModemWatch

/-- What a happening writes to the signals. -/
def Happening.writes : Happening → List SignalUpdate
  | .signal u => [u]
  | _ => []

/-- Several changes are stored, one after the other. -/
def Snapshot.applyAll (us : List SignalUpdate) (s : Snapshot) : Snapshot := us.foldl Snapshot.apply s

theorem Snapshot.applyAll_append (us vs : List SignalUpdate) (s : Snapshot) :
    s.applyAll (us ++ vs) = (s.applyAll us).applyAll vs :=
  List.foldl_append

namespace Host

/-- What the signals show. -/
def snapshot (h : Host) : Snapshot := h.platform.sources.snapshot

variable (h : Host)

theorem snapshot_withSession {id : SessionId} {f : Session → Platform → Session × Platform}
    (hf : ∀ s, (f s h.platform).2.sources.snapshot = h.snapshot) :
    (h.withSession id f).snapshot = h.snapshot := by
  cases hs : h.sessions[id]? with
  | none => rw [withSession_of_none hs]
  | some s => rw [withSession_of_some hs]; exact hf s

/-- **Only writes change what the signals show.** -/
theorem snapshot_step (e : Happening) : (h.step e).snapshot = h.snapshot.applyAll e.writes := by
  cases e with
  | signal u =>
      rw [step, snapshot, platform_signal]
      exact Sources.snapshot_write u h.platform.sources
  | respond n a => rw [step, snapshot, platform_respond]; rfl
  | failAll status => rw [step, snapshot, platform_failAll]; rfl
  | emit event => rw [step, snapshot, platform_emit]; rfl
  | start m =>
      have hsources := (Session.started h.sessions.length m h.platform).sources
      have hshown := Sources.snapshot_subscribeAll h.sessions.length m.variant.profile.signals
        h.platform.sources
      rw [← hsources] at hshown
      exact hshown
  | processOne id =>
      refine snapshot_withSession h fun s => ?_
      rw [Session.sources_processOne]
      rfl
  | shutdown id =>
      refine snapshot_withSession h fun s => ?_
      cases hopen : s.closed with
      | true => simp [Session.shutdown, hopen, snapshot]
      | false =>
          rw [Session.shutdown_of_open id h.platform hopen]
          exact Sources.snapshot_unsubscribeAll h.platform.sources s.subscriptions
  | closeOutgoing | failNextWatch | writeScreen | setPower | takeOutgoing | collectSlot => rfl

theorem snapshot_run (es : List Happening) :
    (h.run es).snapshot = h.snapshot.applyAll (es.flatMap Happening.writes) := by
  induction es generalizing h with
  | nil => rfl
  | cons e es ih =>
      refine (ih (h.step e)).trans ?_
      rw [snapshot_step, List.flatMap_cons, Snapshot.applyAll_append]

theorem snapshot_settle : h.settle.snapshot = h.snapshot := by
  obtain ⟨es, hes, hrun⟩ := exists_run_settle h
  have hnone : es.flatMap Happening.writes = [] := by
    rw [List.flatMap_eq_nil_iff]
    intro e he
    obtain ⟨id, rfl⟩ := hes e he
    rfl
  rw [hrun, snapshot_run, hnone]
  rfl

theorem snapshot_startAll (monitors : List Monitor) :
    (h.startAll monitors).snapshot = h.snapshot := by
  have hnone : (monitors.map Happening.start).flatMap Happening.writes = [] := by
    rw [List.flatMap_map]
    exact List.flatMap_eq_nil_iff.mpr fun _ _ => rfl
  rw [startAll_eq_run, snapshot_run, hnone]
  rfl

theorem snapshot_shutdownAll : h.shutdownAll.snapshot = h.snapshot := by
  have hnone : ((List.range h.sessions.length).map Happening.shutdown).flatMap
      Happening.writes = [] := by
    rw [List.flatMap_map]
    exact List.flatMap_eq_nil_iff.mpr fun _ _ => rfl
  rw [shutdownAll_eq_run, snapshot_run, hnone]
  rfl

end Host

/-! ## Along a replay -/

/-- The writes to a signal's validity and state, as far as they are given. -/
def SignalKind.writes (k : SignalKind) (valid : Option Bool) (state : Option k.State) :
    List SignalUpdate :=
  (valid.map fun valid => ⟨k, .valid valid⟩).toList ++
    (state.map fun state => ⟨k, .state state⟩).toList

/-- What a step writes to the signals. -/
def Step.writes : Step → List SignalUpdate
  | .display valid state => SignalKind.display.writes valid state
  | .battery valid state => SignalKind.battery.writes valid state
  | .charger valid state => SignalKind.charger.writes valid state
  | .tethering valid state => SignalKind.tethering.writes valid state
  | .screen _ | .batteryPoll _ | .watchFailed _ | .respond .. | .failAll _ | .shutdown => []

/-- What is written before the sessions start; a signal that is given is marked valid. -/
def InitialState.writes (i : InitialState) : List SignalUpdate :=
  SignalKind.display.writes (i.display.map fun _ => true) i.display ++
    SignalKind.battery.writes (i.battery.map fun _ => true) i.battery ++
    SignalKind.charger.writes (i.charger.map fun _ => true) i.charger ++
    SignalKind.tethering.writes (i.tethering.map fun _ => true) i.tethering

/-- What the signals show once some steps of a scenario were taken. -/
def Scenario.shown (s : Scenario) (steps : List Step) : Snapshot :=
  Snapshot.applyAll (s.initial.writes ++ steps.flatMap Step.writes) {}

namespace Host

variable (h : Host)

theorem snapshot_setSignal (k : SignalKind) (valid : Option Bool) (state : Option k.State) :
    (h.setSignal k valid state).snapshot = h.snapshot.applyAll (k.writes valid state) := by
  have hsignal : ∀ (h : Host) (u : SignalUpdate), (h.signal u).snapshot = h.snapshot.apply u :=
    fun h u => snapshot_step h (.signal u)
  unfold Host.setSignal
  cases valid <;> cases state <;> simp only [hsignal] <;> rfl

theorem snapshot_setUp (i : InitialState) :
    (h.setUp i).snapshot = h.snapshot.applyAll i.writes := by
  have hpower : ∀ (h : Host) (power : PowerState), (h.setPower power).snapshot = h.snapshot :=
    fun _ _ => rfl
  simp only [Host.setUp, Host.setInitial, hpower, snapshot_setSignal, InitialState.writes,
    Snapshot.applyAll_append]
  rfl

end Host

namespace Replay

theorem snapshot_perform {r : Replay} {step : Step} {answered : Option Serial} {h : Host}
    (hstep : r.perform step = .ok (answered, h)) :
    h.snapshot = r.host.snapshot.applyAll step.writes := by
  cases step with
  | display valid state | battery valid state | charger valid state | tethering valid state =>
      obtain ⟨-, rfl⟩ := Prod.mk.inj (Except.ok.inj hstep)
      exact Host.snapshot_setSignal ..
  | screen on =>
      obtain ⟨-, rfl⟩ := Prod.mk.inj (Except.ok.inj hstep)
      exact Host.snapshot_step (r.host.writeScreen (.ofScreen on)) (.emit .changed)
  | batteryPoll state =>
      obtain ⟨-, rfl⟩ := Prod.mk.inj (Except.ok.inj hstep)
      rfl
  | watchFailed reason =>
      obtain ⟨-, rfl⟩ := Prod.mk.inj (Except.ok.inj hstep)
      exact Host.snapshot_step r.host (.emit (.failed reason))
  | failAll status =>
      obtain ⟨-, rfl⟩ := Prod.mk.inj (Except.ok.inj hstep)
      exact Host.snapshot_step r.host (.failAll status)
  | shutdown =>
      obtain ⟨-, rfl⟩ := Prod.mk.inj (Except.ok.inj hstep)
      exact Host.snapshot_shutdownAll r.host
  | respond serial reply =>
      obtain ⟨n, q, -, rfl⟩ := perform_respond hstep
      exact Host.snapshot_step r.host (.respond n (reply.completion q))

theorem snapshot_report (number : Nat) (action : String) (answered : Option Serial) (r : Replay) :
    (r.report number action answered).2.host.snapshot = r.host.snapshot :=
  Host.snapshot_settle r.host

/-- **After any steps the signals show what was written so far.** -/
theorem snapshot_after {s : Scenario} {steps : List Step} {reports : List Report} {r : Replay}
    (h : after s steps = .ok (reports, r)) : r.host.snapshot = s.shown steps := by
  refine after_induction (P := fun steps _ r => r.host.snapshot = s.shown steps) ?_ ?_ h
  · intro r hstart
    rw [snapshot_report]
    obtain ⟨-, rfl⟩ := start_eq_ok.mp hstart
    rw [Host.snapshot_startAll, Host.snapshot_setUp, Scenario.shown, List.flatMap_nil,
      List.append_nil]
    rfl
  · intro pre reports r step report r' _ ih happly
    obtain ⟨answered, h, hstep, -, rfl⟩ := exists_of_apply happly
    rw [snapshot_report, snapshot_perform hstep, ih, Scenario.shown, Scenario.shown,
      List.flatMap_append, List.flatMap_singleton, ← List.append_assoc,
      Snapshot.applyAll_append _ step.writes]

end Replay

end ModemWatch
