import ModemWatch.Proofs.Apart
import ModemWatch.Proofs.Changes

/-!
# Sessions whose watch broke

When the watch on the screen state file breaks, the poll bridge of a session lets go of it, and there
is no way to get another.  From then on the session behaves like one that never had a bridge: the
reports of the watch that still wait in its queue come to nothing, and the answers to what the bridge
had sent end their requests as any answer does.  Only the decisions of the bridge stay on record, as
they were.

The comparison is a simulation.  Taking the bridge out of a session that holds no watch commutes with
every message, so it commutes with whatever arrives.

* `Tracker.handle_of_dead` — what a report comes to without a watch;
* `Session.unbridged` — a session with its bridge taken out; `Session.goThrough_unbridged` — it goes
  through whatever arrives in the same way;
* `Session.watch_failure_is_local` — a broken watch ends polling, for good, and nothing else.
-/

namespace ModemWatch

namespace Tracker

variable {t : Tracker} {m : Message}

/-- Letting go of the watch pushes nothing. -/
theorem pushes_stopPolling (t : Tracker) : Action.pushes t.stopPolling.2 = [] := by
  unfold stopPolling
  split
  · rfl
  · split <;> rfl

/-- A bridge without a watch has nothing to let go of. -/
theorem stopPolling_of_dead (h : t.isPolling = false) : t.stopPolling = (t, []) := by
  unfold stopPolling
  split
  · rfl
  · next bridge hb =>
      split
      · rfl
      · next watch hw => simp [isPolling, hb, Bridge.isAlive, hw] at h

/-- Without a watch the reports of one come to nothing. -/
theorem handle_of_dead (h : t.isPolling = false) (hm : m.about = some .polling)
    (sample : PollSample) : t.handle sample m = (t, []) := by
  cases m with
  | signal => cases hm
  | completed => cases hm
  | screenChanged => exact poll_of_dead h sample
  | watchFailed => exact stopPolling_of_dead h

/-- A bridge without a watch stays as it is. -/
theorem bridge_handle_of_dead (h : t.isPolling = false) (sample : PollSample) (m : Message) :
    (t.handle sample m).1.bridge = t.bridge := by
  by_cases hm : m.about = some .polling
  · rw [handle_of_dead h hm]
  · have hpart := congrArg Tracker.bridge (part_handle hm sample t)
    exact hpart

/-- A bridge without a watch may as well be taken out. -/
theorem handle_part_of_dead (h : t.isPolling = false) (sample : PollSample) (m : Message) :
    (t.part .signals).handle sample m =
      ((t.handle sample m).1.part .signals, (t.handle sample m).2) := by
  by_cases hm : m.about = some .polling
  · rw [handle_of_dead h hm, handle_of_dead (t := t.part .signals) rfl hm]
  · cases m with
    | signal => rfl
    | completed => rfl
    | screenChanged => exact absurd rfl hm
    | watchFailed => exact absurd rfl hm

end Tracker

namespace Session

variable {s : Session}

/-- The session with its poll bridge taken out. -/
def unbridged (s : Session) : Session := { s with tracker := s.tracker.part .signals }

/-- Once the watch is gone, a report of it does nothing. -/
theorem handle_of_dead (h : s.tracker.isPolling = false) {m : Message}
    (hm : m.about = some .polling) (id : SessionId) (p : Platform) :
    s.handle id m p = (s, p) ∧ s.wishes m p = [] := by
  refine ⟨?_, ?_⟩
  · cases hc : s.closed with
    | true => exact handle_closed hc
    | false =>
        have hhear : s.dispatcher.hear m = s.dispatcher := by
          cases m with
          | completed => cases hm
          | _ => rfl
        rw [handle_of_open id p hc, Tracker.handle_of_dead h hm]
        exact congrArg (fun d => ({ s with dispatcher := d }, p)) hhear
  · cases hc : s.closed <;> simp [wishes, hc, Tracker.handle_of_dead h hm]

theorem bridge_handle_of_dead (h : s.tracker.isPolling = false) (id : SessionId) (m : Message)
    (p : Platform) : (s.handle id m p).1.tracker.bridge = s.tracker.bridge := by
  rw [tracker_attend, Tracker.attend]
  split
  · rfl
  · exact Tracker.bridge_handle_of_dead h p.sample m

theorem isPolling_handle_of_dead (h : s.tracker.isPolling = false) (id : SessionId) (m : Message)
    (p : Platform) : (s.handle id m p).1.tracker.isPolling = false := by
  rw [Tracker.isPolling, bridge_handle_of_dead h]
  exact h

/-- A session without a watch handles every message as if it had no bridge. -/
theorem handle_unbridged (h : s.tracker.isPolling = false) (id : SessionId) (m : Message)
    (p : Platform) :
    s.unbridged.handle id m p = ((s.handle id m p).1.unbridged, (s.handle id m p).2) ∧
      s.unbridged.wishes m p = s.wishes m p := by
  have htracker := Tracker.handle_part_of_dead h p.sample m
  cases hc : s.closed with
  | true =>
      rw [handle_closed hc, handle_closed (s := s.unbridged) hc]
      exact ⟨rfl, by simp [wishes, unbridged, hc]⟩
  | false =>
      rw [handle_of_open id p hc, handle_of_open id p (s := s.unbridged) hc]
      exact ⟨by simp only [unbridged, htracker], by simp [wishes, unbridged, htracker]⟩

/-- The bridge of a session without a watch stays as it is, whatever arrives. -/
theorem bridge_goThrough_of_dead (h : s.tracker.isPolling = false) (id : SessionId)
    (arrivals : List Arrival) (p : Platform) :
    (s.goThrough Tracker.handle id arrivals p).2.1.tracker.bridge = s.tracker.bridge := by
  induction arrivals generalizing s p with
  | nil => rfl
  | cons a arrivals ih =>
      have hbridge := bridge_handle_of_dead h id a.message (a.meanwhile p)
      have hdead := isPolling_handle_of_dead h id a.message (a.meanwhile p)
      rw [goThrough_cons]
      exact (ih hdead _).trans hbridge

/-- **A session without a watch is a session without a bridge**: it goes through whatever arrives
with the same visits, and leaves the same platform. -/
theorem goThrough_unbridged (h : s.tracker.isPolling = false) (id : SessionId)
    (arrivals : List Arrival) (p : Platform) :
    s.unbridged.goThrough Tracker.handle id arrivals p =
      let run := s.goThrough Tracker.handle id arrivals p
      (run.1, run.2.1.unbridged, run.2.2) := by
  induction arrivals generalizing s p with
  | nil => rfl
  | cons a arrivals ih =>
      obtain ⟨hhandle, hwishes⟩ := handle_unbridged h id a.message (a.meanwhile p)
      have hdead := isPolling_handle_of_dead h id a.message (a.meanwhile p)
      have hrest := ih hdead (s.handle id a.message (a.meanwhile p)).2
      simp only [goThrough_cons, hhandle, hwishes, hrest]

/-- When the watch breaks a session lets go of it, and does nothing else. -/
theorem handle_watchFailed (h : s.closed = false) (id : SessionId) (reason : String)
    (p : Platform) :
    s.handle id (.watchFailed reason) p =
      ({ s with tracker := s.tracker.stopPolling.1 },
        { p with notifier := p.notifier.closeAll (Action.unwatches s.tracker.stopPolling.2) }) := by
  rw [handle_of_open id p h]
  simp only [Tracker.handle, Tracker.sends_stopPolling, Tracker.pushes_stopPolling]
  rfl

/-- **A broken watch ends polling, for good, and nothing else.**  Take an open session, whatever it
has been through; it matters if its poll bridge is alive, but it need not be.  When it handles the
message that the watch broke, nothing is sent or pushed; the platform stays as it is but for the
notifier, and so do the requests in flight, what is supported, and what the session knows of the
signals and has decided from them.

Whatever arrives after that, on whatever platform, the session never polls again, and the decisions
of the bridge stay as they are.  A report of the watch that comes at any point of it does nothing,
whether it says that the file changed or once more that the watch broke.  And the session goes
through all of it exactly as the same session with its bridge taken out: visit by visit it wants the
same values sent and the same intervals pushed, and it leaves the same platform, so with the same
requests on their way and the same calls on the slot; at the end the two differ in the bridge
only. -/
theorem watch_failure_is_local (h : s.closed = false) (id : SessionId) (reason : String)
    (p : Platform) :
    let failure := Message.watchFailed reason
    let after := s.handle id failure p
    (Action.sends (s.wishes failure p) = [] ∧ Action.pushes (s.wishes failure p) = [] ∧
      after.2 = { p with notifier := after.2.notifier } ∧
      after.1.dispatcher = s.dispatcher ∧
      after.1.tracker.snapshot = s.tracker.snapshot ∧
      after.1.tracker.decisions = s.tracker.decisions ∧
      after.1.unbridged = s.unbridged) ∧
    ∀ (arrivals : List Arrival) (p' : Platform),
      let run := after.1.goThrough Tracker.handle id arrivals p'
      run.2.1.tracker.isPolling = false ∧
      (∀ c, run.2.1.tracker.decision .polling c = s.tracker.decision .polling c) ∧
      (∀ m : Message, m.about = some .polling → ∀ q : Platform,
        run.2.1.handle id m q = (run.2.1, q) ∧ run.2.1.wishes m q = []) ∧
      s.unbridged.goThrough Tracker.handle id arrivals p' =
        (run.1, run.2.1.unbridged, run.2.2) := by
  intro failure after
  have hafter : after = ({ s with tracker := s.tracker.stopPolling.1 },
      { p with notifier := p.notifier.closeAll (Action.unwatches s.tracker.stopPolling.2) }) :=
    handle_watchFailed h id reason p
  have hwishes : s.wishes failure p = s.tracker.stopPolling.2 := wishes_of_open h failure p
  have hpart : s.tracker.stopPolling.1.part .signals = s.tracker.part .signals :=
    Tracker.part_handle (m := failure) (by simp [failure, Message.about]) p.sample s.tracker
  have hsnapshot := congrArg Tracker.snapshot hpart
  have hdecisions := congrArg Tracker.decisions hpart
  have hunbridged : after.1.unbridged = s.unbridged := by
    rw [hafter]
    exact congrArg (fun t => ({ s with tracker := t } : Session)) hpart
  have hdead : after.1.tracker.isPolling = false := by
    rw [hafter]
    exact Tracker.isPolling_stopPolling s.tracker
  refine ⟨⟨?_, ?_, ?_, ?_, ?_, ?_, hunbridged⟩, fun arrivals p' => ?_⟩
  · rw [hwishes, Tracker.sends_stopPolling]
  · rw [hwishes, Tracker.pushes_stopPolling]
  · rw [hafter]
  · rw [hafter]
  · rw [hafter]; exact hsnapshot
  · rw [hafter]; exact hdecisions
  · intro run
    have hbridge : run.2.1.tracker.bridge = s.tracker.stopPolling.1.bridge := by
      rw [bridge_goThrough_of_dead hdead id arrivals p', hafter]
    have hdead' : run.2.1.tracker.isPolling = false := by
      rw [Tracker.isPolling, hbridge]
      exact Tracker.isPolling_stopPolling s.tracker
    refine ⟨hdead', fun c => ?_, fun m hm q => handle_of_dead hdead' hm id q, ?_⟩
    · rw [← Tracker.decision_stopPolling .polling c s.tracker]
      simp only [Tracker.decision, hbridge]
    · rw [← hunbridged]
      exact goThrough_unbridged hdead id arrivals p'

/-- The watch breaks while the request of the bridge is in flight and a change of the file is already
reported.  The answer still takes the class away, and news of the signals still matter; but that the
charger was pulled is not noticed any more. -/
theorem watch_failure_with_reports_queued :
    let p : Platform :=
      { transport := { slot := "slot1", interface := .v15 }, power := .charging }
    let start := Session.start 0 .deviceState {} (some "screen_on") p
    let after := start.1.handle 0 (.watchFailed "gone") start.2
    let arrivals : List Arrival :=
      [⟨fun p => { p with power := .discharging }, .screenChanged⟩,
       ⟨fun p => p, .completed .chargingState 2
          (.answered .sendDeviceState .requestNotSupported)⟩,
       ⟨fun p => p, .signal ⟨.tethering, .state true⟩⟩,
       ⟨fun p => p, .watchFailed "gone"⟩,
       ⟨fun p => p, .signal ⟨.tethering, .valid true⟩⟩]
    let run := after.1.goThrough Tracker.handle 0 arrivals after.2
    start.1.closed = false ∧ start.1.tracker.isPolling = true ∧
      start.1.tracker.decision .polling .chargingState = some true ∧
      start.1.dispatcher.pending.get .chargingState = some ⟨2, 2⟩ ∧
      run.2.1.dispatcher.supported.get .chargingState = false ∧
      run.2.1.tracker.decisions.get .lowDataExpected = some false ∧
      run.2.1.tracker.decision .polling .chargingState =
        start.1.tracker.decision .polling .chargingState ∧
      start.1.unbridged.goThrough Tracker.handle 0 arrivals after.2 =
        (run.1, run.2.1.unbridged, run.2.2) := by
  intro p start after arrivals run
  have hopen : start.1.closed = false := by decide
  refine ⟨hopen, by decide, by decide, by decide, by decide, by decide, ?_⟩
  -- the comparison does not depend on how the session came about
  clear_value start
  obtain ⟨-, hlater⟩ := watch_failure_is_local hopen 0 "gone" start.2
  obtain ⟨-, hdecisions, -, hrun⟩ := hlater arrivals after.2
  exact ⟨hdecisions .chargingState, hrun⟩

end Session

end ModemWatch
