import Mathlib.Data.List.Forall2
import ModemWatch.Proofs.Applying
import ModemWatch.Proofs.Sending
import ModemWatch.Proofs.Unwatched

/-!
# Passes

A session takes a pass over what it knows at its start and with every news of a signal, and one over
what the poll sources show when its bridge starts and with every change of the screen state file
that it handles while the bridge is alive.  Every pass pushes an interval to the modem slot, be it a
new one or not, and nothing else does.  So what a session pushes can be told from its messages and
the samples that it took.

* `Tracker.wish?` — what the pass about a message asks for; `Tracker.pushes_handle` that it is
  pushed;
* `Session.firstWishes` — what the passes of a start ask for; `Session.slot_pushed_at_start`;
* `passes` — the pushes, told from messages and samples;
* `Session.pushes_are_passes` — that these are all.
-/

namespace ModemWatch

namespace Slot

variable (owner : Owner)

theorem pushAll_eq_takeAll (intervals : List Millis) (s : Slot) :
    s.pushAll owner intervals = s.takeAll (intervals.map (SlotCall.set owner)) := by
  rw [takeAll, List.foldl_map]
  rfl

theorem pushAll_append (a b : List Millis) (s : Slot) :
    s.pushAll owner (a ++ b) = (s.pushAll owner a).pushAll owner b :=
  List.foldl_append

theorem calls_pushAll (intervals : List Millis) (s : Slot) :
    (s.pushAll owner intervals).calls =
      s.calls ++ intervals.map (fun ms => .set owner ms) := by
  unfold pushAll
  induction intervals generalizing s with
  | nil => simp
  | cons ms intervals ih =>
      rw [List.foldl_cons, ih]
      simp [take]

end Slot

namespace Tracker

variable {t : Tracker}

/-- Whether the pass that a tracker takes about a message asks for short polling.  It takes none
about an answer or a broken watch, and none about the screen state file if it does not poll. -/
def wish? (sample : PollSample) (t : Tracker) : Message → Option Bool
  | .signal u => some (t.snapshot.apply u).wantsShort
  | .screenChanged => if t.isPolling then some sample.wantsShort else none
  | .completed .. | .watchFailed _ => none

/-- A look at the poll sources pushes what the sample asks for, if the tracker polls. -/
theorem pushes_poll (sample : PollSample) (t : Tracker) :
    Action.pushes (t.poll sample).2 =
      if t.isPolling then [sample.cellInfoInterval t.intervals] else [] := by
  cases h : t.isPolling with
  | false => rw [poll_of_dead h]; rfl
  | true =>
      obtain ⟨bridge, hb, halive⟩ := isPolling_iff.mp h
      rw [poll_of_live hb halive, Action.pushes_attempts]
      rfl

/-- **A pass pushes what it asks for**, and without a pass nothing is pushed. -/
theorem pushes_handle (sample : PollSample) (m : Message) (t : Tracker) :
    Action.pushes (t.handle sample m).2 = ((t.wish? sample m).map t.intervals.pick).toList := by
  cases m with
  | signal u => exact Action.pushes_attempts ..
  | completed c ticket a => rfl
  | watchFailed reason => exact pushes_stopPolling t
  | screenChanged =>
      refine (pushes_poll sample t).trans ?_
      cases h : t.isPolling <;> simp [wish?, h, PollSample.cellInfoInterval]

/-- A tracker polls until its watch breaks. -/
theorem isPolling_handle (sample : PollSample) (m : Message) (t : Tracker) :
    (t.handle sample m).1.isPolling = match m with
      | .watchFailed _ => false
      | _ => t.isPolling := by
  cases m with
  | signal | completed => rfl
  | screenChanged => exact isPolling_poll sample t
  | watchFailed reason => exact isPolling_stopPolling t

end Tracker

namespace Session

variable {s : Session}

/-! ## At the start -/

/-- The poll bridge of a session starts: there is a file to watch, and it can be watched. -/
def bridgeStarts (id : SessionId) (watchPath : Option String) (p : Platform) : Bool :=
  watchPath.any (fun path => (p.notifier.watch path id).1.isOk)

/-- Whether the passes of a start ask for short polling: the one over the signals, and the one over
the poll sources if the bridge starts. -/
def firstWishes (id : SessionId) (watchPath : Option String) (p : Platform) : List Bool :=
  p.sources.snapshot.wantsShort ::
    if bridgeStarts id watchPath p then [p.sample.wantsShort] else []

/-- A bridge that starts is alive after its first look, which pushes what the sample asks for. -/
theorem startPolling_pushed (hb : s.tracker.bridge = none) (id : SessionId) (path : String)
    (p : Platform) :
    (s.startPolling id path p).2.slot = p.slot.pushAll id
        (if bridgeStarts id (some path) p then [p.sample.cellInfoInterval s.tracker.intervals]
          else []) ∧
      (s.startPolling id path p).1.tracker.isPolling = bridgeStarts id (some path) p := by
  cases hw : (p.notifier.watch path id).1 with
  | error failure =>
      have hnone : bridgeStarts id (some path) p = false := by
        simp [bridgeStarts, hw, Except.isOk, Except.toBool]
      rw [startPolling_of_error id p hw, hnone]
      exact ⟨rfl, by simp [Tracker.isPolling, hb]⟩
  | ok watch =>
      have hsome : bridgeStarts id (some path) p = true := by
        simp [bridgeStarts, hw, Except.isOk, Except.toBool]
      have hlive : (s.tracker.bridged watch).isPolling = true := rfl
      rw [startPolling_of_ok id p hw, perform_eq, hsome]
      refine ⟨?_, (Tracker.isPolling_poll ..).trans hlive⟩
      simp only [Tracker.pushes_poll, hlive, if_true]
      rfl

/-- **What a start pushes**, and whether the session polls then. -/
theorem slot_pushed_at_start (id : SessionId) (variant : Variant) (intervals : Intervals)
    (watchPath : Option String) (p : Platform) :
    (Session.start id variant intervals watchPath p).2.slot =
        p.slot.pushAll id ((firstWishes id watchPath p).map intervals.pick) ∧
      (Session.start id variant intervals watchPath p).1.tracker.isPolling =
        bridgeStarts id watchPath p := by
  have hbridge := (kept_start id variant intervals p).2
  have hfirst : (Session.start id variant intervals none p).2.slot =
      p.slot.pushAll id [p.sources.snapshot.cellInfoInterval intervals] := by
    rw [start_none, perform_eq, Tracker.start, Tracker.evaluate]
    simp only [Action.pushes_attempts]
    rfl
  cases watchPath with
  | none => exact ⟨hfirst, by simp [Tracker.isPolling, hbridge, bridgeStarts]⟩
  | some path =>
      obtain ⟨hnotifier, hsample⟩ := polled_of_start_none id variant intervals p
      have hintervals := (started id ⟨variant, intervals, none⟩ p).intervals
      have hsame : bridgeStarts id (some path) (Session.start id variant intervals none p).2 =
          bridgeStarts id (some path) p := by simp only [bridgeStarts, hnotifier]
      obtain ⟨hslot, hlive⟩ := startPolling_pushed hbridge id path
        (Session.start id variant intervals none p).2
      rw [hsame] at hslot hlive
      rw [start_some, hlive, hslot, hfirst, hsample, hintervals, ← Slot.pushAll_append]
      refine ⟨?_, rfl⟩
      cases hb : bridgeStarts id (some path) p <;> simp [firstWishes, hb] <;> rfl

end Session

/-! ## Over a life -/

/-- The intervals that a session pushes in some visits, one entry for each visit, told from what it
knew of the signals, from whether its bridge was alive, and from the messages and the samples. -/
def passes (i : Intervals) : Snapshot → Bool → List Visit → List (Option Millis)
  | _, _, [] => []
  | known, live, v :: log =>
    match v.message with
    | .signal u => some ((known.apply u).cellInfoInterval i) :: passes i (known.apply u) live log
    | .screenChanged =>
      (if live then some (v.found.sample.cellInfoInterval i) else none) :: passes i known live log
    | .completed .. => none :: passes i known live log
    | .watchFailed _ => none :: passes i known false log

namespace Session

variable {s : Session}

/-- A session that is open pushes in a visit what its pass asks for. -/
theorem calls_handle (h : s.closed = false) (id : SessionId) (m : Message) (p : Platform) :
    (s.handle id m p).2.slot = p.slot.pushAll id
      ((s.tracker.wish? p.sample m).map s.tracker.intervals.pick).toList := by
  rw [handle_of_open id p h, ← Tracker.pushes_handle]

/-- **Every visit pushes what its pass asks for.** -/
theorem pushed_goThrough (h : s.closed = false) (id : SessionId) (arrivals : List Arrival)
    (p : Platform) :
    List.Forall₂ (fun (v : Visit) (pass : Option Millis) =>
        v.left.slot.calls = v.found.slot.calls ++ (pass.map (SlotCall.set id)).toList)
      (s.goThrough Tracker.handle id arrivals p).1
      (passes s.tracker.intervals s.tracker.snapshot s.tracker.isPolling
        (s.goThrough Tracker.handle id arrivals p).1) := by
  induction arrivals generalizing s p with
  | nil => exact .nil
  | cons a arrivals ih =>
      have hopen := (same_handle id a.message s (a.meanwhile p)).closed.trans h
      have hintervals := (same_handle id a.message s (a.meanwhile p)).intervals
      have htracker := tracker_handle id (a.meanwhile p) h a.message
      have hrest := ih hopen (s.handle id a.message (a.meanwhile p)).2
      rw [hintervals, htracker, Tracker.snapshot_handle, Tracker.isPolling_handle] at hrest
      have hfirst := congrArg Slot.calls (calls_handle h id a.message (a.meanwhile p))
      rw [Slot.calls_pushAll] at hfirst
      rw [goThrough_cons]
      cases hm : a.message with
      | signal | completed | watchFailed =>
          rw [hm] at hfirst hrest
          exact .cons hfirst hrest
      | screenChanged =>
          rw [hm] at hfirst hrest
          refine .cons ?_ hrest
          cases hlive : s.tracker.isPolling <;> simp only [Tracker.wish?, hlive] at hfirst <;>
            exact hfirst

/-- **What a session pushes are its passes.**  Take a session of any variant, from its start on any
platform, with any slot, and whatever arrives at it.

At its start the session makes a call with the interval that the signals ask for, and a second one,
with what the poll sources ask for, exactly if its bridge starts.  After that it makes a call in a
visit exactly if it takes a pass: with every news of a signal, for the signals as they are known
then, and with every change of the screen state file while the bridge is alive, for the sample of
that moment.  The interval may be the one that it pushed before.  An answer, a broken watch and a
change of the file without a live bridge make it call nobody. -/
theorem pushes_are_passes (id : SessionId) (variant : Variant) (intervals : Intervals)
    (watchPath : Option String) (p : Platform) (arrivals : List Arrival) :
    let start := Session.start id variant intervals watchPath p
    let run := live Tracker.handle id variant intervals watchPath p arrivals
    start.2.slot.calls = p.slot.calls ++
      SlotCall.set id (p.sources.snapshot.cellInfoInterval intervals) ::
        (if bridgeStarts id watchPath p then
          [SlotCall.set id (p.sample.cellInfoInterval intervals)] else []) ∧
    run.1.map (fun v => v.message) = arrivals.map (fun a => a.message) ∧
    List.Forall₂ (fun (v : Visit) (pass : Option Millis) =>
        v.left.slot.calls = v.found.slot.calls ++ (pass.map (SlotCall.set id)).toList)
      run.1 (passes intervals p.sources.snapshot (bridgeStarts id watchPath p) run.1) := by
  intro start run
  have hstarted := started id ⟨variant, intervals, watchPath⟩ p
  obtain ⟨hslot, hlive⟩ := slot_pushed_at_start id variant intervals watchPath p
  refine ⟨?_, messages_goThrough .., ?_⟩
  · have hcalls := congrArg Slot.calls hslot
    rw [Slot.calls_pushAll] at hcalls
    refine hcalls.trans ?_
    cases hb : bridgeStarts id watchPath p <;> simp only [firstWishes, hb] <;> rfl
  · have hrest := pushed_goThrough hstarted.closed id arrivals
      (Session.start id variant intervals watchPath p).2
    rw [hstarted.intervals, hstarted.snapshot, hlive] at hrest
    exact hrest

/-- The display is on, then a charger is connected, then news of the signals changes nothing about
the interval; and the screen state file changes once before and once after its watch broke. -/
theorem pushes_are_passes_of_evening :
    let p : Platform := {
      transport := { slot := "slot1", interface := .v15 }
      power := .charging }
    let arrivals : List Arrival :=
      [⟨fun p => p, .signal ⟨.display, .valid true⟩⟩,
       ⟨fun p => p, .signal ⟨.display, .state .on⟩⟩,
       ⟨fun p => p, .signal ⟨.charger, .valid true⟩⟩,
       ⟨fun p => p, .signal ⟨.charger, .state .on⟩⟩,
       ⟨fun p => p, .signal ⟨.tethering, .valid true⟩⟩,
       ⟨fun p => { p with power := .discharging }, .screenChanged⟩,
       ⟨fun p => p, .completed .chargingState 2 (.failed .timeout)⟩,
       ⟨fun p => p, .watchFailed "gone"⟩,
       ⟨fun p => p, .screenChanged⟩]
    let run := live Tracker.handle 3 .deviceState {} (some "screen_on") p arrivals
    (Session.start 3 .deviceState {} (some "screen_on") p).2.slot.calls =
        [.set 3 30000, .set 3 2000] ∧
      List.Forall₂ (fun (v : Visit) (pass : Option Millis) =>
          v.left.slot.calls = v.found.slot.calls ++ (pass.map (SlotCall.set 3)).toList)
        run.1
        [some 30000, some 30000, some 30000, some 2000, some 2000, some 30000, none, none,
          none] := by
  intro p arrivals run
  obtain ⟨hstart, -, hvisits⟩ :=
    pushes_are_passes 3 .deviceState {} (some "screen_on") p arrivals
  have hpasses : passes {} p.sources.snapshot (bridgeStarts 3 (some "screen_on") p) run.1 =
      [some 30000, some 30000, some 30000, some 2000, some 2000, some 30000, none, none, none] := by
    decide
  rw [hpasses] at hvisits
  exact ⟨hstart.trans (by decide), hvisits⟩

end Session

end ModemWatch
