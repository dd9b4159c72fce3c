import ModemWatch.Proofs.LastWord
import ModemWatch.Proofs.Mirror

/-!
# What a session goes through

A session handles one message after the other, and between two of them anything may become of the
platform.  For every message that it handles the session leaves a *visit* in its log: the platform
that it found, what it wanted done, and the platform that it left.

How the tracker takes in a message is a parameter, its *manner*.  So one can ask what a session
would do if it took in messages in another way, all else being equal.

* `Session.goThrough` — the messages that arrive at a session, one after the other;
* `Session.handleIn_handle` — handling a message in the tracker's own manner is handling it;
* `Session.course_goThrough` — the visits of a session's log are its turns.
-/

namespace ModemWatch

/-- How a tracker takes in a message, given what the poll sources show. -/
abbrev Manner := PollSample → Message → Tracker → Tracker × List Action

/-- A message that a session is to handle, and what becomes of the platform before that. -/
structure Arrival where
  meanwhile : Platform → Platform
  message : Message

/-- A message that a session handled: the platform that it found, what it wanted done, and the
platform that it left. -/
structure Visit where
  message : Message
  found : Platform
  wishes : List Action
  left : Platform

/-- What a visit is to the transport. -/
def Visit.turn (v : Visit) : Turn := ⟨v.wishes, v.found.transport, v.left.transport⟩

namespace Session

/-- Handles one message in some manner. -/
def handleIn (manner : Manner) (id : SessionId) (m : Message) (s : Session) (p : Platform) :
    Session × Platform :=
  if s.closed then (s, p)
  else match m with
    | .completed c ticket a =>
      ({ s with dispatcher := (s.dispatcher.complete c ticket a).2 }, p)
    | m => s.perform id (manner p.sample m s.tracker) p

/-- What a session wants done about a message in some manner. -/
def wishesIn (manner : Manner) (m : Message) (s : Session) (p : Platform) : List Action :=
  if s.closed then [] else (manner p.sample m s.tracker).2

/-- The messages that arrive are handled, one after the other. -/
def goThrough (manner : Manner) (id : SessionId) :
    List Arrival → Session → Platform → List Visit × Session × Platform
  | [], s, p => ([], s, p)
  | a :: arrivals, s, p =>
    let found := a.meanwhile p
    let (s', left) := s.handleIn manner id a.message found
    let (log, s'', p') := goThrough manner id arrivals s' left
    (⟨a.message, found, s.wishesIn manner a.message found, left⟩ :: log, s'', p')

/-- A session goes through what arrives, from its start on. -/
def live (manner : Manner) (id : SessionId) (variant : Variant) (intervals : Intervals)
    (watchPath : Option String) (p : Platform) (arrivals : List Arrival) :
    List Visit × Session × Platform :=
  let (s, p) := Session.start id variant intervals watchPath p
  s.goThrough manner id arrivals p

/-- The tracker's own manner is how messages are handled. -/
theorem handleIn_handle (id : SessionId) (m : Message) (s : Session) (p : Platform) :
    s.handleIn Tracker.handle id m p = s.handle id m p := by
  unfold handleIn handle
  cases m <;> rfl

theorem wishesIn_handle (m : Message) (s : Session) (p : Platform) :
    s.wishesIn Tracker.handle m p = s.wishes m p := rfl

/-- The first message is handled, then the others. -/
theorem goThrough_cons (id : SessionId) (a : Arrival) (arrivals : List Arrival) (s : Session)
    (p : Platform) :
    s.goThrough Tracker.handle id (a :: arrivals) p =
      let found := a.meanwhile p
      let after := s.handle id a.message found
      let rest := after.1.goThrough Tracker.handle id arrivals after.2
      (⟨a.message, found, s.wishes a.message found, after.2⟩ :: rest.1, rest.2) := by
  simp only [goThrough, handleIn_handle, wishesIn_handle]

/-- **The visits of a log are turns**, which lead to where the session is. -/
theorem course_goThrough {id : SessionId} {log : List Turn} {s : Session} (h : Course id log s)
    (arrivals : List Arrival) (p : Platform) :
    Course id (log ++ (s.goThrough Tracker.handle id arrivals p).1.map Visit.turn)
      (s.goThrough Tracker.handle id arrivals p).2.1 := by
  induction arrivals generalizing log s p with
  | nil => simpa [goThrough] using h
  | cons a arrivals ih =>
      have hnext := ih (h.handle a.message (a.meanwhile p))
        (s.handle id a.message (a.meanwhile p)).2
      rw [List.append_assoc] at hnext
      rw [goThrough_cons]
      exact hnext

/-- What stays the same of a session stays so through all that arrives. -/
theorem same_goThrough (id : SessionId) (arrivals : List Arrival) (s : Session) (p : Platform) :
    s.Same (s.goThrough Tracker.handle id arrivals p).2.1 := by
  induction arrivals generalizing s p with
  | nil => exact Same.refl s
  | cons a arrivals ih =>
      rw [goThrough_cons]
      exact (same_handle id a.message s (a.meanwhile p)).trans (ih ..)

/-- An open session remembers the signals as the messages told them. -/
theorem snapshot_goThrough {s : Session} (h : s.closed = false) (id : SessionId)
    (arrivals : List Arrival) (p : Platform) :
    (s.goThrough Tracker.handle id arrivals p).2.1.tracker.snapshot =
      (arrivals.map (fun a => a.message)).foldl Snapshot.hear s.tracker.snapshot := by
  induction arrivals generalizing s p with
  | nil => rfl
  | cons a arrivals ih =>
      have hopen : (s.handle id a.message (a.meanwhile p)).1.closed = false :=
        (same_handle ..).closed.trans h
      rw [goThrough_cons, List.map_cons, List.foldl_cons, ← Tracker.snapshot_handle
        (a.meanwhile p).sample, ← tracker_handle id (a.meanwhile p) h]
      exact ih hopen _

/-- Every message that arrives is visited. -/
theorem messages_goThrough (manner : Manner) (id : SessionId) (arrivals : List Arrival)
    (s : Session) (p : Platform) :
    (s.goThrough manner id arrivals p).1.map (fun v => v.message) =
      arrivals.map (fun a => a.message) := by
  induction arrivals generalizing s p with
  | nil => rfl
  | cons a arrivals ih => exact congrArg (a.message :: ·) (ih ..)

end Session

end ModemWatch
