import ModemWatch.Session.Bridge
import ModemWatch.Session.Message

/-!
# What a session knows and wants

A tracker is the part of a session that decides.  It remembers what the signals showed last and
the decisions drawn from it, and it owns the poll bridge.  Each message may change what it knows
and makes it want things: to send a value of a request class, to push a polling interval to the
modem slot, to let go of a watch.  `Tracker.handle` is that step.  It never looks at the radio, so
whether a request is accepted, refused or answered cannot matter here.

Two rules hold throughout.  A value is sent when it differs from the last one that the *same*
source of decisions recorded, signals or polling; and an interval is pushed at the end of every
pass, whether or not it is a new one.

* `Tracker.start` — the first pass over the signals;
* `Tracker.evaluate`, `Tracker.poll` — one pass over the signals, one look at the poll sources;
* `Tracker.handle_completed` — answers of the radio are not the tracker's business.
-/

namespace ModemWatch

/-- The two sources of decisions. -/
inductive Origin where
  | signals
  | polling
  deriving DecidableEq, Repr

/-- A value that is to be sent, and which source of decisions wants it sent. -/
structure Attempt where
  origin : Origin
  cls : RequestClass
  value : Bool
  deriving DecidableEq, Repr

/-- What a tracker wants done. -/
inductive Action where
  | attempt (attempt : Attempt)
  | push (ms : Millis)
  | unwatch (watch : WatchId)
  deriving DecidableEq, Repr

/-- Actions that send the listed values. -/
def Action.attempts (origin : Origin) (values : List (RequestClass × Bool)) : List Action :=
  values.map (fun v => .attempt ⟨origin, v.1, v.2⟩)

/-- What a session knows. -/
structure Tracker where
  variant : Variant
  intervals : Intervals
  /-- The signals as the session last heard of them. -/
  snapshot : Snapshot
  /-- The last values drawn from the signals. -/
  decisions : DecisionSet
  bridge : Option Bridge := none
  deriving DecidableEq, Repr

namespace Tracker

/-- The profile of the tracker's variant. -/
def profile (t : Tracker) : Profile := t.variant.profile

/-- A tracker that has seen the signals but drawn nothing from them yet. -/
def new (variant : Variant) (intervals : Intervals) (snapshot : Snapshot) : Tracker where
  variant := variant
  intervals := intervals
  snapshot := snapshot
  decisions := variant.profile.rules.foldl (fun d r => match r.initial with
    | none => d
    | some value => d.assume r.cls value) .empty

/-- The rules that a change can matter to; all of them if no change is named. -/
def affected (changed : Option SignalKind) (t : Tracker) : List DecisionRule :=
  match changed with
  | none => t.profile.rules
  | some kind => t.profile.rules.filter (fun r => r.dependsOn kind)

/-- One pass over the rules that a change can matter to: sends what is news, in the order of the
rules, and pushes the interval that the signals ask for. -/
def evaluate (changed : Option SignalKind) (t : Tracker) : Tracker × List Action :=
  let values := (t.affected changed).map (fun r => (r.cls, r.compute t.snapshot))
  let (decisions, news) := DecisionSet.revise values t.decisions
  ({ t with decisions := decisions },
    Action.attempts .signals news ++ [.push (t.snapshot.cellInfoInterval t.intervals)])

/-- The first pass of a new session. -/
def start (variant : Variant) (intervals : Intervals) (snapshot : Snapshot) :
    Tracker × List Action :=
  (new variant intervals snapshot).evaluate none

/-- Takes in a change of a signal. -/
def observe (u : SignalUpdate) (t : Tracker) : Tracker × List Action :=
  ({ t with snapshot := t.snapshot.apply u } : Tracker).evaluate (some u.kind)

/-- The poll bridge is watching. -/
def isPolling (t : Tracker) : Bool := t.bridge.any Bridge.isAlive

/-- One look at the poll sources, while the bridge is alive: sends what is news and pushes the
interval that the sample asks for. -/
def poll (sample : PollSample) (t : Tracker) : Tracker × List Action :=
  match t.bridge with
  | none => (t, [])
  | some bridge =>
    if bridge.isAlive then
      let (bridge, news) := bridge.revise t.profile.pollRules sample
      ({ t with bridge := some bridge },
        Action.attempts .polling news ++ [.push (sample.cellInfoInterval t.intervals)])
    else (t, [])

/-- Lets go of the watch, so that the bridge is never polled again. -/
def stopPolling (t : Tracker) : Tracker × List Action :=
  match t.bridge with
  | none => (t, [])
  | some bridge =>
    match bridge.watch with
    | none => (t, [])
    | some watch => ({ t with bridge := some { bridge with watch := none } }, [.unwatch watch])

/-- Takes in a message.  `sample` is what the poll sources show at that moment. -/
def handle (sample : PollSample) : Message → Tracker → Tracker × List Action
  | .signal u, t => t.observe u
  | .completed .., t => (t, [])
  | .screenChanged, t => t.poll sample
  | .watchFailed _, t => t.stopPolling

/-- An answer of the radio tells a tracker nothing. -/
@[simp] theorem handle_completed (sample : PollSample) (c : RequestClass) (ticket : Ticket)
    (a : Completion) (t : Tracker) : t.handle sample (.completed c ticket a) = (t, []) := rfl

end Tracker

end ModemWatch
