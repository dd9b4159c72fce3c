import ModemWatch.Device.Sources
import ModemWatch.Files.Content
import ModemWatch.Session.Dispatcher
import ModemWatch.Session.Tracker

/-!
# Sessions

A session follows the state of a device for one modem.  Its tracker decides, its dispatcher keeps
the requests in flight, its queue holds the messages that it has not handled yet.  All it shares
with other sessions is the platform: the signals, the radio, the modem slot, the notifier and the
poll sources.

A session subscribes to its signals before it takes its first snapshot of them, so that no change
can slip through in between.  After its shutdown it holds nothing of the platform any more and
whatever still arrives for it is thrown away.

* `Session.start`, `Session.handle`, `Session.process`, `Session.shutdown`;
* `Session.handle_closed` — a closed session does nothing;
* `Session.queue_handle` — handling a message never queues another one.
-/

namespace ModemWatch

/-- What all sessions share. -/
structure Platform where
  sources : Sources SessionId := {}
  transport : Transport Callback
  slot : Slot := {}
  notifier : Notifier SessionId := {}
  /-- What the battery answers when it is asked. -/
  power : PowerState := .unknown
  /-- The screen state file. -/
  screen : FileContent := .missing

namespace Platform

/-- One look at the poll sources. -/
def sample (p : Platform) : PollSample := ⟨p.screen.screenOn, p.power⟩

/-- Does one thing that a session wants done. -/
def act (id : SessionId) (run : Dispatcher × Platform) : Action → Dispatcher × Platform
  | .attempt a =>
    let (_, d, transport) := run.1.send id a.cls a.value run.2.transport
    (d, { run.2 with transport := transport })
  | .push ms => (run.1, { run.2 with slot := run.2.slot.take (.set id ms) })
  | .unwatch watch => (run.1, { run.2 with notifier := run.2.notifier.close watch })

/-- Does the things that a session wants done, one after the other. -/
def carryOut (id : SessionId) (actions : List Action) (d : Dispatcher) (p : Platform) :
    Dispatcher × Platform :=
  actions.foldl (act id) (d, p)

end Platform

/-- Device state tracking for one modem. -/
structure Session where
  tracker : Tracker
  dispatcher : Dispatcher := {}
  /-- The handlers that the session has registered. -/
  subscriptions : List Subscription
  /-- Messages that are not handled yet, oldest first. -/
  queue : List Message := []
  closed : Bool := false

namespace Session

/-- Carries out what the tracker wants done. -/
def perform (id : SessionId) (s : Session) (step : Tracker × List Action) (p : Platform) :
    Session × Platform :=
  let (dispatcher, p) := p.carryOut id step.2 s.dispatcher
  ({ s with tracker := step.1, dispatcher := dispatcher }, p)

/-- Sets up the poll bridge and takes a first look at its sources.  Without a watch there is no
bridge. -/
def startPolling (id : SessionId) (path : String) (s : Session) (p : Platform) :
    Session × Platform :=
  match (Bridge.new s.tracker.profile.pollRules).start path id p.notifier with
  | (.error _, _, notifier) => (s, { p with notifier := notifier })
  | (.ok (), bridge, notifier) =>
    let tracker := { s.tracker with bridge := some bridge }
    s.perform id (tracker.poll p.sample) { p with notifier := notifier }

/-- Starts a session; `watchPath` is the screen state file, if it is to be polled. -/
def start (id : SessionId) (variant : Variant) (intervals : Intervals) (watchPath : Option String)
    (p : Platform) : Session × Platform :=
  let (subscriptions, sources) := p.sources.subscribeAll id variant.profile.signals
  let step := Tracker.start variant intervals sources.snapshot
  let session : Session := { tracker := step.1, subscriptions := subscriptions }
  let (session, p) := session.perform id step { p with sources := sources }
  match watchPath with
  | none => (session, p)
  | some path => session.startPolling id path p

/-- Queues a message; a closed session takes none. -/
def receive (m : Message) (s : Session) : Session :=
  if s.closed then s else { s with queue := s.queue ++ [m] }

/-- Handles one message. -/
def handle (id : SessionId) (m : Message) (s : Session) (p : Platform) : Session × Platform :=
  if s.closed then (s, p)
  else match m with
    | .completed c ticket a =>
      ({ s with dispatcher := (s.dispatcher.complete c ticket a).2 }, p)
    | m => s.perform id (s.tracker.handle p.sample m) p

/-- Handles messages, one after the other. -/
def handleAll (id : SessionId) (messages : List Message) (s : Session) (p : Platform) :
    Session × Platform :=
  messages.foldl (fun run m => run.1.handle id m run.2) (s, p)

/-- Handles the oldest queued message; nothing happens if there is none. -/
def processOne (id : SessionId) (s : Session) (p : Platform) : Session × Platform :=
  match s.queue with
  | [] => (s, p)
  | m :: rest => ({ s with queue := rest } : Session).handle id m p

/-- Handles everything that is queued. -/
def process (id : SessionId) (s : Session) (p : Platform) : Session × Platform :=
  ({ s with queue := [] } : Session).handleAll id s.queue p

/-- Ends a session: it gives back its handlers, its requests, its interval and its watch, and
throws away what is queued.  Doing so twice does nothing more. -/
def shutdown (id : SessionId) (s : Session) (p : Platform) : Session × Platform :=
  if s.closed then (s, p)
  else
    let sources := s.subscriptions.foldl Sources.unsubscribe p.sources
    let (dispatcher, transport) := s.dispatcher.dropAll p.transport
    let (tracker, actions) := s.tracker.stopPolling
    let p := { p with
      sources := sources, transport := transport, slot := p.slot.take (.drop id) }
    let (dispatcher, p) := p.carryOut id actions dispatcher
    ({ tracker := tracker, dispatcher := dispatcher, subscriptions := [], queue := [],
       closed := true }, p)

/-- A closed session handles nothing. -/
theorem handle_closed {id : SessionId} {m : Message} {s : Session} {p : Platform}
    (h : s.closed = true) : s.handle id m p = (s, p) := by
  simp [handle, h]

@[simp] theorem queue_perform (id : SessionId) (s : Session) (step : Tracker × List Action)
    (p : Platform) : (s.perform id step p).1.queue = s.queue := rfl

/-- Handling a message queues nothing. -/
@[simp] theorem queue_handle (id : SessionId) (m : Message) (s : Session) (p : Platform) :
    (s.handle id m p).1.queue = s.queue := by
  unfold handle
  split
  · rfl
  · split <;> rfl

end Session

end ModemWatch
