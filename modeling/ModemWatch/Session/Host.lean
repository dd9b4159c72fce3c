import ModemWatch.Session.Basic
import ModemWatch.Settings.Basic

/-!
# Sessions on a platform

A host is a platform with the sessions that were started on it.  Whatever happens on the platform
(a write to a signal, an answer of the radio, a report of a watch) is posted to the queues of the
sessions it concerns; nothing is handled until a session's queue is processed.

* `Host.signal`, `Host.respond`, `Host.failAll`, `Host.emit` — things that happen;
* `Host.process`, `Host.settle` — letting sessions handle what is queued;
* `Host.start`, `Host.startAll`, `Host.shutdown` — the life of sessions.
-/

namespace ModemWatch

/-- A monitor starts sessions of one variant with fixed settings. -/
structure Monitor where
  variant : Variant
  intervals : Intervals
  /-- The screen state file, if it is to be polled. -/
  watchPath : Option String
  deriving DecidableEq, Repr

/-- One monitor for each tracked variant. -/
def Settings.monitors (s : Settings) : List Monitor :=
  s.tracked.map (fun v => ⟨v, s.intervals, s.watchPath⟩)

/-- A platform with the sessions started on it; a session is known by its place in the list. -/
structure Host where
  platform : Platform
  sessions : List Session := []

namespace Host

/-- A host without sessions. -/
def new (slot : String) (interface : Interface) : Host :=
  { platform := { transport := { slot := slot, interface := interface } } }

/-- Queues a message for a session. -/
def post (h : Host) (id : SessionId) (m : Message) : Host :=
  { h with sessions := h.sessions.modify id (Session.receive m) }

/-- Queues a message for each of the listed sessions. -/
def postTo (m : Message) (ids : List SessionId) (h : Host) : Host :=
  ids.foldl (fun h id => h.post id m) h

/-- Queues an answer for each of the listed callbacks. -/
def answer (a : Completion) (callbacks : List Callback) (h : Host) : Host :=
  callbacks.foldl (fun h c => h.post c.session (c.message a)) h

/-- Lets one session do something. -/
def withSession (id : SessionId) (f : Session → Platform → Session × Platform) (h : Host) : Host :=
  match h.sessions[id]? with
  | none => h
  | some s =>
    let (s, p) := f s h.platform
    { platform := p, sessions := h.sessions.set id s }

/-- A signal changes. -/
def signal (u : SignalUpdate) (h : Host) : Host :=
  let (sources, owners) := h.platform.sources.write u
  ({ h with platform := { h.platform with sources := sources } } : Host).postTo (.signal u) owners

/-- The radio answers a request; tells whether anybody waited for it. -/
def respond (serial : Serial) (a : Completion) (h : Host) : Bool × Host :=
  let (callback, transport) := h.platform.transport.respond serial
  (callback.isSome,
    ({ h with platform := { h.platform with transport := transport } } : Host).answer a
      callback.toList)

/-- The radio gives up on everything that waits; tells how much that was. -/
def failAll (status : TxStatus) (h : Host) : Nat × Host :=
  let (callbacks, transport) := h.platform.transport.failAll
  (callbacks.length,
    ({ h with platform := { h.platform with transport := transport } } : Host).answer
      (.failed status) callbacks)

/-- The queue to the modem takes no further request. -/
def closeOutgoing (h : Host) : Host :=
  { h with platform := { h.platform with transport := h.platform.transport.close } }

/-- The watches report an event. -/
def emit (event : WatchEvent) (h : Host) : Host :=
  h.postTo event.message h.platform.notifier.listeners

/-- The next watch cannot be set up. -/
def failNextWatch (reason : String) (h : Host) : Host :=
  { h with platform := { h.platform with notifier := h.platform.notifier.failNextWatch reason } }

/-- The screen state file is written; nobody hears of it before a watch reports it. -/
def writeScreen (content : FileContent) (h : Host) : Host :=
  { h with platform := { h.platform with screen := content } }

/-- The battery answers differently from now on. -/
def setPower (power : PowerState) (h : Host) : Host :=
  { h with platform := { h.platform with power := power } }

/-- Starts a session of a monitor. -/
def start (m : Monitor) (h : Host) : Host :=
  let (s, p) := Session.start h.sessions.length m.variant m.intervals m.watchPath h.platform
  { platform := p, sessions := h.sessions ++ [s] }

/-- Starts a session of each monitor, in order. -/
def startAll (monitors : List Monitor) (h : Host) : Host :=
  monitors.foldl (fun h m => h.start m) h

/-- Starts a session of each monitor where the screen state file cannot be watched. -/
def startAllUnwatched (reason : String) (monitors : List Monitor) (h : Host) : Host :=
  monitors.foldl (fun h m => (h.failNextWatch reason).start m) h

/-- A session handles a message that did not come through its queue. -/
def handle (id : SessionId) (m : Message) (h : Host) : Host :=
  h.withSession id (fun s p => s.handle id m p)

/-- A session handles its oldest message. -/
def processOne (id : SessionId) (h : Host) : Host :=
  h.withSession id (Session.processOne id)

/-- Number of messages that wait for a session. -/
def queued (id : SessionId) (h : Host) : Nat :=
  match h.sessions[id]? with
  | none => 0
  | some s => s.queue.length

/-- A session handles everything that waits for it; tells how much that was. -/
def process (id : SessionId) (h : Host) : Nat × Host :=
  (h.queued id, h.withSession id (Session.process id))

/-- The listed sessions, one after the other, handle what waits for them. -/
def processEach : List SessionId → Host → List Nat × Host
  | [], h => ([], h)
  | id :: ids, h =>
    let (n, h) := h.process id
    let (counts, h) := processEach ids h
    (n :: counts, h)

/-- Every session handles what waits for it. -/
def processAll (h : Host) : List Nat × Host := processEach (List.range h.sessions.length) h

/-- All counts together. -/
def total (counts : List Nat) : Nat := counts.foldl Nat.add 0

/-- Number of messages that wait for any session. -/
def totalQueued (h : Host) : Nat := total (h.sessions.map (fun s => s.queue.length))

/-- Rounds of processing until one finds nothing to handle, at most as many as given. -/
def settleWithin : Nat → Host → Host
  | 0, h => h
  | rounds + 1, h =>
    let (counts, h) := h.processAll
    if total counts = 0 then h else settleWithin rounds h

/-- Lets the sessions work until nothing waits.  Every round but the last handles a message, so
there are no more rounds than messages, and one. -/
def settle (h : Host) : Host := settleWithin (h.totalQueued + 1) h

/-- Ends a session. -/
def shutdown (id : SessionId) (h : Host) : Host := h.withSession id (Session.shutdown id)

/-- Ends every session, in order. -/
def shutdownAll (h : Host) : Host :=
  (List.range h.sessions.length).foldl (fun h id => h.shutdown id) h

/-- Takes the queued requests on their way. -/
def takeOutgoing (h : Host) : List Outgoing × Host :=
  let (requests, transport) := h.platform.transport.drain
  (requests, { h with platform := { h.platform with transport := transport } })

/-- Empties the record of the slot. -/
def collectSlot (h : Host) : Slot × Host :=
  (h.platform.slot, { h with platform := { h.platform with slot := h.platform.slot.collect } })

end Host

end ModemWatch
