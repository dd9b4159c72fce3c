import ModemWatch.Session.Host

/-!
# Sessions with a loop of their own

Somebody has to let a session handle its queue.  Either its owner does so, or the session is given
a loop of its own that handles every message as it arrives until it is told to stop.  The loop
stops when it is told `true`, or when nobody is left who could tell it; then the session is shut
down.  Telling it `false` changes nothing.  A session that was closed before still waits in its loop
to be told.

* `Workshop.run`, `Workshop.stop`, `Workshop.drop` — handing a session over, ending its loop,
  giving it up;
* `Workshop.attend` — the loops handle what has arrived.
-/

namespace ModemWatch

/-- Who takes care of a session. -/
inductive Care where
  /-- Its owner lets it handle messages. -/
  | owner
  /-- Its own loop handles them as they arrive. -/
  | loop
  /-- Its loop has ended. -/
  | ended
  /-- Nobody: it was given up. -/
  | dropped
  deriving DecidableEq, Repr

/-- What a loop may be told. -/
inductive StopSignal where
  | value (stop : Bool)
  /-- Nobody is left who could tell it anything. -/
  | gone
  deriving DecidableEq, Repr

/-- A loop that is told this ends. -/
def StopSignal.ends : StopSignal → Bool
  | .value stop => stop
  | .gone => true

/-- A host, and who takes care of its sessions; a session is in its owner's care unless another
care is noted. -/
structure Workshop where
  host : Host
  cares : List (SessionId × Care) := []

namespace Workshop

/-- Who takes care of a session. -/
def care (id : SessionId) (w : Workshop) : Care := (w.cares.lookup id).getD .owner

/-- Notes who takes care of a session from now on. -/
def setCare (id : SessionId) (care : Care) (w : Workshop) : Workshop :=
  { w with cares := (id, care) :: w.cares }

/-- Changes the host. -/
def onHost (f : Host → Host) (w : Workshop) : Workshop := { w with host := f w.host }

/-- The sessions in a given care, in order. -/
def inCare (care : Care) (w : Workshop) : List SessionId :=
  (List.range w.host.sessions.length).filter (fun id => w.care id == care)

/-- Gives a session a loop of its own. -/
def run (id : SessionId) (w : Workshop) : Workshop := w.setCare id .loop

/-- Tells a loop something; nobody listens to it once the loop has ended. -/
def stop (id : SessionId) (signal : StopSignal) (w : Workshop) : Bool × Workshop :=
  if w.care id = .loop then
    (true, if signal.ends then (w.onHost (Host.shutdown id)).setCare id .ended else w)
  else (false, w)

/-- Gives a session up, which ends it. -/
def drop (id : SessionId) (w : Workshop) : Workshop :=
  (w.onHost (Host.shutdown id)).setCare id .dropped

/-- The loops handle what has arrived. -/
def attend (w : Workshop) : Workshop :=
  w.onHost (fun h => (h.processEach (w.inCare .loop)).2)

/-- The sessions in their owner's care handle what has arrived; tells how much that was. -/
def processOwned (w : Workshop) : List Nat × Workshop :=
  let (counts, h) := w.host.processEach (w.inCare .owner)
  (counts, { w with host := h })

end Workshop

end ModemWatch
