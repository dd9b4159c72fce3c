import ModemWatch.Device.Snapshot

/-!
# Signal sources

The sources are the four signals that all sessions of a device share.  Whoever owns the watchers
writes to them; sessions only subscribe.  A subscription to one signal is two handlers, first for
validity and then for state, so each change of a field reaches a subscriber as one update.

* `Sources.write` stores an update and lists the subscribers that get to hear of it;
* `Sources.subscribe` registers both handlers of a signal;
* `Sources.snapshot_write` — what the sources show afterwards is the updated snapshot;
* `Sources.snapshot_subscribe`, `Sources.snapshot_unsubscribe` — subscribing shows nowhere.
-/

namespace ModemWatch

/-- A registered handler of one of the four signals. -/
structure Subscription where
  kind : SignalKind
  id : HandlerId
  deriving DecidableEq, Repr

/-- The four signals.  A handler's owner says where its updates go. -/
structure Sources (κ : Type) where
  display : Signal DisplayState κ := .new .off
  battery : Signal BatteryLevel κ := .new .unknown
  charger : Signal ChargerState κ := .new .unknown
  tethering : Signal Bool κ := .new false

namespace Sources

variable {κ : Type}

/-- One of the signals. -/
def get (s : Sources κ) : (k : SignalKind) → Signal k.State κ
  | .display => s.display
  | .battery => s.battery
  | .charger => s.charger
  | .tethering => s.tethering

/-- Replaces one of the signals. -/
def set (s : Sources κ) : (k : SignalKind) → Signal k.State κ → Sources κ
  | .display, x => { s with display := x }
  | .battery, x => { s with battery := x }
  | .charger, x => { s with charger := x }
  | .tethering, x => { s with tethering := x }

/-- Current reading of every signal. -/
def snapshot (s : Sources κ) : Snapshot :=
  { display := s.display.reading
    battery := s.battery.reading
    charger := s.charger.reading
    tethering := s.tethering.reading }

/-- Stores an update and lists the owners of the handlers that hear of it, in order. -/
def write (u : SignalUpdate) (s : Sources κ) : Sources κ × List κ :=
  let (signal, owners) := (s.get u.kind).write u.update
  (s.set u.kind signal, owners)

/-- Registers one handler for each of the listed events of a signal. -/
def subscribeTo (kind : SignalKind) (owner : κ) :
    List SignalEvent → Sources κ → List Subscription × Sources κ
  | [], s => ([], s)
  | event :: events, s =>
    let (id, signal) := (s.get kind).subscribe event owner
    let (subscriptions, s) := subscribeTo kind owner events (s.set kind signal)
    (⟨kind, id⟩ :: subscriptions, s)

/-- Subscribes to a signal: first to its validity, then to its state. -/
def subscribe (kind : SignalKind) (owner : κ) (s : Sources κ) : List Subscription × Sources κ :=
  subscribeTo kind owner SignalEvent.all s

/-- Subscribes to several signals, one after the other. -/
def subscribeAll (owner : κ) : List SignalKind → Sources κ → List Subscription × Sources κ
  | [], s => ([], s)
  | kind :: kinds, s =>
    let (first, s) := s.subscribe kind owner
    let (rest, s) := subscribeAll owner kinds s
    (first ++ rest, s)

/-- Removes a handler; an unknown one is ignored. -/
def unsubscribe (s : Sources κ) (sub : Subscription) : Sources κ :=
  s.set sub.kind ((s.get sub.kind).unsubscribe sub.id)

/-- Number of handlers on all four signals. -/
def handlerCount (s : Sources κ) : Nat :=
  s.display.handlerCount + s.battery.handlerCount + s.charger.handlerCount
    + s.tethering.handlerCount

@[simp] theorem get_set_self (s : Sources κ) (k : SignalKind) (x : Signal k.State κ) :
    (s.set k x).get k = x := by
  cases k <;> rfl

@[simp] theorem get_set_ne (s : Sources κ) {k j : SignalKind} (x : Signal k.State κ)
    (h : j ≠ k) : (s.set k x).get j = s.get j := by
  cases k <;> cases j <;> first | rfl | exact absurd rfl h

@[simp] theorem get_snapshot (s : Sources κ) (k : SignalKind) :
    s.snapshot.get k = (s.get k).reading := by
  cases k <;> rfl

@[simp] theorem snapshot_set (s : Sources κ) (k : SignalKind) (x : Signal k.State κ) :
    (s.set k x).snapshot = s.snapshot.set k x.reading := by
  cases k <;> rfl

/-- After a write the sources show the updated snapshot. -/
@[simp] theorem snapshot_write (u : SignalUpdate) (s : Sources κ) :
    (s.write u).1.snapshot = s.snapshot.apply u := by
  simp [write, Snapshot.apply]

/-- Registering handlers does not change what the sources show. -/
@[simp] theorem snapshot_subscribeTo (kind : SignalKind) (owner : κ) (events : List SignalEvent)
    (s : Sources κ) : (subscribeTo kind owner events s).2.snapshot = s.snapshot := by
  induction events generalizing s with
  | nil => rfl
  | cons event events ih =>
    simp only [subscribeTo, ih, snapshot_set, Signal.subscribe]
    rw [← get_snapshot, Snapshot.set_get_self]

/-- Subscribing does not change what the sources show. -/
@[simp] theorem snapshot_subscribe (kind : SignalKind) (owner : κ) (s : Sources κ) :
    (s.subscribe kind owner).2.snapshot = s.snapshot :=
  snapshot_subscribeTo kind owner _ s

/-- Removing a handler does not change what the sources show. -/
@[simp] theorem snapshot_unsubscribe (s : Sources κ) (sub : Subscription) :
    (s.unsubscribe sub).snapshot = s.snapshot := by
  simp only [unsubscribe, snapshot_set, Signal.unsubscribe]
  rw [← get_snapshot, Snapshot.set_get_self]

end Sources

end ModemWatch
