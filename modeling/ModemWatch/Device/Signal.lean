/-!
# Signals

A signal holds the last known reading of one watched thing, a validity flag and a state, and a
registry of handlers that want to hear of changes.  Validity and state are separate events: a
handler registers for one of them.  "Not valid" is an ordinary value, not an error.

Writing to a signal is one step.  A write that leaves the reading as it was calls nobody.  Any
other write stores the new reading first and then calls the handlers that were registered for its
event *at that moment*, in the order in which they registered; handlers that come or go while
handlers run change nothing about that list.

* `Signal.write` stores an update and says whom to call;
* `Signal.dispatch` also runs the handlers, each of which may change the registry;
* `Signal.write_of_unchanged`, `Signal.write_reading` — a write calls nobody exactly when it
  changes nothing, and the reading after it is the updated one;
* `Registry.handlers_subscribe`, `Registry.mem_unsubscribe` — who is registered afterwards.

What calling a handler means is left to the owner of the signal: a handler carries a value that
says where its news go.
-/

namespace ModemWatch

/-- The two kinds of change a handler can register for. -/
inductive SignalEvent where
  | validChanged
  | stateChanged
  deriving DecidableEq, Repr

/-- Both events, in the order in which a subscriber asks for them. -/
def SignalEvent.all : List SignalEvent := [.validChanged, .stateChanged]

/-- A new value for one of the two fields of a reading. -/
inductive Update (σ : Type) where
  | valid (valid : Bool)
  | state (state : σ)
  deriving DecidableEq, Repr

/-- The event an update belongs to. -/
def Update.event {σ : Type} : Update σ → SignalEvent
  | .valid _ => .validChanged
  | .state _ => .stateChanged

/-- Last known value of a watched thing. -/
structure Reading (σ : Type) where
  valid : Bool
  state : σ
  deriving DecidableEq, Repr

namespace Reading

variable {σ : Type}

/-- Stores one field. -/
def apply (r : Reading σ) : Update σ → Reading σ
  | .valid valid => { r with valid := valid }
  | .state state => { r with state := state }

@[simp] theorem apply_valid (r : Reading σ) (b : Bool) : r.apply (.valid b) = ⟨b, r.state⟩ := rfl

@[simp] theorem apply_state (r : Reading σ) (s : σ) : r.apply (.state s) = ⟨r.valid, s⟩ := rfl

/-- Of two updates of one field the later one counts. -/
theorem apply_apply_of_event {r : Reading σ} {u v : Update σ} (h : u.event = v.event) :
    (r.apply u).apply v = r.apply v := by
  cases u <;> cases v <;> simp_all [Update.event]

/-- Updates of different fields can be stored in either order. -/
theorem apply_comm {r : Reading σ} {u v : Update σ} (h : u.event ≠ v.event) :
    (r.apply u).apply v = (r.apply v).apply u := by
  cases u <;> cases v <;> simp_all [Update.event]

end Reading

/-- Identity of a registered handler; it is never given out twice. -/
abbrev HandlerId := Nat

/-- A handler registered for one event.  `owner` says where its news go. -/
structure Handler (κ : Type) where
  id : HandlerId
  event : SignalEvent
  owner : κ
  deriving DecidableEq, Repr

/-- The handlers of a signal, in the order in which they registered. -/
structure Registry (κ : Type) where
  nextId : HandlerId := 1
  handlers : List (Handler κ) := []
  deriving DecidableEq, Repr

namespace Registry

variable {κ : Type}

/-- Registers a handler behind all others. -/
def subscribe (event : SignalEvent) (owner : κ) (r : Registry κ) : HandlerId × Registry κ :=
  (r.nextId, { nextId := r.nextId + 1, handlers := r.handlers ++ [⟨r.nextId, event, owner⟩] })

/-- Removes a handler; an unknown identity is ignored. -/
def unsubscribe (id : HandlerId) (r : Registry κ) : Registry κ :=
  { r with handlers := r.handlers.filter (fun h => h.id != id) }

/-- The handlers registered for `event`, in order. -/
def registered (event : SignalEvent) (r : Registry κ) : List (Handler κ) :=
  r.handlers.filter (fun h => h.event == event)

/-- Identities of the handlers whose owner satisfies `p`. -/
def idsOf (p : κ → Bool) (r : Registry κ) : List HandlerId :=
  (r.handlers.filter (fun h => p h.owner)).map (fun h => h.id)

/-- Something a running handler may do to the registry. -/
inductive Change (κ : Type) where
  | subscribe (event : SignalEvent) (owner : κ)
  | unsubscribe (id : HandlerId)
  deriving DecidableEq, Repr

/-- Carries out one change. -/
def change (r : Registry κ) : Change κ → Registry κ
  | .subscribe event owner => (r.subscribe event owner).2
  | .unsubscribe id => r.unsubscribe id

@[simp] theorem handlers_subscribe (event : SignalEvent) (owner : κ) (r : Registry κ) :
    (r.subscribe event owner).2.handlers = r.handlers ++ [⟨r.nextId, event, owner⟩] := rfl

@[simp] theorem nextId_subscribe (event : SignalEvent) (owner : κ) (r : Registry κ) :
    (r.subscribe event owner).2.nextId = r.nextId + 1 := rfl

@[simp] theorem nextId_unsubscribe (id : HandlerId) (r : Registry κ) :
    (r.unsubscribe id).nextId = r.nextId := rfl

@[simp] theorem mem_unsubscribe {id : HandlerId} {r : Registry κ} {h : Handler κ} :
    h ∈ (r.unsubscribe id).handlers ↔ h ∈ r.handlers ∧ h.id ≠ id := by
  simp [unsubscribe]

end Registry

/-- A reading with the handlers that want to hear of its changes. -/
structure Signal (σ κ : Type) where
  reading : Reading σ
  registry : Registry κ := {}

namespace Signal

variable {σ κ : Type}

/-- A signal nobody has written to: not valid, nobody registered. -/
def new (state : σ) : Signal σ κ := { reading := ⟨false, state⟩ }

/-- Number of registered handlers. -/
def handlerCount (s : Signal σ κ) : Nat := s.registry.handlers.length

/-- Registers a handler for `event`. -/
def subscribe (event : SignalEvent) (owner : κ) (s : Signal σ κ) : HandlerId × Signal σ κ :=
  let (id, registry) := s.registry.subscribe event owner
  (id, { s with registry := registry })

/-- Removes a handler; an unknown identity is ignored. -/
def unsubscribe (id : HandlerId) (s : Signal σ κ) : Signal σ κ :=
  { s with registry := s.registry.unsubscribe id }

/-- Stores an update and lists the owners of the handlers to call, in order: nobody if the reading
stays as it was, otherwise everyone registered for the event of the update. -/
def write [DecidableEq σ] (u : Update σ) (s : Signal σ κ) : Signal σ κ × List κ :=
  if s.reading.apply u = s.reading then (s, [])
  else ({ s with reading := s.reading.apply u },
    (s.registry.registered u.event).map (fun h => h.owner))

/-- One call of a handler: whose handler, with which update, and the reading it finds. -/
structure Call (σ κ : Type) where
  owner : κ
  update : Update σ
  seen : Reading σ

/-- Runs one handler: it finds the reading of the moment and then makes the changes to the
registry that `react` names. -/
def call (react : κ → Update σ → Signal σ κ → List (Registry.Change κ)) (u : Update σ)
    (run : Signal σ κ × List (Call σ κ)) (owner : κ) : Signal σ κ × List (Call σ κ) :=
  let (s, calls) := run
  ({ s with registry := (react owner u s).foldl Registry.change s.registry },
    calls ++ [⟨owner, u, s.reading⟩])

/-- Stores an update and runs the handlers to call, one after the other. -/
def dispatch [DecidableEq σ] (react : κ → Update σ → Signal σ κ → List (Registry.Change κ))
    (u : Update σ) (s : Signal σ κ) : Signal σ κ × List (Call σ κ) :=
  let (s, targets) := s.write u
  targets.foldl (call react u) (s, [])

/-- A write that changes nothing calls nobody and leaves the signal as it is. -/
theorem write_of_unchanged [DecidableEq σ] {u : Update σ} {s : Signal σ κ}
    (h : s.reading.apply u = s.reading) : s.write u = (s, []) := by
  simp [write, h]

/-- After a write the reading is the updated one, whether or not it changed. -/
@[simp] theorem write_reading [DecidableEq σ] (u : Update σ) (s : Signal σ κ) :
    (s.write u).1.reading = s.reading.apply u := by
  unfold write
  split
  · next h => exact h.symm
  · rfl

/-- Writing leaves the registry alone. -/
@[simp] theorem write_registry [DecidableEq σ] (u : Update σ) (s : Signal σ κ) :
    (s.write u).1.registry = s.registry := by
  unfold write
  split <;> rfl

end Signal

end ModemWatch
