import ModemWatch.Device.State
import ModemWatch.Device.Signal

/-!
# The four signals at one moment

A snapshot holds one reading for each of the four signals.  It is both what the sources show when
they are asked and what a session remembers of them.  The signals have states of different types;
`SignalKind.State` names the type of each, so that `Snapshot.get`, `Snapshot.set` and
`Snapshot.apply` are said once for all four.

* `Snapshot.get_set_self`, `Snapshot.get_set_ne` — one signal is replaced, the others stay;
* `Snapshot.get_apply_self`, `Snapshot.get_apply_ne` — the same for a single update.
-/

namespace ModemWatch

/-- The four watched signals. -/
inductive SignalKind where
  | display
  | battery
  | charger
  | tethering
  deriving DecidableEq, Repr

instance : Named SignalKind where
  all := [.display, .battery, .charger, .tethering]
  name
    | .display => "display"
    | .battery => "battery"
    | .charger => "charger"
    | .tethering => "tethering"

namespace SignalKind

/-- The type of a signal's state. -/
abbrev State : SignalKind → Type
  | .display => DisplayState
  | .battery => BatteryLevel
  | .charger => ChargerState
  | .tethering => Bool

instance decEqState : (k : SignalKind) → DecidableEq k.State
  | .display => inferInstanceAs (DecidableEq DisplayState)
  | .battery => inferInstanceAs (DecidableEq BatteryLevel)
  | .charger => inferInstanceAs (DecidableEq ChargerState)
  | .tethering => inferInstanceAs (DecidableEq Bool)

/-- The state of a signal nobody has written to. -/
def initialState : (k : SignalKind) → k.State
  | .display => DisplayState.off
  | .battery => BatteryLevel.unknown
  | .charger => ChargerState.unknown
  | .tethering => false

end SignalKind

/-- A change of one of the four signals. -/
structure SignalUpdate where
  kind : SignalKind
  update : Update kind.State

/-- One reading for each signal. -/
structure Snapshot where
  display : Reading DisplayState := ⟨false, .off⟩
  battery : Reading BatteryLevel := ⟨false, .unknown⟩
  charger : Reading ChargerState := ⟨false, .unknown⟩
  tethering : Reading Bool := ⟨false, false⟩
  deriving DecidableEq, Repr

namespace Snapshot

/-- The reading of one signal. -/
def get (s : Snapshot) : (k : SignalKind) → Reading k.State
  | .display => s.display
  | .battery => s.battery
  | .charger => s.charger
  | .tethering => s.tethering

/-- Replaces the reading of one signal. -/
def set (s : Snapshot) : (k : SignalKind) → Reading k.State → Snapshot
  | .display, r => { s with display := r }
  | .battery, r => { s with battery := r }
  | .charger, r => { s with charger := r }
  | .tethering, r => { s with tethering := r }

/-- Stores one field of one signal. -/
def apply (s : Snapshot) (u : SignalUpdate) : Snapshot :=
  s.set u.kind ((s.get u.kind).apply u.update)

@[simp] theorem get_set_self (s : Snapshot) (k : SignalKind) (r : Reading k.State) :
    (s.set k r).get k = r := by
  cases k <;> rfl

@[simp] theorem get_set_ne (s : Snapshot) {k j : SignalKind} (r : Reading k.State) (h : j ≠ k) :
    (s.set k r).get j = s.get j := by
  cases k <;> cases j <;> first | rfl | exact absurd rfl h

@[simp] theorem set_get_self (s : Snapshot) (k : SignalKind) : s.set k (s.get k) = s := by
  cases k <;> rfl

/-- Snapshots that agree on every signal are equal. -/
@[ext] theorem ext_get {s t : Snapshot} (h : ∀ k, s.get k = t.get k) : s = t := by
  have hd := h .display
  have hb := h .battery
  have hc := h .charger
  have ht := h .tethering
  cases s
  cases t
  simp_all [get]

@[simp] theorem get_apply_self (s : Snapshot) (u : SignalUpdate) :
    (s.apply u).get u.kind = (s.get u.kind).apply u.update := by
  simp [apply]

@[simp] theorem get_apply_ne (s : Snapshot) {u : SignalUpdate} {j : SignalKind}
    (h : j ≠ u.kind) : (s.apply u).get j = s.get j := by
  simp [apply, h]

end Snapshot

end ModemWatch
