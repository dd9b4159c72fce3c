import ModemWatch.Radio.Request

/-!
# One entry for each request class

Sessions keep a decision, a capability and a pending request for every request class.  `ByClass`
is such a table: it always has an entry for each class.  Its whole theory is that setting one
entry reads back (`ByClass.get_set_self`) and leaves the others alone (`ByClass.get_set_ne`), and
that a table is known by its entries (`ByClass.ext_get`).
-/

namespace ModemWatch

/-- A table with one entry for each request class. -/
structure ByClass (α : Type) where
  lowDataExpected : α
  chargingState : α
  indicationFilter : α
  deriving DecidableEq, Repr

namespace ByClass

variable {α : Type}

/-- The table with the same entry for every class. -/
def const (a : α) : ByClass α := ⟨a, a, a⟩

/-- The entry of a class. -/
def get (t : ByClass α) : RequestClass → α
  | .lowDataExpected => t.lowDataExpected
  | .chargingState => t.chargingState
  | .indicationFilter => t.indicationFilter

/-- Replaces the entry of a class. -/
def set (t : ByClass α) (c : RequestClass) (a : α) : ByClass α :=
  match c with
  | .lowDataExpected => { t with lowDataExpected := a }
  | .chargingState => { t with chargingState := a }
  | .indicationFilter => { t with indicationFilter := a }

@[simp] theorem get_const (a : α) (c : RequestClass) : (const a).get c = a := by
  cases c <;> rfl

@[simp] theorem get_set_self (t : ByClass α) (c : RequestClass) (a : α) :
    (t.set c a).get c = a := by
  cases c <;> rfl

@[simp] theorem get_set_ne (t : ByClass α) {c d : RequestClass} (a : α) (h : d ≠ c) :
    (t.set c a).get d = t.get d := by
  cases c <;> cases d <;> first | rfl | exact absurd rfl h

theorem get_set (t : ByClass α) (c d : RequestClass) (a : α) :
    (t.set c a).get d = if d = c then a else t.get d := by
  by_cases h : d = c
  · subst h; simp
  · simp [h]

@[simp] theorem set_get_self (t : ByClass α) (c : RequestClass) : t.set c (t.get c) = t := by
  cases c <;> rfl

/-- Tables with the same entries are equal. -/
@[ext] theorem ext_get {t u : ByClass α} (h : ∀ c, t.get c = u.get c) : t = u := by
  have h1 := h .lowDataExpected
  have h2 := h .chargingState
  have h3 := h .indicationFilter
  cases t
  cases u
  simp_all [get]

end ByClass

end ModemWatch
