import ModemWatch.Data.Datum
import ModemWatch.Named

/-!
# Writing values as data

What is written of plain values: of a named value its name, of a number the number, of a value that
is missing null.
-/

namespace ModemWatch

namespace Datum

/-- What is written of a value that has a name. -/
def ofName {α : Type} [Named α] (a : α) : Datum := .text (Named.name a)

/-- What is written of a number of 32 bits. -/
def ofUInt32 (n : UInt32) : Datum := .integer n.toNat

/-- What is written of a number. -/
def ofNat (n : Nat) : Datum := .integer n

/-- What is written of a value that may be missing. -/
def ofOption {α : Type} (write : α → Datum) : Option α → Datum
  | none => .null
  | some a => write a

/-- What is written of a list. -/
def ofList {α : Type} (write : α → Datum) (items : List α) : Datum := .list (items.map write)

/-- A record with the given fields. -/
def ofFields (fields : List (String × Datum)) : Datum := .record fields

end Datum

end ModemWatch
