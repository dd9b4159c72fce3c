import ModemWatch.Data.Datum
import ModemWatch.Named

/-!
# Reading meaning from data

Decoders turn data into values of a type.  A record may be written with the names of its fields or
as the list of its fields in order.  A plain name may also be written as a record with that name as
its only key and nothing of interest behind it.  The formats differ in details; a `Convention`
collects these.

* `Convention.toml`, `Convention.tomlStep`, `Convention.json` — the details of each format;
* `Datum.fields`, `Fields.required`, `Fields.withDefault`, `Fields.optional` — records;
* `Datum.asName`, `Datum.asBool`, `Datum.asText`, `Datum.asItems`, `Datum.asInt` — the rest.
-/

namespace ModemWatch

/-- How a format lets values be written. -/
structure Convention where
  /-- Items of a list behind the last field of a record are ignored. -/
  ignoresSurplus : Bool
  /-- What may stand behind a plain name that is written as a key. -/
  isEmptyPayload : Datum → Bool

namespace Convention

/-- Nothing of interest: an empty table. -/
def isEmptyTable : Datum → Bool
  | .record [] => true
  | _ => false

/-- Nothing of interest: an empty table or an empty list. -/
def isEmptyCollection : Datum → Bool
  | .record [] | .list [] => true
  | _ => false

/-- Nothing of interest: null. -/
def isNull : Datum → Bool
  | .null => true
  | _ => false

/-- Values of a TOML text. -/
def toml : Convention := ⟨true, isEmptyCollection⟩

/-- Values inside a step of a scenario.  A step is read as a whole before its action is known. -/
def tomlStep : Convention := ⟨false, isEmptyTable⟩

/-- Values of a JSON text. -/
def json : Convention := ⟨false, isNull⟩

end Convention

/-- The fields of a record, under their names. -/
structure Fields where
  entries : List (String × Datum)
  /-- The record was written as a list, so a field without a default cannot be left out. -/
  positional : Bool

namespace Fields

/-- What is written for a field. -/
def get? (name : String) (f : Fields) : Option Datum := f.entries.lookup name

/-- A field that must be there. -/
def required {α : Type} (name : String) (decode : Datum → Except Fault α) (f : Fields) :
    Except Fault α :=
  match f.get? name with
  | none => .error (.missingField name)
  | some d => decode d

/-- A field with a default. -/
def withDefault {α : Type} (name : String) (default : α) (decode : Datum → Except Fault α)
    (f : Fields) : Except Fault α :=
  match f.get? name with
  | none => .ok default
  | some d => decode d

/-- A field that may be left out where fields have names. -/
def optional {α : Type} (name : String) (decode : Datum → Except Fault α) (f : Fields) :
    Except Fault (Option α) :=
  match f.get? name with
  | none => if f.positional then .error (.missingField name) else .ok none
  | some .null => .ok none
  | some d => (decode d).map some

end Fields

namespace Datum

/-- The first of the known names that is used twice. -/
def repeated? (names : List String) (fields : List (String × Datum)) : Option String :=
  names.find? (fun name => fields.countP (fun field => field.1 == name) > 1)

/-- The fields of a record with the given names. -/
def fields (c : Convention) (names : List String) : Datum → Except Fault Fields
  | .record entries =>
    match repeated? names entries with
    | some name => .error (.repeatedField name)
    | none => .ok ⟨entries, false⟩
  | .date => .ok ⟨[], false⟩
  | .list items =>
    if names.length < items.length && !c.ignoresSurplus then .error .surplusItem
    else .ok ⟨names.zip items, true⟩
  | _ => .error (.unexpected "a table")

/-- A name, and what stands behind it if it is written as a key. -/
def keyed : Datum → Except Fault (String × Option Datum)
  | .text name => .ok (name, none)
  | .record [(name, payload)] => .ok (name, some payload)
  | .record _ => .error (.unexpected "a single name")
  | _ => .error (.unexpected "a name")

/-- A plain name. -/
def asName {α : Type} [Named α] (c : Convention) (d : Datum) : Except Fault α :=
  match d.keyed with
  | .error fault => .error fault
  | .ok (word, payload) =>
    if payload.all c.isEmptyPayload then
      match Named.ofName? word with
      | some a => .ok a
      | none => .error (.unknownName word)
    else .error (.unexpected "nothing behind a name")

/-- A truth value. -/
def asBool : Datum → Except Fault Bool
  | .boolean value => .ok value
  | _ => .error (.unexpected "true or false")

/-- A text. -/
def asText : Datum → Except Fault String
  | .text value => .ok value
  | _ => .error (.unexpected "a text")

/-- A number without a fraction, within bounds. -/
def asInt (low high : Int) : Datum → Except Fault Int
  | .integer value => if low ≤ value ∧ value ≤ high then .ok value else .error .outOfRange
  | _ => .error (.unexpected "a whole number")

/-- A number of 32 bits without a sign. -/
def asUInt32 (d : Datum) : Except Fault UInt32 :=
  (d.asInt 0 4294967295).map (fun n => UInt32.ofNat n.toNat)

/-- A number of 32 bits with a sign. -/
def asInt32 (d : Datum) : Except Fault Int32 :=
  (d.asInt (-2147483648) 2147483647).map Int32.ofInt

/-- A number of 64 bits without a sign. -/
def asNat64 (d : Datum) : Except Fault Nat :=
  (d.asInt 0 18446744073709551615).map Int.toNat

/-- Decodes the items of a list. -/
def decodeEach {α : Type} (decode : Datum → Except Fault α) : List Datum → Except Fault (List α)
  | [] => .ok []
  | d :: rest =>
    match decode d, decodeEach decode rest with
    | .ok a, .ok more => .ok (a :: more)
    | .error fault, _ => .error fault
    | _, .error fault => .error fault

/-- A list of values. -/
def asItems {α : Type} (decode : Datum → Except Fault α) : Datum → Except Fault (List α)
  | .list items => decodeEach decode items
  | _ => .error (.unexpected "a list")

end Datum

end ModemWatch
