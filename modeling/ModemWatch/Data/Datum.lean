/-!
# Data of a text format

What a text in a data format says, before anybody asks what it means.  Both formats that are read
here end in this type: settings and scenarios are TOML, single values are JSON.

A date is a value of its own kind because it can stand where a record is wanted; it has none of the
fields that anybody asks for.  Everything that no reader wants, such as a number with a fraction, is
`other`.
-/

namespace ModemWatch

/-- What a text in a data format says. -/
inductive Datum where
  | null
  | boolean (value : Bool)
  | integer (value : Int)
  | text (value : String)
  | list (items : List Datum)
  | record (fields : List (String × Datum))
  | date
  | other
  deriving Inhabited

/-- Why data do not mean what they were expected to mean. -/
inductive Fault where
  | unexpected (wanted : String)
  | unknownName (name : String)
  | missingField (name : String)
  | repeatedField (name : String)
  | surplusItem
  | outOfRange
  deriving DecidableEq, Repr

/-- The fault in words. -/
def Fault.message : Fault → String
  | unexpected wanted => s!"expected {wanted}"
  | unknownName name => s!"unknown name {name}"
  | missingField name => s!"missing field {name}"
  | repeatedField name => s!"repeated field {name}"
  | surplusItem => "too many items"
  | outOfRange => "number out of range"

end ModemWatch
