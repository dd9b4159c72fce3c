/-!
# Named values

Settings, scenarios and reports write most values as plain words: a display is `off`, a request
class is `charging_state`.  A type is `Named` when its values form a closed list and each has one
word of its own; `Named.ofName?` reads the word back.  Words are exact, so `On` is not `on`.
-/

namespace ModemWatch

/-- A closed list of values, each with a word of its own. -/
class Named (α : Type) where
  /-- Every value, in the order of the type. -/
  all : List α
  /-- The word that stands for a value. -/
  name : α → String

/-- The value that `word` stands for, if there is one. -/
def Named.ofName? {α : Type} [Named α] (word : String) : Option α :=
  (Named.all : List α).find? (fun a => Named.name a == word)

/-- A word that is read back stands for the value it was read as. -/
theorem Named.name_of_ofName? {α : Type} [Named α] {word : String} {a : α}
    (h : Named.ofName? word = some a) : Named.name a = word := by
  have := List.find?_some h
  simpa using this

end ModemWatch
