import ModemWatch.Data.Datum

/-!
# Reading and writing TOML

Settings and scenarios are TOML texts.  What they mean is said of the data in them, and whoever
loads or prints them is given a `Toml.Codec` to get at the data: a reader of TOML and a writer of
it.  Nothing that is done with settings depends on how these are made.
-/

namespace ModemWatch.Toml

/-- A reader and a writer of TOML.  Both can fail, for a reason in words. -/
structure Codec where
  /-- What a text says. -/
  read : String → Except String Datum
  /-- A text that says the data. -/
  write : Datum → Except String String

end ModemWatch.Toml
