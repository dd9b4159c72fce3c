/-!
# Characters of TOML

Which characters may stand in a TOML text, and what they stand for.  TOML quotes a text in four
ways: with double or with single quotes, on one line or over several.  Double quotes allow escapes,
single quotes do not.  A quotation over several lines is held by three quotes on each side; up to
two quotes may stand inside it, also right before its end, and a line break right behind its
beginning does not count.

* `isPrintable`, `isBareKeyChar` — characters that stand for themselves, anywhere and in a key;
* `escaped?` — letters behind a backslash;
* `Quoting.all` — the four ways of quoting.
-/

namespace ModemWatch.Toml

/-- The character may stand for itself: it is a tab or no control character. -/
def isPrintable (c : Char) : Bool := c == '\t' || (0x20 ≤ c.toNat && c.toNat != 0x7f)

/-- The character that a letter stands for behind a backslash. -/
def escaped? : Char → Option Char
  | 'b' => some '\x08'
  | 't' => some '\t'
  | 'n' => some '\n'
  | 'f' => some '\x0c'
  | 'r' => some '\x0d'
  | '"' => some '"'
  | '\\' => some '\\'
  | _ => none

/-- The character may stand in a key without quotes. -/
def isBareKeyChar (c : Char) : Bool := c.isAlphanum || c == '_' || c == '-'

/-- A way of quoting. -/
structure Quoting where
  quote : Char
  /-- A backslash begins an escape. -/
  escapes : Bool
  /-- Three quotes hold the text, and lines may break. -/
  multiline : Bool
  deriving DecidableEq, Repr

namespace Quoting

/-- `"..."` -/
def basic : Quoting := ⟨'"', true, false⟩

/-- `'...'` -/
def literal : Quoting := ⟨'\'', false, false⟩

/-- `"""..."""` -/
def multilineBasic : Quoting := ⟨'"', true, true⟩

/-- `'''...'''` -/
def multilineLiteral : Quoting := ⟨'\'', false, true⟩

/-- The four ways of quoting. -/
def all : List Quoting := [basic, literal, multilineBasic, multilineLiteral]

/-- The quotes on each side of a quotation. -/
def mark (q : Quoting) : List Char := List.replicate (if q.multiline then 3 else 1) q.quote

/-- How many quotes in a row may stand for themselves. -/
def quotesInside (q : Quoting) : Nat := if q.multiline then 2 else 0

end Quoting

end ModemWatch.Toml
