import ModemWatch.Data.Datum

/-!
# Writing JSON

Data are written as JSON on one line without blanks, or spread over lines with two blanks for each
level.  In texts, quotes, backslashes and control characters are escaped and everything else stands
as it is.  A value that JSON has no form for is written as null.

* `Json.compact`, `Json.pretty` — the two forms.
-/

namespace ModemWatch.Json

/-- Four hexadecimal digits. -/
def hex4 (n : Nat) : List Char :=
  let digits := Nat.toDigits 16 n
  List.replicate (4 - digits.length) '0' ++ digits

/-- A character inside a quoted text. -/
def escape (c : Char) : List Char :=
  match c with
  | '"' => ['\\', '"']
  | '\\' => ['\\', '\\']
  | '\x08' => ['\\', 'b']
  | '\x0c' => ['\\', 'f']
  | '\n' => ['\\', 'n']
  | '\x0d' => ['\\', 'r']
  | '\t' => ['\\', 't']
  | c => if c.toNat < 0x20 then '\\' :: 'u' :: hex4 c.toNat else [c]

/-- A quoted text. -/
def quoted (s : String) : String := "\"" ++ String.ofList (s.toList.flatMap escape) ++ "\""

mutual

/-- A value on one line. -/
def compact : Datum → String
  | .null | .date | .other => "null"
  | .boolean value => if value then "true" else "false"
  | .integer value => toString value
  | .text value => quoted value
  | .list items => "[" ++ compactItems items ++ "]"
  | .record fields => "\x7b" ++ compactFields fields ++ "\x7d"

/-- Items of a list on one line. -/
def compactItems : List Datum → String
  | [] => ""
  | [d] => compact d
  | d :: rest => compact d ++ "," ++ compactItems rest

/-- Fields of a record on one line. -/
def compactFields : List (String × Datum) → String
  | [] => ""
  | [(key, d)] => quoted key ++ ":" ++ compact d
  | (key, d) :: rest => quoted key ++ ":" ++ compact d ++ "," ++ compactFields rest

end

/-- A new line at a level. -/
def newLine (level : Nat) : String := "\n" ++ String.ofList (List.replicate (2 * level) ' ')

mutual

/-- A value over several lines; `level` is the level of the line it begins on. -/
def prettyAt (level : Nat) : Datum → String
  | .list (d :: rest) =>
    "[" ++ newLine (level + 1) ++ prettyItems (level + 1) (d :: rest) ++ newLine level ++ "]"
  | .record (f :: rest) =>
    "\x7b" ++ newLine (level + 1) ++ prettyFields (level + 1) (f :: rest) ++ newLine level ++ "\x7d"
  | .list [] => "[]"
  | .record [] => "\x7b\x7d"
  | .null | .date | .other => "null"
  | .boolean value => if value then "true" else "false"
  | .integer value => toString value
  | .text value => quoted value

/-- Items of a list, one on a line. -/
def prettyItems (level : Nat) : List Datum → String
  | [] => ""
  | [d] => prettyAt level d
  | d :: rest => prettyAt level d ++ "," ++ newLine level ++ prettyItems level rest

/-- Fields of a record, one on a line. -/
def prettyFields (level : Nat) : List (String × Datum) → String
  | [] => ""
  | [(key, d)] => quoted key ++ ": " ++ prettyAt level d
  | (key, d) :: rest =>
    quoted key ++ ": " ++ prettyAt level d ++ "," ++ newLine level ++ prettyFields level rest

end

/-- A value over several lines. -/
def pretty (d : Datum) : String := prettyAt 0 d

end ModemWatch.Json
