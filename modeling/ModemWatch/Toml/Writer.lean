import ModemWatch.Toml.Codec
import ModemWatch.Toml.Reader

/-!
# Writing TOML

Data are written if they are a record of tables, each with plain values: texts, truth values,
numbers without a fraction, and lists of these.  Every table has a header, every value a line with
its key, and a list with more than one item has a line for each.

A text is written in a quotation that needs no escapes, in the order: double quotes, single quotes,
three double quotes, three single quotes.  If there is none it is escaped, over several lines if it
has line breaks.

* `Toml.quote` — writes a text;
* `Toml.writeValue`, `Toml.writeTable`, `Toml.write` — a value, a table, and all of it;
* `Toml.codec` — the reader and the writer of the program.
-/

namespace ModemWatch.Toml

/-- The length of the longest run of a character. -/
def longestRun (c : Char) : List Char → Nat → Nat
  | [], run => run
  | d :: r, run => if d = c then longestRun c r (run + 1) else max run (longestRun c r 0)

/-- The character can only be written as an escape. -/
def needsEscape (c : Char) : Bool := !isPrintable c && c != '\n'

/-- The quotation that shows a text best, and whether it needs escapes. -/
def Quoting.choose (s : List Char) : Quoting :=
  let lines := s.contains '\n'
  let control := s.any needsEscape
  let doubles := longestRun '"' s 0
  let singles := longestRun '\'' s 0
  let escapes := control || s.contains '\\'
  if !escapes && doubles == 0 && !lines then .basic
  else if !control && singles == 0 && !lines then .literal
  else if !escapes && doubles ≤ 2 then .multilineBasic
  else if !control && singles ≤ 2 then .multilineLiteral
  else if lines then .multilineBasic
  else .basic

/-- Four hexadecimal digits in capitals. -/
def hex4 (n : Nat) : List Char :=
  [n / 4096, n / 256, n / 16, n].map (fun d => (Nat.digitChar (d % 16)).toUpper)

/-- A character between double quotes.  `run` is the number of quotes right in front of it that
stand for themselves; a third one in a row is escaped, and on one line already the first. -/
def Quoting.escapeChar (q : Quoting) (run : Nat) (c : Char) : List Char :=
  match c with
  | '"' => if q.multiline && run < 2 then ['"'] else ['\\', '"']
  | '\\' => ['\\', '\\']
  | '\x08' => ['\\', 'b']
  | '\t' => ['\\', 't']
  | '\n' => if q.multiline then ['\n'] else ['\\', 'n']
  | '\x0c' => ['\\', 'f']
  | '\x0d' => ['\\', 'r']
  | c => if isPrintable c then [c] else '\\' :: 'u' :: hex4 c.toNat

/-- A text between double quotes. -/
def Quoting.escapeAll (q : Quoting) : Nat → List Char → List Char
  | _, [] => []
  | run, c :: r =>
    q.escapeChar run c ++ q.escapeAll (if c = '"' ∧ run < 2 ∧ q.multiline then run + 1 else 0) r

/-- Writes a text in a quotation. -/
def Quoting.write (q : Quoting) (s : List Char) : List Char :=
  let body := if q.escapes then q.escapeAll 0 s else s
  let lead := if q.multiline && s.contains '\n' then ['\n'] else []
  q.mark ++ (lead ++ (body ++ q.mark))

/-- Writes a text in the quotation that shows it best. -/
def quote (s : String) : String := String.ofList ((Quoting.choose s.toList).write s.toList)

/-- Writes a value that is no list. -/
def writeScalar : Datum → Option String
  | .text s => some (quote s)
  | .boolean b => some (if b then "true" else "false")
  | .integer n => some (toString n)
  | .null | .list _ | .record _ | .date | .other => none

/-- Written items as a list: on one line if there is at most one, else one to a line. -/
def writeList : List String → String
  | [] => "[]"
  | [item] => "[" ++ item ++ "]"
  | items => "[\n" ++ String.join (items.map (fun item => "    " ++ item ++ ",\n")) ++ "]"

/-- Writes a value. -/
def writeValue : Datum → Option String
  | .list items => (items.mapM writeScalar).map writeList
  | d => writeScalar d

/-- Writes a key that needs no quotes. -/
def writeKey (name : String) : Option String :=
  if !name.isEmpty && name.toList.all isBareKeyChar then some name else none

/-- Writes a key with its value on a line. -/
def writeField (field : String × Datum) : Option String := do
  some ((← writeKey field.1) ++ " = " ++ (← writeValue field.2) ++ "\n")

/-- Writes a table under its header. -/
def writeTable (table : String × Datum) : Option String :=
  match table.2 with
  | .record fields => do
    some ("[" ++ (← writeKey table.1) ++ "]\n" ++ String.join (← fields.mapM writeField))
  | _ => none

/-- Writes a record of tables, with an empty line between them. -/
def write : Datum → Option String
  | .record tables => (tables.mapM writeTable).map (fun texts => "\n".intercalate texts)
  | _ => none

/-- The reader and the writer of the program. -/
def codec : Codec where
  read text := (read text).elim (.error "invalid TOML") .ok
  write d := (write d).elim (.error "the data cannot be written as TOML") .ok

end ModemWatch.Toml
