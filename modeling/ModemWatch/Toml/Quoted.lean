import ModemWatch.Text.Digits
import ModemWatch.Toml.Characters

/-!
# Reading quoted texts

Reading a quotation goes one character at a time.  `Quoting.step` says what a character does at each
place of a quotation; `Quoting.scan` follows it to the end.  Every line break is read as one
character.

* `Toml.readQuoted` — reads a quotation;
* `Toml.readQuotedKey` — reads one that stands for a key.
-/

namespace ModemWatch.Toml

/-- Where the reader of a quotation is. -/
inductive Place where
  | plain
  /-- Behind one to four quotes in a row. -/
  | quotes (count : Nat)
  /-- Behind a carriage return, which must belong to a line break. -/
  | carriage
  /-- Behind a backslash. -/
  | escape
  /-- In the digits of a code point. -/
  | hex (left value : Nat)
  /-- Behind a backslash at the end of a line; `broken` once the line has ended. -/
  | joining (broken : Bool)
  /-- The same, behind a carriage return. -/
  | joiningCarriage
  deriving DecidableEq, Repr

namespace Quoting

/-- A character where nothing special came before: the next place, and the characters that the
text gains. -/
def plainStep (q : Quoting) (c : Char) : Option (Place × List Char) :=
  if c = q.quote then some (.quotes 1, [])
  else if c = '\\' ∧ q.escapes then some (.escape, [])
  else if c = '\n' ∧ q.multiline then some (.plain, ['\n'])
  else if c = '\x0d' ∧ q.multiline then some (.carriage, [])
  else if isPrintable c then some (.plain, [c])
  else none

/-- A character behind a backslash. -/
def escapeStep (q : Quoting) (c : Char) : Option (Place × List Char) :=
  if c = 'u' then some (.hex 4 0, [])
  else if c = 'U' then some (.hex 8 0, [])
  else if q.multiline ∧ (c = ' ' ∨ c = '\t') then some (.joining false, [])
  else if q.multiline ∧ c = '\n' then some (.joining true, [])
  else if q.multiline ∧ c = '\x0d' then some (.joiningCarriage, [])
  else (escaped? c).map (fun e => (.plain, [e]))

/-- A character in the digits of a code point. -/
def hexStep (left value : Nat) (c : Char) : Option (Place × List Char) :=
  match digitValue? 16 c with
  | none => none
  | some digit =>
    let value := value * 16 + digit
    if left ≤ 1 then (charOfCodePoint? value).map (fun c => (.plain, [c]))
    else some (.hex (left - 1) value, [])

/-- A character inside a quotation: the next place, and the characters that the text gains. -/
def step (q : Quoting) (c : Char) : Place → Option (Place × List Char)
  | .plain => q.plainStep c
  | .quotes count =>
    if c = q.quote then some (.quotes (count + 1), [])
    else (q.plainStep c).map (fun (p, out) => (p, List.replicate count q.quote ++ out))
  | .carriage => if c = '\n' then some (.plain, ['\n']) else none
  | .escape => q.escapeStep c
  | .hex left value => hexStep left value c
  | .joining broken =>
    if c = ' ' ∨ c = '\t' then some (.joining broken, [])
    else if c = '\n' then some (.joining true, [])
    else if c = '\x0d' then some (.joiningCarriage, [])
    else if broken then q.plainStep c
    else none
  | .joiningCarriage => if c = '\n' then some (.joining true, []) else none

/-- The quotation ends in front of `next`, which may be the end of the text: the characters that
the text still gains. -/
def endsBefore? (q : Quoting) (next : Option Char) : Place → Option (List Char)
  | .quotes count =>
    if q.multiline then
      if 3 ≤ count ∧ (next ≠ some q.quote ∨ count = 5) then
        some (List.replicate (count - 3) q.quote)
      else none
    else some []
  | _ => none

/-- Follows a quotation to its end: the text, and what comes behind. -/
def scan (q : Quoting) : Place → List Char → Option (List Char × List Char)
  | place, [] => (q.endsBefore? none place).map (fun out => (out, []))
  | place, c :: r =>
    match q.endsBefore? (some c) place with
    | some out => some (out, c :: r)
    | none =>
      match q.step c place with
      | none => none
      | some (place, out) => (scan q place r).map (fun (text, rest) => (out ++ text, rest))

end Quoting

/-- The rest of a text behind a line break right at its beginning. -/
def skipLineBreak : List Char → List Char
  | '\n' :: r => r
  | '\x0d' :: '\n' :: r => r
  | s => s

/-- Reads a quotation that may go over several lines. -/
def readQuoted : List Char → Option (List Char × List Char)
  | '"' :: '"' :: '"' :: r => Quoting.multilineBasic.scan .plain (skipLineBreak r)
  | '"' :: r => Quoting.basic.scan .plain r
  | '\'' :: '\'' :: '\'' :: r => Quoting.multilineLiteral.scan .plain (skipLineBreak r)
  | '\'' :: r => Quoting.literal.scan .plain r
  | _ => none

/-- Reads a quotation on one line, as it may stand for a key. -/
def readQuotedKey : List Char → Option (List Char × List Char)
  | '"' :: r => Quoting.basic.scan .plain r
  | '\'' :: r => Quoting.literal.scan .plain r
  | _ => none

end ModemWatch.Toml
