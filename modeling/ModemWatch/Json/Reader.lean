import ModemWatch.Data.Datum
import ModemWatch.Text.Digits

/-!
# Reading JSON

A text is read as one JSON value with blanks around it and nothing behind it.  Numbers without
fraction and exponent are integers, except that `-0` is not; it keeps its sign only as a number with
a fraction would.  In a text, an escape for one half of a surrogate pair is allowed by the grammar
but stands for no character, so such a text is a value that nobody can use, and so is a record with
such a key.

* `Json.read` reads a whole text;
* `Json.string` reads the inside of a quoted text, one character at a time.
-/

namespace ModemWatch.Json

/-- A text that is being put together. -/
structure Draft where
  /-- Characters so far, last one first. -/
  chars : List Char := []
  /-- The first half of a surrogate pair that waits for the second. -/
  half : Option Nat := none
  /-- No half was left alone so far. -/
  whole : Bool := true

namespace Draft

/-- Appends a character. -/
def push (c : Char) (d : Draft) : Draft :=
  { chars := c :: d.chars, half := none, whole := d.whole && d.half.isNone }

/-- Appends a code unit of sixteen bits. -/
def pushUnit (n : Nat) (d : Draft) : Draft :=
  if 0xd800 ≤ n ∧ n < 0xdc00 then
    { d with half := some n, whole := d.whole && d.half.isNone }
  else if 0xdc00 ≤ n ∧ n < 0xe000 then
    match d.half with
    | none => { d with whole := false }
    | some high =>
      { d with
        chars := Char.ofNat (0x10000 + (high - 0xd800) * 0x400 + (n - 0xdc00)) :: d.chars
        half := none }
  else d.push (Char.ofNat n)

/-- The finished text, if every half found its partner. -/
def finish (d : Draft) : Option String :=
  if d.whole && d.half.isNone then some (String.ofList d.chars.reverse) else none

end Draft

/-- Where the reader of a quoted text is. -/
inductive Scan where
  | plain
  /-- Behind a backslash. -/
  | escape
  /-- In the digits of a code unit. -/
  | hex (left value : Nat)

/-- The character that a letter stands for behind a backslash. -/
def escaped? : Char → Option Char
  | '"' => some '"'
  | '\\' => some '\\'
  | '/' => some '/'
  | 'b' => some '\x08'
  | 'f' => some '\x0c'
  | 'n' => some '\n'
  | 'r' => some '\r'
  | 't' => some '\t'
  | _ => none

/-- Reads a quoted text from behind its first quote: the text, unless it is not one of characters,
and what comes after the last quote. -/
def string : Scan → Draft → List Char → Option (Option String × List Char)
  | _, _, [] => none
  | .plain, d, c :: r =>
    if c = '"' then some (d.finish, r)
    else if c = '\\' then string .escape d r
    else if c.toNat < 0x20 then none
    else string .plain (d.push c) r
  | .escape, d, c :: r =>
    if c = 'u' then string (.hex 4 0) d r
    else match escaped? c with
      | none => none
      | some e => string .plain (d.push e) r
  | .hex left value, d, c :: r =>
    match digitValue? 16 c with
    | none => none
    | some digit =>
      let value := value * 16 + digit
      if left ≤ 1 then string .plain (d.pushUnit value) r else string (.hex (left - 1) value) d r

/-- The rest of a text behind its blanks. -/
def skipBlank (s : List Char) : List Char :=
  s.dropWhile (fun c => c == ' ' || c == '\n' || c == '\t' || c == '\x0d')

/-- Reads a fraction, if there is one; tells whether there was. -/
def fraction : List Char → Option (Bool × List Char)
  | '.' :: r =>
    if (r.takeWhile Char.isDigit).isEmpty then none else some (true, r.dropWhile Char.isDigit)
  | s => some (false, s)

/-- Behind the letter of an exponent: an optional sign and digits. -/
def exponentDigits (s : List Char) : Option (List Char) :=
  let s := match s with
    | '+' :: r => r
    | '-' :: r => r
    | s => s
  if (s.takeWhile Char.isDigit).isEmpty then none else some (s.dropWhile Char.isDigit)

/-- Reads an exponent, if there is one; tells whether there was. -/
def exponent : List Char → Option (Bool × List Char)
  | 'e' :: r => (exponentDigits r).map (fun r => (true, r))
  | 'E' :: r => (exponentDigits r).map (fun r => (true, r))
  | s => some (false, s)

/-- The digits in front of a fraction: a zero alone, or a run that does not begin with one. -/
def wholeDigits : List Char → Option (List Char × List Char)
  | '0' :: r => some (['0'], r)
  | s =>
    if (s.takeWhile Char.isDigit).isEmpty then none
    else some (s.takeWhile Char.isDigit, s.dropWhile Char.isDigit)

/-- Reads a number from behind its sign. -/
def number (negative : Bool) (s : List Char) : Option (Datum × List Char) := do
  let (digits, r) ← wholeDigits s
  let (fractional, r) ← fraction r
  let (scaled, r) ← exponent r
  let n : Int := ofDigits 10 (digits.map digitValue)
  let datum : Datum :=
    if fractional || scaled || (negative && n == 0) then .other
    else .integer (if negative then -n else n)
  some (datum, r)

/-- A quoted text as a value. -/
def textValue (r : List Char) : Option (Datum × List Char) :=
  (string .plain {} r).map (fun (text, rest) =>
    (match text with
      | none => Datum.other
      | some text => .text text, rest))

/-- A member in front of others; a key that is no text of characters spoils them all. -/
def member (key : Option String) (d : Datum) (rest : Option (List (String × Datum))) :
    Option (List (String × Datum)) := do
  some ((← key, d) :: (← rest))

/-- Members as a value. -/
def recordValue : Option (List (String × Datum)) → Datum
  | none => .other
  | some fields => .record fields

mutual

/-- Reads one value; `fuel` bounds the nesting and the number of items. -/
def value : Nat → List Char → Option (Datum × List Char)
  | 0, _ => none
  | fuel + 1, s =>
    match skipBlank s with
    | '"' :: r => textValue r
    | '[' :: r =>
      match skipBlank r with
      | ']' :: r => some (.list [], r)
      | r => (items fuel r).map (fun (ds, r) => (.list ds, r))
    | '\x7b' :: r =>
      match skipBlank r with
      | '\x7d' :: r => some (.record [], r)
      | r => (members fuel r).map (fun (fs, r) => (recordValue fs, r))
    | 't' :: 'r' :: 'u' :: 'e' :: r => some (.boolean true, r)
    | 'f' :: 'a' :: 'l' :: 's' :: 'e' :: r => some (.boolean false, r)
    | 'n' :: 'u' :: 'l' :: 'l' :: r => some (.null, r)
    | '-' :: r => number true r
    | r => number false r

/-- Reads the items of a list up to its bracket. -/
def items : Nat → List Char → Option (List Datum × List Char)
  | 0, _ => none
  | fuel + 1, s =>
    match value fuel s with
    | none => none
    | some (d, r) =>
      match skipBlank r with
      | ',' :: r => (items fuel r).map (fun (ds, r) => (d :: ds, r))
      | ']' :: r => some ([d], r)
      | _ => none

/-- Reads the members of a record up to its brace. -/
def members : Nat → List Char → Option (Option (List (String × Datum)) × List Char)
  | 0, _ => none
  | fuel + 1, s =>
    match skipBlank s with
    | '"' :: r =>
      match string .plain {} r with
      | some (key, r) =>
        match skipBlank r with
        | ':' :: r =>
          match value fuel r with
          | none => none
          | some (d, r) =>
            match skipBlank r with
            | ',' :: r => (members fuel r).map (fun (fs, r) => (member key d fs, r))
            | '\x7d' :: r => some (member key d (some []), r)
            | _ => none
        | _ => none
      | _ => none
    | _ => none

end

/-- Reads a whole text.  A value takes at most two steps for each of its characters. -/
def read (text : String) : Option Datum :=
  let s := text.toList
  match value (2 * s.length + 2) s with
  | none => none
  | some (d, r) => if (skipBlank r).isEmpty then some d else none

end ModemWatch.Json
