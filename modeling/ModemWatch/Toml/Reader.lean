import ModemWatch.Toml.Number
import ModemWatch.Toml.Quoted
import ModemWatch.Toml.Table

/-!
# Reading TOML

A text is a sequence of lines: blank ones, comments, headers, and keys with their values.  A value
stands on the line of its key, but a list may go on over further lines, with comments between its
items.

* `Toml.read` reads a whole text;
* `Toml.value` reads one value, `Toml.key` a key with its dots.
-/

namespace ModemWatch.Toml

/-- The rest of a text behind its blanks. -/
def skipBlank (s : List Char) : List Char := s.dropWhile (fun c => c == ' ' || c == '\t')

/-- The rest of a text behind a comment, which begins in front of it. -/
def skipComment (s : List Char) : List Char := s.dropWhile isPrintable

/-- A line ends here, with a comment if there is one: the text of the next line. -/
def lineEnd (s : List Char) : Option (List Char) :=
  let s := match skipBlank s with
    | '#' :: r => skipComment r
    | s => s
  match s with
  | [] => some []
  | '\n' :: r => some r
  | '\x0d' :: '\n' :: r => some r
  | _ => none

/-- Between the items of a list: blanks, line breaks and comments do not count. -/
def skipFiller : Bool → List Char → Option (List Char)
  | _, [] => some []
  | _, '\n' :: r => skipFiller false r
  | _, '\x0d' :: '\n' :: r => skipFiller false r
  | true, c :: r => if isPrintable c then skipFiller true r else none
  | false, c :: r =>
    if c = ' ' ∨ c = '\t' then skipFiller false r
    else if c = '#' then skipFiller true r
    else some (c :: r)

/-- Reads one part of a key. -/
def keyPart (s : List Char) : Option (String × List Char) :=
  match readQuotedKey s with
  | some (name, r) => some (String.ofList name, r)
  | none =>
    let name := s.takeWhile isBareKeyChar
    if name.isEmpty then none else some (String.ofList name, s.dropWhile isBareKeyChar)

/-- Reads the parts of a key: those before the last, and the last. -/
def keyParts : Nat → List Char → Option ((List String × String) × List Char)
  | 0, _ => none
  | fuel + 1, s =>
    match keyPart (skipBlank s) with
    | none => none
    | some (part, r) =>
      match skipBlank r with
      | '.' :: r => (keyParts fuel r).map (fun ((path, last), r) => ((part :: path, last), r))
      | r => some (([], part), r)

/-- Reads a key with its dots, and the blanks around it. -/
def key (s : List Char) : Option ((List String × String) × List Char) := keyParts (s.length + 1) s

mutual

/-- Reads one value; `fuel` bounds the nesting and the number of items. -/
def value : Nat → List Char → Option (Datum × List Char)
  | 0, _ => none
  | fuel + 1, s =>
    match s with
    | '[' :: r =>
      match skipFiller false r with
      | none => none
      | some (']' :: r) => some (.list [], r)
      | some r => (items fuel r).map (fun (ds, r) => (.list ds, r))
    | '\x7b' :: r =>
      match skipBlank r with
      | '\x7d' :: r => some (.record [], r)
      | r => (members fuel [] r).map (fun (t, r) => (.record (datumEntries t), r))
    | '"' :: r => (readQuoted ('"' :: r)).map (fun (text, r) => (.text (String.ofList text), r))
    | '\'' :: r => (readQuoted ('\'' :: r)).map (fun (text, r) => (.text (String.ofList text), r))
    | s => readToken s

/-- Reads the items of a list up to its bracket. -/
def items : Nat → List Char → Option (List Datum × List Char)
  | 0, _ => none
  | fuel + 1, s =>
    match value fuel s with
    | none => none
    | some (d, r) =>
      match skipFiller false r with
      | some (']' :: r) => some ([d], r)
      | some (',' :: r) =>
        match skipFiller false r with
        | none => none
        | some (']' :: r) => some ([d], r)
        | some r => (items fuel r).map (fun (ds, r) => (d :: ds, r))
      | _ => none

/-- Reads the members of an inline table up to its brace, into the table `t`. -/
def members : Nat → Table → List Char → Option (Table × List Char)
  | 0, _, _ => none
  | fuel + 1, t, s =>
    match key s with
    | some ((path, last), '=' :: r) =>
      match value fuel (skipBlank r) with
      | none => none
      | some (d, r) =>
        match t.insert path last d with
        | none => none
        | some t =>
          match skipBlank r with
          | ',' :: r => members fuel t r
          | '\x7d' :: r => some (t, r)
          | _ => none
    | _ => none

end

/-- Reads a value that may be nested and long at will: it takes at most two steps for each of its
characters. -/
def wholeValue (s : List Char) : Option (Datum × List Char) := value (2 * s.length + 2) s

/-- Reads a header behind its first bracket. -/
def header (d : Draft) (s : List Char) : Option (Draft × List Char) :=
  match s with
  | '[' :: r =>
    match key r with
    | some ((path, last), ']' :: ']' :: r) => (d.openElement path last).map (fun d => (d, r))
    | _ => none
  | r =>
    match key r with
    | some ((path, last), ']' :: r) => (d.openTable path last).map (fun d => (d, r))
    | _ => none

/-- Reads a key with its value. -/
def keyValue (d : Draft) (s : List Char) : Option (Draft × List Char) :=
  match key s with
  | some ((path, last), '=' :: r) =>
    match wholeValue (skipBlank r) with
    | none => none
    | some (value, r) => (d.insert path last value).map (fun d => (d, r))
  | _ => none

/-- Reads what stands on a line, if anything does. -/
def line (d : Draft) (s : List Char) : Option (Draft × List Char) :=
  match skipBlank s with
  | [] => some (d, [])
  | '\n' :: r => some (d, '\n' :: r)
  | '\x0d' :: r => some (d, '\x0d' :: r)
  | '#' :: r => some (d, '#' :: r)
  | '[' :: r => header d r
  | s => keyValue d s

/-- Reads lines to the end of the text. -/
def lines : Nat → Draft → List Char → Option Draft
  | _, d, [] => some d
  | 0, _, _ :: _ => none
  | fuel + 1, d, s =>
    match line d s with
    | none => none
    | some (d, r) =>
      match lineEnd r with
      | none => none
      | some r => lines fuel d r

/-- The rest of a text behind a byte order mark. -/
def skipMark : List Char → List Char
  | '\ufeff' :: r => r
  | s => s

/-- Reads a whole text.  Every line takes at least one character. -/
def read (text : String) : Option Datum :=
  let s := skipMark text.toList
  match lines s.length {} s with
  | none => none
  | some d => d.finish.map (fun t => .record (datumEntries t))

end ModemWatch.Toml
