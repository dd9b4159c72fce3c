import ModemWatch.Data.Datum
import ModemWatch.Text.Digits

/-!
# Numbers and dates of TOML

A value without quotes or brackets is a *token*, a run of letters, digits and a few signs: a truth
value, an integer in one of four number systems, a number with a fraction, or a date.  Underscores
may stand between digits but nowhere else, and a decimal number does not begin with a superfluous
zero.  Integers must fit in 64 bits.  Of numbers with a fraction only the form matters here, except
that a positive one must not be too large for a double.

* `Toml.readToken` — reads a token, with the time behind it if the token is a date;
* `Toml.integer?`, `Toml.isFloat`, `Toml.isDateTime`, `Toml.isTime` — the kinds of token.
-/

namespace ModemWatch.Toml

/-- The values of a run of digits that may be divided by single underscores. -/
def digits? (base : Nat) : List Char → Option (List Nat)
  | [] => none
  | c :: r =>
    match digitValue? base c with
    | none => none
    | some d =>
      match r with
      | [] => some [d]
      | '_' :: r => (digits? base r).map (fun ds => d :: ds)
      | r => (digits? base r).map (fun ds => d :: ds)

/-- The digits of a decimal number without a superfluous zero. -/
def decimal? (s : List Char) : Option (List Nat) :=
  match digits? 10 s with
  | some (0 :: _ :: _) => none
  | ds => ds

/-- A sign in front, and what comes behind it. -/
def splitSign : List Char → Bool × List Char
  | '-' :: r => (true, r)
  | '+' :: r => (false, r)
  | s => (false, s)

/-- An integer of 64 bits. -/
def integer? (s : List Char) : Option Int :=
  let n? : Option Int := match s with
    | '0' :: 'x' :: r => (digits? 16 r).map (fun ds => (ofDigits 16 ds : Int))
    | '0' :: 'o' :: r => (digits? 8 r).map (fun ds => (ofDigits 8 ds : Int))
    | '0' :: 'b' :: r => (digits? 2 r).map (fun ds => (ofDigits 2 ds : Int))
    | s =>
      let (negative, r) := splitSign s
      (decimal? r).map (fun ds => if negative then -(ofDigits 10 ds : Int) else ofDigits 10 ds)
  n?.filter (fun n => -9223372036854775808 ≤ n ∧ n ≤ 9223372036854775807)

/-- The character is a digit or divides digits. -/
def isDigitOrDivider (c : Char) : Bool := c.isDigit || c == '_'

/-- The number `digits * 10 ^ exponent` is so large that the nearest double is infinite.  The bound
lies half way between the largest double and the next power of two. -/
def exceedsDouble (digits : Nat) (exponent : Int) : Bool :=
  let size : Int := (Nat.toDigits 10 digits).length + exponent
  if digits == 0 || size < 308 then false
  else if 310 < size then true
  else
    let bound := Nat.pow 2 1024 - Nat.pow 2 970
    if 0 ≤ exponent then bound ≤ digits * Nat.pow 10 exponent.toNat
    else bound * Nat.pow 10 (-exponent).toNat ≤ digits

/-- The exponent behind its letter. -/
def exponent? (s : List Char) : Option Int :=
  let (negative, r) := splitSign s
  (digits? 10 r).map (fun ds => if negative then -(ofDigits 10 ds : Int) else ofDigits 10 ds)

/-- A fraction behind its point, and what comes behind it. -/
def fraction? (s : List Char) : Option (List Nat × List Char) :=
  (digits? 10 (s.takeWhile isDigitOrDivider)).map
    (fun ds => (ds, s.dropWhile isDigitOrDivider))

/-- The decimal form of a number with a fraction or an exponent: its digits and the power of ten
that they are multiplied with. -/
def decimalFloat? (s : List Char) : Option (Nat × Int) := do
  let whole ← decimal? (s.takeWhile isDigitOrDivider)
  match s.dropWhile isDigitOrDivider with
  | '.' :: r =>
    let (fraction, r) ← fraction? r
    let digits := ofDigits 10 (whole ++ fraction)
    match r with
    | [] => some (digits, -fraction.length)
    | 'e' :: r => (exponent? r).map (fun e => (digits, e - fraction.length))
    | 'E' :: r => (exponent? r).map (fun e => (digits, e - fraction.length))
    | _ => none
  | 'e' :: r => (exponent? r).map (fun e => (ofDigits 10 whole, e))
  | 'E' :: r => (exponent? r).map (fun e => (ofDigits 10 whole, e))
  | _ => none

/-- The token is a number that is no integer. -/
def isFloat (s : List Char) : Bool :=
  let (negative, r) := splitSign s
  r == ['i', 'n', 'f'] || r == ['n', 'a', 'n'] ||
    match decimalFloat? r with
    | none => false
    | some (digits, exponent) => negative || !exceedsDouble digits exponent

/-- Two digits as a number. -/
def twoDigits? (a b : Char) : Option Nat :=
  match digitValue? 10 a, digitValue? 10 b with
  | some x, some y => some (x * 10 + y)
  | _, _ => none

/-- Two digits whose number lies within bounds. -/
def isBetween (low high : Nat) (a b : Char) : Bool :=
  (twoDigits? a b).any (fun n => low ≤ n && n ≤ high)

/-- A shift against universal time, or none. -/
def isOffset : List Char → Bool
  | [] => true
  | ['Z'] | ['z'] => true
  | [sign, a, b, ':', c, d] =>
    (sign == '+' || sign == '-') && isBetween 0 23 a b && isBetween 0 59 c d
  | _ => false

/-- A time of day; `tail` decides about what comes behind it. -/
def isTimeBefore (tail : List Char → Bool) : List Char → Bool
  | a :: b :: ':' :: c :: d :: ':' :: e :: f :: r =>
    isBetween 0 23 a b && isBetween 0 59 c d && isBetween 0 60 e f &&
      match r with
      | '.' :: r => !(r.takeWhile Char.isDigit).isEmpty && tail (r.dropWhile Char.isDigit)
      | r => tail r
  | _ => false

/-- A time of day. -/
def isTime (s : List Char) : Bool := isTimeBefore List.isEmpty s

/-- A time of day, with a shift against universal time if there is one. -/
def isOffsetTime (s : List Char) : Bool := isTimeBefore isOffset s

/-- Number of days in a month. -/
def daysInMonth (year month : Nat) : Nat :=
  if month = 2 then
    if year % 4 = 0 ∧ (year % 100 ≠ 0 ∨ year % 400 = 0) then 29 else 28
  else if month = 4 ∨ month = 6 ∨ month = 9 ∨ month = 11 then 30
  else 31

/-- The parts of a date exist. -/
def isDay (year month day : Nat) : Bool :=
  1 ≤ month && month ≤ 12 && 1 ≤ day && day ≤ daysInMonth year month

/-- A date; what comes behind it. -/
def afterDate? : List Char → Option (List Char)
  | a :: b :: c :: d :: '-' :: e :: f :: '-' :: g :: h :: r =>
    match twoDigits? a b, twoDigits? c d, twoDigits? e f, twoDigits? g h with
    | some century, some year, some month, some day =>
      if isDay (century * 100 + year) month day then some r else none
    | _, _, _, _ => none
  | _ => none

/-- A date, with a time of day if there is one. -/
def isDateTime (s : List Char) : Bool :=
  match afterDate? s with
  | none => false
  | some [] => true
  | some (c :: r) => (c == 'T' || c == 't') && isOffsetTime r

/-- The token is a date alone. -/
def isDate (s : List Char) : Bool := afterDate? s == some []

/-- The character may belong to a token. -/
def isTokenChar (c : Char) : Bool :=
  c.isAlphanum || c == '_' || c == '-' || c == '+' || c == '.' || c == ':'

/-- The rest of a text behind a time that a blank divides from the date in front of it. -/
def skipTime : List Char → List Char
  | ' ' :: r => if isOffsetTime (r.takeWhile isTokenChar) then r.dropWhile isTokenChar else ' ' :: r
  | s => s

/-- Reads a value without quotes or brackets. -/
def readToken (s : List Char) : Option (Datum × List Char) :=
  let token := s.takeWhile isTokenChar
  let rest := s.dropWhile isTokenChar
  if token == ['t', 'r', 'u', 'e'] then some (.boolean true, rest)
  else if token == ['f', 'a', 'l', 's', 'e'] then some (.boolean false, rest)
  else match integer? token with
    | some n => some (.integer n, rest)
    | none =>
      if isDate token then some (.date, skipTime rest)
      else if isDateTime token || isTime token then some (.date, rest)
      else if isFloat token then some (.other, rest)
      else none

end ModemWatch.Toml
