/-!
# Digits

Values of digits in the four number systems of the data formats, and numbers from runs of them.

* `digitValue?_lt` — a digit is smaller than its base.
-/

namespace ModemWatch

/-- The value of an ASCII digit or letter, with letters going on after nine. -/
def digitValue (c : Char) : Nat :=
  let n := c.toNat
  if 48 ≤ n ∧ n ≤ 57 then n - 48
  else if 97 ≤ n ∧ n ≤ 122 then n - 87
  else if 65 ≤ n ∧ n ≤ 90 then n - 55
  else 36

/-- The value of a digit in a number system. -/
def digitValue? (base : Nat) (c : Char) : Option Nat :=
  if digitValue c < base then some (digitValue c) else none

/-- A digit is smaller than its base. -/
theorem digitValue?_lt {base : Nat} {c : Char} {d : Nat} (h : digitValue? base c = some d) :
    d < base := by
  unfold digitValue? at h
  split at h
  · next hd => cases h; exact hd
  · cases h

/-- The number that digits stand for, most significant first. -/
def ofDigits (base : Nat) (digits : List Nat) : Nat := digits.foldl (fun n d => n * base + d) 0

/-- The character with a code point, if it is one: not a surrogate, and not beyond Unicode. -/
def charOfCodePoint? (n : Nat) : Option Char :=
  if h : n.isValidChar then some (Char.ofNatAux n h) else none

end ModemWatch
