/-!
# Blank characters

The characters that Unicode calls white space, and the text that is left when they are cut off at
both ends.  A byte order mark (U+FEFF) and a zero width space (U+200B) are not among them.

* `isBlank_of_isWhitespace` — every white space character of ASCII is blank;
* `trimmed_append_left`, `trimmed_append_right` — blanks at the ends do not matter.
-/

namespace ModemWatch

/-- The code points with the property White_Space. -/
def blankCodePoints : List Nat :=
  [0x09, 0x0a, 0x0b, 0x0c, 0x0d, 0x20, 0x85, 0xa0, 0x1680, 0x2000, 0x2001, 0x2002, 0x2003, 0x2004,
   0x2005, 0x2006, 0x2007, 0x2008, 0x2009, 0x200a, 0x2028, 0x2029, 0x202f, 0x205f, 0x3000]

/-- The character is white space. -/
def isBlank (c : Char) : Bool := blankCodePoints.contains c.toNat

/-- A text without the blanks at its ends. -/
def trimmed (s : List Char) : List Char :=
  ((s.dropWhile isBlank).reverse.dropWhile isBlank).reverse

/-- Every white space character of ASCII is blank. -/
theorem isBlank_of_isWhitespace {c : Char} (h : c.isWhitespace = true) : isBlank c = true := by
  simp only [Char.isWhitespace, Bool.or_eq_true, decide_eq_true_eq] at h
  rcases h with ((rfl | rfl) | rfl) | rfl <;> rfl

private theorem dropWhile_append_of_all {p : Char → Bool} {l : List Char}
    (h : ∀ c ∈ l, p c = true) (r : List Char) : (l ++ r).dropWhile p = r.dropWhile p := by
  induction l with
  | nil => rfl
  | cons c l ih =>
    have hc := h c (by simp)
    simp only [List.cons_append, List.dropWhile_cons, hc, if_true]
    exact ih (fun d hd => h d (by simp [hd]))

/-- Blanks in front do not matter. -/
theorem trimmed_append_left {blanks : List Char} (h : ∀ c ∈ blanks, isBlank c = true)
    (s : List Char) : trimmed (blanks ++ s) = trimmed s := by
  simp only [trimmed, dropWhile_append_of_all h]

/-- Blanks at the end do not matter. -/
theorem trimmed_append_right {blanks : List Char} (h : ∀ c ∈ blanks, isBlank c = true)
    (s : List Char) : trimmed (s ++ blanks) = trimmed s := by
  induction s with
  | nil =>
    have h' : (blanks ++ ([] : List Char)).dropWhile isBlank = [] := by
      rw [dropWhile_append_of_all h]; rfl
    simp only [List.append_nil] at h'
    simp [trimmed, h']
  | cons c s ih =>
    by_cases hc : isBlank c = true
    · simpa [trimmed, hc] using ih
    · have hr : ∀ d ∈ blanks.reverse, isBlank d = true := fun d hd => h d (by simpa using hd)
      simp only [trimmed, List.cons_append, List.dropWhile_cons, hc, Bool.false_eq_true, if_false]
      rw [← List.cons_append, List.reverse_append, dropWhile_append_of_all hr]

end ModemWatch
