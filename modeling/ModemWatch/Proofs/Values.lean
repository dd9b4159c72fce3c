import Mathlib.Data.List.TakeWhile
import ModemWatch.Proofs.Quoting

/-!
# Values

A value is read as the data that it stands for, and data that some value stands for are written as
one that does.

A reader does not get a value alone: it gets all that follows as well, and has to find out where the
value ends.  A number has no end of its own, it goes on for as long as there are digits.  So a text
is `ReadAs` data only in front of what can follow a value: a blank, a comment, the end of a line, a
comma, or the end of a list.  Such a text also begins with a character that is neither blank nor the
end of a list, nor the beginning of a comment.  That is what a list needs to know of its items:
whatever stands in front of an item is skipped, and the item is not.

* `skipFiller_filler` — blanks, empty lines and comments are skipped;
* `readAs_scalar`, `readAs_items`, `readAs_value` — values are read;
* `exists_writeScalar`, `exists_writeValue` — values are written.
-/

namespace ModemWatch

/-! ## Numbers -/

theorem digitValue_of_isDigit {c : Char} (h : c.isDigit = true) : digitValue c = c.toNat - 48 := by
  have hc := Char.isDigit_iff_toNat.mp h
  have h0 : '0'.toNat = 48 := rfl
  have h9 : '9'.toNat = 57 := rfl
  rw [h0, h9] at hc
  exact if_pos hc

theorem digitValue?_of_isDigit {c : Char} (h : c.isDigit = true) :
    digitValue? 10 c = some (digitValue c) := by
  have hc := Char.isDigit_iff_toNat.mp h
  have h9 : '9'.toNat = 57 := rfl
  rw [h9] at hc
  exact if_pos (by rw [digitValue_of_isDigit h]; omega)

/-- The number that a run of decimal digits stands for. -/
theorem ofDigits_map_digitValue {l : List Char} (h : ∀ c ∈ l, c.isDigit = true) :
    ofDigits 10 (l.map digitValue) = Nat.ofDigitChars 10 l 0 := by
  rw [ofDigits, List.foldl_map, Nat.ofDigitChars_eq_foldl]
  refine List.foldl_ext _ _ _ ?_
  intro n c hc
  rw [digitValue_of_isDigit (h c hc), Nat.mul_comm]
  rfl

namespace Toml

/-- Digits without anything between them. -/
theorem digits?_of_isDigit {l : List Char} (h : ∀ c ∈ l, c.isDigit = true) (hl : l ≠ []) :
    digits? 10 l = some (l.map digitValue) := by
  induction l with
  | nil => exact absurd rfl hl
  | cons c l ih =>
    rw [digits?, digitValue?_of_isDigit (h c List.mem_cons_self)]
    have hmore : ∀ d ∈ l, d.isDigit = true := fun d hd => h d (List.mem_cons_of_mem c hd)
    dsimp only
    split
    · rfl
    · exact absurd (hmore '_' List.mem_cons_self) (by decide)
    · next hne _ => rw [ih hmore hne]; rfl

/-- A number is written without a superfluous zero. -/
theorem head_toDigits {n : Nat} (h : (Nat.toDigits 10 n).head? = some '0') : n = 0 := by
  induction n using Nat.strongRecOn with
  | ind n ih =>
    rcases Nat.lt_or_ge n 10 with hn | hn
    · rw [Nat.toDigits_of_lt_base hn] at h
      exact Nat.digitChar_eq_zero.mp (Option.some.inj h)
    · have hhead : (Nat.toDigits 10 (n / 10)).head? = some '0' := by
        rw [Nat.toDigits_of_base_le (by decide) hn, List.head?_append] at h
        cases hd : Nat.toDigits 10 (n / 10) with
        | nil => exact absurd hd Nat.toDigits_ne_nil
        | cons c l => rw [hd] at h; exact h
      have := ih (n / 10) (by omega) hhead
      omega

theorem isDigit_of_mem {n : Nat} {c : Char} (h : c ∈ Nat.toDigits 10 n) : c.isDigit = true :=
  Nat.isDigit_of_mem_toDigits (by decide) (by decide) h

theorem decimal?_toDigits (n : Nat) :
    decimal? (Nat.toDigits 10 n) = some ((Nat.toDigits 10 n).map digitValue) := by
  rw [decimal?, digits?_of_isDigit (fun c hc => isDigit_of_mem hc) Nat.toDigits_ne_nil]
  split
  · next a more hzero =>
    -- a zero with digits behind it would be the whole number
    obtain ⟨c, l, hn, hc, hl⟩ := List.map_eq_cons_iff.mp (Option.some.inj hzero)
    have hdigit : c.isDigit = true := isDigit_of_mem (n := n) (by rw [hn]; exact List.mem_cons_self)
    have hc48 : c.toNat = '0'.toNat := by
      have hlow : '0'.toNat ≤ c.toNat := (Char.isDigit_iff_toNat.mp hdigit).1
      have h0 : '0'.toNat = 48 := rfl
      rw [digitValue_of_isDigit hdigit] at hc
      omega
    obtain rfl : c = '0' := Char.toNat_inj.mp hc48
    have hn0 : n = 0 := head_toDigits (by rw [hn]; rfl)
    rw [hn0, Nat.toDigits_zero] at hn
    obtain rfl : [] = l := (List.cons.inj hn).2
    cases hl
  · rfl

theorem integer?_toDigits {n : Nat} (h : n ≤ 9223372036854775807) :
    integer? (Nat.toDigits 10 n) = some (n : Int) := by
  have hdigit : ∀ c ∈ Nat.toDigits 10 n, c.isDigit = true := fun c hc => isDigit_of_mem hc
  have hn : ofDigits 10 ((Nat.toDigits 10 n).map digitValue) = n := by
    rw [ofDigits_map_digitValue hdigit, Nat.ofDigitChars_ten_toDigits]
  have hsign : splitSign (Nat.toDigits 10 n) = (false, Nat.toDigits 10 n) := by
    unfold splitSign
    split
    · next hs => exact absurd (hdigit '-' (by rw [hs]; exact List.mem_cons_self)) (by decide)
    · next hs => exact absurd (hdigit '+' (by rw [hs]; exact List.mem_cons_self)) (by decide)
    · rfl
  have hletter : ∀ c r, c.isDigit = false → Nat.toDigits 10 n ≠ '0' :: c :: r := by
    intro c r hc hs
    have := hdigit c (by rw [hs]; simp)
    rw [hc] at this
    cases this
  unfold integer?
  split
  · next r hs => exact absurd hs (hletter 'x' r (by decide))
  · next r hs => exact absurd hs (hletter 'o' r (by decide))
  · next r hs => exact absurd hs (hletter 'b' r (by decide))
  · simp only [hsign, decimal?_toDigits, Option.map_some]
    rw [hn]
    exact Option.filter_some_pos (decide_eq_true (by omega))

/-! ## Blanks and comments -/

theorem eq_or_eq_of_mem_lineBreaks {nl : List Char} (h : nl ∈ lineBreaks) :
    nl = ['\n'] ∨ nl = ['\x0d', '\n'] := by
  simpa [lineBreaks] using h

/-- Characters that may stand right behind a value. -/
def followers : List Char := [' ', '\t', '#', '\n', '\x0d', ',', ']']

/-- What may stand behind a value. -/
def Follows (rest : List Char) : Prop := ∀ c ∈ rest.head?, c ∈ followers

/-- The character may begin a value: it is not skipped in front of one, and it ends no list. -/
def isFirst (c : Char) : Bool := !(['\n', '\x0d', ' ', '\t', '#', ']'].contains c)

variable {s source text rest ending : List Char} {d : Datum} {ds : List Datum} {c : Char}

theorem ne_of_isFirst (hc : isFirst c = true) :
    ∀ d ∈ ['\n', '\x0d', ' ', '\t', '#', ']'], c ≠ d := by
  rintro d hd rfl
  rw [isFirst, List.contains_iff_mem.mpr hd] at hc
  cases hc

theorem follows_cons (hc : c ∈ followers) : Follows (c :: rest) := by
  intro d hd
  obtain rfl : c = d := Option.some.inj hd
  exact hc

theorem Gap.follows (h : Gap s) (hrest : Follows rest) : Follows (s ++ rest) := by
  cases s with
  | nil => exact hrest
  | cons c s =>
    refine follows_cons ?_
    rcases h c List.mem_cons_self with rfl | rfl <;> decide

theorem follows_lineBreak {nl : List Char} (h : nl ∈ lineBreaks) : Follows (nl ++ rest) := by
  rcases eq_or_eq_of_mem_lineBreaks h with rfl | rfl <;> exact follows_cons (by decide)

theorem LineEnd.follows (h : LineEnd ending) : Follows (ending ++ rest) := by
  cases h with
  | bare hgap hbreak =>
    rw [List.append_assoc]
    exact hgap.follows (follows_lineBreak hbreak)
  | comment hgap =>
    rw [List.append_assoc]
    exact hgap.follows (follows_cons (by decide))

theorem Filler.follows (h : Filler s) (hrest : Follows rest) : Follows (s ++ rest) := by
  cases h with
  | gap hgap => exact hgap.follows hrest
  | line hending =>
    rw [List.append_assoc]
    exact hending.follows

theorem skipFiller_gap (h : Gap s) : skipFiller false (s ++ rest) = skipFiller false rest := by
  induction s with
  | nil => rfl
  | cons c s ih =>
    rw [← ih fun d hd => h d (List.mem_cons_of_mem c hd)]
    rcases h c List.mem_cons_self with rfl | rfl <;> simp [skipFiller]

theorem skipFiller_lineBreak {nl : List Char} (h : nl ∈ lineBreaks) (comment : Bool) :
    skipFiller comment (nl ++ rest) = skipFiller false rest := by
  rcases eq_or_eq_of_mem_lineBreaks h with rfl | rfl <;> simp [skipFiller]

/-- What a comment says does not matter. -/
theorem skipFiller_note (h : ∀ c ∈ s, isPrintable c = true) :
    skipFiller true (s ++ rest) = skipFiller true rest := by
  induction s with
  | nil => rfl
  | cons c s ih =>
    have hc := h c List.mem_cons_self
    rw [← ih fun d hd => h d (List.mem_cons_of_mem c hd), List.cons_append, skipFiller, if_pos hc]
    · exact fun hn => absurd hc (by rw [hn]; decide)
    · exact fun _ hr => absurd hc (by rw [hr]; decide)

theorem skipFiller_lineEnd (h : LineEnd ending) :
    skipFiller false (ending ++ rest) = skipFiller false rest := by
  cases h with
  | bare hgap hbreak => rw [List.append_assoc, skipFiller_gap hgap, skipFiller_lineBreak hbreak]
  | @comment gap note nl hgap hnote hbreak =>
    have hhash : skipFiller false ('#' :: (note ++ (nl ++ rest))) =
        skipFiller true (note ++ (nl ++ rest)) := by simp [skipFiller]
    rw [List.append_assoc, skipFiller_gap hgap, List.cons_append, List.append_assoc, hhash,
      skipFiller_note hnote, skipFiller_lineBreak hbreak]

/-- **Blanks, empty lines and comments are skipped.** -/
theorem skipFiller_filler (h : Filler s) :
    skipFiller false (s ++ rest) = skipFiller false rest := by
  induction h with
  | gap hgap => exact skipFiller_gap hgap
  | line hending _ ih => rw [List.append_assoc, skipFiller_lineEnd hending, ih]

theorem skipFiller_of_first (hc : isFirst c = true) :
    skipFiller false (c :: rest) = some (c :: rest) := by
  have hne := ne_of_isFirst hc
  rw [skipFiller]
  · rw [if_neg, if_neg (hne '#' (by decide))]
    rintro (h | h)
    · exact hne ' ' (by decide) h
    · exact hne '\t' (by decide) h
  · intro h
    exact hne '\n' (by decide) h
  · intro r h
    exact absurd h (hne '\x0d' (by decide))

/-! ## Reading -/

/-- A text is read as data, whatever can follow it. -/
structure ReadAs (text : List Char) (d : Datum) : Prop where
  first : ∃ c r, text = c :: r ∧ isFirst c = true
  read : ∀ rest fuel, Follows rest → text.length ≤ fuel → value fuel (text ++ rest) = some (d, rest)

/-- A run of characters of one kind ends where another kind begins. -/
theorem takeWhile_dropWhile_append {p : Char → Bool} (htext : ∀ c ∈ text, p c = true)
    (hrest : ∀ c ∈ rest.head?, p c = false) :
    (text ++ rest).takeWhile p = text ∧ (text ++ rest).dropWhile p = rest := by
  rw [List.takeWhile_append_of_pos htext, List.dropWhile_append_of_pos htext]
  cases rest with
  | nil => simp
  | cons c rest => simp [hrest c rfl]

theorem takeWhile_token (htext : ∀ c ∈ text, isTokenChar c = true) (hrest : Follows rest) :
    (text ++ rest).takeWhile isTokenChar = text ∧ (text ++ rest).dropWhile isTokenChar = rest := by
  refine takeWhile_dropWhile_append htext ?_
  intro c hc
  have hnone : followers.all (fun c => !isTokenChar c) = true := by decide
  simpa using List.all_eq_true.mp hnone c (hrest c hc)

/-- A value that begins with a character of a token is a token. -/
theorem value_of_token {fuel : Nat} (hc : isTokenChar c = true) :
    value (fuel + 1) (c :: rest) = readToken (c :: rest) := by
  rw [value]
  all_goals
    intro r h
    obtain ⟨rfl, -⟩ := List.cons.inj h
    exact absurd hc (by decide)

theorem isFirst_of_token (hc : isTokenChar c = true) : isFirst c = true := by
  have hno : ['\n', '\x0d', ' ', '\t', '#', ']'].all (fun c => !isTokenChar c) = true := by decide
  cases h : ['\n', '\x0d', ' ', '\t', '#', ']'].contains c with
  | false => rw [isFirst, h]; rfl
  | true =>
    have hnot := List.all_eq_true.mp hno c (List.contains_iff_mem.mp h)
    rw [hc] at hnot
    cases hnot

theorem ReadAs.of_token (htext : ∀ c ∈ text, isTokenChar c = true) (hne : text ≠ [])
    (hread : ∀ rest, Follows rest → readToken (text ++ rest) = some (d, rest)) : ReadAs text d := by
  obtain ⟨c, r, rfl⟩ := List.exists_cons_of_ne_nil hne
  have hc : isTokenChar c = true := htext c List.mem_cons_self
  refine ⟨⟨c, r, rfl, isFirst_of_token hc⟩, ?_⟩
  intro rest fuel hrest hfuel
  obtain ⟨fuel, rfl⟩ : ∃ n, fuel = n + 1 := ⟨fuel - 1, by simp at hfuel; omega⟩
  exact (value_of_token hc).trans (hread rest hrest)

/-- A number is read. -/
theorem readAs_number {n : Nat} (h : n ≤ 9223372036854775807) :
    ReadAs (Nat.toDigits 10 n) (.integer n) := by
  have htoken : ∀ c ∈ Nat.toDigits 10 n, isTokenChar c = true := by
    intro c hc
    simp [isTokenChar, Char.isAlphanum, isDigit_of_mem hc]
  refine ReadAs.of_token htoken Nat.toDigits_ne_nil ?_
  intro rest hrest
  obtain ⟨htake, hdrop⟩ := takeWhile_token htoken hrest
  -- no letter is a digit, so a number is no truth value
  have hword : ∀ c r, c.isDigit = false → (Nat.toDigits 10 n == c :: r) = false := by
    intro c r hc
    refine beq_eq_false_iff_ne.mpr (fun hn => ?_)
    rw [isDigit_of_mem (n := n) (by rw [hn]; exact List.mem_cons_self)] at hc
    cases hc
  simp only [readToken, htake, hdrop]
  rw [hword 't' _ (by decide), hword 'f' _ (by decide), integer?_toDigits h]
  rfl

/-- A truth value is read. -/
theorem readAs_boolean (b : Bool) :
    ReadAs (if b then "true" else "false").toList (.boolean b) := by
  have hall : (if b then "true" else "false").toList.all isTokenChar = true := by
    cases b <;> decide
  have htoken := List.all_eq_true.mp hall
  refine ReadAs.of_token htoken (by cases b <;> decide) ?_
  intro rest hrest
  obtain ⟨htake, hdrop⟩ := takeWhile_token htoken hrest
  simp only [readToken, htake, hdrop]
  cases b <;> rfl

theorem exists_quotation (h : Quotation source text) :
    ∃ c r, source = c :: r ∧ (c = '"' ∨ c = '\'') := by
  have hmark : ∀ q : Quoting, ∃ r, q.mark = q.quote :: r := fun q => by
    unfold Quoting.mark
    split <;> exact ⟨_, rfl⟩
  cases h with
  | @here q source _ hq | @below q source _ hq =>
    obtain ⟨r, hr⟩ := hmark q
    rw [hr]
    exact ⟨_, _, rfl, Quoting.quote_of_mem hq⟩

/-- A quoted text is read. -/
theorem readAs_quotation {t : String} (h : Quotation source t.toList) :
    ReadAs source (.text t) := by
  obtain ⟨c, r, rfl, hc⟩ := exists_quotation h
  refine ⟨⟨c, r, rfl, by rcases hc with rfl | rfl <;> decide⟩, ?_⟩
  intro rest fuel hrest hfuel
  have hhead : ∀ d ∈ rest.head?, d ≠ '"' ∧ d ≠ '\'' := by
    have hall : ∀ d ∈ followers, d ≠ '"' ∧ d ≠ '\'' := by simp [followers]
    exact fun d hd => hall d (hrest d hd)
  have hread := readQuoted_of_quotation h hhead
  obtain ⟨fuel, rfl⟩ : ∃ n, fuel = n + 1 := ⟨fuel - 1, by simp at hfuel; omega⟩
  rw [List.cons_append] at hread ⊢
  rcases hc with rfl | rfl <;> simp [value, hread]

/-- **A value that is no list is read.** -/
theorem readAs_scalar (h : Scalar source d) : ReadAs source d := by
  cases h with
  | text h => exact readAs_quotation h
  | boolean b => exact readAs_boolean b
  | number h => exact readAs_number h

/-! ### Lists -/

/-- What is in front of a value is skipped, and the value is not. -/
theorem ReadAs.skipFiller {front : List Char} (h : ReadAs text d) (hfront : Filler front)
    (rest : List Char) : ∃ c r, skipFiller false (front ++ (text ++ rest)) = some (c :: r) ∧
      isFirst c = true ∧ c :: r = text ++ rest := by
  obtain ⟨⟨c, r, rfl, hc⟩, -⟩ := h
  exact ⟨c, r ++ rest, by rw [skipFiller_filler hfront]; exact skipFiller_of_first hc, hc, rfl⟩

theorem skipFiller_bracket (h : Filler s) :
    skipFiller false (s ++ ']' :: rest) = some (']' :: rest) := by
  rw [skipFiller_filler h]
  simp [skipFiller]

/-- What stands between the brackets of a list is read from its first item on, up to the bracket. -/
def ItemsReadAs (text : List Char) (d : Datum) (ds : List Datum) : Prop :=
  ∀ rest fuel, text.length + 1 ≤ fuel → ∃ c r,
    skipFiller false (text ++ ']' :: rest) = some (c :: r) ∧ isFirst c = true ∧
      items fuel (c :: r) = some (d :: ds, rest)

/-- Only blanks and comments, or items. -/
theorem readAs_items (h : Items source ds) :
    ds = [] ∧ Filler source ∨ ∃ d more, ds = d :: more ∧ ItemsReadAs source d more := by
  induction h with
  | nil hfiller => exact .inl ⟨rfl, hfiller⟩
  | @last front source behind d hfront hvalue hbehind =>
    refine .inr ⟨d, [], rfl, fun rest fuel hfuel => ?_⟩
    have hread := readAs_scalar hvalue
    obtain ⟨c, r, hskip, hc, heq⟩ := hread.skipFiller hfront (behind ++ ']' :: rest)
    obtain ⟨fuel, rfl⟩ : ∃ n, fuel = n + 1 := ⟨fuel - 1, by omega⟩
    simp only [List.length_append] at hfuel
    refine ⟨c, r, by simpa using hskip, hc, ?_⟩
    rw [heq, items, hread.read _ fuel (hbehind.follows (follows_cons (by decide))) (by omega)]
    simp only [skipFiller_bracket hbehind]
  | @cons front source behind more d ds hfront hvalue hbehind _ ih =>
    refine .inr ⟨d, ds, rfl, fun rest fuel hfuel => ?_⟩
    have hread := readAs_scalar hvalue
    obtain ⟨c, r, hskip, hc, heq⟩ :=
      hread.skipFiller hfront (behind ++ ',' :: (more ++ ']' :: rest))
    obtain ⟨fuel, rfl⟩ : ∃ n, fuel = n + 1 := ⟨fuel - 1, by omega⟩
    simp only [List.length_append, List.length_cons] at hfuel
    have hcomma : skipFiller false (behind ++ ',' :: (more ++ ']' :: rest)) =
        some (',' :: (more ++ ']' :: rest)) := by
      rw [skipFiller_filler hbehind]
      exact skipFiller_of_first (by decide)
    refine ⟨c, r, by simpa using hskip, hc, ?_⟩
    rw [heq, items, hread.read _ fuel (hbehind.follows (follows_cons (by decide))) (by omega)]
    simp only [hcomma]
    rcases ih with ⟨rfl, hfiller⟩ | ⟨d', ds', rfl, hmore⟩
    · simp only [skipFiller_bracket hfiller]
    · obtain ⟨c', r', hskip', hc', hitems⟩ := hmore rest fuel (by omega)
      have hnext : c' ≠ ']' := ne_of_isFirst hc' ']' (by decide)
      rw [hskip']
      split
      · next hend => cases hend
      · next hend => exact absurd (List.cons.inj (Option.some.inj hend)).1 hnext
      · next hend =>
        obtain rfl := Option.some.inj hend
        rw [hitems]
        rfl

/-- **A value is read.** -/
theorem readAs_value (h : Value source d) : ReadAs source d := by
  cases h with
  | scalar h => exact readAs_scalar h
  | @list source ds h =>
    refine ⟨⟨'[', _, rfl, rfl⟩, fun rest fuel _ hfuel => ?_⟩
    obtain ⟨fuel, rfl⟩ : ∃ n, fuel = n + 1 := ⟨fuel - 1, by simp at hfuel; omega⟩
    rw [List.cons_append, List.append_assoc, value]
    rcases readAs_items h with ⟨rfl, hfiller⟩ | ⟨d, more, rfl, hitems⟩
    · rw [List.singleton_append, skipFiller_bracket hfiller]
      rfl
    · obtain ⟨c, r, hskip, hc, hread⟩ := hitems rest fuel (by simpa using hfuel)
      rw [List.singleton_append, hskip]
      split
      · next hend => cases hend
      · next hend =>
        exact absurd (List.cons.inj (Option.some.inj hend)).1 (ne_of_isFirst hc ']' (by decide))
      · next hend =>
        obtain rfl := Option.some.inj hend
        rw [hread]
        rfl

/-! ## Writing -/

/-- If each item of a list is written then the list is. -/
theorem exists_mapM {α β : Type} {f : α → Option β} {P : α → β → Prop} {l : List α}
    (h : ∀ a ∈ l, ∃ b, f a = some b ∧ P a b) : ∃ bs, l.mapM f = some bs ∧ List.Forall₂ P l bs := by
  induction l with
  | nil => exact ⟨[], rfl, .nil⟩
  | cons a l ih =>
    obtain ⟨b, hb, hp⟩ := h a List.mem_cons_self
    obtain ⟨bs, hbs, hall⟩ := ih fun a ha => h a (List.mem_cons_of_mem _ ha)
    exact ⟨b :: bs, by simp [hb, hbs], .cons hp hall⟩

/-- Whatever stands for a value that is no list, it is written as something that does. -/
theorem exists_writeScalar (h : Scalar source d) :
    ∃ t, writeScalar d = some t ∧ Scalar t.toList d := by
  cases h with
  | @text _ s => exact ⟨quote s, rfl, .text (quotation_quote s)⟩
  | boolean b => exact ⟨_, rfl, .boolean b⟩
  | @number n hn =>
    refine ⟨toString n, rfl, ?_⟩
    rw [Nat.toString_eq_ofList_toDigits, String.toList_ofList]
    exact .number hn

theorem exists_scalar_of_items (h : Items source ds) :
    ∀ d ∈ ds, ∃ source, Scalar source d := by
  induction h with
  | nil => exact fun d hd => absurd hd List.not_mem_nil
  | last _ hvalue => exact List.forall_mem_singleton.mpr ⟨_, hvalue⟩
  | cons _ hvalue _ _ ih => exact List.forall_mem_cons.mpr ⟨⟨_, hvalue⟩, ih⟩

theorem Gap.nil : Gap [] := fun _ h => absurd h List.not_mem_nil

theorem lineEnd_lineBreak : LineEnd ['\n'] := .bare Gap.nil List.mem_cons_self

/-- Items on lines of their own, behind the end of the line with the bracket. -/
theorem items_lines {ts : List String} (h : List.Forall₂ (fun d t => Scalar t.toList d) ds ts) :
    Items ('\n' :: ts.flatMap (fun t => ' ' :: ' ' :: ' ' :: ' ' :: (t.toList ++ [',', '\n'])))
      ds := by
  induction h with
  | nil => exact .nil (.line lineEnd_lineBreak (.gap Gap.nil))
  | @cons d t ds ts hvalue _ ih =>
    have hfront : Filler ['\n', ' ', ' ', ' ', ' '] :=
      .line lineEnd_lineBreak (.gap fun c hc => .inl (by simpa using hc))
    have hitems := Items.cons hfront hvalue (.gap Gap.nil) ih
    simpa using hitems

theorem value_writeList {ts : List String} (h : List.Forall₂ (fun d t => Scalar t.toList d) ds ts) :
    Value (writeList ts).toList (.list ds) := by
  cases h with
  | nil => exact .list (.nil (.gap Gap.nil))
  | @cons d t ds ts hvalue hrest =>
    cases hrest with
    | nil =>
      have hitems := Items.last (.gap Gap.nil) hvalue (.gap Gap.nil)
      simpa [writeList] using Value.list hitems
    | cons hnext hrest =>
      simpa [writeList, List.flatMap_map, Function.comp_def] using
        Value.list (items_lines (.cons hvalue (.cons hnext hrest)))

/-- **Whatever stands for a value, it is written as something that does.** -/
theorem exists_writeValue (h : Value source d) :
    ∃ t, writeValue d = some t ∧ Value t.toList d := by
  cases h with
  | scalar h =>
    obtain ⟨t, ht, hvalue⟩ := exists_writeScalar h
    refine ⟨t, ?_, .scalar hvalue⟩
    rw [← ht]
    cases h <;> rfl
  | list h =>
    obtain ⟨ts, hts, hall⟩ := exists_mapM fun d hd => by
      obtain ⟨_, hvalue⟩ := exists_scalar_of_items h d hd
      exact exists_writeScalar hvalue
    exact ⟨writeList ts, by rw [writeValue, hts]; rfl, value_writeList hall⟩

end Toml

end ModemWatch
