import Mathlib.Data.List.Basic
import ModemWatch.Proofs.Grammar
import ModemWatch.Toml.Writer

/-!
# Quoted texts

A quotation is read as the text that it stands for, and a text of any characters is written in a
quotation that stands for it.

Reading lags behind in a run of quotes: it does not know yet whether they are the end.  So what is
followed along a text is the place `behind run`, where the last `run` quotes have been read but have
not been added to the text.  As long as there are no more of them than `quotesInside` the quotation
goes on.

Writing picks one of the four ways of quoting.  A quotation that cannot use escapes must not hold
anything that would need one; `Quoting.Suits` says what it may hold, and `suits_choose` that the
quotation chosen for a text suits it.

* `scan_body` — reading what stands between the marks; `readQuoted_of_quotation` — with the marks;
* `body_escapeAll`, `body_self` — what is written with and without escapes;
* `quotation_quote` — every text is written in a quotation.
-/

namespace ModemWatch.Toml

namespace Quoting

variable {q : Quoting} {s source text rest : List Char} {c : Char} {run : Nat} {place : Place}

theorem quote_of_mem (hq : q ∈ all) : q.quote = '"' ∨ q.quote = '\'' := by
  have hall : ∀ q ∈ all, q.quote = '"' ∨ q.quote = '\'' := by decide
  exact hall q hq

/-- A quote is neither a backslash nor a line break. -/
theorem quote_ne (hq : q ∈ all) : q.quote ≠ '\\' ∧ q.quote ≠ '\n' ∧ q.quote ≠ '\x0d' := by
  rcases quote_of_mem hq with h | h <;> rw [h] <;> decide

/-! ## Places of the reader -/

/-- The place behind a run of quotes. -/
def behind (run : Nat) : Place := if run = 0 then .plain else .quotes run

/-- What is read, with more characters in front of the text. -/
def gaining (out : List Char) (read : Option (List Char × List Char)) :
    Option (List Char × List Char) :=
  read.map (fun (text, rest) => (out ++ text, rest))

theorem gaining_gaining (out more : List Char) (read : Option (List Char × List Char)) :
    gaining out (gaining more read) = gaining (out ++ more) read := by
  simp [gaining, Option.map_map, Function.comp_def]

theorem gaining_nil (read : Option (List Char × List Char)) : gaining [] read = read := by
  simp [gaining]

/-- One character is read. -/
theorem scan_cons {next : Place} {out : List Char} (hgoes : q.endsBefore? (some c) place = none)
    (hstep : q.step c place = some (next, out)) :
    q.scan place (c :: rest) = gaining out (q.scan next rest) := by
  rw [scan, hgoes]
  simp only [hstep]
  rfl

/-- The quotation ends. -/
theorem scan_of_ends {out : List Char} (hends : q.endsBefore? rest.head? place = some out) :
    q.scan place rest = some (out, rest) := by
  cases rest with
  | nil => rw [scan, show q.endsBefore? none place = some out from hends]; rfl
  | cons c rest => rw [scan, show q.endsBefore? (some c) place = some out from hends]

/-- A quotation goes on behind the quotes that may stand in it. -/
theorem endsBefore?_behind (h : run ≤ q.quotesInside) (next : Option Char) :
    q.endsBefore? next (behind run) = none := by
  unfold quotesInside at h
  unfold behind
  split
  · rfl
  · next hrun =>
    split at h
    · next hm =>
      simp only [endsBefore?, hm, if_true]
      exact if_neg (fun hends => by omega)
    · omega

/-- Another quote that stands for itself. -/
theorem scan_quote (h : run ≤ q.quotesInside) :
    q.scan (behind run) (q.quote :: rest) = q.scan (.quotes (run + 1)) rest := by
  have hstep : q.step q.quote (behind run) = some (.quotes (run + 1), []) := by
    unfold behind
    split
    · next hrun => simp [step, plainStep, hrun]
    · simp [step]
  rw [scan_cons (endsBefore?_behind h _) hstep]
  simp [gaining]

/-- Any other character: the quotes in front of it belong to the text. -/
theorem scan_other {next : Place} {out : List Char} (h : run ≤ q.quotesInside) (hc : c ≠ q.quote)
    (hplain : q.plainStep c = some (next, out)) :
    q.scan (behind run) (c :: rest) =
      gaining (List.replicate run q.quote ++ out) (q.scan next rest) := by
  refine scan_cons (endsBefore?_behind h _) ?_
  unfold behind
  split
  · next hrun => simp [step, hplain, hrun]
  · simp [step, hplain, hc]

/-- The closing mark, behind quotes that belong to the text. -/
theorem scan_mark (h : run ≤ q.quotesInside) (hrest : ∀ c ∈ rest.head?, c ≠ q.quote) :
    q.scan (behind run) (q.mark ++ rest) = some (List.replicate run q.quote, rest) := by
  have hnext : rest.head? ≠ some q.quote := fun hq => hrest _ hq rfl
  unfold quotesInside at h
  cases hm : q.multiline with
  | false =>
    obtain rfl : run = 0 := by simpa [hm] using h
    have hmark : q.mark ++ rest = q.quote :: rest := by simp [mark, hm]
    rw [hmark, scan_quote (Nat.zero_le _)]
    exact scan_of_ends (by simp [endsBefore?, hm])
  | true =>
    rw [hm, if_pos rfl] at h
    -- two quotes more may be a part of the text, so only what follows them tells
    have hquote : ∀ count < 5, ∀ r, q.scan (.quotes count) (q.quote :: r) =
        q.scan (.quotes (count + 1)) r := by
      intro count hcount r
      have hgoes : q.endsBefore? (some q.quote) (.quotes count) = none := by
        simp only [endsBefore?, hm, if_true]
        exact if_neg (by rintro ⟨-, hends⟩; simp at hends; omega)
      rw [scan_cons hgoes (by simp [step] : q.step q.quote (.quotes count) =
        some (.quotes (count + 1), []))]
      simp [gaining]
    have hmark : q.mark ++ rest = q.quote :: q.quote :: q.quote :: rest := by
      simp [mark, hm, List.replicate]
    rw [hmark, scan_quote (by simp [quotesInside, hm]; exact h), hquote _ (by omega),
      hquote _ (by omega)]
    refine scan_of_ends ?_
    simp only [endsBefore?, hm, if_true]
    rw [if_pos ⟨by omega, .inl hnext⟩]
    rfl

/-! ## Escapes -/

/-- A letter behind a backslash. -/
theorem escapeStep_of_escaped {e : Char} (h : escaped? e = some c) :
    q.escapeStep e = some (.plain, [c]) := by
  unfold escaped? at h
  split at h <;> cases h <;> simp [escapeStep, escaped?]

theorem plainStep_backslash (hescapes : q.escapes = true) (hquote : q.quote ≠ '\\') :
    q.plainStep '\\' = some (.escape, []) := by
  rw [plainStep, if_neg (Ne.symm hquote), if_pos ⟨rfl, hescapes⟩]

/-- A character that is written as a backslash and a letter. -/
theorem scan_escaped {e : Char} (h : run ≤ q.quotesInside) (hescapes : q.escapes = true)
    (hquote : q.quote ≠ '\\') (he : escaped? e = some c) :
    q.scan (behind run) ('\\' :: e :: rest) =
      gaining (List.replicate run q.quote ++ [c]) (q.scan .plain rest) := by
  have hstep : q.step e .escape = some (.plain, [c]) := escapeStep_of_escaped he
  rw [scan_other h (Ne.symm hquote) (plainStep_backslash hescapes hquote), scan_cons rfl hstep,
    gaining_gaining, List.append_nil]

/-- The digits of a code point. -/
theorem scan_hexDigits {digits : List Char} (hdigits : ∀ d ∈ digits, digitValue d < 16)
    (hne : digits ≠ []) (value : Nat)
    (hc : charOfCodePoint? (digits.foldl (fun n d => n * 16 + digitValue d) value) = some c) :
    q.scan (.hex digits.length value) (digits ++ rest) = gaining [c] (q.scan .plain rest) := by
  induction digits generalizing value with
  | nil => exact absurd rfl hne
  | cons d digits ih =>
    have hd : digitValue? 16 d = some (digitValue d) := if_pos (hdigits d List.mem_cons_self)
    rw [List.foldl_cons] at hc
    cases digits with
    | nil =>
      have hstep : q.step d (.hex 1 value) = some (.plain, [c]) := by
        rw [List.foldl_nil] at hc
        simp only [step, hexStep, hd, hc, Option.map_some]
        rfl
      exact scan_cons rfl hstep
    | cons e digits =>
      have hstep : q.step d (.hex (digits.length + 2) value) =
          some (.hex (digits.length + 1) (value * 16 + digitValue d), []) := by
        simp only [step, hexStep, hd]
        exact if_neg (by omega)
      rw [List.cons_append, List.length_cons, List.length_cons, scan_cons rfl hstep, gaining_nil]
      exact ih (fun x hx => hdigits x (List.mem_cons_of_mem d hx)) (List.cons_ne_nil _ _) _ hc

/-- A character that is written as its code point. -/
theorem scan_codePoint {letter : Char} {digits : List Char} (h : run ≤ q.quotesInside)
    (hescapes : q.escapes = true) (hquote : q.quote ≠ '\\')
    (hletter : (letter, digits.length) ∈ [('u', 4), ('U', 8)])
    (hdigits : ∀ d ∈ digits, digitValue d < 16)
    (hc : charOfCodePoint? (ofDigits 16 (digits.map digitValue)) = some c) :
    q.scan (behind run) ('\\' :: letter :: (digits ++ rest)) =
      gaining (List.replicate run q.quote ++ [c]) (q.scan .plain rest) := by
  have hstep : q.step letter .escape = some (.hex digits.length 0, []) := by
    simp only [List.mem_cons, Prod.mk.injEq, List.not_mem_nil, or_false] at hletter
    rcases hletter with ⟨rfl, hlength⟩ | ⟨rfl, hlength⟩ <;> rw [hlength] <;> rfl
  have hne : digits ≠ [] := by
    rintro rfl
    simp at hletter
  rw [ofDigits, List.foldl_map] at hc
  rw [scan_other h (Ne.symm hquote) (plainStep_backslash hescapes hquote), scan_cons rfl hstep,
    scan_hexDigits hdigits hne 0 hc, gaining_gaining, gaining_gaining, List.append_nil,
    List.append_nil]

theorem ne_lineBreak_of_printable (h : isPrintable c = true) : c ≠ '\n' := by
  rintro rfl
  exact absurd h (by decide)

theorem ne_carriage_of_printable (h : isPrintable c = true) : c ≠ '\x0d' := by
  rintro rfl
  exact absurd h (by decide)

/-- A character that stands for itself. -/
theorem plainStep_printable (hc : c ≠ q.quote) (hbackslash : c = '\\' → q.escapes = false)
    (h : isPrintable c = true) : q.plainStep c = some (.plain, [c]) := by
  have hescape : ¬(c = '\\' ∧ q.escapes = true) := by
    rintro ⟨hb, he⟩
    rw [hbackslash hb] at he
    cases he
  rw [plainStep, if_neg hc, if_neg hescape, if_neg (fun hl => ne_lineBreak_of_printable h hl.1),
    if_neg (fun hr => ne_carriage_of_printable h hr.1), if_pos h]

/-- A line break where lines may break. -/
theorem plainStep_lineBreak (hquote : q.quote ≠ '\n') (hm : q.multiline = true) :
    q.plainStep '\n' = some (.plain, ['\n']) := by
  rw [plainStep, if_neg (Ne.symm hquote), if_neg (by simp), if_pos ⟨rfl, hm⟩]

/-! ## Reading -/

/-- **What stands between the marks is read**, from behind quotes that belong to the text. -/
theorem scan_body (hq : q ∈ all) (h : q.Body run source text) (hrun : run ≤ q.quotesInside)
    (hrest : ∀ c ∈ rest.head?, c ≠ q.quote) :
    q.scan (behind run) (source ++ (q.mark ++ rest)) =
      some (List.replicate run q.quote ++ text, rest) := by
  have hquote := quote_ne hq
  -- behind any other character no quotes are pending
  have hgoes : ∀ {run : Nat} {c : Char} {text : List Char} {read : Option (List Char × List Char)},
      read = some (List.replicate 0 q.quote ++ text, rest) →
        gaining (List.replicate run q.quote ++ [c]) read =
          some (List.replicate run q.quote ++ c :: text, rest) := by
    rintro run c text read rfl
    simp [gaining]
  induction h with
  | nil run => rw [List.append_nil]; exact scan_mark hrun hrest
  | @quote run source text hmore _ ih =>
    rw [List.cons_append, scan_quote hrun, show Place.quotes (run + 1) = behind (run + 1) from rfl,
      ih (by omega), List.replicate_succ', List.append_assoc]
    rfl
  | plain hc hbackslash hprintable _ ih =>
    rw [List.cons_append, scan_other hrun hc (plainStep_printable hc hbackslash hprintable)]
    exact hgoes (ih (Nat.zero_le _))
  | lineBreak hm _ ih =>
    rw [List.cons_append, scan_other hrun (Ne.symm hquote.2.1) (plainStep_lineBreak hquote.2.1 hm)]
    exact hgoes (ih (Nat.zero_le _))
  | escape hescapes hletter _ ih =>
    rw [List.cons_append, List.cons_append, scan_escaped hrun hescapes hquote.1 hletter]
    exact hgoes (ih (Nat.zero_le _))
  | codePoint hescapes hletter hdigits hc _ ih =>
    rw [List.cons_append, List.cons_append, List.append_assoc,
      scan_codePoint hrun hescapes hquote.1 hletter hdigits hc]
    exact hgoes (ih (Nat.zero_le _))

/-- A quotation on one line does not begin like one over several lines. -/
theorem ne_two_quotes (hq : q ∈ all) (h : q.Body 0 source text) (hm : q.multiline = false)
    (hrest : ∀ c ∈ rest.head?, c ≠ q.quote) (r : List Char) :
    source ++ (q.mark ++ rest) ≠ q.quote :: q.quote :: r := by
  have hquote := quote_ne hq
  have hmark : q.mark = [q.quote] := by simp [mark, hm]
  intro heq
  cases h with
  | nil =>
    rw [hmark] at heq
    obtain rfl : rest = q.quote :: r := by simpa using heq
    exact hrest q.quote rfl rfl
  | quote hmore => simp [quotesInside, hm] at hmore
  | plain hc => exact hc (List.cons.inj heq).1
  | lineBreak hlines => simp [hm] at hlines
  | escape | codePoint => exact hquote.1 (List.cons.inj heq).1.symm

/-- A mark over several lines tells its way of quoting. -/
theorem readQuoted_multiline (hq : q ∈ all) (hm : q.multiline = true) (t : List Char) :
    readQuoted (q.mark ++ t) = q.scan .plain (skipLineBreak t) := by
  simp only [all, List.mem_cons, List.not_mem_nil, or_false] at hq
  rcases hq with rfl | rfl | rfl | rfl <;> first | rfl | exact absurd hm (by decide)

/-- A mark on one line tells its way of quoting. -/
theorem readQuoted_oneLine {t : List Char} (hq : q ∈ all) (hm : q.multiline = false)
    (ht : ∀ r, t ≠ q.quote :: q.quote :: r) :
    readQuoted (q.mark ++ t) = q.scan .plain t := by
  simp only [all, List.mem_cons, List.not_mem_nil, or_false] at hq
  rcases hq with rfl | rfl | rfl | rfl
  · show readQuoted ('"' :: t) = _
    unfold readQuoted
    split <;> simp_all [basic]
  · show readQuoted ('\'' :: t) = _
    unfold readQuoted
    split <;> simp_all [literal]
  · exact absurd hm (by decide)
  · exact absurd hm (by decide)

/-- No line break is skipped where none stands. -/
theorem skipLineBreak_body (hq : q ∈ all) (h : q.Body 0 source text)
    (hhead : source.head? ≠ some '\n') :
    skipLineBreak (source ++ (q.mark ++ rest)) = source ++ (q.mark ++ rest) := by
  have hquote := quote_ne hq
  have hfirst : ∀ c ∈ (source ++ (q.mark ++ rest)).head?, c ≠ '\n' ∧ c ≠ '\x0d' := by
    intro c hc
    cases h with
    | nil =>
      obtain rfl : q.quote = c := by
        cases hm : q.multiline <;> simpa [mark, hm, List.replicate] using hc
      exact hquote.2
    | quote =>
      obtain rfl := Option.some.inj hc
      exact hquote.2
    | plain _ _ hprintable =>
      obtain rfl := Option.some.inj hc
      exact ⟨ne_lineBreak_of_printable hprintable, ne_carriage_of_printable hprintable⟩
    | lineBreak => exact absurd rfl hhead
    | escape | codePoint =>
      obtain rfl := Option.some.inj hc
      decide
  unfold skipLineBreak
  split
  · next h => exact absurd rfl (hfirst '\n' (by rw [h]; rfl)).1
  · next h => exact absurd rfl (hfirst '\x0d' (by rw [h]; rfl)).2
  · rfl

end Quoting

open Quoting in
/-- **A quotation is read** as the text that it stands for, unless more quotes come right behind. -/
theorem readQuoted_of_quotation {source text rest : List Char} (h : Quotation source text)
    (hrest : ∀ c ∈ rest.head?, c ≠ '"' ∧ c ≠ '\'') :
    readQuoted (source ++ rest) = some (text, rest) := by
  have hnext : ∀ {q : Quoting}, q ∈ all → ∀ c ∈ rest.head?, c ≠ q.quote := by
    intro q hq c hc
    rcases quote_of_mem hq with hquote | hquote <;> rw [hquote]
    · exact (hrest c hc).1
    · exact (hrest c hc).2
  cases h with
  | @here q source _ hq hbody hhead =>
    have hscan := scan_body hq hbody (Nat.zero_le _) (hnext hq)
    rw [List.append_assoc, List.append_assoc]
    cases hm : q.multiline with
    | false => rw [readQuoted_oneLine hq hm (ne_two_quotes hq hbody hm (hnext hq))]; exact hscan
    | true =>
      rw [readQuoted_multiline hq hm, skipLineBreak_body hq hbody (hhead hm)]
      exact hscan
  | @below q source _ hq hbody hm =>
    rw [List.append_assoc, List.cons_append, List.append_assoc, readQuoted_multiline hq hm]
    exact scan_body hq hbody (Nat.zero_le _) (hnext hq)

/-! ## Writing -/

namespace Quoting

variable {q : Quoting} {s : List Char} {c : Char} {run : Nat}

/-- A hexadecimal digit, as it is written. -/
def hexDigit (n : Nat) : Char := (Nat.digitChar (n % 16)).toUpper

theorem digitValue_hexDigit (n : Nat) : digitValue (hexDigit n) = n % 16 := by
  have hall : ∀ d < 16, digitValue (Nat.digitChar d).toUpper = d := by decide
  exact hall (n % 16) (Nat.mod_lt n (by decide))

/-- A character that is written as its code point. -/
theorem body_codePoint {source text : List Char} (hescapes : q.escapes = true)
    (hc : c.toNat < 65536) (h : q.Body 0 source text) :
    q.Body run ('\\' :: 'u' :: (hex4 c.toNat ++ source)) (c :: text) := by
  have hdigits : hex4 c.toNat = [hexDigit (c.toNat / 4096), hexDigit (c.toNat / 256),
      hexDigit (c.toNat / 16), hexDigit c.toNat] := rfl
  refine .codePoint hescapes List.mem_cons_self ?_ ?_ h
  · intro d hd
    rw [hdigits] at hd
    simp only [List.mem_cons, List.not_mem_nil, or_false] at hd
    rcases hd with rfl | rfl | rfl | rfl <;> rw [digitValue_hexDigit] <;>
      exact Nat.mod_lt _ (by decide)
  · have hvalue : ofDigits 16 ((hex4 c.toNat).map digitValue) = c.toNat := by
      rw [hdigits]
      simp only [List.map_cons, List.map_nil, digitValue_hexDigit, ofDigits, List.foldl_cons,
        List.foldl_nil]
      omega
    rw [hvalue]
    exact dif_pos (show c.toNat.isValidChar from c.valid)

/-- A character that is written between double quotes, but for a quote that stands for itself. -/
theorem body_escapeChar {source text : List Char} (hquote : q.quote = '"')
    (hescapes : q.escapes = true) (hc : ¬(c = '"' ∧ run < 2 ∧ q.multiline = true))
    (h : q.Body 0 source text) : q.Body run (q.escapeChar run c ++ source) (c :: text) := by
  unfold escapeChar
  split
  case h_1 =>
    rw [if_neg (fun hq => hc ⟨rfl, by simpa [and_comm] using hq⟩)]
    exact .escape hescapes rfl h
  case h_5 =>
    split
    · next hm => exact .lineBreak hm h
    · exact .escape hescapes rfl h
  case h_8 hdouble hbackslash _ _ _ _ _ =>
    split
    · next hprintable =>
      exact .plain (by rw [hquote]; exact hdouble) (fun hb => absurd hb hbackslash) hprintable h
    · next hcontrol =>
      refine body_codePoint hescapes ?_ h
      simp [isPrintable] at hcontrol
      omega
  all_goals exact .escape hescapes rfl h

/-- **What is written with escapes.** -/
theorem body_escapeAll (hquote : q.quote = '"') (hescapes : q.escapes = true) (s : List Char)
    (run : Nat) : q.Body run (q.escapeAll run s) s := by
  induction s generalizing run with
  | nil => exact .nil run
  | cons c s ih =>
    rw [escapeAll]
    by_cases hself : c = '"' ∧ run < 2 ∧ q.multiline = true
    · obtain ⟨rfl, hrun, hm⟩ := hself
      have hchar : q.escapeChar run '"' = [q.quote] := by simp [escapeChar, hm, hrun, hquote]
      have hmore : run < q.quotesInside := by simp only [quotesInside, hm, if_true]; exact hrun
      rw [if_pos ⟨rfl, hrun, hm⟩, hchar]
      have hbody := Body.quote hmore (ih (run + 1))
      rwa [hquote] at hbody ⊢
    · rw [if_neg hself]
      exact body_escapeChar hquote hescapes hself (ih 0)

theorem le_longestRun (c : Char) (s : List Char) (run : Nat) : run ≤ longestRun c s run := by
  induction s generalizing run with
  | nil => exact Nat.le_refl run
  | cons d s ih =>
    rw [longestRun]
    split
    · exact Nat.le_trans (Nat.le_succ run) (ih (run + 1))
    · exact Nat.le_max_left _ _

/-- Characters that need no escape. -/
def Plain (q : Quoting) (s : List Char) : Prop :=
  ∀ c ∈ s, isPrintable c = true ∨ c = '\n' ∧ q.multiline = true

/-- **What is written as it is.** -/
theorem body_self (hescapes : q.escapes = false) (hplain : q.Plain s)
    (h : longestRun q.quote s run ≤ q.quotesInside) : q.Body run s s := by
  induction s generalizing run with
  | nil => exact .nil run
  | cons c s ih =>
    have hplain' : q.Plain s := fun d hd => hplain d (List.mem_cons_of_mem c hd)
    rw [longestRun] at h
    by_cases hc : c = q.quote
    · subst hc
      rw [if_pos rfl] at h
      exact .quote (Nat.le_trans (le_longestRun _ _ _) h) (ih hplain' h)
    · rw [if_neg hc] at h
      have hrest := ih hplain' (Nat.le_trans (Nat.le_max_right _ _) h)
      rcases hplain c List.mem_cons_self with hprintable | ⟨rfl, hm⟩
      · exact .plain hc (fun _ => hescapes) hprintable hrest
      · exact .lineBreak hm hrest

/-- A quotation can hold a text: by escapes, or because the text needs none. -/
def Suits (q : Quoting) (s : List Char) : Prop :=
  q.quote = '"' ∧ q.escapes = true ∨
    q.escapes = false ∧ q.Plain s ∧ longestRun q.quote s 0 ≤ q.quotesInside

/-- What a quotation holds between its marks. -/
def body (q : Quoting) (s : List Char) : List Char := if q.escapes then q.escapeAll 0 s else s

theorem Suits.body (hsuits : q.Suits s) : q.Body 0 (q.body s) s := by
  rcases hsuits with ⟨hquote, hescapes⟩ | ⟨hescapes, hplain, hrun⟩
  · rw [Quoting.body, if_pos hescapes]
    exact body_escapeAll hquote hescapes s 0
  · rw [Quoting.body, hescapes]
    exact body_self hescapes hplain hrun

/-- What stands for a text begins with a line break only if the text has one. -/
theorem mem_of_head_body {source text : List Char} (hq : q ∈ all) (h : q.Body 0 source text)
    (hhead : source.head? = some '\n') : '\n' ∈ text := by
  have hquote := quote_ne hq
  cases h with
  | nil => cases hhead
  | quote => exact absurd (Option.some.inj hhead) hquote.2.1
  | plain _ _ hprintable =>
    exact absurd (Option.some.inj hhead) (ne_lineBreak_of_printable hprintable)
  | lineBreak => exact List.mem_cons_self
  | escape | codePoint => cases Option.some.inj hhead

/-- **A quotation that suits its text stands for it.** -/
theorem quotation_write (hq : q ∈ all) (hsuits : q.Suits s) : Quotation (q.write s) s := by
  rw [write]
  by_cases hlead : (q.multiline && s.contains '\n') = true
  · rw [if_pos hlead]
    rw [Bool.and_eq_true] at hlead
    exact .below hq hsuits.body hlead.1
  · rw [if_neg hlead]
    refine .here hq hsuits.body fun hm hhead => hlead ?_
    simpa [hm] using mem_of_head_body hq hsuits.body hhead

/-! ### The choice of a quotation -/

theorem choose_mem (s : List Char) : choose s ∈ all := by
  simp only [choose]
  split_ifs <;> decide

/-- **The quotation chosen for a text suits it.** -/
theorem suits_choose (s : List Char) : (choose s).Suits s := by
  -- without escapes only what is printable is quoted, and line breaks where lines may break
  have hplain : ∀ q : Quoting, s.any needsEscape = false →
      (s.contains '\n' = true → q.multiline = true) → q.Plain s := by
    intro q hcontrol hlines c hc
    have hc' : needsEscape c = false := by simpa using List.any_eq_false.mp hcontrol c hc
    by_cases hline : c = '\n'
    · exact .inr ⟨hline, hlines (by simpa [hline] using hc)⟩
    · exact .inl (by simpa [needsEscape, hline] using hc')
  simp only [choose]
  split_ifs with h1 h2 h3 h4 h5
  · exact .inl ⟨rfl, rfl⟩
  · rw [Bool.and_eq_true, Bool.and_eq_true, Bool.not_eq_true', Bool.not_eq_true',
      beq_iff_eq] at h2
    obtain ⟨⟨hcontrol, hsingles⟩, hlines⟩ := h2
    refine .inr ⟨rfl, hplain _ hcontrol (fun h => ?_), Nat.le_of_eq hsingles⟩
    rw [hlines] at h
    cases h
  · exact .inl ⟨rfl, rfl⟩
  · rw [Bool.and_eq_true, Bool.not_eq_true', decide_eq_true_eq] at h4
    exact .inr ⟨rfl, hplain _ h4.1 (fun _ => rfl), h4.2⟩
  · exact .inl ⟨rfl, rfl⟩
  · exact .inl ⟨rfl, rfl⟩

end Quoting

/-- **Every text is written in a quotation that stands for it.** -/
theorem quotation_quote (s : String) : Quotation (quote s).toList s.toList := by
  rw [quote, String.toList_ofList]
  exact Quoting.quotation_write (Quoting.choose_mem _) (Quoting.suits_choose _)

end ModemWatch.Toml
