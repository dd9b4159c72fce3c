import ModemWatch.Proofs.Switchboard

/-!
# Supersession is final

A ticket is in force for a class from the moment it is given out until the class is touched again —
by another send, a cancel or a drop of everything — or until the ticket gets an outcome that counts.
An answer may still stand in the inbox long after that; when it is taken out at last it is stale.

`inForce` computes the ticket in force from the records of a run alone.  That it agrees with the
entry of the dispatcher in the state the run leads to (`inForce_eq_entry`) turns the question which
outcomes count into a question about a list of records.

Main statements:

* `outcome_ne_stale_iff_untouched` — an outcome counts exactly if its ticket was given out for the
  same class and nothing touched the class, or settled the ticket, in between;
* `settled_once` — no ticket has two outcomes that count;
* `unchanged_of_stale` — a stale outcome changes nothing;
* `supersession_final` — the three together, for every run.
-/

namespace ModemWatch

namespace Switchboard

namespace Record

/-- The step sends, cancels or drops a request of a class at a desk. -/
def touches (i : SessionId) (c : RequestClass) : Record → Bool
  | .sent j e _ _ | .cancelled j e => j == i && e == c
  | .droppedAll j => j == i
  | .responded .. | .failedAll _ | .closed | .completed .. => false

/-- The ticket that a desk gives out with a request in this step. -/
def issued? (i : SessionId) : Record → Option Ticket
  | .sent j _ _ (.submitted t) => if j = i then some t else none
  | _ => none

/-- The step gives a ticket of a desk an outcome that counts. -/
def settles (i : SessionId) (t : Ticket) : Record → Bool
  | .completed j _ u _ o => j == i && u == t && o != .stale
  | _ => false

/-- The ticket in force for a class at a desk after a step, by what the step is recorded as. -/
def inForce (i : SessionId) (c : RequestClass) (current : Option Ticket) : Record → Option Ticket
  | .sent j e _ submission =>
    if j = i ∧ e = c then
      match submission with
      | .submitted t => some t
      | .unsupported | .failed => none
    else current
  | .cancelled j e => if j = i ∧ e = c then none else current
  | .droppedAll j => if j = i then none else current
  | .completed j e t _ o =>
    if j = i ∧ e = c ∧ current = some t ∧ o ≠ .stale then none else current
  | .responded .. | .failedAll _ | .closed => current

end Record

/-- The ticket in force for a class at a desk, by what has been recorded. -/
def inForce (i : SessionId) (c : RequestClass) (log : List Record) : Option Ticket :=
  log.foldl (Record.inForce i c) none

variable {s s' : Switchboard} {i j : SessionId} {c e : RequestClass} {t : Ticket} {r : Record}

/-- Nothing is in flight for a class that is not supported. -/
def Latched (s : Switchboard) : Prop :=
  ∀ i c, s.supports i c = false → s.entry i c = none

theorem Latched.step (h : Latched s) (hs : Step s r s') : Latched s' := by
  intro i c hi
  cases hs with
  | send j e value =>
      rw [supports_send] at hi
      rw [entry_send, if_neg]
      · exact h i c hi
      · rintro ⟨rfl, rfl, hse⟩
        simp [hi] at hse
  | cancel j e =>
      rw [supports_cancel] at hi
      rw [entry_cancel]
      split
      · rfl
      · exact h i c hi
  | dropAll j =>
      rw [supports_dropAll] at hi
      rw [entry_dropAll]
      split
      · rfl
      · exact h i c hi
  | respond n a =>
      rw [Switchboard.respond, supports_answer] at hi
      rw [Switchboard.respond, entry_answer]
      exact h i c hi
  | failAll status _ order =>
      rw [supports_answer] at hi
      rw [entry_answer]
      exact h i c hi
  | close => exact h i c hi
  | @complete j e t a rest _ oldest =>
      rw [supports_complete] at hi
      rw [entry_complete]
      split at hi
      · next ho =>
          obtain ⟨rfl, rfl, ho⟩ := ho
          rw [outcome_complete] at ho
          split at ho
          · next ht =>
              obtain ⟨p, hp, rfl⟩ := Option.map_eq_some_iff.mp ht
              simp [hp]
          · cases ho
      · split
        · rfl
        · exact h i c hi

/-- What a step is recorded as tells the ticket in force after it. -/
theorem ticket_step (h : Latched s) (hs : Step s r s') :
    (s'.entry i c).map InFlight.ticket
      = Record.inForce i c ((s.entry i c).map InFlight.ticket) r := by
  cases hs with
  | send j e value =>
      simp only [Record.inForce, submission_send, entry_send]
      by_cases hje : j = i ∧ e = c
      · obtain ⟨rfl, rfl⟩ := hje
        cases hs : s.supports j e with
        | false => simp [h j e hs]
        | true => cases s.transport.closed <;> simp
      · have hij : ¬(i = j ∧ c = e ∧ s.supports j e = true) :=
          fun h => hje ⟨h.1.symm, h.2.1.symm⟩
        rw [if_neg hje, if_neg hij]
  | cancel j e =>
      simp only [Record.inForce, entry_cancel, eq_comm (a := i), eq_comm (a := c)]
      split <;> rfl
  | dropAll j =>
      simp only [Record.inForce, entry_dropAll, eq_comm (a := i)]
      split <;> rfl
  | respond n a => rw [Switchboard.respond, entry_answer]; rfl
  | failAll status _ order => rw [entry_answer]; rfl
  | close => rfl
  | @complete j e t a rest _ oldest =>
      simp only [Record.inForce, outcome_complete, entry_complete]
      by_cases hje : j = i ∧ e = c
      · obtain ⟨rfl, rfl⟩ := hje
        cases hp : s.entry j e with
        | none => simp
        | some p =>
            by_cases ht : p.ticket = t <;> simp [ht, Completion.outcome_ne_stale]
      · have hij : ¬(i = j ∧ c = e ∧ (s.entry j e).any (fun p => p.ticket = t) = true) :=
          fun h => hje ⟨h.1.symm, h.2.1.symm⟩
        rw [if_neg hij, if_neg fun h => hje ⟨h.1, h.2.1⟩]

/-! ## Tickets are given out once -/

theorem nextTicket_le_step (hs : Step s r s') : s.nextTicket i ≤ s'.nextTicket i := by
  cases hs with
  | send j e value =>
      rw [nextTicket_send]
      split
      · exact Nat.le_succ _
      · exact Nat.le_refl _
  | cancel j e => exact Nat.le_of_eq (nextTicket_cancel ..).symm
  | dropAll j => exact Nat.le_of_eq (nextTicket_dropAll ..).symm
  | respond n a => rw [Switchboard.respond, nextTicket_answer]; exact Nat.le_refl _
  | failAll status _ order => rw [nextTicket_answer]; exact Nat.le_refl _
  | close => exact Nat.le_refl _
  | complete oldest => exact Nat.le_of_eq (nextTicket_complete ..).symm

/-- A ticket that is given out is the next one, and the dispatcher moves on. -/
theorem issued_step (hs : Step s r s') (hr : r.issued? i = some t) :
    t = s.nextTicket i ∧ s'.nextTicket i = t + 1 := by
  cases hs with
  | send j e value =>
      rw [submission_send] at hr
      rw [nextTicket_send]
      cases hj : s.supports j e with
      | false => simp [hj, Record.issued?] at hr
      | true =>
          cases hc : s.transport.closed with
          | true => simp [hj, hc, Record.issued?] at hr
          | false =>
              simp only [hj, hc, if_true, Bool.false_eq_true, if_false, Record.issued?,
                ite_eq_iff, reduceCtorEq, and_false, or_false, Option.some.injEq] at hr
              obtain ⟨rfl, rfl⟩ := hr
              simp
  | cancel | dropAll | respond | failAll | close | complete => cases hr

theorem lt_nextTicket_of_issued {start : Switchboard} {log : List Record}
    (h : Trace start log s) (hr : r ∈ log) (ht : r.issued? i = some t) : t < s.nextTicket i := by
  induction h with
  | nil => exact absurd hr List.not_mem_nil
  | snoc _ hs ih =>
      rcases List.mem_append.mp hr with hr | hr
      · exact Nat.lt_of_lt_of_le (ih hr) (nextTicket_le_step hs)
      · obtain rfl := List.mem_singleton.mp hr
        rw [(issued_step hs ht).2]
        exact Nat.lt_succ_self _

/-- A recorded step started in a state that the records before it lead to. -/
theorem Trace.split {start : Switchboard} {log older newer : List Record}
    (h : Trace start log s) (hlog : log = older ++ r :: newer) :
    ∃ s₁ s₂, Trace start older s₁ ∧ Step s₁ r s₂ := by
  induction h generalizing newer with
  | nil => simp at hlog
  | @snoc log s s' r' ht hs ih =>
      rcases List.eq_nil_or_concat newer with rfl | ⟨newer, x, rfl⟩
      · obtain ⟨rfl, hr⟩ := List.append_inj' hlog rfl
        cases hr
        exact ⟨s, s', ht, hs⟩
      · rw [List.concat_eq_append, ← List.cons_append, ← List.append_assoc] at hlog
        exact ih (List.append_inj' hlog rfl).1

/-- A ticket was not given out before it was given out. -/
theorem not_issued_before {start : Switchboard} {log older newer : List Record}
    (h : Trace start log s) (hlog : log = older ++ r :: newer) (hr : r.issued? i = some t) :
    ∀ x ∈ older, x.issued? i ≠ some t := by
  intro x hx hxt
  obtain ⟨s₁, s₂, h₁, hs⟩ := h.split hlog
  have hlt := lt_nextTicket_of_issued h₁ hx hxt
  rw [(issued_step hs hr).1] at hlt
  exact Nat.lt_irrefl _ hlt

/-- A ticket is given out by one record only. -/
theorem eq_of_issued {start : Switchboard} {log older newer : List Record}
    (h : Trace start log s) (hlog : log = older ++ r :: newer) (hr : r.issued? i = some t)
    {x : Record} (hx : x ∈ log) (hxt : x.issued? i = some t) : x = r := by
  rw [hlog] at hx
  rcases List.mem_append.mp hx with hx | hx
  · exact absurd hxt (not_issued_before h hlog hr x hx)
  · rcases List.mem_cons.mp hx with hx | hx
    · exact hx
    · obtain ⟨n₁, n₂, hn⟩ := List.append_of_mem hx
      have hsplit : log = (older ++ r :: n₁) ++ x :: n₂ := by simp [hlog, hn]
      exact absurd hr (not_issued_before h hsplit hxt r (by simp))

/-! ## The ticket in force -/

theorem Latched.trace {start : Switchboard} {log : List Record} (h : Latched start)
    (ht : Trace start log s) : Latched s := by
  induction ht with
  | nil => exact h
  | snoc _ hs ih => exact ih.step hs

theorem latched_new (slot : String) (interface : Interface) : Latched (.new slot interface) := by
  intro i c _
  simp [entry, Switchboard.new]

/-- **The records tell the ticket in force.** -/
theorem inForce_eq_entry {slot : String} {interface : Interface} {log : List Record}
    (h : Trace (new slot interface) log s) (i : SessionId) (c : RequestClass) :
    inForce i c log = (s.entry i c).map InFlight.ticket := by
  induction h with
  | nil => simp [inForce, entry, Switchboard.new]
  | snoc ht hs ih =>
      rw [ticket_step ((latched_new slot interface).trace ht) hs, ← ih]
      simp [inForce]

/-- A ticket in force after a step was in force before and the step left it alone, or the step gave
it out. -/
theorem of_inForce {current : Option Ticket} (h : Record.inForce i c current r = some t) :
    (current = some t ∧ r.touches i c = false ∧
        ∀ a o, r = .completed i c t a o → o = .stale) ∨
      ∃ value, r = .sent i c value (.submitted t) := by
  cases r with
  | sent j e value submission =>
      by_cases hje : j = i ∧ e = c
      · obtain ⟨rfl, rfl⟩ := hje
        cases submission with
        | submitted u => exact .inr ⟨value, by simp_all [Record.inForce]⟩
        | unsupported | failed => simp [Record.inForce] at h
      · simp only [Record.inForce, if_neg hje] at h
        exact .inl ⟨h, by simpa [Record.touches] using hje, by simp⟩
  | cancelled j e =>
      by_cases hje : j = i ∧ e = c
      · simp [Record.inForce, hje] at h
      · rw [Record.inForce, if_neg hje] at h
        exact .inl ⟨h, by simpa [Record.touches] using hje, by simp⟩
  | droppedAll j =>
      by_cases hj : j = i
      · simp [Record.inForce, hj] at h
      · rw [Record.inForce, if_neg hj] at h
        exact .inl ⟨h, by simpa [Record.touches] using hj, by simp⟩
  | completed j e u a o =>
      by_cases hje : j = i ∧ e = c ∧ current = some u ∧ o ≠ .stale
      · simp [Record.inForce, hje] at h
      · rw [Record.inForce, if_neg hje] at h
        refine .inl ⟨h, rfl, ?_⟩
        rintro _ _ ⟨⟩
        exact not_not.mp fun ho => hje ⟨rfl, rfl, h, ho⟩
  | responded | failedAll | closed => exact .inl ⟨h, rfl, by simp⟩

/-- A ticket in force was in force before and has been left alone, or it was given out since. -/
theorem of_inForce_foldl {log : List Record} {current : Option Ticket}
    (h : log.foldl (Record.inForce i c) current = some t) :
    (current = some t ∧ ∀ x ∈ log, x.touches i c = false ∧
        ∀ a o, x = .completed i c t a o → o = .stale) ∨
      ∃ value, Record.sent i c value (.submitted t) ∈ log := by
  induction log generalizing current with
  | nil => exact .inl ⟨h, by simp⟩
  | cons x log ih =>
      rcases ih h with ⟨hx, hlog⟩ | ⟨value, hv⟩
      · rcases of_inForce hx with ⟨hc, hleft⟩ | ⟨value, hv⟩
        · exact .inl ⟨hc, List.forall_mem_cons.mpr ⟨hleft, hlog⟩⟩
        · exact .inr ⟨value, hv ▸ List.mem_cons_self⟩
      · exact .inr ⟨value, List.mem_cons_of_mem _ hv⟩

/-- A ticket in force stays so while it is left alone. -/
theorem inForce_foldl_of_untouched {log : List Record}
    (h : ∀ x ∈ log, x.touches i c = false ∧ x.settles i t = false) :
    log.foldl (Record.inForce i c) (some t) = some t := by
  induction log with
  | nil => rfl
  | cons x log ih =>
      have hx : Record.inForce i c (some t) x = some t := by
        obtain ⟨h1, h2⟩ := h x List.mem_cons_self
        cases x <;> simp_all [Record.inForce, Record.touches, Record.settles]
      rw [List.foldl_cons, hx]
      exact ih fun y hy => h y (List.mem_cons_of_mem _ hy)

/-! ## Outcomes that count -/

section Outcomes

variable {slot : String} {interface : Interface} {log older newer : List Record}
  {value : Bool} {a : Completion} {o : Outcome}

/-- An outcome counts exactly if the records before it leave its ticket in force. -/
theorem outcome_ne_stale_iff (h : Trace (new slot interface) log s)
    (hlog : log = older ++ .completed i c t a o :: newer) :
    o ≠ .stale ↔ inForce i c older = some t := by
  obtain ⟨s₁, s₂, h₁, hs⟩ := h.split hlog
  rw [inForce_eq_entry h₁]
  cases hs
  rw [outcome_complete]
  split
  · next ht => simp [ht, Completion.outcome_ne_stale]
  · next ht => simp [ht]

/-- A ticket with an outcome that counts was given out before, for the same class. -/
theorem sent_of_settled (h : Trace (new slot interface) log s)
    (hlog : log = older ++ .completed i c t a o :: newer) (ho : o ≠ .stale) :
    ∃ value, Record.sent i c value (.submitted t) ∈ older := by
  rcases of_inForce_foldl ((outcome_ne_stale_iff h hlog).mp ho) with ⟨hnone, -⟩ | hsent
  · cases hnone
  · exact hsent

theorem issued_sent : (Record.sent i c value (.submitted t)).issued? i = some t := by
  simp [Record.issued?]

/-- A record that gives a ticket an outcome that counts. -/
theorem Record.settles_iff {x : Record} :
    x.settles i t = true ↔ ∃ c a o, x = .completed i c t a o ∧ o ≠ .stale := by
  constructor
  · intro hx
    cases x with
    | completed j e u a o =>
        simp only [Record.settles, Bool.and_eq_true, beq_iff_eq, bne_iff_ne] at hx
        obtain ⟨⟨rfl, rfl⟩, ho⟩ := hx
        exact ⟨e, a, o, rfl, ho⟩
    | sent | cancelled | droppedAll | responded | failedAll | closed => cases hx
  · rintro ⟨e, a, o, rfl, ho⟩
    simpa [Record.settles] using ho

/-- The class of a ticket with an outcome that counts is the one it was given out for. -/
theorem cls_of_settled (h : Trace (new slot interface) log s)
    (hsent : log = older ++ .sent i c value (.submitted t) :: newer)
    (hmem : Record.completed i e t a o ∈ log) (ho : o ≠ .stale) : e = c := by
  obtain ⟨l₁, l₂, hsplit⟩ := List.append_of_mem hmem
  obtain ⟨value', hv⟩ := sent_of_settled h hsplit ho
  have hlog : Record.sent i e value' (.submitted t) ∈ log := by
    rw [hsplit]
    exact List.mem_append_left _ hv
  cases eq_of_issued h hsent issued_sent hlog issued_sent
  rfl

/-- No ticket has an outcome that counts before it is given out. -/
theorem not_settled_before (h : Trace (new slot interface) log s)
    (hsent : log = older ++ .sent i c value (.submitted t) :: newer) :
    ∀ x ∈ older, x.settles i t = false := by
  intro x hx
  rw [← Bool.not_eq_true, Record.settles_iff]
  rintro ⟨e, a, o, rfl, ho⟩
  obtain ⟨l₁, l₂, rfl⟩ := List.append_of_mem hx
  have hsplit : log =
      l₁ ++ .completed i e t a o :: (l₂ ++ .sent i c value (.submitted t) :: newer) := by
    simp [hsent]
  obtain ⟨value', hv⟩ := sent_of_settled h hsplit ho
  exact not_issued_before h hsent issued_sent _ (List.mem_append_left _ hv) issued_sent

/-- **An outcome counts exactly if nothing came between.** -/
theorem outcome_ne_stale_iff_untouched (h : Trace (new slot interface) log s)
    {between rest : List Record}
    (hsent : log =
      older ++ .sent i c value (.submitted t) :: (between ++ .completed i e t a o :: rest)) :
    o ≠ .stale ↔ e = c ∧ ∀ x ∈ between, x.touches i c = false ∧ x.settles i t = false := by
  have hsplit : log = (older ++ .sent i c value (.submitted t) :: between)
      ++ .completed i e t a o :: rest := by simp [hsent]
  constructor
  · intro ho
    have hmem : Record.completed i e t a o ∈ log := by simp [hsent]
    obtain rfl : e = c := cls_of_settled h hsent hmem ho
    refine ⟨rfl, fun x hx => ?_⟩
    have hforce := (outcome_ne_stale_iff h hsplit).mp ho
    rw [inForce, List.foldl_append, List.foldl_cons] at hforce
    rcases of_inForce_foldl hforce with ⟨-, hleft⟩ | ⟨value', hv⟩
    · refine ⟨(hleft x hx).1, ?_⟩
      rw [← Bool.not_eq_true, Record.settles_iff]
      rintro ⟨e', a', o', rfl, ho'⟩
      have hmem' : Record.completed i e' t a' o' ∈ log := by simp [hsent, hx]
      obtain rfl : e' = e := cls_of_settled h hsent hmem' ho'
      exact ho' ((hleft _ hx).2 a' o' rfl)
    · obtain ⟨l₁, l₂, rfl⟩ := List.append_of_mem hv
      have hlater : log = (older ++ .sent i e value (.submitted t) :: l₁) ++
          .sent i e value' (.submitted t) :: (l₂ ++ .completed i e t a o :: rest) := by
        simp [hsent]
      have hearlier : Record.sent i e value (.submitted t) ∈
          older ++ .sent i e value (.submitted t) :: l₁ := by simp
      exact absurd issued_sent (not_issued_before h hlater issued_sent _ hearlier)
  · rintro ⟨rfl, hleft⟩
    refine (outcome_ne_stale_iff h hsplit).mpr ?_
    rw [inForce, List.foldl_append, List.foldl_cons]
    have hnew : Record.inForce i e (older.foldl (Record.inForce i e) none)
        (.sent i e value (.submitted t)) = some t := by simp [Record.inForce]
    rw [hnew]
    exact inForce_foldl_of_untouched hleft

/-- If no element before one with a property has it too, one element at most has it. -/
theorem countP_le_one {α : Type} {p : α → Bool} {l : List α}
    (h : ∀ l₁ x l₂, l = l₁ ++ x :: l₂ → p x = true → ∀ y ∈ l₁, p y = false) :
    l.countP p ≤ 1 := by
  induction l with
  | nil => simp
  | cons y l ih =>
      by_cases hy : p y = true
      · have hrest : l.countP p = 0 := by
          rw [List.countP_eq_zero]
          intro x hx hpx
          obtain ⟨l₁, l₂, rfl⟩ := List.append_of_mem hx
          have := h (y :: l₁) x l₂ rfl hpx y List.mem_cons_self
          simp [hy] at this
        simp [hy, hrest]
      · rw [List.countP_cons_of_neg hy]
        refine ih fun l₁ x l₂ hl hx z hz => ?_
        exact h (y :: l₁) x l₂ (by rw [hl]; rfl) hx z (List.mem_cons_of_mem _ hz)

/-- A ticket has one outcome that counts at most. -/
theorem settled_once (h : Trace (new slot interface) log s) (i : SessionId) (t : Ticket) :
    log.countP (fun x => x.settles i t) ≤ 1 := by
  refine countP_le_one fun l₁ x l₂ hlog hx y hy => ?_
  obtain ⟨e, a, o, rfl, ho⟩ := Record.settles_iff.mp hx
  obtain ⟨value, hv⟩ := sent_of_settled h hlog ho
  obtain ⟨m₁, m₂, rfl⟩ := List.append_of_mem hv
  have hsent : log = m₁ ++ .sent i e value (.submitted t) ::
      (m₂ ++ .completed i e t a o :: l₂) := by simp [hlog]
  rcases List.mem_append.mp hy with hy | hy
  · exact not_settled_before h hsent y hy
  · rcases List.mem_cons.mp hy with rfl | hy
    · rfl
    · exact (((outcome_ne_stale_iff_untouched h hsent).mp ho).2 y hy).2

/-- A stale outcome leaves everything but the inbox as it was. -/
theorem unchanged_of_stale {s s' : Switchboard} (hs : Step s (.completed i c t a .stale) s') :
    s'.transport = s.transport ∧ ∀ j, (s'.desks j).dispatcher = (s.desks j).dispatcher := by
  generalize hr : Record.completed i c t a .stale = r at hs
  cases hs with
  | complete oldest =>
      obtain ⟨rfl, rfl, rfl, rfl, ho⟩ := Record.completed.inj hr
      refine ⟨rfl, fun j => ?_⟩
      rw [outcome_complete] at ho
      by_cases hj : j = i
      · subst hj
        have hstale : ∀ p, (s.desks j).dispatcher.pending.get c = some p → p.ticket ≠ t := by
          intro p hp ht
          rw [if_pos (by simp [entry, hp, ht])] at ho
          exact Completion.outcome_ne_stale c a ho.symm
        simp [complete, Dispatcher.complete_stale hstale]
      · simp [complete, hj]
  | send | cancel | dropAll | respond | failAll | close => cases hr

end Outcomes

/-- **Supersession is final.**  In every run of dispatchers on one transport a ticket has at most
one outcome that counts, and has none before it is given out.  After that an outcome counts exactly
if it comes for the class of the ticket, and if until then nothing was sent, cancelled or dropped
in that class.  An outcome that does not count leaves the transport and every dispatcher as it was, so
a request that was superseded never reaches its successor. -/
theorem supersession_final {slot : String} {interface : Interface} {log : List Record}
    {s : Switchboard} (h : Trace (new slot interface) log s) (i : SessionId) :
    (∀ t, log.countP (fun x => x.settles i t) ≤ 1) ∧
    (∀ older c value t newer, log = older ++ .sent i c value (.submitted t) :: newer →
      (∀ x ∈ older, x.settles i t = false) ∧
      ∀ between e a o rest, newer = between ++ .completed i e t a o :: rest →
        (o ≠ .stale ↔
          e = c ∧ ∀ x ∈ between, x.touches i c = false ∧ x.settles i t = false)) ∧
    ∀ c t a s', Step s (.completed i c t a .stale) s' →
      s'.transport = s.transport ∧ ∀ j, (s'.desks j).dispatcher = (s.desks j).dispatcher := by
  refine ⟨settled_once h i, ?_, fun c t a s' hs => unchanged_of_stale hs⟩
  intro older c value t newer hsent
  refine ⟨not_settled_before h hsent, ?_⟩
  rintro between e a o rest rfl
  exact outcome_ne_stale_iff_untouched h hsent

/-- A refusal that is on its way when its request is superseded does not touch the new request. -/
theorem supersession_final_in_flight :
    let refusal : Completion := .answered .sendDeviceState .requestNotSupported
    let log : List Record :=
      [.sent 0 .chargingState true (.submitted 1), .responded 1 refusal,
        .sent 0 .chargingState false (.submitted 2),
        .completed 0 .chargingState 1 refusal .stale]
    ∃ s, Trace (new "slot1" .v10) log s ∧ s.entry 0 .chargingState = some ⟨2, 2⟩ ∧
      log.countP (fun x => x.settles 0 1) ≤ 1 := by
  intro refusal log
  let s₁ := ((new "slot1" .v10).send 0 .chargingState true).2
  let s₂ := s₁.respond 1 refusal
  let s₃ := (s₂.send 0 .chargingState false).2
  have h₁ : Trace (new "slot1" .v10) [.sent 0 .chargingState true (.submitted 1)] s₁ :=
    .snoc .nil (.send 0 .chargingState true _)
  have h₂ : Trace (new "slot1" .v10) _ s₂ := .snoc h₁ (.respond 1 refusal _)
  have h₃ : Trace (new "slot1" .v10) _ s₃ := .snoc h₂ (.send 0 .chargingState false _)
  have h₄ : Trace (new "slot1" .v10) log _ := .snoc h₃ (@Step.complete _ _ _ _ [] _ rfl)
  exact ⟨_, h₄, rfl, (supersession_final h₄ 0).1 1⟩

end Switchboard

end ModemWatch
