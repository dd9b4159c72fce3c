import ModemWatch.Radio.Transport

/-!
# What waits in a transport

The table of waiting requests is known by `Transport.callback?`, the callback that waits under a
number.  This file says what each operation does to that view, for a transport whose numbers are
in order: no number twice in the table, and none that is still to be given out.

* `Transport.Numbered` — that order, kept by every operation;
* `Transport.callback?_submit`, `Transport.callback?_forget` — the view after an operation;
* `Transport.Numbered.callback?_eq_some_iff` — the view shows all of the table.
-/

namespace ModemWatch

namespace Transport

variable {κ : Type}

/-- The numbers of the waiting requests are in order. -/
structure Numbered (t : Transport κ) : Prop where
  /-- No number stands in the table twice. -/
  distinct : (t.pending.map (fun p => p.1)).Nodup
  /-- Every number in the table has been given out. -/
  given : ∀ p ∈ t.pending, p.1 < t.nextSerial

/-- A new transport has nothing waiting. -/
theorem numbered_new (slot : String) (interface : Interface) :
    ({ slot := slot, interface := interface } : Transport κ).Numbered :=
  ⟨List.nodup_nil, by simp⟩

/-- **The view shows all of the table.**  What waits under a number is what stands in the table
beside it. -/
theorem Numbered.callback?_eq_some_iff {t : Transport κ} (h : t.Numbered) {n : Serial} {k : κ} :
    t.callback? n = some k ↔ (n, k) ∈ t.pending := by
  have hd := h.distinct
  unfold callback?
  generalize t.pending = waiting at hd ⊢
  induction waiting with
  | nil => simp
  | cons p rest ih =>
      simp only [List.map_cons, List.nodup_cons, List.mem_map, not_exists, not_and] at hd
      by_cases hp : p.1 = n
      · have hrest : (n, k) ∉ rest := fun hm => hd.1 _ hm hp.symm
        simp [hp, hrest, Prod.ext_iff, eq_comm]
      · have hne : (n, k) ≠ p := fun he => hp (by rw [← he])
        simp only [List.find?_cons_of_neg (p := fun q : Serial × κ => q.1 == n) (by simpa using hp),
          List.mem_cons, hne, false_or]
        exact ih hd.2

/-- What waits under a number, told from the table. -/
theorem Numbered.toList_callback? {t : Transport κ} (h : t.Numbered) (n : Serial) :
    (t.callback? n).toList = (t.pending.filter (fun p => p.1 == n)).map (fun p => p.2) := by
  have hd := h.distinct
  unfold callback?
  generalize t.pending = waiting at hd ⊢
  induction waiting with
  | nil => rfl
  | cons p rest ih =>
      obtain ⟨hp, hd⟩ := List.nodup_cons.mp hd
      by_cases hn : p.1 = n
      · have hrest : rest.filter (fun q => q.1 == n) = [] := by
          rw [List.filter_eq_nil_iff]
          intro q hq hqn
          exact hp (List.mem_map.mpr ⟨q, hq, (beq_iff_eq.mp hqn).trans hn.symm⟩)
        simp [hn, hrest]
      · simpa [hn] using ih hd

/-- A number under which something waits has been given out. -/
theorem Numbered.lt_nextSerial {t : Transport κ} (h : t.Numbered) {n : Serial} {k : κ}
    (hk : t.callback? n = some k) : n < t.nextSerial :=
  h.given _ (h.callback?_eq_some_iff.mp hk)

theorem isPending_iff {t : Transport κ} {n : Serial} :
    t.isPending n = true ↔ ∃ k, t.callback? n = some k :=
  Option.isSome_iff_exists

theorem callback?_forget (t : Transport κ) (n m : Serial) :
    (t.forget n).callback? m = if m = n then none else t.callback? m := by
  split
  · next h => rw [h, callback?_forget_self]
  · next h => exact callback?_forget_ne t h

theorem submit_of_closed {t : Transport κ} (h : t.closed = true) (r : Request) (k : κ) :
    t.submit r k = (none, { t with nextSerial := t.nextSerial + 1 }) := by
  simp [submit, h]

theorem submit_of_open {t : Transport κ} (h : t.closed = false) (r : Request) (k : κ) :
    t.submit r k = (some t.nextSerial,
      { t with
        nextSerial := t.nextSerial + 1
        queued := t.queued ++ [⟨t.nextSerial, r⟩]
        pending := t.pending ++ [(t.nextSerial, k)] }) := by
  simp [submit, h]

/-- A request that is taken waits under the next number; one that is refused waits nowhere. -/
theorem Numbered.callback?_submit {t : Transport κ} (h : t.Numbered) (r : Request) (k : κ)
    (n : Serial) :
    (t.submit r k).2.callback? n
      = if t.closed = false ∧ n = t.nextSerial then some k else t.callback? n := by
  cases hc : t.closed with
  | true => simp [submit_of_closed hc, callback?]
  | false =>
      have hnext : t.callback? t.nextSerial = none := by
        rw [Option.eq_none_iff_forall_not_mem]
        intro k' hk'
        exact Nat.lt_irrefl _ (h.lt_nextSerial hk')
      rw [submit_of_open hc]
      simp only [callback?, List.find?_append, true_and] at hnext ⊢
      by_cases hn : n = t.nextSerial
      · subst hn
        simp only [Option.map_eq_none_iff] at hnext
        simp [hnext]
      · simp [hn, Ne.symm hn]

/-- Submitting keeps the numbers in order. -/
theorem Numbered.submit {t : Transport κ} (h : t.Numbered) (r : Request) (k : κ) :
    (t.submit r k).2.Numbered := by
  cases hc : t.closed with
  | true =>
      rw [submit_of_closed hc]
      exact ⟨h.distinct, fun p hp => Nat.lt_succ_of_lt (h.given p hp)⟩
  | false =>
      rw [submit_of_open hc]
      refine ⟨?_, ?_⟩
      · have hnew : t.nextSerial ∉ t.pending.map (fun p => p.1) := by
          intro hm
          obtain ⟨p, hp, he⟩ := List.mem_map.mp hm
          exact Nat.lt_irrefl _ (he ▸ h.given p hp)
        simp only [List.map_append, List.map_cons, List.map_nil, List.nodup_append]
        refine ⟨h.distinct, by simp, ?_⟩
        intro a ha b hb hab
        exact hnew (by simpa [hab, List.mem_singleton.mp hb] using ha)
      · intro p hp
        rcases List.mem_append.mp hp with hp | hp
        · exact Nat.lt_succ_of_lt (h.given p hp)
        · rw [List.mem_singleton.mp hp]
          exact Nat.lt_succ_self _

/-- Forgetting keeps the numbers in order. -/
theorem Numbered.forget {t : Transport κ} (h : t.Numbered) (n : Serial) :
    (t.forget n).Numbered := by
  refine ⟨?_, fun p hp => h.given p (List.mem_filter.mp hp).1⟩
  exact (List.filter_sublist.map _).nodup h.distinct

end Transport

end ModemWatch
