import Mathlib.Data.List.Destutter
import Mathlib.Data.List.Induction
import ModemWatch.Radio.Slot

/-!
# What a modem slot applies

Whoever calls a slot, and in whatever order, the slot comes to hold what each owner requested last
and did not drop since, and the shortest of these requests applies.  The interval that applies is
kept beside the requests.  It may change with any call: a request may be the shortest, may replace
the shortest by a longer one, or may be the shortest that is dropped.  The listener hears of these
changes and of nothing else.

* `IntervalTable.Consistent` — a table that lists what it shows and applies the shortest of it;
* `Slot.requested?_take`, `Slot.heard_take` — what one call does;
* `Slot.requested?_takeAll` — each owner has the request of its last call;
* `Slot.Told` — a listener that was told of every change, kept by each call and each collection;
* `Slot.shortest_request_applies` — all of it together, for any calls.
-/

namespace ModemWatch

/-- The interval that a call asks for. -/
def SlotCall.interval? : SlotCall → Option Millis
  | set _ ms => some ms
  | drop _ => none

/-- A call that asks for an interval. -/
theorem SlotCall.eq_set_iff {call : SlotCall} {owner : Owner} {ms : Millis} :
    call = .set owner ms ↔ call.owner = owner ∧ call.interval? = some ms := by
  cases call <;> simp [SlotCall.owner, interval?]

namespace IntervalTable

variable {t : IntervalTable} {owner : Owner} {ms : Millis}

/-- A table in order: its list has what it shows, and the shortest request applies. -/
structure Consistent (t : IntervalTable) : Prop where
  listed : ∀ owner ms, t.requested? owner = some ms ↔ (owner, ms) ∈ t.requests
  shortest : t.applied = IntervalTable.shortest t.requests

theorem consistent_new : ({} : IntervalTable).Consistent :=
  ⟨by simp [requested?], rfl⟩

theorem Consistent.set (h : t.Consistent) (owner : Owner) (ms : Millis) :
    (t.set owner ms).1.Consistent where
  listed other m := by
    by_cases ho : other = owner
    · subst ho
      rw [requested?_set_self]
      simp [IntervalTable.set, put, eq_comm]
    · rw [requested?_set_ne ho, h.listed]
      simp [IntervalTable.set, put, ho]
  shortest := rfl

theorem Consistent.drop (h : t.Consistent) (owner : Owner) : (t.drop owner).1.Consistent where
  listed other m := by
    by_cases ho : other = owner
    · subst ho
      rw [requested?_drop_self]
      simp [IntervalTable.drop, put]
    · rw [requested?_drop_ne ho, h.listed]
      simp [IntervalTable.drop, put, ho]
  shortest := rfl

/-- Some interval applies if it is requested and none that is requested is shorter. -/
theorem Consistent.applied_eq_some_iff (h : t.Consistent) :
    t.applied = some ms ↔ (∃ owner, t.requested? owner = some ms) ∧
      ∀ owner m, t.requested? owner = some m → ms ≤ m := by
  have hmem : ∀ m, m ∈ t.requests.map (fun r => r.2) ↔ ∃ owner, t.requested? owner = some m := by
    simp [h.listed]
  rw [h.shortest, IntervalTable.shortest, List.min?_eq_some_iff, hmem]
  refine and_congr_right fun _ => ?_
  simp only [hmem, forall_exists_index]
  exact forall_comm

/-- No interval applies if none is requested. -/
theorem Consistent.applied_eq_none_iff (h : t.Consistent) :
    t.applied = none ↔ ∀ owner, t.requested? owner = none := by
  rw [h.shortest, IntervalTable.shortest, List.min?_eq_none_iff, List.map_eq_nil_iff,
    List.eq_nil_iff_forall_not_mem]
  simp [Option.eq_none_iff_forall_ne_some, h.listed]

/-- **Whoever requests nothing has nothing to drop.** -/
theorem Consistent.drop_of_unknown (h : t.Consistent) (hnone : t.requested? owner = none) :
    t.drop owner = (t, []) := by
  have hall : t.requests.filter (fun r => r.1 != owner) = t.requests := by
    rw [List.filter_eq_self]
    intro r hr
    have hne : r.1 ≠ owner := by
      rintro rfl
      rw [(h.listed r.1 r.2).mpr hr] at hnone
      cases hnone
    simpa using hne
  rw [IntervalTable.drop, hall, put, ← h.shortest, if_pos rfl]

end IntervalTable

namespace Slot

/-- A slot gets calls, one after the other. -/
def takeAll (calls : List SlotCall) (s : Slot) : Slot :=
  calls.foldl (fun s call => s.take call) s

/-- What applies after each of some calls. -/
def applications : List SlotCall → Slot → List (Option Millis)
  | [], _ => []
  | call :: calls, s => (s.take call).intervals.applied :: applications calls (s.take call)

theorem takeAll_append (a b : List SlotCall) (s : Slot) :
    s.takeAll (a ++ b) = (s.takeAll a).takeAll b :=
  List.foldl_append

theorem takeAll_concat (calls : List SlotCall) (call : SlotCall) (s : Slot) :
    s.takeAll (calls ++ [call]) = (s.takeAll calls).take call :=
  takeAll_append ..

variable {s : Slot} {owner : Owner}

/-! ## Requests -/

/-- A call settles what its owner requests, and nothing about the others. -/
theorem requested?_take (call : SlotCall) (s : Slot) (owner : Owner) :
    (s.take call).intervals.requested? owner =
      if call.owner = owner then call.interval? else s.intervals.requested? owner := by
  cases call with
  | set o ms =>
      by_cases ho : o = owner
      · subst ho
        simp [take, SlotCall.owner, SlotCall.interval?]
      · simp [take, SlotCall.owner, ho, Ne.symm ho]
  | drop o =>
      by_cases ho : o = owner
      · subst ho
        simp [take, SlotCall.owner, SlotCall.interval?]
      · simp [take, SlotCall.owner, ho, Ne.symm ho]

/-- **An owner requests what its last call asked for**, and what it did before if it made none. -/
theorem requested?_takeAll (calls : List SlotCall) (s : Slot) (owner : Owner) :
    (s.takeAll calls).intervals.requested? owner =
      (calls.filter (fun call => call.owner == owner)).getLast?.elim
        (s.intervals.requested? owner) SlotCall.interval? := by
  induction calls using List.reverseRecOn with
  | nil => rfl
  | append_singleton calls call ih =>
      rw [takeAll_concat, requested?_take, ih, List.filter_append]
      by_cases ho : call.owner = owner <;> simp [ho]

/-- The last call of an owner was a request. -/
theorem getLast?_elim_interval?_iff (calls : List SlotCall) (owner : Owner) (ms : Millis) :
    (calls.filter (fun call => call.owner == owner)).getLast?.elim none SlotCall.interval? =
        some ms ↔
      ∃ before later, calls = before ++ .set owner ms :: later ∧
        ∀ call ∈ later, call.owner ≠ owner := by
  simp only [List.getLast?_filter]
  constructor
  · intro hlast
    cases hfind : calls.reverse.find? (fun call => call.owner == owner) with
    | none => rw [hfind] at hlast; cases hlast
    | some call =>
        rw [hfind] at hlast
        obtain ⟨howner, later, before, hsplit, hlater⟩ := List.find?_eq_some_iff_append.mp hfind
        obtain rfl := SlotCall.eq_set_iff.mpr ⟨beq_iff_eq.mp howner, hlast⟩
        refine ⟨before.reverse, later.reverse, ?_, fun c hc => ?_⟩
        · rw [← List.reverse_reverse calls, hsplit]
          simp
        · simpa using hlater c (List.mem_reverse.mp hc)
  · rintro ⟨before, later, rfl, hlater⟩
    have hfind : (before ++ .set owner ms :: later).reverse.find?
        (fun call => call.owner == owner) = some (.set owner ms) := by
      rw [List.find?_eq_some_iff_append]
      refine ⟨beq_self_eq_true owner, later.reverse, before.reverse, by simp, fun c hc => ?_⟩
      simpa using hlater c (List.mem_reverse.mp hc)
    rw [hfind]
    rfl

theorem consistent_take (h : s.intervals.Consistent) (call : SlotCall) :
    (s.take call).intervals.Consistent := by
  cases call with
  | set owner ms => exact h.set owner ms
  | drop owner => exact h.drop owner

theorem consistent_takeAll (h : s.intervals.Consistent) (calls : List SlotCall) :
    (s.takeAll calls).intervals.Consistent := by
  induction calls generalizing s with
  | nil => exact h
  | cons call calls ih => exact ih (consistent_take h call)

/-- What calls lead to does not depend on which calls were recorded before. -/
theorem takeAll_congr {s' : Slot} (hintervals : s'.intervals = s.intervals)
    (hheard : s'.heard = s.heard) (calls : List SlotCall) :
    (s'.takeAll calls).intervals = (s.takeAll calls).intervals ∧
      (s'.takeAll calls).heard = (s.takeAll calls).heard := by
  induction calls generalizing s s' with
  | nil => exact ⟨hintervals, hheard⟩
  | cons call calls ih =>
      refine ih ?_ ?_ <;> cases call <;> simp only [take, hintervals, hheard]

/-! ## The listener -/

/-- The listener hears what applies after a call if it is something else than before. -/
theorem heard_take (call : SlotCall) (s : Slot) :
    (s.take call).heard = s.heard ++
      if (s.take call).intervals.applied = s.intervals.applied then []
      else [(s.take call).intervals.applied] := by
  cases call <;> rfl

/-- **What the listener hears of some calls** is what applies after each, without repetitions. -/
theorem heard_takeAll (calls : List SlotCall) (s : Slot) :
    ∃ news, (s.takeAll calls).heard = s.heard ++ news ∧
      s.intervals.applied :: news =
        (s.applications calls).destutter' (· ≠ ·) s.intervals.applied := by
  induction calls generalizing s with
  | nil => exact ⟨[], by simp [takeAll], rfl⟩
  | cons call calls ih =>
      obtain ⟨news, hheard, hnews⟩ := ih (s.take call)
      rw [heard_take] at hheard
      rw [applications, List.destutter'_cons]
      by_cases hsame : (s.take call).intervals.applied = s.intervals.applied
      · refine ⟨news, ?_, ?_⟩
        · rwa [if_pos hsame, List.append_nil] at hheard
        · rw [if_neg (not_not_intro hsame.symm), ← hsame, hnews]
      · refine ⟨(s.take call).intervals.applied :: news, ?_, ?_⟩
        · rw [if_neg hsame, List.append_assoc] at hheard
          exact hheard
        · rw [if_pos (Ne.symm hsame), hnews]

/-- A listener that was told of every change: what it heard, collected or not, has no repetitions,
and the last of it applies.  That nothing applied at first is not announced. -/
structure Told (said : List (Option Millis)) (s : Slot) : Prop where
  changing : (none :: (said ++ s.heard)).IsChain (· ≠ ·)
  last : (none :: (said ++ s.heard)).getLast? = some s.intervals.applied

theorem told_new : Told [] {} := ⟨List.isChain_singleton none, rfl⟩

theorem Told.take {said : List (Option Millis)} (h : s.Told said) (call : SlotCall) :
    (s.take call).Told said := by
  by_cases hsame : (s.take call).intervals.applied = s.intervals.applied
  · have hheard : (s.take call).heard = s.heard := by
      rw [heard_take, if_pos hsame, List.append_nil]
    refine ⟨?_, ?_⟩
    · rw [hheard]
      exact h.changing
    · rw [hheard, hsame]
      exact h.last
  · have hheard : none :: (said ++ (s.take call).heard) =
        (none :: (said ++ s.heard)) ++ [(s.take call).intervals.applied] := by
      rw [heard_take, if_neg hsame]
      simp
    refine ⟨?_, ?_⟩
    · rw [hheard, List.isChain_append]
      refine ⟨h.changing, List.isChain_singleton _, fun x hx y hy => ?_⟩
      rw [h.last] at hx
      cases hx
      cases hy
      exact Ne.symm hsame
    · rw [hheard, List.getLast?_append]
      rfl

/-- Whoever collects has what was heard. -/
theorem Told.collect {said : List (Option Millis)} (h : s.Told said) :
    s.collect.Told (said ++ s.heard) := by
  refine ⟨?_, ?_⟩
  · simpa [Slot.collect] using h.changing
  · simpa [Slot.collect] using h.last

theorem Told.takeAll {said : List (Option Millis)} (h : s.Told said) (calls : List SlotCall) :
    (s.takeAll calls).Told said := by
  induction calls generalizing s with
  | nil => exact h
  | cons call calls ih => exact ih (h.take call)

/-! ## All of it -/

/-- **The shortest request applies, and the listener is told.**  Take a slot that got any calls, by
any owners.

An owner requests what it asked for last, if it did not make a call since, which would replace or
drop it.  The interval that applies is requested by somebody, and nobody requests a shorter one; no
interval applies exactly if nobody requests one.  What the listener heard is what applied after each
of the calls, without repetitions, after an unreported nothing; so it never heard the same twice in
a row, and the last that it heard applies.  If an owner that requests nothing drops its request,
nobody can tell, neither then nor after any further calls. -/
theorem shortest_request_applies (calls : List SlotCall) :
    let s := takeAll calls {}
    (∀ owner ms, s.intervals.requested? owner = some ms ↔
      ∃ before later, calls = before ++ .set owner ms :: later ∧
        ∀ call ∈ later, call.owner ≠ owner) ∧
    (∀ ms, s.intervals.applied = some ms ↔ (∃ owner, s.intervals.requested? owner = some ms) ∧
      ∀ owner m, s.intervals.requested? owner = some m → ms ≤ m) ∧
    (s.intervals.applied = none ↔ ∀ owner, s.intervals.requested? owner = none) ∧
    none :: s.heard = (none :: applications calls {}).destutter (· ≠ ·) ∧
    (none :: s.heard).IsChain (· ≠ ·) ∧
    (none :: s.heard).getLast? = some s.intervals.applied ∧
    ∀ owner, s.intervals.requested? owner = none → ∀ later,
      (takeAll (calls ++ .drop owner :: later) {}).intervals =
        (takeAll (calls ++ later) {}).intervals ∧
      (takeAll (calls ++ .drop owner :: later) {}).heard = (takeAll (calls ++ later) {}).heard := by
  intro s
  have hc : s.intervals.Consistent := consistent_takeAll IntervalTable.consistent_new calls
  have htold : s.Told [] := told_new.takeAll calls
  obtain ⟨news, hheard, hnews⟩ := heard_takeAll calls {}
  refine ⟨fun owner ms => ?_, fun ms => hc.applied_eq_some_iff, hc.applied_eq_none_iff, ?_,
    htold.changing, htold.last, fun owner hnone later => ?_⟩
  · rw [requested?_takeAll]
    exact getLast?_elim_interval?_iff calls owner ms
  · exact (congrArg (none :: ·) hheard).trans hnews
  · rw [takeAll_append, takeAll_append]
    have hdrop : s.take (.drop owner) = { s with calls := s.calls ++ [.drop owner] } := by
      simp only [take, hc.drop_of_unknown hnone, List.append_nil]
    have hintervals : (s.take (.drop owner)).intervals = s.intervals := by rw [hdrop]
    have hheard : (s.take (.drop owner)).heard = s.heard := by rw [hdrop]
    exact takeAll_congr hintervals hheard later

/-- Two owners, of whom one asks for a shorter interval, then for a longer one, and a third that has
nothing to drop. -/
theorem shortest_request_applies_to_two :
    let calls : List SlotCall :=
      [.set 0 500, .set 1 200, .set 1 200, .set 1 900, .drop 0, .set 1 900]
    let s := takeAll calls {}
    s.intervals.applied = some 900 ∧ s.heard = [some 500, some 200, some 500, some 900] ∧
      (takeAll (calls ++ [.drop 7, .drop 1]) {}).heard = s.heard ++ [none] := by
  intro calls s
  obtain ⟨-, -, -, hchanges, -, hlast, hdrop⟩ := shortest_request_applies calls
  have hheard : s.heard = [some 500, some 200, some 500, some 900] :=
    (List.cons.inj (hchanges.trans rfl)).2
  refine ⟨?_, hheard, (hdrop 7 rfl [.drop 1]).2.trans rfl⟩
  rw [hheard] at hlast
  exact (Option.some.inj hlast).symm

end Slot

end ModemWatch
