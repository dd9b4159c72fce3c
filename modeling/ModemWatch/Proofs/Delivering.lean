import Mathlib.Data.List.Induction
import ModemWatch.Files.Watches

/-!
# Who hears of an event

Three things know of a watch: the notifier has it in its table, whoever set it up has a handle, and
the guard inside the handle has its number.  A handle may be closed as often as one likes and then
be dropped, watches come and go between that, and some are refused.  The three agree all the time,
and they agree with the history: open is whatever was set up and has not been closed or dropped
since.

* `Notifier.refusal` — why the next watch is refused, from the history;
* `Watches.setUps` — the watches that a history sets up, each with what came after it;
  `Watches.mem_created_iff` says which they are;
* `Watches.run_eq_told` — the table, the guards and the handles, from the history alone;
* `Watches.delivery_law` — who hears of an event, and what closing and refusing change.
-/

namespace ModemWatch

/-! ## Refusals -/

namespace Notifier

variable {α : Type}

/-- Why the next watch is refused after a row of steps.  The last step that bears on it decides:
`bearing` gives the reason of one that arranges for a refusal, and no reason for one that asks for a
watch, as it uses up what was arranged. -/
def refusal (bearing : α → Option (Option String)) (steps : List α) : Option String :=
  (steps.reverse.findSome? bearing).join

variable {bearing : α → Option (Option String)}

theorem refusal_concat (steps : List α) (a : α) :
    refusal bearing (steps ++ [a]) = (bearing a).getD (refusal bearing steps) := by
  rw [refusal, List.reverse_append, List.reverse_singleton, List.singleton_append,
    List.findSome?_cons]
  cases bearing a <;> rfl

/-- The next watch is refused for the reason arranged last, if nothing asked for a watch since. -/
theorem refusal_eq_some_iff {steps : List α} {reason : String} :
    refusal bearing steps = some reason ↔
      ∃ before a since, steps = before ++ a :: since ∧ bearing a = some (some reason) ∧
        ∀ x ∈ since, bearing x = none := by
  rw [refusal, Option.join_eq_some_iff, List.findSome?_eq_some_iff]
  constructor
  · intro h
    obtain ⟨since, a, before, hsplit, ha, hsince⟩ := h
    refine ⟨before.reverse, a, since.reverse, ?_, ha, ?_⟩
    · rw [← List.reverse_reverse steps, hsplit]
      simp
    · intro x hx
      exact hsince x (List.mem_reverse.mp hx)
  · intro h
    obtain ⟨before, a, since, rfl, ha, hsince⟩ := h
    refine ⟨since.reverse, a, before.reverse, by simp, ha, ?_⟩
    intro x hx
    exact hsince x (List.mem_reverse.mp hx)

end Notifier

namespace Watches

variable {κ : Type}

namespace Deed

/-- What a step means for the next watch. -/
def bearing : Deed κ → Option (Option String)
  | .watch .. => some none
  | .failNext reason => some (some reason)
  | .emit _ | .close _ | .drop _ => none

/-- The step ends the watch of a handle, if nothing ended it before. -/
def ends (i : Nat) : Deed κ → Bool
  | .close j | .drop j => i == j
  | .watch .. | .failNext _ | .emit _ => false

/-- The step drops a handle. -/
def drops (i : Nat) : Deed κ → Bool
  | .drop j => i == j
  | .watch .. | .failNext _ | .emit _ | .close _ => false

end Deed

/-! ## What a history sets up -/

/-- Why the next watch is refused. -/
def refusal (deeds : List (Deed κ)) : Option String := Notifier.refusal Deed.bearing deeds

/-- A watch that was set up, and all that was done after it. -/
structure SetUp (κ : Type) where
  number : Nat
  path : String
  owner : κ
  since : List (Deed κ)

namespace SetUp

/-- The watch that a step sets up after some others: it asks for one, and it is not refused. -/
def of? (before : List (Deed κ)) (number : Nat) (deed : Deed κ) (since : List (Deed κ)) :
    Option (SetUp κ) :=
  match deed, refusal before with
  | .watch path owner, none => some ⟨number, path, owner, since⟩
  | _, _ => none

/-- Nothing closed the watch or dropped its handle. -/
def isOpen (s : SetUp κ) : Bool := !s.since.any (Deed.ends s.number)

/-- What is left of the handle. -/
def handle (s : SetUp κ) : Option WatchHandle :=
  if s.since.any (Deed.drops s.number) then none
  else some ⟨s.path, if s.isOpen then some s.number else none⟩

/-- The same watch one step later. -/
def later (deed : Deed κ) (s : SetUp κ) : SetUp κ := { s with since := s.since ++ [deed] }

end SetUp

/-- The watches that a row of steps sets up after some others, with their numbers. -/
def setUps (before : List (Deed κ)) (next : Nat) : List (Deed κ) → List (SetUp κ)
  | [] => []
  | deed :: since =>
    let new := (SetUp.of? before next deed since).toList
    new ++ setUps (before ++ [deed]) (next + new.length) since

/-- All watches that were ever set up, oldest first. -/
def created (deeds : List (Deed κ)) : List (SetUp κ) := setUps [] 0 deeds

/-- The watches that are open. -/
def standing (deeds : List (Deed κ)) : List (SetUp κ) := (created deeds).filter SetUp.isOpen

/-- The notifier and the handles as the history has them. -/
def told (deeds : List (Deed κ)) : Watches κ where
  notifier := {
    nextId := (created deeds).length
    watches := (standing deeds).map (fun s => (s.number, s.owner))
    failNext := refusal deeds }
  handles := (created deeds).map SetUp.handle

variable {before deeds : List (Deed κ)} {deed : Deed κ} {number i : Nat} {s : SetUp κ}

theorem of?_eq_some_iff {since : List (Deed κ)} :
    SetUp.of? before number deed since = some s ↔
      deed = .watch s.path s.owner ∧ refusal before = none ∧ s.number = number ∧
        s.since = since := by
  obtain ⟨n, path, owner, rest⟩ := s
  unfold SetUp.of?
  split
  case h_1 hr =>
    rw [hr]
    grind
  case h_2 hother =>
    constructor
    · intro h
      cases h
    · intro h
      exact absurd h.2.1 (hother _ _ h.1)

theorem of?_concat (since : List (Deed κ)) (d : Deed κ) :
    SetUp.of? before number deed (since ++ [d]) =
      (SetUp.of? before number deed since).map (SetUp.later d) := by
  unfold SetUp.of?
  split <;> rfl

theorem setUps_concat (before deeds : List (Deed κ)) (next : Nat) (d : Deed κ) :
    setUps before next (deeds ++ [d]) =
      (setUps before next deeds).map (SetUp.later d) ++
        (SetUp.of? (before ++ deeds) (next + (setUps before next deeds).length) d []).toList := by
  induction deeds generalizing before next with
  | nil => simp [setUps]
  | cons deed since ih =>
      rw [List.cons_append, setUps, ih, of?_concat, setUps]
      simp [Option.toList_map, Nat.add_assoc]

/-- A step sets up one watch at most, and comes after all that were set up before. -/
theorem created_concat (deeds : List (Deed κ)) (d : Deed κ) :
    created (deeds ++ [d]) =
      (created deeds).map (SetUp.later d) ++
        (SetUp.of? deeds (created deeds).length d []).toList := by
  rw [created, setUps_concat, List.nil_append, Nat.zero_add]
  rfl

/-- **What was set up**: a watch that was asked for when no refusal was pending. -/
theorem mem_created_iff : s ∈ created deeds ↔
    ∃ before, deeds = before ++ .watch s.path s.owner :: s.since ∧ refusal before = none ∧
      s.number = (created before).length := by
  induction deeds using List.reverseRecOn generalizing s with
  | nil => simp [created, setUps]
  | append_singleton deeds d ih =>
      rw [created_concat, List.mem_append, List.mem_map, Option.mem_toList, of?_eq_some_iff]
      constructor
      · intro hs
        rcases hs with ⟨t, ht, rfl⟩ | ⟨rfl, hfree, hnumber, hsince⟩
        · obtain ⟨before, hsplit, hfree, hnumber⟩ := ih.mp ht
          exact ⟨before, by rw [hsplit]; simp [SetUp.later], hfree, hnumber⟩
        · exact ⟨deeds, by rw [hsince], hfree, hnumber⟩
      · intro hs
        obtain ⟨before, hsplit, hfree, hnumber⟩ := hs
        rcases List.eq_nil_or_concat s.since with hnil | ⟨since, last, hlast⟩
        · rw [hnil] at hsplit
          obtain ⟨rfl, hd⟩ := List.append_inj' hsplit rfl
          exact .inr ⟨List.singleton_inj.mp hd, hfree, hnumber, hnil⟩
        · have hsplit' : deeds ++ [d] =
              (before ++ .watch s.path s.owner :: since) ++ [last] := by
            rw [hsplit, hlast]
            simp
          obtain ⟨rfl, hd⟩ := List.append_inj' hsplit' rfl
          obtain rfl := List.singleton_inj.mp hd
          refine .inl ⟨{ s with since := since }, ih.mpr ⟨before, rfl, hfree, hnumber⟩, ?_⟩
          rw [SetUp.later, ← List.concat_eq_append, ← hlast]

/-- Watches are numbered in the order in which they are set up. -/
theorem numbers_created (deeds : List (Deed κ)) :
    (created deeds).map SetUp.number = List.range (created deeds).length := by
  induction deeds using List.reverseRecOn with
  | nil => rfl
  | append_singleton deeds d ih =>
      have hold : ((created deeds).map (SetUp.later d)).map SetUp.number =
          List.range (created deeds).length := by
        rw [List.map_map, ← ih]
        rfl
      rw [created_concat, List.map_append, hold, List.length_append, List.length_map]
      unfold SetUp.of?
      split
      · exact List.range_succ.symm
      · simp

/-- The number of a watch is its place among all of them. -/
theorem getElem?_created : (created deeds)[i]? = some s ↔ s ∈ created deeds ∧ s.number = i := by
  have hnumber : ∀ (j : Nat) (t : SetUp κ), (created deeds)[j]? = some t → t.number = j := by
    intro j t ht
    have hj : ((created deeds).map SetUp.number)[j]? = some t.number := by
      rw [List.getElem?_map, ht]
      rfl
    rw [numbers_created, List.getElem?_eq_some_iff] at hj
    obtain ⟨hlt, hj⟩ := hj
    rw [← hj, List.getElem_range]
  constructor
  · intro hs
    exact ⟨List.mem_of_getElem? hs, hnumber i s hs⟩
  · intro hs
    obtain ⟨hs, rfl⟩ := hs
    obtain ⟨j, hj⟩ := List.getElem?_of_mem hs
    rw [hnumber j s hj]
    exact hj

theorem set_map_created {β : Type} (f : SetUp κ → β) (i : Nat) (x : β) :
    ((created deeds).map f).set i x =
      (created deeds).map (fun s => if s.number = i then x else f s) := by
  refine List.ext_getElem? ?_
  intro j
  rw [List.getElem?_set, List.getElem?_map, List.length_map, List.getElem?_map]
  cases hj : (created deeds)[j]? with
  | none =>
      have hle := List.getElem?_eq_none_iff.mp hj
      split <;> [skip; rfl]
      exact if_neg (by omega)
  | some s =>
      have hlt := (List.getElem?_eq_some_iff.mp hj).1
      rw [Option.map_some, Option.map_some, (getElem?_created.mp hj).2]
      by_cases hij : i = j
      · rw [if_pos hij, if_pos (by omega), if_pos hij.symm]
      · rw [if_neg hij, if_neg (Ne.symm hij)]

/-! ## One more step -/

theorem isOpen_later (d : Deed κ) (s : SetUp κ) :
    (s.later d).isOpen = (s.isOpen && !d.ends s.number) := by
  simp [SetUp.isOpen, SetUp.later]

theorem Deed.ends_of_drops {d : Deed κ} (h : d.drops i = true) : d.ends i = true := by
  cases d <;> simp_all [Deed.drops, Deed.ends]

/-- What a step leaves of a handle. -/
theorem handle_later (d : Deed κ) (s : SetUp κ) :
    (s.later d).handle = if d.drops s.number then none
      else if d.ends s.number then s.handle.map (fun h => { h with guard := none })
      else s.handle := by
  have hdropped : (s.later d).since.any (Deed.drops (s.later d).number) =
      (s.since.any (Deed.drops s.number) || d.drops s.number) := by
    simp [SetUp.later]
  unfold SetUp.handle
  rw [hdropped, isOpen_later]
  cases s.since.any (Deed.drops s.number) <;> cases d.drops s.number <;>
    cases d.ends s.number <;> simp [SetUp.later]

/-- The guard of a handle is there as long as the watch is open. -/
theorem guard_handle (s : SetUp κ) :
    s.handle.bind (fun h => h.guard) = if s.isOpen then some s.number else none := by
  unfold SetUp.handle
  split
  case isTrue hdropped =>
    obtain ⟨d, hd, hdrops⟩ := List.any_eq_true.mp hdropped
    have hended : s.since.any (Deed.ends s.number) = true :=
      List.any_eq_true.mpr ⟨d, hd, Deed.ends_of_drops hdrops⟩
    simp [SetUp.isOpen, hended]
  case isFalse => rfl

theorem watches_told_concat (deeds : List (Deed κ)) (d : Deed κ) :
    (told (deeds ++ [d])).notifier.watches =
      (told deeds).notifier.watches.filter (fun w => !d.ends w.1) ++
        (SetUp.of? deeds (created deeds).length d []).toList.map
          (fun s => (s.number, s.owner)) := by
  have hnew : (SetUp.of? deeds (created deeds).length d []).toList.filter SetUp.isOpen =
      (SetUp.of? deeds (created deeds).length d []).toList := by
    unfold SetUp.of?
    split <;> rfl
  have hold : (((created deeds).map (SetUp.later d)).filter SetUp.isOpen).map
      (fun s => (s.number, s.owner)) =
        (told deeds).notifier.watches.filter (fun w => !d.ends w.1) := by
    simp only [told, standing, List.filter_map, List.filter_filter, List.map_map, Function.comp_def,
      isOpen_later, Bool.and_comm]
    rfl
  rw [← hold, ← hnew, ← List.map_append, ← List.filter_append, ← created_concat]
  rfl

/-- One more step, in the history. -/
theorem told_concat (deeds : List (Deed κ)) (d : Deed κ) :
    let new := (SetUp.of? deeds (created deeds).length d []).toList
    told (deeds ++ [d]) =
      { notifier := {
          nextId := (told deeds).notifier.nextId + new.length
          watches := (told deeds).notifier.watches.filter (fun w => !d.ends w.1) ++
            new.map (fun s => (s.number, s.owner))
          failNext := d.bearing.getD (refusal deeds) }
        handles := (created deeds).map (fun s => (s.later d).handle) ++ new.map SetUp.handle } := by
  intro new
  have hlength : (created (deeds ++ [d])).length = (created deeds).length + new.length := by
    rw [created_concat, List.length_append, List.length_map]
  have hhandles : (created (deeds ++ [d])).map SetUp.handle =
      (created deeds).map (fun s => (s.later d).handle) ++ new.map SetUp.handle := by
    rw [created_concat, List.map_append, List.map_map]
    rfl
  have hrefusal : refusal (deeds ++ [d]) = d.bearing.getD (refusal deeds) :=
    Notifier.refusal_concat deeds d
  rw [← watches_told_concat, ← hhandles, ← hrefusal]
  simp only [told, hlength]

/-- A step that asks for no watch, in the history. -/
theorem told_concat_of_not_watch (deeds : List (Deed κ)) {d : Deed κ}
    (hd : ∀ path owner, d ≠ .watch path owner) :
    told (deeds ++ [d]) =
      { notifier := {
          nextId := (told deeds).notifier.nextId
          watches := (told deeds).notifier.watches.filter (fun w => !d.ends w.1)
          failNext := d.bearing.getD (refusal deeds) }
        handles := (created deeds).map (fun s => (s.later d).handle) } := by
  have hnone : SetUp.of? deeds (created deeds).length d [] = none := by
    refine Option.eq_none_iff_forall_ne_some.mpr ?_
    intro s hs
    exact hd s.path s.owner (of?_eq_some_iff.mp hs).1
  rw [told_concat, hnone]
  simp

/-- The watches of the table and the guards of the handles are the same ones. -/
theorem guard_told (deeds : List (Deed κ)) (i : Nat) :
    ((told deeds).handle? i).bind (fun h => h.guard) =
      if (told deeds).notifier.isOpen i then some i else none := by
  have hopen : (told deeds).notifier.isOpen i = true ↔
      ∃ s, (created deeds)[i]? = some s ∧ s.isOpen = true := by
    simp only [Notifier.isOpen, told, standing, List.any_map, List.any_filter, List.any_eq_true,
      Function.comp_apply, Bool.and_eq_true, beq_iff_eq, getElem?_created]
    grind
  have hhandle : (told deeds).handle? i = ((created deeds)[i]?).bind SetUp.handle := by
    rw [handle?, told, List.getElem?_map]
    cases (created deeds)[i]? <;> rfl
  rw [hhandle]
  cases hi : (created deeds)[i]? with
  | none =>
      have hnot : ¬(told deeds).notifier.isOpen i = true := by
        rw [hopen, hi]
        simp
      rw [if_neg hnot]
      rfl
  | some s =>
      rw [Option.bind_some, guard_handle, (getElem?_created.mp hi).2]
      refine if_congr ?_ rfl rfl
      rw [hopen, hi]
      simp

theorem notifier_closeAt {w : Watches κ}
    (hguard : (w.handle? i).bind (fun h => h.guard) =
      if w.notifier.isOpen i then some i else none) :
    (w.closeAt i).notifier = w.notifier.close i := by
  unfold closeAt
  cases hopen : w.notifier.isOpen i with
  | false =>
      rw [Notifier.close_of_not_open hopen]
      rw [hopen] at hguard
      cases hh : w.handle? i with
      | none => rfl
      | some h =>
          rw [hh] at hguard
          have hnone : h.guard = none := hguard
          simp [WatchHandle.close, hnone]
  | true =>
      rw [hopen, if_pos rfl, Option.bind_eq_some_iff] at hguard
      obtain ⟨h, hh, hsome⟩ := hguard
      simp [hh, WatchHandle.close, hsome]

theorem handles_told : (told deeds).handles = (created deeds).map SetUp.handle := rfl

theorem handle?_told (hs : s ∈ created deeds) : (told deeds).handle? s.number = s.handle := by
  rw [handle?, handles_told, List.getElem?_map, getElem?_created.mpr ⟨hs, rfl⟩]
  rfl

theorem notifier_closeAt_told (deeds : List (Deed κ)) (i : Nat) :
    ((told deeds).closeAt i).notifier = (told deeds).notifier.close i :=
  notifier_closeAt (guard_told deeds i)

/-- Closing a handle, in the history. -/
theorem closeAt_told (deeds : List (Deed κ)) (i : Nat) :
    (told deeds).closeAt i = told (deeds ++ [.close i]) := by
  have hhandles : ((told deeds).closeAt i).handles =
      (created deeds).map (fun s => (s.later (.close i)).handle) := by
    rw [handles_closeAt, handles_told, set_map_created]
    refine List.map_congr_left ?_
    intro s hs
    rw [handle_later, ← handle?_told hs]
    simp only [Deed.drops, Deed.ends]
    grind
  rw [told_concat_of_not_watch deeds (by simp), ← hhandles]
  exact congrArg (Watches.mk · _) (notifier_closeAt_told deeds i)

/-- Dropping a handle, in the history. -/
theorem dropAt_told (deeds : List (Deed κ)) (i : Nat) :
    (told deeds).dropAt i = told (deeds ++ [.drop i]) := by
  have hhandles : ((told deeds).dropAt i).handles =
      (created deeds).map (fun s => (s.later (.drop i)).handle) := by
    rw [handles_dropAt, handles_told, set_map_created]
    refine List.map_congr_left ?_
    intro s _
    rw [handle_later]
    simp only [Deed.drops, Deed.ends]
    grind
  rw [told_concat_of_not_watch deeds (by simp), ← hhandles]
  exact congrArg (Watches.mk · _) (notifier_closeAt_told deeds i)

/-- A step that ends no watch leaves the handles as they are. -/
theorem handle_later_of_not_ends {d : Deed κ} (hd : d.ends s.number = false) :
    (s.later d).handle = s.handle := by
  have hkept : d.drops s.number = false := by
    by_contra hdrops
    rw [Deed.ends_of_drops (eq_true_of_ne_false hdrops)] at hd
    cases hd
  rw [handle_later, hd, hkept]
  rfl

/-- A step that neither asks for a watch nor ends one, in the history. -/
theorem told_concat_of_idle (deeds : List (Deed κ)) {d : Deed κ}
    (hd : ∀ path owner, d ≠ .watch path owner) (hends : ∀ i, d.ends i = false) :
    told (deeds ++ [d]) = { told deeds with
      notifier := { (told deeds).notifier with failNext := d.bearing.getD (refusal deeds) } } := by
  have hwatches : (told deeds).notifier.watches.filter (fun w => !d.ends w.1) =
      (told deeds).notifier.watches := by
    simp [hends]
  have hhandles : (created deeds).map (fun s => (s.later d).handle) = (told deeds).handles :=
    List.map_congr_left (fun s _ => handle_later_of_not_ends (hends s.number))
  rw [told_concat_of_not_watch deeds hd, hwatches, hhandles]

/-- Asking for a watch, in the history. -/
theorem watch_told (deeds : List (Deed κ)) (path : String) (owner : κ) :
    (told deeds).step (.watch path owner) = told (deeds ++ [.watch path owner]) := by
  have hwatches : (told deeds).notifier.watches.filter
      (fun w => !(Deed.watch path owner).ends w.1) = (told deeds).notifier.watches := by
    simp [Deed.ends]
  have hhandles : (created deeds).map (fun s => (s.later (.watch path owner)).handle) =
      (told deeds).handles :=
    List.map_congr_left (fun s _ => handle_later_of_not_ends rfl)
  rw [told_concat, hwatches, hhandles]
  cases hr : refusal deeds with
  | some reason =>
      have hnone : SetUp.of? deeds (created deeds).length (.watch path owner) [] = none := by
        simp only [SetUp.of?, hr]
      have hpending : (told deeds).notifier.failNext = some reason := hr
      rw [step, Notifier.watch_of_refused hpending, hnone]
      simp [Deed.bearing]
  | none =>
      have hsome : SetUp.of? deeds (created deeds).length (.watch path owner) [] =
          some ⟨(created deeds).length, path, owner, []⟩ := by
        simp only [SetUp.of?, hr]
      have hpending : (told deeds).notifier.failNext = none := hr
      rw [step, Notifier.watch_of_free hpending, hsome]
      simp only [Deed.bearing, hpending]
      rfl

/-- **One step** changes the table, the guards and the handles the way the history says. -/
theorem step_told (deeds : List (Deed κ)) (d : Deed κ) :
    (told deeds).step d = told (deeds ++ [d]) := by
  cases d with
  | watch path owner => exact watch_told deeds path owner
  | failNext reason =>
      rw [told_concat_of_idle deeds (by simp) (fun _ => rfl)]
      rfl
  | emit event =>
      rw [told_concat_of_idle deeds (by simp) (fun _ => rfl)]
      rfl
  | close i => exact closeAt_told deeds i
  | drop i => exact dropAt_told deeds i

/-- **All that a notifier and its handles know is told by the history.** -/
theorem run_eq_told (deeds : List (Deed κ)) : run deeds = told deeds := by
  induction deeds using List.reverseRecOn with
  | nil => rfl
  | append_singleton deeds d ih => rw [run_concat, ih, step_told]

/-! ## What follows -/

/-- A handle counts as open as long as its watch is. -/
theorem any_handle (s : SetUp κ) : s.handle.any WatchHandle.isOpen = s.isOpen := by
  have hguard := guard_handle s
  cases hs : s.handle with
  | none => cases ho : s.isOpen <;> simp_all
  | some h => cases ho : s.isOpen <;> simp_all [WatchHandle.isOpen]

/-- An event goes to the owners of the open watches. -/
theorem emit_run (deeds : List (Deed κ)) (event : WatchEvent) :
    (run deeds).notifier.emit event = (standing deeds).map (fun s => (s.owner, event)) := by
  rw [run_eq_told, Notifier.emit, Notifier.listeners, told, List.map_map, List.map_map]
  rfl

theorem length_watches_run (deeds : List (Deed κ)) :
    (run deeds).notifier.watches.length = (created deeds).countP SetUp.isOpen := by
  rw [run_eq_told, told, List.length_map, standing, ← List.countP_eq_length_filter]

/-- As many handles are open as watches. -/
theorem countP_handles_run (deeds : List (Deed κ)) :
    (run deeds).handles.countP (fun h => h.any WatchHandle.isOpen) =
      (created deeds).countP SetUp.isOpen := by
  rw [run_eq_told, handles_told, List.countP_map]
  refine List.countP_congr ?_
  intro s _
  rw [Function.comp_apply, any_handle]

theorem length_handles_run (deeds : List (Deed κ)) :
    (run deeds).handles.length = (created deeds).length := by
  rw [run_eq_told, handles_told, List.length_map]

/-- A step that ends a watch ends no other. -/
theorem notifier_run_of_ends {d : Deed κ} (hd : d.ends i = true) (deeds : List (Deed κ)) :
    (run (deeds ++ [d])).notifier = (run deeds).notifier.close i := by
  rw [run_concat, run_eq_told]
  cases d with
  | watch | failNext | emit => cases hd
  | close j | drop j =>
      obtain rfl : i = j := eq_of_beq hd
      exact notifier_closeAt_told deeds i

/-- A refusal is pending if it was arranged and nothing asked for a watch since. -/
theorem refusal_eq_some_iff (deeds : List (Deed κ)) (reason : String) :
    refusal deeds = some reason ↔
      ∃ before since, deeds = before ++ .failNext reason :: since ∧
        ∀ d ∈ since, d.bearing = none := by
  have harranged : ∀ d : Deed κ, d.bearing = some (some reason) ↔ d = .failNext reason := by
    intro d
    cases d <;> simp [Deed.bearing]
  simp only [refusal, Notifier.refusal_eq_some_iff, harranged]
  grind

/-- Why a watch is refused. -/
theorem watch_run_eq_error_iff (deeds : List (Deed κ)) (path : String) (owner : κ)
    (failure : Failure) :
    ((run deeds).notifier.watch path owner).1 = .error failure ↔
      ∃ before reason since, deeds = before ++ .failNext reason :: since ∧
        (∀ d ∈ since, d.bearing = none) ∧ failure = .watch path reason := by
  have hpending : (run deeds).notifier.failNext = refusal deeds := by
    rw [run_eq_told]
    rfl
  have hrefused : ((run deeds).notifier.watch path owner).1 = .error failure ↔
      ∃ reason, refusal deeds = some reason ∧ failure = .watch path reason := by
    cases hr : refusal deeds with
    | none =>
        rw [Notifier.watch_of_free (hpending.trans hr)]
        simp
    | some reason =>
        rw [Notifier.watch_of_refused (hpending.trans hr)]
        simp [eq_comm]
  simp only [hrefused, refusal_eq_some_iff]
  grind

/-- Asking for a watch, by what comes of it. -/
theorem run_concat_watch (deeds : List (Deed κ)) (path : String) (owner : κ) :
    let w := run deeds
    match (w.notifier.watch path owner).1 with
    | .error _ => run (deeds ++ [.watch path owner]) =
        { w with notifier := { w.notifier with failNext := none } }
    | .ok id => id = w.handles.length ∧ run (deeds ++ [.watch path owner]) =
        { notifier := {
            nextId := id + 1
            watches := w.notifier.watches ++ [(id, owner)]
            failNext := none }
          handles := w.handles ++ [some ⟨path, some id⟩] } := by
  intro w
  have hnext : w.notifier.nextId = w.handles.length := by
    rw [length_handles_run]
    exact congrArg (fun w => w.notifier.nextId) (run_eq_told deeds)
  rw [run_concat]
  change match (w.notifier.watch path owner).1 with
    | .error _ => w.step (.watch path owner) = _
    | .ok id => id = w.handles.length ∧ w.step (.watch path owner) = _
  cases hf : w.notifier.failNext with
  | none =>
      simp only [step, Notifier.watch_of_free hf]
      exact ⟨hnext, by rw [hf]⟩
  | some reason => simp only [step, Notifier.watch_of_refused hf]

/-- Steps that end the watch of one handle, any number of them: the other watches stay as they are,
and if the handle was closed or dropped before, all watches do. -/
theorem run_append_of_ends (deeds : List (Deed κ)) {again : List (Deed κ)}
    (hagain : ∀ d ∈ again, d.ends i = true) :
    (run (deeds ++ again)).notifier.watches.filter (fun v => v.1 != i) =
        (run deeds).notifier.watches.filter (fun v => v.1 != i) ∧
      ((run deeds).notifier.isOpen i = false →
        (run (deeds ++ again)).notifier = (run deeds).notifier) := by
  induction again using List.reverseRecOn with
  | nil =>
      rw [List.append_nil]
      exact ⟨rfl, fun _ => rfl⟩
  | append_singleton again d ih =>
      have hd : d.ends i = true := hagain d (by simp)
      obtain ⟨hothers, hsame⟩ := ih (fun e he => hagain e (by simp [he]))
      rw [← List.append_assoc, notifier_run_of_ends hd]
      constructor
      · rw [← hothers, Notifier.close, List.filter_filter]
        simp
      · intro hclosed
        rw [hsame hclosed, Notifier.close_of_not_open hclosed]

/-- **Delivery.**  Whatever was done with a notifier and its handles, in whatever order:

* an event goes to the owners of the watches that were set up and neither closed nor dropped since,
  once to each, in the order in which they were set up;
* there are as many open watches as there are handles neither closed nor dropped, and the guard of a
  handle is there exactly if the watch of the same number is open;
* the numbers are those of the handles, in order, so none is given out twice; closing and dropping
  one handle as often as one likes leaves all other watches as they are, and changes nothing if the
  handle was closed or dropped before;
* a watch is refused exactly if that was arranged after the last attempt to set one up, and the
  reason is the one given last.  A refusal uses up the arrangement and changes nothing else;
  otherwise there is one more watch, with the next number, and one more handle. -/
theorem delivery_law (deeds : List (Deed κ)) :
    let w := run deeds
    (∀ event, w.notifier.emit event = (standing deeds).map (fun s => (s.owner, event))) ∧
    (w.notifier.watches.length = (created deeds).countP SetUp.isOpen ∧
      w.notifier.watches.length = w.handles.countP (fun h => h.any WatchHandle.isOpen) ∧
      ∀ i, (w.handle? i).bind (fun h => h.guard) = if w.notifier.isOpen i then some i else none) ∧
    ((created deeds).map SetUp.number = List.range w.handles.length ∧
      ∀ i again, (∀ d ∈ again, d.ends i = true) →
        (run (deeds ++ again)).notifier.watches.filter (fun v => v.1 != i) =
            w.notifier.watches.filter (fun v => v.1 != i) ∧
          (w.notifier.isOpen i = false → (run (deeds ++ again)).notifier = w.notifier)) ∧
    (∀ path owner,
      (∀ failure, (w.notifier.watch path owner).1 = .error failure ↔
        ∃ before reason since, deeds = before ++ .failNext reason :: since ∧
          (∀ d ∈ since, d.bearing = none) ∧ failure = .watch path reason) ∧
      match (w.notifier.watch path owner).1 with
      | .error _ => run (deeds ++ [.watch path owner]) =
          { w with notifier := { w.notifier with failNext := none } }
      | .ok id => id = w.handles.length ∧ run (deeds ++ [.watch path owner]) =
          { notifier := {
              nextId := id + 1
              watches := w.notifier.watches ++ [(id, owner)]
              failNext := none }
            handles := w.handles ++ [some ⟨path, some id⟩] }) := by
  intro w
  have hlength := length_watches_run deeds
  have hhandles := hlength.trans (countP_handles_run deeds).symm
  refine ⟨emit_run deeds, ⟨hlength, hhandles, ?_⟩, ⟨?_, ?_⟩, ?_⟩
  · intro i
    have hw : w = told deeds := run_eq_told deeds
    rw [hw]
    exact guard_told deeds i
  · rw [length_handles_run]
    exact numbers_created deeds
  · intro i again hagain
    exact run_append_of_ends deeds hagain
  · intro path owner
    exact ⟨watch_run_eq_error_iff deeds path owner, run_concat_watch deeds path owner⟩

/-- Two watches, one of which is closed, a refusal that is arranged twice, and a third watch. -/
def afternoon : List (Deed Nat) :=
  [.watch "/run/screen" 7, .watch "/run/screen" 8, .close 0, .failNext "no inotify",
    .failNext "table full", .watch "/run/screen" 9, .watch "/run/screen" 9]

/-- That afternoon leaves two watches, whose owners hear of an event; closing the first handle once
more and dropping it changes nothing.  The refusal was for the second reason. -/
theorem delivery_law_of_afternoon :
    (run afternoon).notifier.emit .changed = [(8, .changed), (9, .changed)] ∧
    (run afternoon).handles.countP (fun h => h.any WatchHandle.isOpen) = 2 ∧
    (run (afternoon ++ [.close 0, .drop 0])).notifier = (run afternoon).notifier ∧
    ((run (afternoon.take 5)).notifier.watch "/run/screen" 9).1 =
      .error (.watch "/run/screen" "table full") := by
  obtain ⟨hemit, ⟨-, hcount, -⟩, ⟨-, hagain⟩, -⟩ := delivery_law afternoon
  obtain ⟨-, -, -, hwatch⟩ := delivery_law (afternoon.take 5)
  have hended : ∀ d ∈ [Deed.close 0, .drop 0], (d : Deed Nat).ends 0 = true := by
    intro d hd
    simp only [List.mem_cons, List.not_mem_nil, or_false] at hd
    rcases hd with rfl | rfl <;> rfl
  refine ⟨(hemit .changed).trans (by rfl), hcount.symm.trans (by decide), ?_, ?_⟩
  · exact (hagain 0 _ hended).2 (by decide)
  · refine ((hwatch "/run/screen" 9).1 _).mpr ?_
    exact ⟨afternoon.take 4, "table full", [], rfl, by simp, rfl⟩

end Watches

end ModemWatch
