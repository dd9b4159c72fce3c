import ModemWatch.Files.Notifier

/-!
# Handles in use

Those who set up watches hold handles.  A handle may be closed and dropped at any time and in any
order, and closed again after that; dropping one that is still open closes it.

* `Watches.step` — what may be done with a notifier and its handles;
* `Watches.handles_closeAt`, `Watches.handles_dropAt` — what becomes of the handles.
-/

namespace ModemWatch

/-- A notifier and all handles it ever gave out, oldest first; nothing is left of one that was
dropped. -/
structure Watches (κ : Type) where
  notifier : Notifier κ := {}
  handles : List (Option WatchHandle) := []

namespace Watches

variable {κ : Type}

/-- What somebody may do with a notifier and its handles.  A handle is named by its place among all
handles. -/
inductive Deed (κ : Type) where
  | watch (path : String) (owner : κ)
  | failNext (reason : String)
  | emit (event : WatchEvent)
  | close (i : Nat)
  | drop (i : Nat)

/-- What is left of a handle. -/
def handle? (i : Nat) (w : Watches κ) : Option WatchHandle := (w.handles[i]?).join

/-- Closes a handle. -/
def closeAt (i : Nat) (w : Watches κ) : Watches κ :=
  match w.handle? i with
  | none => w
  | some h => ⟨(h.close w.notifier).2, w.handles.set i (some (h.close w.notifier).1)⟩

/-- Drops a handle, which closes it first. -/
def dropAt (i : Nat) (w : Watches κ) : Watches κ :=
  { w.closeAt i with handles := (w.closeAt i).handles.set i none }

/-- One step. -/
def step (w : Watches κ) : Deed κ → Watches κ
  | .watch path owner =>
    match w.notifier.watch path owner with
    | (.error _, n) => { w with notifier := n }
    | (.ok id, n) => ⟨n, w.handles ++ [some ⟨path, some id⟩]⟩
  | .failNext reason => { w with notifier := w.notifier.failNextWatch reason }
  | .emit _ => w
  | .close i => w.closeAt i
  | .drop i => w.dropAt i

/-- What a row of steps makes of a new notifier. -/
def run (deeds : List (Deed κ)) : Watches κ := deeds.foldl step {}

theorem run_concat (deeds : List (Deed κ)) (deed : Deed κ) :
    run (deeds ++ [deed]) = (run deeds).step deed := by
  rw [run, List.foldl_append]
  rfl

theorem handles_closeAt (i : Nat) (w : Watches κ) :
    (w.closeAt i).handles =
      w.handles.set i ((w.handle? i).map (fun h => { h with guard := none })) := by
  cases hh : w.handle? i with
  | none =>
      -- no handle is there, so none is what is put back
      have hsame : w.handles.set i none = w.handles := by
        refine List.ext_getElem? ?_
        intro j
        rw [List.getElem?_set]
        by_cases hij : i = j
        · subst hij
          rw [handle?] at hh
          cases hi : w.handles[i]? with
          | none => simpa using hi
          | some o =>
              have hlt := (List.getElem?_eq_some_iff.mp hi).1
              rw [hi] at hh
              simp [hlt, show o = none from hh]
        · rw [if_neg hij]
      rw [closeAt, hh, Option.map_none, hsame]
  | some h =>
      have hclosed : (h.close w.notifier).1 = { h with guard := none } := by
        unfold WatchHandle.close
        split
        case h_1 hnone => rw [← hnone]
        case h_2 => rfl
      rw [closeAt, hh, Option.map_some, ← hclosed]

theorem handles_dropAt (i : Nat) (w : Watches κ) : (w.dropAt i).handles = w.handles.set i none := by
  rw [dropAt, handles_closeAt, List.set_set]

end Watches

end ModemWatch
