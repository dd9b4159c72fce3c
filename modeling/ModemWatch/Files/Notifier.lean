import ModemWatch.Failure
import ModemWatch.Files.Path

/-!
# Watching a file for changes

A notifier watches files and reports to whoever set up a watch that the file changed or that the
watch broke.  Watches are numbered and a number is never given out twice, so closing a watch for
the second time cannot hit a newer one.

* `Notifier.watch` sets up a watch, or fails if somebody arranged for that;
* `Notifier.emit` hands an event to the owners of the open watches;
* `Notifier.close` ends one; `Notifier.isOpen_close_ne` — the others stay open;
* `WatchHandle` is what whoever set up a watch holds of it; closing it again does nothing;
* `WatchTarget.ofPath?` finds the directory and the file name that a path stands for: the watch is
  set on the directory, so that the file may be replaced or created later.
-/

namespace ModemWatch

/-- What a watch reports. -/
inductive WatchEvent where
  | changed
  | failed (reason : String)
  deriving DecidableEq, Repr

/-- Number of a watch. -/
abbrev WatchId := Nat

/-- The open watches of a notifier.  The owner of a watch says where its reports go. -/
structure Notifier (κ : Type) where
  nextId : WatchId := 0
  /-- Open watches, oldest first. -/
  watches : List (WatchId × κ) := []
  /-- Why the next watch cannot be set up, if somebody arranged for that. -/
  failNext : Option String := none
  deriving DecidableEq, Repr

namespace Notifier

variable {κ : Type}

/-- The watch is open. -/
def isOpen (id : WatchId) (n : Notifier κ) : Bool := n.watches.any (fun w => w.1 == id)

/-- Arranges for the next watch to fail. -/
def failNextWatch (reason : String) (n : Notifier κ) : Notifier κ :=
  { n with failNext := some reason }

/-- Sets up a watch. -/
def watch (path : String) (owner : κ) (n : Notifier κ) : Except Failure WatchId × Notifier κ :=
  match n.failNext with
  | some reason => (.error (.watch path reason), { n with failNext := none })
  | none =>
    (.ok n.nextId, { n with nextId := n.nextId + 1, watches := n.watches ++ [(n.nextId, owner)] })

/-- Ends a watch; one that is not open is ignored. -/
def close (id : WatchId) (n : Notifier κ) : Notifier κ :=
  { n with watches := n.watches.filter (fun w => w.1 != id) }

/-- The owners that hear of an event, in the order in which they set up their watches. -/
def listeners (n : Notifier κ) : List κ := n.watches.map (fun w => w.2)

/-- An event as it goes out: to whom, in which order. -/
def emit (event : WatchEvent) (n : Notifier κ) : List (κ × WatchEvent) :=
  n.listeners.map (fun owner => (owner, event))

theorem watch_of_refused {n : Notifier κ} {reason : String} (h : n.failNext = some reason)
    (path : String) (owner : κ) :
    n.watch path owner = (.error (.watch path reason), { n with failNext := none }) := by
  rw [watch, h]

theorem watch_of_free {n : Notifier κ} (h : n.failNext = none) (path : String) (owner : κ) :
    n.watch path owner =
      (.ok n.nextId,
        { n with nextId := n.nextId + 1, watches := n.watches ++ [(n.nextId, owner)] }) := by
  rw [watch, h]

@[simp] theorem isOpen_close_self (id : WatchId) (n : Notifier κ) :
    (n.close id).isOpen id = false := by
  simp [isOpen, close]

/-- Ending a watch leaves the others as they are. -/
@[simp] theorem isOpen_close_ne {id other : WatchId} (h : other ≠ id) (n : Notifier κ) :
    (n.close id).isOpen other = n.isOpen other := by
  simp only [isOpen, close, List.any_filter]
  congr 1
  funext w
  by_cases hw : w.1 = other <;> simp [hw, h]

/-- Ending a watch that is not open does nothing. -/
theorem close_of_not_open {id : WatchId} {n : Notifier κ} (h : n.isOpen id = false) :
    n.close id = n := by
  have hkept : n.watches.filter (fun w => w.1 != id) = n.watches := by
    refine List.filter_eq_self.mpr ?_
    intro w hw
    simpa using List.any_eq_false.mp h w hw
  rw [close, hkept]

end Notifier

/-- What whoever set up a watch holds of it.  The guard is gone once the watch is closed. -/
structure WatchHandle where
  path : String
  guard : Option WatchId
  deriving DecidableEq, Repr

namespace WatchHandle

variable {κ : Type}

/-- The watch has not been closed through this handle. -/
def isOpen (h : WatchHandle) : Bool := h.guard.isSome

/-- Closes the watch, unless that was done before. -/
def close (h : WatchHandle) (n : Notifier κ) : WatchHandle × Notifier κ :=
  match h.guard with
  | none => (h, n)
  | some id => ({ h with guard := none }, n.close id)

end WatchHandle

/-- The file that a watch is about, and the directory that is watched for it. -/
structure WatchTarget where
  directory : String
  file : String
  deriving DecidableEq, Repr

namespace WatchTarget

/-- The directory and the file name that a path stands for.  A name alone stands for a file in the
working directory. -/
def ofPath? (path : String) : Option WatchTarget :=
  (Path.fileName? path).map (fun file => ⟨(Path.parent? path).getD ".", file⟩)

/-- Why a path cannot be watched: it stands for no file, or nothing stands where its directory
should be. -/
def failure? (stands : String → Bool) (path : String) : Option Failure :=
  match ofPath? path with
  | none => some (.watch path "not a file path")
  | some target =>
    if stands target.directory then none
    else some (.watch target.directory "no such directory")

end WatchTarget

end ModemWatch
