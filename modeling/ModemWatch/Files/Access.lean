import ModemWatch.Files.Content
import ModemWatch.Files.Path

/-!
# Getting at files

A program reads files and makes directories through `FileAccess`, whether the files are those of a
computer or exist on paper only.

A directory can be made only where all above it are there.  `FileAccess.makeDirectory` makes the
missing ones first.  It looks for them by cutting the path, so it never makes a place that the path
only passes through on a part that leads nowhere: for `a/.` it makes nothing, because what is left
after the cut is empty, and without `a` there is no `a/.` to make either.
-/

namespace ModemWatch

/-- Why a path leads nowhere, or why no directory can be made there. -/
inductive Obstacle where
  /-- Something on the way is not there. -/
  | missing
  /-- Something is in the way, or the path or a name in it is too long. -/
  | blocked
  deriving DecidableEq, Repr

/-- How to get at files. -/
structure FileAccess (m : Type → Type) where
  read : String → m FileContent
  /-- Makes one directory. -/
  make : String → m (Except Obstacle Unit)
  /-- A directory stands at a path. -/
  isDirectory : String → m Bool

namespace FileAccess

variable {m : Type → Type} [Monad m]

/-- Makes the first of some directories, each of which stands in the next; tells whether it is there
now. -/
def makeFirst (files : FileAccess m) : List String → m Bool
  | [] => return true
  | path :: above => do
    match ← files.make path with
    | .ok () => return true
    | .error .blocked => files.isDirectory path
    | .error .missing =>
      if ← makeFirst files above then
        match ← files.make path with
        | .ok () => return true
        | .error _ => files.isDirectory path
      else return false

/-- Makes a directory with all those above it that are missing; tells whether it is there now. -/
def makeDirectory (files : FileAccess m) (path : String) : m Bool :=
  files.makeFirst (path :: (Path.ancestors path).tail)

end FileAccess

end ModemWatch
