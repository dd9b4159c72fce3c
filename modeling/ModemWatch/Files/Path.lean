/-!
# Paths

A path is a text of parts between slashes.  A part that is empty or `.` leads nowhere, except that
an empty first part is the root and a `.` in front is a place to start from.

Cutting a path down to a path on its way takes the last part that leads somewhere off its end,
together with everything behind it.  What stands in front is kept as it was written: it leads to the
same place with or without the parts that lead nowhere, but they count where the length of a path
is limited.

* `Path.ancestors` lists what is left after each cut;
* `Path.fileName?` is the name of the file that a path stands for.
-/

namespace ModemWatch.Path

/-- No path with more bytes leads anywhere. -/
def longestPath : Nat := 4095

/-- No file and no directory has a name with more bytes. -/
def longestName : Nat := 255

/-- A part that leads nowhere. -/
def isIdle (part : String) : Bool := part == "" || part == "."

/-- A path from its first part and those behind it, last one first. -/
def ofParts (first : String) (behind : List String) : String :=
  if first == "" && behind.isEmpty then "/" else "/".intercalate (first :: behind.reverse)

/-- What is left of a path after each cut; `behind` are the parts behind the first, last one
first. -/
def ancestorsOf (first : String) : List String → List String
  | [] => [ofParts first []]
  | part :: above =>
    if isIdle part then ancestorsOf first above
    else ofParts first (part :: above) :: ancestorsOf first above

/-- A path without parts that lead nowhere at its end, and what is left of it after each cut.  The
root is its own last ancestor; a path from somewhere else ends with its first part. -/
def ancestors (path : String) : List String :=
  match path.splitOn "/" with
  | [] => []
  | first :: behind => ancestorsOf first behind.reverse

/-- The path that is left after one cut, if anything is left. -/
def parent? (path : String) : Option String := (ancestors path).tail.head?

/-- The last name on a path.  A path without one, or that leads back up at its end, stands for no
file. -/
def fileName? (path : String) : Option String :=
  match (path.splitOn "/").reverse.find? (fun part => !isIdle part) with
  | none | some ".." => none
  | some name => some name

end ModemWatch.Path
