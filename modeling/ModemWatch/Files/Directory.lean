import ModemWatch.Files.Access

/-!
# Files on paper

A file tree holds files and directories under their places.  A place is the list of names that
lead to it from the root, so the root itself is the empty list.  Paths are texts: a path that
begins with `/` leads from the root, any other from the working directory, and each of its steps
needs a directory to start from.

* `FileTree.find` — where a path leads, or what keeps it from leading anywhere;
* `FileTree.read` — what comes back when somebody reads a path;
* `FileTree.make` — makes one directory;
* `FileTree.access` — all of this for a program that changes the tree while it runs.
-/

namespace ModemWatch

/-- The names that lead to a file or a directory from the root. -/
abbrev Place := List String

/-- Files and directories, and the directory that paths lead from. -/
structure FileTree where
  workingDirectory : Place := []
  directories : List Place := []
  files : List (Place × List UInt8) := []

namespace FileTree

/-- A directory stands at a place; the root always does. -/
def isDirectoryAt (place : Place) (t : FileTree) : Bool :=
  place.isEmpty || t.directories.contains place

/-- What stands at a place. -/
def contentAt (place : Place) (t : FileTree) : FileContent :=
  if t.isDirectoryAt place then .unreadable
  else match t.files.lookup place with
    | none => .missing
    | some content => .bytes content

/-- Adds a directory and all those above it. -/
def addDirectory (place : Place) (t : FileTree) : FileTree :=
  { t with
    directories := (List.range place.length).map (fun n => place.take (n + 1)) ++ t.directories }

/-- Adds what stands at a place; the directories above it are added as well. -/
def add (place : Place) (content : FileContent) (t : FileTree) : FileTree :=
  let t := t.addDirectory place.dropLast
  match content with
  | .missing => t
  | .unreadable => t.addDirectory place
  | .bytes bytes => { t with files := (place, bytes) :: t.files }

/-- Takes the step that a part of a path stands for.  It must start from a directory. -/
def step (t : FileTree) (place : Place) (part : String) : Except Obstacle Place :=
  match t.contentAt place with
  | .missing => .error .missing
  | .bytes _ => .error .blocked
  | .unreadable =>
    if Path.longestName < part.utf8ByteSize then .error .blocked
    else if Path.isIdle part then .ok place
    else if part == ".." then .ok place.dropLast
    else .ok (place ++ [part])

/-- Takes one step after the other. -/
def walk (t : FileTree) : Place → List String → Except Obstacle Place
  | place, [] => .ok place
  | place, part :: parts =>
    match t.step place part with
    | .error obstacle => .error obstacle
    | .ok next => walk t next parts

/-- The steps of a path and where they start, unless it is empty or too long. -/
def route (path : String) (t : FileTree) : Except Obstacle (Place × List String) :=
  if path == "" then .error .missing
  else if Path.longestPath < path.utf8ByteSize then .error .blocked
  else .ok (if path.startsWith "/" then [] else t.workingDirectory, path.splitOn "/")

/-- The place that a path leads to. -/
def find (path : String) (t : FileTree) : Except Obstacle Place := do
  let (start, parts) ← t.route path
  t.walk start parts

/-- What stands at a path. -/
def read (path : String) (t : FileTree) : FileContent :=
  match t.find path with
  | .error _ => .missing
  | .ok place => t.contentAt place

/-- A path leads to a directory. -/
def isDirectory (path : String) (t : FileTree) : Bool :=
  match t.find path with
  | .error _ => false
  | .ok place => t.isDirectoryAt place

/-- Makes one directory.  Slashes behind its name do not matter. -/
def make (path : String) (t : FileTree) : Except Obstacle FileTree := do
  let (start, parts) ← t.route path
  match parts.reverse.dropWhile (fun part => part == "") with
  | [] => .error .blocked
  | last :: above =>
    let place ← t.step (← t.walk start above.reverse) last
    match t.contentAt place with
    | .missing => .ok (t.addDirectory place)
    | .unreadable | .bytes _ => .error .blocked

/-- The path from the root that leads where a path leads. -/
def absolute (path : String) (t : FileTree) : String :=
  if path.startsWith "/" then path
  else "/" ++ "/".intercalate (t.workingDirectory ++ [path])

/-- How a program gets at a tree. -/
def access : FileAccess (StateM FileTree) where
  read path := do return (← get).read path
  make path := do
    match (← get).make path with
    | .error obstacle => return .error obstacle
    | .ok t =>
      set t
      return .ok ()
  isDirectory path := do return (← get).isDirectory path

end FileTree

end ModemWatch
