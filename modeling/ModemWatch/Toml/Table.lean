import ModemWatch.Data.Datum

/-!
# Tables of a TOML text

A TOML text builds its tables bit by bit: headers open tables, dotted keys add to them, and each
may only be defined once.  What counts is how a table came about.  A table that was only passed
through on the way to another one may still get a header of its own.  A table made by dotted keys
may get more dotted keys but no header.  A table with a header takes no dotted keys from outside.
Values, inline tables among them, are closed.

* `Table.within` — does something in the table at a path, making tables on the way;
* `Table.insert` — a key with its value;
* `Draft.openTable`, `Draft.openElement` — the two kinds of header;
* `Draft.finish` — the finished text.
-/

namespace ModemWatch.Toml

/-- How a table came about. -/
inductive Origin where
  /-- By a header of its own, or as the table of the whole text. -/
  | header
  /-- On the way of a header to a table inside it. -/
  | passage
  /-- By a dotted key. -/
  | dotted
  deriving DecidableEq, Repr

/-- What stands behind a key. -/
inductive Node where
  | value (value : Datum)
  | table (origin : Origin) (entries : List (String × Node))
  /-- Tables that share a header; each is written after the other. -/
  | elements (tables : List (List (String × Node)))

/-- Keys with what stands behind them, in the order in which they came. -/
abbrev Table := List (String × Node)

namespace Table

/-- Puts something else behind a key that is there. -/
def replace (key : String) (node : Node) (t : Table) : Table :=
  t.map (fun e => if e.1 == key then (key, node) else e)

/-- Does something in the table at the end of a path.  Tables that are not there are made; of
tables that share a header the last one is meant.  A path of dotted keys does not lead into a
table with a header. -/
def within {α : Type} (dotted : Bool) (act : Origin → Table → Option (α × Table)) :
    List String → Origin → Table → Option (α × Table)
  | [], origin, t => act origin t
  | key :: path, _, t =>
    let origin := if dotted then Origin.dotted else .passage
    match t.lookup key with
    | none =>
      (within dotted act path origin []).map
        (fun (a, inner) => (a, t ++ [(key, .table origin inner)]))
    | some (.value _) => none
    | some (.elements tables) =>
      match tables.reverse with
      | [] => none
      | last :: before =>
        (within dotted act path .header last).map
          (fun (a, inner) => (a, t.replace key (.elements (inner :: before).reverse)))
    | some (.table origin inner) =>
      if dotted && origin == .header then none
      else (within dotted act path origin inner).map
        (fun (a, inner) => (a, t.replace key (.table origin inner)))

/-- A new key behind all others. -/
def add (key : String) (node : Node) (t : Table) : Option Table :=
  if (t.lookup key).isSome then none else some (t ++ [(key, node)])

/-- A key with its value; `path` holds the parts of a dotted key before the last. -/
def insert (path : List String) (key : String) (value : Datum) (t : Table) : Option Table :=
  (within true (fun origin inner =>
    if !path.isEmpty && origin != .dotted then none
    else (add key (.value value) inner).map (fun inner => ((), inner))) path .header t).map
    (fun r => r.2)

/-- Takes a table out that was only passed through; a new one is empty. -/
def takePassage (key : String) (t : Table) : Option (Table × Table) :=
  match t.lookup key with
  | none => some ([], t)
  | some (.table .passage inner) => some (inner, t.filter (fun e => e.1 != key))
  | some _ => none

/-- Makes room for another table under a shared header. -/
def reserve (key : String) (t : Table) : Option Table :=
  match t.lookup key with
  | none => some (t ++ [(key, .elements [])])
  | some (.elements _) => some t
  | some _ => none

/-- Another table under a shared header. -/
def addElement (t element : Table) (key : String) : Option Table :=
  match t.lookup key with
  | some (.elements tables) => some (t.replace key (.elements (tables ++ [element])))
  | _ => none

end Table

/-- Where the table that is being filled belongs. -/
inductive Spot where
  /-- It is the table of the whole text. -/
  | root
  | table (path : List String) (key : String)
  | element (path : List String) (key : String)
  deriving DecidableEq, Repr

/-- A text that has been read in part: the tables that are finished, and the one being filled. -/
structure Draft where
  root : Table := []
  spot : Spot := .root
  current : Table := []

namespace Draft

/-- Puts the table that is being filled where it belongs. -/
def finish (d : Draft) : Option Table :=
  match d.spot with
  | .root => some d.current
  | .table path key =>
    (Table.within false (fun _ t => (t.add key (.table .header d.current)).map (fun t => ((), t)))
      path .header d.root).map (fun r => r.2)
  | .element path key =>
    (Table.within false (fun _ t => (t.addElement d.current key).map (fun t => ((), t)))
      path .header d.root).map (fun r => r.2)

/-- A key with its value in the table that is being filled. -/
def insert (path : List String) (key : String) (value : Datum) (d : Draft) : Option Draft :=
  (d.current.insert path key value).map (fun t => { d with current := t })

/-- A header of a table. -/
def openTable (path : List String) (key : String) (d : Draft) : Option Draft := do
  let root ← d.finish
  let (current, root) ← Table.within false (fun _ t => t.takePassage key) path .header root
  some { root := root, spot := .table path key, current := current }

/-- A header that tables share. -/
def openElement (path : List String) (key : String) (d : Draft) : Option Draft := do
  let root ← d.finish
  let (_, root) ← Table.within false (fun _ t => (t.reserve key).map (fun t => ((), t)))
    path .header root
  some { root := root, spot := .element path key, current := [] }

end Draft

mutual

/-- What a node says. -/
def Node.datum : Node → Datum
  | .value value => value
  | .table _ entries => .record (datumEntries entries)
  | .elements tables => .list (datumTables tables)

/-- What the nodes of a table say. -/
def datumEntries : List (String × Node) → List (String × Datum)
  | [] => []
  | (key, node) :: rest => (key, node.datum) :: datumEntries rest

/-- What tables under a shared header say. -/
def datumTables : List (List (String × Node)) → List Datum
  | [] => []
  | t :: rest => .record (datumEntries t) :: datumTables rest

end

end ModemWatch.Toml
