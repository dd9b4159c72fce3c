/-!
# Modem slots

A modem slot polls cell information at one interval, but several sessions may want one.  Each
owner has at most one request: a later one replaces it, dropping it removes it.  The shortest
request applies.  A listener hears of the applied interval when it changes, beginning from
"nothing requested" which is not announced.

* `IntervalTable.set`, `IntervalTable.drop` — the two calls; each says what the listener hears;
* `IntervalTable.requested?_set_self`, `IntervalTable.requested?_set_ne`,
  `IntervalTable.requested?_drop_self`, `IntervalTable.requested?_drop_ne` — every owner has the
  request it made last;
* `Slot` keeps the table together with the calls it got and what its listener heard, until
  somebody collects them.
-/

namespace ModemWatch

/-- A time span in milliseconds. -/
abbrev Millis := UInt32

/-- Whoever requests an interval. -/
abbrev Owner := Nat

/-- Requested intervals of one slot, and the one that applies. -/
structure IntervalTable where
  requests : List (Owner × Millis) := []
  /-- The interval that applies; nothing if nobody requests one. -/
  applied : Option Millis := none
  deriving DecidableEq, Repr

namespace IntervalTable

/-- The interval that an owner requests. -/
def requested? (owner : Owner) (t : IntervalTable) : Option Millis :=
  (t.requests.find? (fun r => r.1 == owner)).map (fun r => r.2)

/-- The shortest of all requests. -/
def shortest (requests : List (Owner × Millis)) : Option Millis :=
  (requests.map (fun r => r.2)).min?

/-- Puts a new list of requests in force.  The listener hears of the applied interval only if it
is another one than before. -/
def put (requests : List (Owner × Millis)) (t : IntervalTable) :
    IntervalTable × List (Option Millis) :=
  let shortest := shortest requests
  (⟨requests, shortest⟩, if shortest = t.applied then [] else [shortest])

/-- Replaces the request of an owner. -/
def set (owner : Owner) (ms : Millis) (t : IntervalTable) : IntervalTable × List (Option Millis) :=
  t.put (t.requests.filter (fun r => r.1 != owner) ++ [(owner, ms)])

/-- Removes the request of an owner, if it has one. -/
def drop (owner : Owner) (t : IntervalTable) : IntervalTable × List (Option Millis) :=
  t.put (t.requests.filter (fun r => r.1 != owner))

private theorem find?_without {owner other : Owner} (h : other ≠ owner)
    (l : List (Owner × Millis)) :
    (l.filter (fun r => r.1 != owner)).find? (fun r => r.1 == other)
      = l.find? (fun r => r.1 == other) := by
  rw [List.find?_filter]
  congr 1
  funext r
  by_cases hr : r.1 = other <;> simp [hr, h]

private theorem find?_without_self (owner : Owner) (l : List (Owner × Millis)) :
    (l.filter (fun r => r.1 != owner)).find? (fun r => r.1 == owner) = none := by
  simp

@[simp] theorem requested?_set_self (owner : Owner) (ms : Millis) (t : IntervalTable) :
    (t.set owner ms).1.requested? owner = some ms := by
  simp only [requested?, set, put, List.find?_append, find?_without_self]
  simp

@[simp] theorem requested?_set_ne {owner other : Owner} (h : other ≠ owner) (ms : Millis)
    (t : IntervalTable) : (t.set owner ms).1.requested? other = t.requested? other := by
  have : (owner == other) = false := by simpa using fun e => h e.symm
  simp [requested?, set, put, List.find?_append, find?_without h, this]

@[simp] theorem requested?_drop_self (owner : Owner) (t : IntervalTable) :
    (t.drop owner).1.requested? owner = none := by
  simp [requested?, drop, put]

@[simp] theorem requested?_drop_ne {owner other : Owner} (h : other ≠ owner) (t : IntervalTable) :
    (t.drop owner).1.requested? other = t.requested? other := by
  simp only [requested?, drop, put, find?_without h]

end IntervalTable

/-- A call that a session makes on its slot. -/
inductive SlotCall where
  | set (owner : Owner) (ms : Millis)
  | drop (owner : Owner)
  deriving DecidableEq, Repr

/-- Whoever a call is made for. -/
def SlotCall.owner : SlotCall → Owner
  | set owner _ | drop owner => owner

/-- A slot with a record of what happened since somebody last collected it. -/
structure Slot where
  intervals : IntervalTable := {}
  /-- Calls, oldest first. -/
  calls : List SlotCall := []
  /-- What the listener heard, oldest first. -/
  heard : List (Option Millis) := []
  deriving DecidableEq, Repr

namespace Slot

/-- Carries out and records one call. -/
def take (call : SlotCall) (s : Slot) : Slot :=
  let (intervals, heard) := match call with
    | .set owner ms => s.intervals.set owner ms
    | .drop owner => s.intervals.drop owner
  { intervals := intervals, calls := s.calls ++ [call], heard := s.heard ++ heard }

/-- Empties the record. -/
def collect (s : Slot) : Slot := { intervals := s.intervals }

end Slot

end ModemWatch
