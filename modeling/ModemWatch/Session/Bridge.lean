import ModemWatch.Device.Variant
import ModemWatch.Files.Notifier

/-!
# The poll bridge

Some devices do not report everything through signals.  The poll bridge of a session looks at the
screen state file and the battery whenever the file changes, and draws decisions of its own from
what it finds.  These decisions are kept apart from those drawn from the signals: each of the two
only remembers what it found itself.

A bridge is alive while it holds an open watch on the screen state file.  A watch that cannot be
set up leaves the bridge as it was.

* `Bridge.start`, `Bridge.close` — the watch of a bridge;
* `Bridge.revise` — one look at the sources;
* `Bridge.start_of_error` — a failed start changes nothing about the bridge.
-/

namespace ModemWatch

/-- The watch and the decisions of a poll bridge. -/
structure Bridge where
  watch : Option WatchId := none
  decisions : DecisionSet := .empty
  deriving DecidableEq, Repr

namespace Bridge

/-- A bridge that is not watching yet; the rules say what the modem is taken to hold. -/
def new (rules : List PollRule) : Bridge :=
  { decisions := rules.foldl (fun d r => match r.initial with
      | none => d
      | some value => d.assume r.cls value) .empty }

/-- The bridge is watching. -/
def isAlive (b : Bridge) : Bool := b.watch.isSome

/-- Lets go of the watch, if the bridge has one. -/
def close {κ : Type} (b : Bridge) (n : Notifier κ) : Bridge × Notifier κ :=
  match b.watch with
  | none => (b, n)
  | some id => ({ b with watch := none }, n.close id)

/-- Watches the screen state file.  A watch from before is let go once the new one is set up. -/
def start {κ : Type} (path : String) (owner : κ) (b : Bridge) (n : Notifier κ) :
    Except Failure Unit × Bridge × Notifier κ :=
  match n.watch path owner with
  | (.error failure, n) => (.error failure, b, n)
  | (.ok id, n) =>
    let (b, n) := b.close n
    (.ok (), { b with watch := some id }, n)

/-- Values of the rules for one look at the sources. -/
def values (rules : List PollRule) (sample : PollSample) : List (RequestClass × Bool) :=
  rules.map (fun r => (r.cls, r.compute sample))

/-- Takes in one look at the sources; the values that are news come back. -/
def revise (rules : List PollRule) (sample : PollSample) (b : Bridge) :
    Bridge × List (RequestClass × Bool) :=
  let (decisions, news) := DecisionSet.revise (values rules sample) b.decisions
  ({ b with decisions := decisions }, news)

/-- A start whose watch cannot be set up leaves the bridge as it was. -/
theorem start_of_error {κ : Type} {path : String} {owner : κ} {b : Bridge} {n : Notifier κ}
    {failure : Failure} (h : (n.watch path owner).1 = .error failure) :
    b.start path owner n = (.error failure, b, (n.watch path owner).2) := by
  unfold start
  cases hw : n.watch path owner with
  | mk r n' => simp_all

end Bridge

end ModemWatch
