import ModemWatch.Device.Decision
import ModemWatch.Failure

/-!
# Monitor variants

A device monitor comes in two variants.  One tells the modem how the device is used (`ds`, device
state), the other narrows the indications that the modem sends while the display is off (`if`,
indication filter).  A profile says everything that differs between them: which signals a session
observes, which decisions it draws from them, and which it draws from polling.

* `Profile.compute_apply` — a rule's value depends only on the signals that it lists, so a change
  of any other signal needs no look at the rule;
* `Profile.observes_of_dependsOn` — and all those signals are observed.
-/

namespace ModemWatch

/-- The two kinds of device monitor. -/
inductive Variant where
  | deviceState
  | indicationFilter
  deriving DecidableEq, Repr

instance : Named Variant where
  all := [.deviceState, .indicationFilter]
  name
    | .deviceState => "ds"
    | .indicationFilter => "if"

/-- A decision drawn from the signals. -/
structure DecisionRule where
  cls : RequestClass
  /-- Signals whose changes can matter to the decision. -/
  inputs : List SignalKind
  compute : Snapshot → Bool
  /-- Value that the modem is taken to hold when a session starts.  Without one the first value is
  always sent. -/
  initial : Option Bool

/-- A change of the signal can matter to the decision. -/
def DecisionRule.dependsOn (r : DecisionRule) (k : SignalKind) : Bool := r.inputs.contains k

/-- A decision drawn from polling. -/
structure PollRule where
  cls : RequestClass
  compute : PollSample → Bool
  initial : Option Bool

/-- All that differs between the variants. -/
structure Profile where
  /-- Signals that a session subscribes to. -/
  signals : List SignalKind
  rules : List DecisionRule
  pollRules : List PollRule

/-- A session subscribes to the signal. -/
def Profile.observes (p : Profile) (k : SignalKind) : Bool := p.signals.contains k

/-- The classes of the requests that a session may send, in the order of its rules. -/
def Profile.classes (p : Profile) : List RequestClass := p.rules.map (fun r => r.cls)

/-- Profile of the device state monitor. -/
def Profile.deviceState : Profile where
  signals := [.display, .battery, .charger, .tethering]
  rules :=
    [{ cls := .lowDataExpected
       inputs := [.display, .charger, .tethering]
       compute := Snapshot.lowDataExpected
       initial := some false },
     { cls := .chargingState
       inputs := [.charger]
       compute := Snapshot.charging
       initial := some false }]
  pollRules :=
    [{ cls := .lowDataExpected, compute := PollSample.lowData, initial := some false },
     { cls := .chargingState, compute := PollSample.charging, initial := some false }]

/-- Profile of the indication filter monitor.  What filter the modem starts with is not known. -/
def Profile.indicationFilter : Profile where
  signals := [.display, .battery, .charger]
  rules :=
    [{ cls := .indicationFilter
       inputs := [.display]
       compute := Snapshot.displayOn
       initial := none }]
  pollRules := []

namespace Variant

/-- The profile of a variant. -/
def profile : Variant → Profile
  | .deviceState => .deviceState
  | .indicationFilter => .indicationFilter

/-- The variant that a word names. -/
def ofWord (word : String) : Except Failure Variant :=
  match Named.ofName? word with
  | some v => .ok v
  | none => .error (.config s!"unknown variant '{word}'")

end Variant

/-- A rule's value survives any change of a signal that the rule does not list. -/
theorem Profile.compute_apply {v : Variant} {r : DecisionRule} (hr : r ∈ v.profile.rules)
    {u : SignalUpdate} (h : r.dependsOn u.kind = false) (s : Snapshot) :
    r.compute (s.apply u) = r.compute s := by
  obtain ⟨kind, update⟩ := u
  cases v <;> simp [Variant.profile, deviceState, indicationFilter] at hr
  · rcases hr with rfl | rfl <;> cases kind <;>
      first
      | rfl
      | simp [DecisionRule.dependsOn] at h
  · subst hr
    cases kind <;>
      first
      | rfl
      | simp [DecisionRule.dependsOn] at h

/-- A session observes every signal that one of its rules lists. -/
theorem Profile.observes_of_dependsOn {v : Variant} {r : DecisionRule}
    (hr : r ∈ v.profile.rules) {k : SignalKind} (h : r.dependsOn k = true) :
    v.profile.observes k = true := by
  cases v <;> simp [Variant.profile, deviceState, indicationFilter] at hr
  · cases k <;> rfl
  · subst hr
    cases k <;> first | rfl | exact absurd h (by decide)

/-- A profile draws one decision for each class. -/
theorem Profile.classes_nodup (v : Variant) : v.profile.classes.Nodup := by
  cases v <;> decide

end ModemWatch
