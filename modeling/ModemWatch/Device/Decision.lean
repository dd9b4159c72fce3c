import ModemWatch.Device.Snapshot
import ModemWatch.Radio.ByClass
import ModemWatch.Radio.Slot

/-!
# Decisions

A decision is drawn either from a snapshot of the signals or from a poll sample, one look at the
screen and the battery.  A signal that is not valid counts as inactive.

`DecisionSet` remembers the last value per request class.  A class without an entry has no assumed
value, so its first value always counts as news.  `DecisionSet.revise` records a list of values and
keeps those that are news; these, and only these, are worth sending.

* `DecisionSet.get_revise_of_mem`, `DecisionSet.get_revise_of_notMem` — what is recorded
  afterwards, for lists that name each class once.
-/

namespace ModemWatch

namespace Snapshot

/-- The battery is known to be in good shape. -/
def batteryOk (s : Snapshot) : Bool :=
  s.battery.valid && BatteryLevel.ok.rank ≤ s.battery.state.rank

/-- A charger is known to be connected. -/
def charging (s : Snapshot) : Bool := s.charger.valid && s.charger.state == .on

/-- The display is known not to be off; a dimmed display is on. -/
def displayOn (s : Snapshot) : Bool := s.display.valid && s.display.state != .off

/-- The device is known to share its connection. -/
def tetheringOn (s : Snapshot) : Bool := s.tethering.valid && s.tethering.state

/-- No sign of a user: not tethering, not charging, display off. -/
def lowDataExpected (s : Snapshot) : Bool := !s.tetheringOn && !s.charging && !s.displayOn

end Snapshot

/-- The two intervals at which cell information is polled. -/
structure Intervals where
  short : Millis := 2000
  long : Millis := 30000
  deriving DecidableEq, Repr

/-- One of the two intervals. -/
def Intervals.pick (i : Intervals) (short : Bool) : Millis := if short then i.short else i.long

/-- Short polling is wanted only while the display is on and power is no concern. -/
def Snapshot.wantsShort (s : Snapshot) : Bool := s.displayOn && (s.charging || s.batteryOk)

/-- The interval that the signals ask for. -/
def Snapshot.cellInfoInterval (s : Snapshot) (i : Intervals) : Millis := i.pick s.wantsShort

/-- One look at the screen and the battery. -/
structure PollSample where
  screenOn : Bool
  battery : PowerState
  deriving DecidableEq, Repr

namespace PollSample

/-- The screen is off and the battery drains. -/
def lowData (p : PollSample) : Bool := !p.screenOn && p.battery == .discharging

/-- External power feeds the battery. -/
def charging (p : PollSample) : Bool := p.battery.isCharging

/-- Short polling is wanted while the screen is on or external power is present. -/
def wantsShort (p : PollSample) : Bool := p.screenOn || p.charging

/-- The interval that the sample asks for. -/
def cellInfoInterval (p : PollSample) (i : Intervals) : Millis := i.pick p.wantsShort

end PollSample

/-- Last recorded value for each request class. -/
abbrev DecisionSet := ByClass (Option Bool)

namespace DecisionSet

/-- Nothing is recorded. -/
def empty : DecisionSet := .const none

/-- Records an assumed value, which is no news to anybody. -/
def assume (d : DecisionSet) (c : RequestClass) (value : Bool) : DecisionSet := d.set c (some value)

/-- Records a value and tells whether it is news. -/
def update (d : DecisionSet) (c : RequestClass) (value : Bool) : Bool × DecisionSet :=
  (d.get c != some value, d.set c (some value))

/-- Records values one after the other; those that are news come back, in order. -/
def revise : List (RequestClass × Bool) → DecisionSet → DecisionSet × List (RequestClass × Bool)
  | [], d => (d, [])
  | (c, value) :: rest, d =>
    let (news, d) := d.update c value
    let (d, more) := revise rest d
    (d, if news then (c, value) :: more else more)

/-- A class that the list does not name keeps its value. -/
theorem get_revise_of_notMem {values : List (RequestClass × Bool)} {c : RequestClass}
    (h : c ∉ values.map (fun v => v.1)) (d : DecisionSet) :
    (revise values d).1.get c = d.get c := by
  induction values generalizing d with
  | nil => rfl
  | cons v rest ih =>
    obtain ⟨c', value⟩ := v
    simp only [List.map_cons, List.mem_cons, not_or] at h
    simp only [revise, update]
    rw [ih h.2, ByClass.get_set_ne _ _ h.1]

/-- A class that the list names once has the value from the list. -/
theorem get_revise_of_mem {values : List (RequestClass × Bool)} {c : RequestClass} {value : Bool}
    (hn : (values.map (fun v => v.1)).Nodup) (h : (c, value) ∈ values) (d : DecisionSet) :
    (revise values d).1.get c = some value := by
  induction values generalizing d with
  | nil => simp at h
  | cons v rest ih =>
    obtain ⟨c', value'⟩ := v
    simp only [List.map_cons, List.nodup_cons] at hn
    simp only [revise, update]
    rcases List.mem_cons.mp h with h | h
    · cases h
      rw [get_revise_of_notMem hn.1, ByClass.get_set_self]
    · exact ih hn.2 h _

end DecisionSet

end ModemWatch
