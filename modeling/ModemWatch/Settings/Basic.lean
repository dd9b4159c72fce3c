import ModemWatch.Device.Variant
import ModemWatch.Failure

/-!
# Settings

The settings of a device name the variants to track, the two polling intervals, and where the
screen state file and the power supplies are found.  Not every value makes sense: intervals must
not be zero, and the short one must not exceed the long one.

* `Settings.validate` — rejects settings that no session could work with;
* `Settings.validate_eq_ok_iff` — and accepts exactly those with `0 < short ≤ long`;
* `Settings.tracked` — the variants to run: each tracked one once, in the order of the variants.
-/

namespace ModemWatch

/-- What to track, and how often cell information is polled. -/
structure TrackingSettings where
  tracking : List Variant := [.deviceState]
  short : Millis := 2000
  long : Millis := 30000
  deriving DecidableEq, Repr

/-- The sources that are polled. -/
structure PollSettings where
  enabled : Bool := true
  /-- The file whose line begins with `yes` while the screen is on. -/
  screenStatePath : String := "/var/lib/batman/screen"
  /-- The directory with the power supplies. -/
  powerSupplyDir : String := "/sys/class/power_supply"
  deriving DecidableEq, Repr

/-- The settings of a device. -/
structure Settings where
  devmon : TrackingSettings := {}
  poll : PollSettings := {}
  deriving DecidableEq, Repr

/-- Why settings cannot be used. -/
inductive InvalidSettings where
  | zeroInterval
  | shortExceedsLong (short long : Millis)
  deriving DecidableEq, Repr

namespace InvalidSettings

/-- The reason in words. -/
def reason : InvalidSettings → String
  | zeroInterval => "cell info intervals must be non-zero"
  | shortExceedsLong short long =>
    s!"short cell info interval ({short.toNat} ms) exceeds long interval ({long.toNat} ms)"

/-- The failure that a user gets to see. -/
def failure (i : InvalidSettings) : Failure := .configInvalid i.reason

end InvalidSettings

namespace Settings

/-- The two polling intervals. -/
def intervals (s : Settings) : Intervals := ⟨s.devmon.short, s.devmon.long⟩

/-- Rejects settings that no session could work with. -/
def validate (s : Settings) : Except InvalidSettings Unit :=
  if s.devmon.short = 0 ∨ s.devmon.long = 0 then .error .zeroInterval
  else if s.devmon.long < s.devmon.short then
    .error (.shortExceedsLong s.devmon.short s.devmon.long)
  else .ok ()

/-- The tracked variants, each once, in the order of the variants. -/
def tracked (s : Settings) : List Variant :=
  (Named.all : List Variant).filter (fun v => s.devmon.tracking.contains v)

/-- The file to watch, if the screen is to be polled. -/
def watchPath (s : Settings) : Option String :=
  if s.poll.enabled then some s.poll.screenStatePath else none

/-- The same settings with other variants to track. -/
def withTracking (tracking : List Variant) (s : Settings) : Settings :=
  { s with devmon := { s.devmon with tracking := tracking } }

/-- The same settings with another screen state file. -/
def withScreenStatePath (path : String) (s : Settings) : Settings :=
  { s with poll := { s.poll with screenStatePath := path } }

/-- Settings are accepted exactly if both intervals are positive and in order. -/
theorem validate_eq_ok_iff (s : Settings) :
    s.validate = .ok () ↔ 0 < s.devmon.short ∧ s.devmon.short ≤ s.devmon.long := by
  have hs : s.devmon.short = 0 ↔ s.devmon.short.toNat = 0 := by
    rw [← UInt32.toNat_inj]; rfl
  have hl : s.devmon.long = 0 ↔ s.devmon.long.toNat = 0 := by
    rw [← UInt32.toNat_inj]; rfl
  simp only [validate, hs, hl, UInt32.lt_iff_toNat_lt, UInt32.le_iff_toNat_le]
  have h0 : (0 : UInt32).toNat = 0 := rfl
  split
  · simp only [reduceCtorEq, false_iff]; omega
  · split
    · simp only [reduceCtorEq, false_iff]; omega
    · simp only [true_iff]; omega

@[simp] theorem mem_tracked {s : Settings} {v : Variant} :
    v ∈ s.tracked ↔ v ∈ s.devmon.tracking := by
  cases v <;> simp [tracked, Named.all]

end Settings

end ModemWatch
