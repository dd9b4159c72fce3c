import ModemWatch.Named

/-!
# What a device reports about itself

Four things are watched on a device: its display, the charge of its battery, its charger and
whether it shares its connection.  A fifth, the power state, is not reported but asked for: it is
what a battery answers when somebody looks.

* `BatteryLevel.rank` orders the charge levels from worst to best;
* `PowerState.isCharging` holds of the states in which external power feeds the battery.
-/

namespace ModemWatch

/-- Power state of the display. -/
inductive DisplayState where
  | off
  | dim
  | on
  deriving DecidableEq, Repr

instance : Named DisplayState where
  all := [.off, .dim, .on]
  name
    | .off => "off"
    | .dim => "dim"
    | .on => "on"

/-- Coarse charge level of the battery. -/
inductive BatteryLevel where
  | unknown
  | empty
  | low
  | ok
  | full
  deriving DecidableEq, Repr

instance : Named BatteryLevel where
  all := [.unknown, .empty, .low, .ok, .full]
  name
    | .unknown => "unknown"
    | .empty => "empty"
    | .low => "low"
    | .ok => "ok"
    | .full => "full"

/-- Charge levels from worst to best; an unknown level counts as the worst. -/
def BatteryLevel.rank : BatteryLevel → Nat
  | .unknown => 0
  | .empty => 1
  | .low => 2
  | .ok => 3
  | .full => 4

/-- Presence of a charger. -/
inductive ChargerState where
  | unknown
  | off
  | on
  deriving DecidableEq, Repr

instance : Named ChargerState where
  all := [.unknown, .off, .on]
  name
    | .unknown => "unknown"
    | .off => "off"
    | .on => "on"

/-- What a battery answers when it is asked for its state. -/
inductive PowerState where
  | noBattery
  | charging
  | discharging
  | fullyCharged
  | unknown
  deriving DecidableEq, Repr

instance : Named PowerState where
  all := [.noBattery, .charging, .discharging, .fullyCharged, .unknown]
  name
    | .noBattery => "no_battery"
    | .charging => "charging"
    | .discharging => "discharging"
    | .fullyCharged => "fully_charged"
    | .unknown => "unknown"

/-- The state in words, as people read it. -/
def PowerState.text : PowerState → String
  | .noBattery => "no battery"
  | .charging => "charging"
  | .discharging => "discharging"
  | .fullyCharged => "fully charged"
  | .unknown => "unknown"

/-- External power feeds the battery.  An unknown state is neither charging nor discharging. -/
def PowerState.isCharging : PowerState → Bool
  | .charging | .fullyCharged => true
  | .noBattery | .discharging | .unknown => false

end ModemWatch
