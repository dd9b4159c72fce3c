import ModemWatch.Device.State
import ModemWatch.Files.Content
import ModemWatch.Text.Blank

/-!
# Power supplies

The power state is read from a directory with one entry for each power supply.  An entry whose
file `type` holds `Battery` is a battery, and the battery whose name comes first decides: its file
`status` is the state.  A name is a row of bytes, text or not, and names are ordered byte by byte.

* `PowerSupply.state` is the state that a directory shows;
* `PowerSupply.first_mem`, `PowerSupply.first_eq_none` — the first entry of a list is one of them,
  and only the empty list has none.
-/

namespace ModemWatch

/-- The state that a status text stands for. -/
def PowerState.ofStatus (status : List Char) : PowerState :=
  match String.ofList (trimmed status) with
  | "Charging" => .charging
  | "Discharging" => .discharging
  | "Full" => .fullyCharged
  | _ => .unknown

/-- An entry of the power supply directory with its files. -/
structure PowerSupply where
  name : List UInt8
  files : List (String × FileContent)

namespace PowerSupply

/-- What stands at a file of the entry. -/
def file (s : PowerSupply) (name : String) : FileContent := (s.files.lookup name).getD .missing

/-- The text of a file without blanks at its ends. -/
def attribute? (s : PowerSupply) (name : String) : Option (List Char) :=
  (s.file name).text?.map (fun text => trimmed text.toList)

/-- The entry is a battery. -/
def isBattery (s : PowerSupply) : Bool := s.attribute? "type" == some "Battery".toList

/-- The entry whose name comes first. -/
def first : List PowerSupply → Option PowerSupply
  | [] => none
  | s :: rest =>
    match first rest with
    | none => some s
    | some t => if t.name < s.name then some t else some s

/-- The state of a battery. -/
def batteryState (s : PowerSupply) : PowerState :=
  match s.attribute? "status" with
  | none => .unknown
  | some status => .ofStatus status

/-- The state that a power supply directory shows; one that is not there holds no battery. -/
def state (supplies : Option (List PowerSupply)) : PowerState :=
  match first ((supplies.getD []).filter isBattery) with
  | none => .noBattery
  | some battery => battery.batteryState

theorem first_mem {l : List PowerSupply} {s : PowerSupply} (h : first l = some s) : s ∈ l := by
  induction l generalizing s with
  | nil => simp [first] at h
  | cons x rest ih =>
    unfold first at h
    split at h
    · simp_all
    · next t ht =>
      split at h
      · cases h; simp [ih ht]
      · cases h; simp

theorem first_eq_none {l : List PowerSupply} : first l = none ↔ l = [] := by
  cases l with
  | nil => simp [first]
  | cons x rest =>
    simp only [first, reduceCtorEq, iff_false]
    split
    · simp
    · split <;> simp

end PowerSupply

end ModemWatch
