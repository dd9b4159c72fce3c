import ModemWatch.Data.Decode
import ModemWatch.Data.Encode
import ModemWatch.Files.Content
import ModemWatch.Settings.Basic
import ModemWatch.Toml.Codec

/-!
# Settings as text

Settings are written as TOML.  Reading is lenient about what is missing: every key and both tables
have defaults, and unknown keys do not matter.  It is strict about what is there: a value of the
wrong type is a fault.

A settings file can be loaded in two ways.  The lenient way always gives settings, if need be the
defaults.  The strict way tells what is wrong with the file.

* `Settings.ofDatum`, `Settings.parse` — reading;
* `Settings.datum` — what is written of settings;
* `Settings.load`, `Settings.loadStrict` — the two ways of loading a file.
-/

namespace ModemWatch

namespace Settings

/-- Reads what to track. -/
def trackingOfDatum (c : Convention) (d : Datum) : Except Fault TrackingSettings := do
  let f ← d.fields c ["tracking", "cell_info_interval_short_ms", "cell_info_interval_long_ms"]
  let default : TrackingSettings := {}
  let tracking ← f.withDefault "tracking" default.tracking (Datum.asItems (Datum.asName c))
  let short ← f.withDefault "cell_info_interval_short_ms" default.short Datum.asUInt32
  let long ← f.withDefault "cell_info_interval_long_ms" default.long Datum.asUInt32
  return ⟨tracking, short, long⟩

/-- Reads what to poll. -/
def pollOfDatum (c : Convention) (d : Datum) : Except Fault PollSettings := do
  let f ← d.fields c ["enabled", "screen_state_path", "power_supply_dir"]
  let default : PollSettings := {}
  let enabled ← f.withDefault "enabled" default.enabled Datum.asBool
  let screenStatePath ← f.withDefault "screen_state_path" default.screenStatePath Datum.asText
  let powerSupplyDir ← f.withDefault "power_supply_dir" default.powerSupplyDir Datum.asText
  return ⟨enabled, screenStatePath, powerSupplyDir⟩

/-- Reads settings. -/
def ofDatum (c : Convention) (d : Datum) : Except Fault Settings := do
  let f ← d.fields c ["devmon", "poll"]
  let devmon ← f.withDefault "devmon" {} (trackingOfDatum c)
  let poll ← f.withDefault "poll" {} (pollOfDatum c)
  return ⟨devmon, poll⟩

/-- What is written of settings as a value; every field is there. -/
def datum (s : Settings) : Datum :=
  .ofFields [
    ("devmon", .ofFields [
      ("tracking", .ofList .ofName s.devmon.tracking),
      ("cell_info_interval_short_ms", .ofUInt32 s.devmon.short),
      ("cell_info_interval_long_ms", .ofUInt32 s.devmon.long)]),
    ("poll", .ofFields [
      ("enabled", .boolean s.poll.enabled),
      ("screen_state_path", .text s.poll.screenStatePath),
      ("power_supply_dir", .text s.poll.powerSupplyDir)])]

/-- Reads settings from a TOML text. -/
def parse (toml : Toml.Codec) (text : String) : Except Failure Settings :=
  match toml.read text with
  | .error reason => .error (.config reason)
  | .ok d =>
    match ofDatum .toml d with
    | .error fault => .error (.config fault.message)
    | .ok settings => .ok settings

/-- Loads settings, or the defaults if the file is not there or not good. -/
def load (toml : Toml.Codec) (file : FileContent) : Settings :=
  match file.text? with
  | none => {}
  | some text =>
    match parse toml text with
    | .error _ => {}
    | .ok settings => settings

/-- Loads settings that must be there, must be good and must make sense. -/
def loadStrict (toml : Toml.Codec) (path : String) (file : FileContent) :
    Except Failure Settings :=
  match file with
  | .missing => .error (.configNotFound path)
  | file =>
    match file.text? with
    | none => .error (.io "the file cannot be read as text")
    | some text =>
      match parse toml text with
      | .error failure => .error failure
      | .ok settings =>
        match settings.validate with
        | .error invalid => .error invalid.failure
        | .ok () => .ok settings

end Settings

end ModemWatch
