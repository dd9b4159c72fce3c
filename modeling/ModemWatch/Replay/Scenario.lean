import ModemWatch.Radio.Transport
import ModemWatch.Settings.Text

/-!
# Scenarios

A scenario is a little story about a device: its settings, what its signals show before anything
starts, and the steps that follow.  Scenarios are written as TOML.  A step names its action under
the key `action`; the other keys are those of the action.

* `Scenario.parse` reads a scenario, `Scenario.datum` says what it holds;
* `Reply.completion` is the answer that a reply gives to a request.
-/

namespace ModemWatch

/-- What the signals and the poll sources show before any session starts.  A signal that is given
here starts valid. -/
structure InitialState where
  display : Option DisplayState := none
  battery : Option BatteryLevel := none
  charger : Option ChargerState := none
  tethering : Option Bool := none
  screenOn : Bool := false
  batteryPoll : PowerState := .unknown
  deriving DecidableEq, Repr

/-- How the remote side answers a request. -/
inductive Reply where
  | ok
  | notSupported
  | failure
  /-- With an operation that is not the one requested. -/
  | wrongResponse
  | txFailed
  | timeout
  deriving DecidableEq, Repr

instance : Named Reply where
  all := [.ok, .notSupported, .failure, .wrongResponse, .txFailed, .timeout]
  name
    | .ok => "ok"
    | .notSupported => "not_supported"
    | .failure => "failure"
    | .wrongResponse => "wrong_response"
    | .txFailed => "tx_failed"
    | .timeout => "timeout"

/-- The answer that a reply gives to a request. -/
def Reply.completion (request : Request) : Reply → Completion
  | .ok => .ok request.code.response
  | .notSupported => .answered request.code.response .requestNotSupported
  | .failure => .answered request.code.response .genericFailure
  | .wrongResponse => .ok (.other 0)
  | .txFailed => .failed .failed
  | .timeout => .failed .timeout

/-- One step of a scenario. -/
inductive Step where
  | display (valid : Option Bool) (state : Option DisplayState)
  | battery (valid : Option Bool) (state : Option BatteryLevel)
  | charger (valid : Option Bool) (state : Option ChargerState)
  | tethering (valid : Option Bool) (state : Option Bool)
  /-- The screen state file is written, and the change is reported. -/
  | screen (on : Bool)
  /-- The battery answers differently from now on. -/
  | batteryPoll (state : PowerState)
  /-- The watch on the screen state file breaks. -/
  | watchFailed (reason : String)
  /-- A request is answered: the one with the number, or else the latest that waits. -/
  | respond (serial : Option Serial) (reply : Reply)
  /-- Everything that waits ends with a failure. -/
  | failAll (status : TxStatus)
  /-- All sessions end. -/
  | shutdown
  deriving DecidableEq, Repr

/-- The name of a step's action. -/
def Step.action : Step → String
  | .display .. => "display"
  | .battery .. => "battery"
  | .charger .. => "charger"
  | .tethering .. => "tethering"
  | .screen .. => "screen"
  | .batteryPoll .. => "battery_poll"
  | .watchFailed .. => "watch_failed"
  | .respond .. => "respond"
  | .failAll .. => "fail_all"
  | .shutdown => "shutdown"

/-- A device, and what happens to it. -/
structure Scenario where
  slot : String := "slot1"
  interface : Interface
  settings : Settings := {}
  initial : InitialState := {}
  steps : List Step := []
  deriving DecidableEq, Repr

namespace InitialState

/-- Reads what is shown at first. -/
def ofDatum (c : Convention) (d : Datum) : Except Fault InitialState := do
  let f ← d.fields c ["display", "battery", "charger", "tethering", "screen_on", "battery_poll"]
  let display ← f.optional "display" (Datum.asName c)
  let battery ← f.optional "battery" (Datum.asName c)
  let charger ← f.optional "charger" (Datum.asName c)
  let tethering ← f.optional "tethering" Datum.asBool
  let screenOn ← f.withDefault "screen_on" false Datum.asBool
  let batteryPoll ← f.withDefault "battery_poll" PowerState.unknown (Datum.asName c)
  return ⟨display, battery, charger, tethering, screenOn, batteryPoll⟩

/-- What is written of what is shown at first. -/
def datum (i : InitialState) : Datum :=
  .ofFields [
    ("display", .ofOption .ofName i.display),
    ("battery", .ofOption .ofName i.battery),
    ("charger", .ofOption .ofName i.charger),
    ("tethering", .ofOption .boolean i.tethering),
    ("screen_on", .boolean i.screenOn),
    ("battery_poll", .ofName i.batteryPoll)]

end InitialState

namespace Step

/-- The action of a step, and the rest of it. -/
def splitAction : Datum → Except Fault (String × Datum)
  | .record fields =>
    match fields.lookup "action" with
    | some (.text action) => .ok (action, .record (fields.filter (fun f => f.1 != "action")))
    | some _ => .error (.unexpected "the name of an action")
    | none => .error (.missingField "action")
  | .list (.text action :: rest) => .ok (action, .list rest)
  | .date => .error (.missingField "action")
  | _ => .error (.unexpected "a step")

/-- Validity and state of a signal, both of which may be left out. -/
def signalFields {α : Type} (c : Convention) (decode : Datum → Except Fault α) (d : Datum) :
    Except Fault (Option Bool × Option α) := do
  let f ← d.fields c ["valid", "state"]
  let valid ← f.optional "valid" Datum.asBool
  let state ← f.optional "state" decode
  return (valid, state)

/-- Reads the fields of a step with a known action. -/
def ofAction (c : Convention) (action : String) (d : Datum) : Except Fault Step :=
  match action with
  | "display" => (signalFields c (Datum.asName c) d).map (fun (v, s) => .display v s)
  | "battery" => (signalFields c (Datum.asName c) d).map (fun (v, s) => .battery v s)
  | "charger" => (signalFields c (Datum.asName c) d).map (fun (v, s) => .charger v s)
  | "tethering" => (signalFields c Datum.asBool d).map (fun (v, s) => .tethering v s)
  | "screen" => do
    let f ← d.fields c ["on"]
    return .screen (← f.required "on" Datum.asBool)
  | "battery_poll" => do
    let f ← d.fields c ["state"]
    return .batteryPoll (← f.required "state" (Datum.asName c))
  | "watch_failed" => do
    let f ← d.fields c ["reason"]
    return .watchFailed (← f.withDefault "reason" "" Datum.asText)
  | "respond" => do
    let f ← d.fields c ["serial", "reply"]
    let serial ← f.optional "serial" Datum.asNat64
    return .respond serial (← f.required "reply" (Datum.asName c))
  | "fail_all" => do
    let f ← d.fields c ["status"]
    return .failAll (← f.withDefault "status" TxStatus.failed (Datum.asName c))
  | "shutdown" => do
    let _ ← d.fields c []
    return .shutdown
  | action => .error (.unknownName action)

/-- Reads a step. -/
def ofDatum (d : Datum) : Except Fault Step := do
  let (action, rest) ← splitAction d
  ofAction .tomlStep action rest

/-- The fields that are written of a step that writes to a signal. -/
def signalEntries (valid : Option Bool) (state : Datum) : List (String × Datum) :=
  [("valid", .ofOption .boolean valid), ("state", state)]

/-- The fields that are written of a step's action; what is missing is written as null. -/
def fields : Step → List (String × Datum)
  | .display valid state => signalEntries valid (.ofOption .ofName state)
  | .battery valid state => signalEntries valid (.ofOption .ofName state)
  | .charger valid state => signalEntries valid (.ofOption .ofName state)
  | .tethering valid state => signalEntries valid (.ofOption .boolean state)
  | .screen on => [("on", .boolean on)]
  | .batteryPoll state => [("state", .ofName state)]
  | .watchFailed reason => [("reason", .text reason)]
  | .respond serial reply => [("serial", .ofOption .ofNat serial), ("reply", .ofName reply)]
  | .failAll status => [("status", .ofName status)]
  | .shutdown => []

/-- What is written of a step. -/
def datum (s : Step) : Datum := .ofFields (("action", .text s.action) :: s.fields)

end Step

namespace Scenario

/-- Reads a scenario. -/
def ofDatum (d : Datum) : Except Fault Scenario := do
  let c := Convention.toml
  let f ← d.fields c ["slot", "interface", "settings", "initial", "steps"]
  let slot ← f.withDefault "slot" "slot1" Datum.asText
  let interface ← f.required "interface" (Datum.asName c)
  let settings ← f.withDefault "settings" {} (Settings.ofDatum c)
  let initial ← f.withDefault "initial" {} (InitialState.ofDatum c)
  let steps ← f.withDefault "steps" [] (Datum.asItems Step.ofDatum)
  return ⟨slot, interface, settings, initial, steps⟩

/-- What is written of a scenario. -/
def datum (s : Scenario) : Datum :=
  .ofFields [
    ("slot", .text s.slot),
    ("interface", .ofName s.interface),
    ("settings", s.settings.datum),
    ("initial", s.initial.datum),
    ("steps", .ofList Step.datum s.steps)]

/-- Reads a scenario from a TOML text. -/
def parse (toml : Toml.Codec) (text : String) : Except Failure Scenario :=
  match toml.read text with
  | .error reason => .error (.config s!"invalid scenario: {reason}")
  | .ok d =>
    match ofDatum d with
    | .error fault => .error (.config s!"invalid scenario: {fault.message}")
    | .ok scenario => .ok scenario

/-- Loads a scenario from a file. -/
def load (toml : Toml.Codec) (file : FileContent) : Except Failure Scenario :=
  match file.text? with
  | none => .error (.io "the file cannot be read as text")
  | some text => parse toml text

end Scenario

end ModemWatch
