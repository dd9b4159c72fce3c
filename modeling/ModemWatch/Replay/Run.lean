import ModemWatch.Replay.Scenario
import ModemWatch.Session.Host

/-!
# Replaying a scenario

A replay starts one session for each tracked variant on a device that exists only on paper, and
takes it through the steps of a scenario.  After each step the sessions work until nothing is left
to handle; the report of the step lists the requests that went out and the changes of the interval
that applies.

Only a step that answers a request can fail: when nothing waits for an answer, or when no request
with that number was ever reported.  Answering a request that no longer waits is allowed and does
nothing.

* `Replay.start`, `Replay.apply` — setting up, and one step;
* `Replay.run` — a whole scenario; either every step has a report or there is none.
-/

namespace ModemWatch

/-- What one step brought about. -/
structure Report where
  step : Nat
  action : String
  /-- Requests that went out, oldest first. -/
  requests : List Outgoing
  /-- Changes of the interval that applies; nothing once nobody requests one. -/
  intervals : List (Option Millis)
  /-- The request that the step answered. -/
  answered : Option Serial
  deriving DecidableEq, Repr

/-- A running scenario. -/
structure Replay where
  host : Host
  /-- Requests that were reported, oldest first. -/
  sent : List Outgoing := []

/-- Why a step cannot answer a request. -/
inductive NoAnswer where
  | nothingPending
  | unknownRequest (serial : Serial)
  deriving DecidableEq, Repr

/-- The failure that a user gets to see. -/
def NoAnswer.failure : NoAnswer → Failure
  | .nothingPending => .transport "no pending request to answer"
  | .unknownRequest serial => .transport ("unknown request " ++ serial.text)

namespace Host

/-- Writes to a signal, first its validity and then its state, as far as they are given. -/
def setSignal (k : SignalKind) (valid : Option Bool) (state : Option k.State) (h : Host) : Host :=
  let h := match valid with
    | none => h
    | some valid => h.signal ⟨k, .valid valid⟩
  match state with
  | none => h
  | some state => h.signal ⟨k, .state state⟩

/-- Writes a signal's state and marks it valid, if a state is given. -/
def setInitial (k : SignalKind) (state : Option k.State) (h : Host) : Host :=
  h.setSignal k (state.map (fun _ => true)) state

/-- Shows what the device shows at first. -/
def setUp (i : InitialState) (h : Host) : Host :=
  (((((h.writeScreen (.ofScreen i.screenOn)).setInitial .display i.display).setInitial
    .battery i.battery).setInitial .charger i.charger).setInitial
    .tethering i.tethering).setPower i.batteryPoll

end Host

namespace Replay

/-- The screen state file of a replay. -/
def screenPath : String := "screen_on"

/-- Sets up the device and starts one session for each tracked variant. -/
def start (s : Scenario) : Except InvalidSettings Replay :=
  match s.settings.validate with
  | .error invalid => .error invalid
  | .ok () =>
    let monitors := (s.settings.withScreenStatePath screenPath).monitors
    .ok { host := ((Host.new s.slot s.interface).setUp s.initial).startAll monitors }

/-- The request with a number, if it was reported. -/
def sent? (serial : Serial) (r : Replay) : Option Request :=
  (r.sent.find? (fun o => o.serial == serial)).map (fun o => o.request)

/-- The latest of the reported requests that still waits. -/
def latestPending (r : Replay) : Option Serial :=
  (r.sent.reverse.find? (fun o => r.host.platform.transport.isPending o.serial)).map
    (fun o => o.serial)

/-- Which request an answer is for. -/
def target (serial : Option Serial) (r : Replay) : Except NoAnswer (Serial × Request) :=
  match serial.or r.latestPending with
  | none => .error .nothingPending
  | some serial =>
    match r.sent? serial with
    | none => .error (.unknownRequest serial)
    | some request => .ok (serial, request)

/-- Lets something happen on the device; tells which request it answered. -/
def perform (step : Step) (r : Replay) : Except NoAnswer (Option Serial × Host) :=
  let h := r.host
  match step with
  | .display valid state => .ok (none, h.setSignal .display valid state)
  | .battery valid state => .ok (none, h.setSignal .battery valid state)
  | .charger valid state => .ok (none, h.setSignal .charger valid state)
  | .tethering valid state => .ok (none, h.setSignal .tethering valid state)
  | .screen on => .ok (none, (h.writeScreen (.ofScreen on)).emit .changed)
  | .batteryPoll state => .ok (none, h.setPower state)
  | .watchFailed reason => .ok (none, h.emit (.failed reason))
  | .respond serial reply =>
    match r.target serial with
    | .error e => .error e
    | .ok (serial, request) => .ok (some serial, (h.respond serial (reply.completion request)).2)
  | .failAll status => .ok (none, (h.failAll status).2)
  | .shutdown => .ok (none, h.shutdownAll)

/-- Lets the sessions work and reports what came of it. -/
def report (step : Nat) (action : String) (answered : Option Serial) (r : Replay) :
    Report × Replay :=
  let (requests, h) := r.host.settle.takeOutgoing
  let (slot, h) := h.collectSlot
  (⟨step, action, requests, slot.heard, answered⟩, { host := h, sent := r.sent ++ requests })

/-- Takes a step. -/
def apply (number : Nat) (step : Step) (r : Replay) : Except NoAnswer (Report × Replay) :=
  match r.perform step with
  | .error e => .error e
  | .ok (answered, h) => .ok ({ r with host := h }.report number step.action answered)

/-- Takes steps one after the other, the first with the given number. -/
def applyAll : Nat → List Step → Replay → Except NoAnswer (List Report)
  | _, [], _ => .ok []
  | number, step :: steps, r =>
    match r.apply number step with
    | .error e => .error e
    | .ok (report, r) =>
      match applyAll (number + 1) steps r with
      | .error e => .error e
      | .ok reports => .ok (report :: reports)

/-- Runs a scenario.  The first report covers the start of the sessions. -/
def run (s : Scenario) : Except Failure (List Report) :=
  match start s with
  | .error invalid => .error invalid.failure
  | .ok r =>
    let (first, r) := r.report 0 "start" none
    match applyAll 1 s.steps r with
    | .error e => .error e.failure
    | .ok reports => .ok (first :: reports)

end Replay

end ModemWatch
