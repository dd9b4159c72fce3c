import ModemWatch.Data.Decode
import ModemWatch.Data.Encode
import ModemWatch.Device.Snapshot

/-!
# Signals as data

How readings of signals and their updates stand in texts.  A state is a name, except that tethering
is true or false; a reading is a record of its validity and its state, and an update is such a
record with one of the two.

* `SignalKind.stateOfDatum`, `SignalUpdate.listOfDatum` — reading;
* `SignalKind.stateDatum`, `SignalKind.updateDatum`, `SignalKind.readingDatum`, `Snapshot.datum` —
  writing.
-/

namespace ModemWatch

namespace SignalKind

/-- What is written of a signal's state. -/
def stateDatum : (k : SignalKind) → k.State → Datum
  | .display, s => .ofName s
  | .battery, s => .ofName s
  | .charger, s => .ofName s
  | .tethering, s => .boolean s

/-- Reads a signal's state. -/
def stateOfDatum (c : Convention) : (k : SignalKind) → Datum → Except Fault k.State
  | .display, d => d.asName c
  | .battery, d => d.asName c
  | .charger, d => d.asName c
  | .tethering, d => d.asBool

/-- What is written of an update. -/
def updateDatum (k : SignalKind) : Update k.State → Datum
  | .valid valid => .ofFields [("valid", .boolean valid)]
  | .state state => .ofFields [("state", k.stateDatum state)]

/-- What is written of a reading. -/
def readingDatum (k : SignalKind) (r : Reading k.State) : Datum :=
  .ofFields [("valid", .boolean r.valid), ("state", k.stateDatum r.state)]

end SignalKind

/-- What is written of the four signals. -/
def Snapshot.datum (s : Snapshot) : Datum :=
  .ofFields ((Named.all : List SignalKind).map (fun k => (Named.name k, k.readingDatum (s.get k))))

/-- Reads what is written to a signal: first its validity, then its state, as far as they are
given. -/
def SignalUpdate.listOfDatum (c : Convention) (k : SignalKind) (d : Datum) :
    Except Fault (List SignalUpdate) := do
  let f ← d.fields c ["valid", "state"]
  let valid ← f.optional "valid" Datum.asBool
  let state ← f.optional "state" (k.stateOfDatum c)
  return valid.toList.map (fun b => ⟨k, .valid b⟩) ++ state.toList.map (fun s => ⟨k, .state s⟩)

end ModemWatch
