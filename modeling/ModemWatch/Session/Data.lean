import ModemWatch.Device.Data
import ModemWatch.Radio.Data
import ModemWatch.Session.Host

/-!
# Sessions as data

How messages, what becomes of them, and the state of sessions are written.

* `Message.datum`, `Outcome.datum` — one message, and what an answer amounted to;
* `Session.fields` — what a session shows of its decisions and its requests;
* `SlotCall.datum` — a call that a session made on its slot.
-/

namespace ModemWatch

/-- The fields that are written of a message; the one without fields is written as a name. -/
def Message.fields : Message → List (String × Datum)
  | .signal u => [("signal", .ofName u.kind), ("update", u.kind.updateDatum u.update)]
  | .completed c ticket a =>
    [("completed", .ofName c), ("ticket", .ofNat ticket), ("completion", a.datum)]
  | .screenChanged => []
  | .watchFailed reason => [("poll_watch_failed", .text reason)]

/-- What is written of a message. -/
def Message.datum : Message → Datum
  | .screenChanged => .text "screen_state_changed"
  | m => .ofFields m.fields

/-- What is written of what an answer amounted to. -/
def Outcome.datum : Outcome → Datum
  | .stale => .text "stale"
  | .delivered => .text "delivered"
  | .notSupported => .text "not_supported"
  | .anomaly => .text "anomaly"
  | .transportFailed status => .ofFields [("transport_failed", .ofName status)]

/-- What is written of the last values recorded. -/
def DecisionSet.datum (d : DecisionSet) : Datum := ByClass.datum (Datum.ofOption .boolean) d

/-- The last values that a session drew from polling; none without a bridge. -/
def Session.pollDecisions (s : Session) : DecisionSet :=
  match s.tracker.bridge with
  | none => .empty
  | some bridge => bridge.decisions

/-- What a session on a slot shows of its decisions and its requests. -/
def Session.fields (slot : String) (s : Session) : List (String × Datum) :=
  [("variant", .ofName s.tracker.variant),
   ("slot", .text slot),
   ("closed", .boolean s.closed),
   ("polling", .boolean s.tracker.isPolling),
   ("decisions", s.tracker.decisions.datum),
   ("bridge", s.pollDecisions.datum),
   ("supported", s.dispatcher.supported.datum .boolean),
   ("pending", s.dispatcher.pending.datum (fun p => .boolean p.isSome))]

/-- What is written of a call on a slot; a session is known by its number. -/
def SlotCall.datum : SlotCall → Datum
  | .set owner ms => .ofFields [("io", .ofNat owner), ("ms", .ofUInt32 ms)]
  | .drop owner => .ofFields [("io", .ofNat owner), ("drop", .boolean true)]

end ModemWatch
