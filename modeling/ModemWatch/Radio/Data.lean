import ModemWatch.Data.Decode
import ModemWatch.Data.Encode
import ModemWatch.Device.Decision
import ModemWatch.Radio.Transport

/-!
# Radio values as data

How requests, answers and polling intervals stand in texts.  Responses and errors are plain names,
except that a code without a name is written as a record with the code behind the key `other`.

* `Request.datum`, `Outgoing.datum`, `ByClass.datum` — requests and tables are only written;
* `Response.ofDatum`, `RadioError.ofDatum`, `Completion.ofDatum`, `Intervals.ofDatum` — the others
  are also read, each beside its `datum`.
-/

namespace ModemWatch

/-- What is written of a table with one entry for each request class. -/
def ByClass.datum {α : Type} (write : α → Datum) (t : ByClass α) : Datum :=
  .ofFields (RequestClass.all.map (fun c => (Named.name c, write (t.get c))))

/-- What is written of the arguments of a request. -/
def Payload.datum : Payload → Datum
  | .deviceState kind state =>
    .ofFields [("device_state", .ofFields
      [("kind", .ofName kind), ("state", .boolean state)])]
  | .indicationFilter filter => .ofFields [("indication_filter", .ofUInt32 filter.bits)]

/-- What is written of a request. -/
def Request.datum (r : Request) : Datum :=
  .ofFields [("code", .ofName r.code), ("payload", r.payload.datum)]

/-- What is written of a request with its number. -/
def Outgoing.datum (o : Outgoing) : Datum :=
  .ofFields [("serial", .integer o.serial), ("request", o.request.datum)]

/-- A name that stands for a value, or a code behind the key `other`. -/
def Datum.asNameOrCode {α : Type} (c : Convention) (names : List (String × α))
    (code : Datum → Except Fault α) (d : Datum) : Except Fault α :=
  match d.keyed with
  | .error fault => .error fault
  | .ok ("other", some payload) => code payload
  | .ok (word, payload) =>
    if payload.all c.isEmptyPayload then
      match names.lookup word with
      | some a => .ok a
      | none => .error (.unknownName word)
    else .error (.unexpected "nothing behind a name")

/-- Reads a response. -/
def Response.ofDatum (c : Convention) (d : Datum) : Except Fault Response :=
  d.asNameOrCode c
    [("send_device_state", .sendDeviceState), ("set_indication_filter", .setIndicationFilter)]
    (fun d => d.asUInt32.map .other)

/-- What is written of a response. -/
def Response.datum : Response → Datum
  | .sendDeviceState => .text "send_device_state"
  | .setIndicationFilter => .text "set_indication_filter"
  | .other code => .ofFields [("other", .ofUInt32 code)]

/-- Reads an error. -/
def RadioError.ofDatum (c : Convention) (d : Datum) : Except Fault RadioError :=
  d.asNameOrCode c
    [("none", .none), ("generic_failure", .genericFailure),
     ("request_not_supported", .requestNotSupported)]
    (fun d => d.asInt32.map .other)

/-- What is written of an error. -/
def RadioError.datum : RadioError → Datum
  | .none => .text "none"
  | .genericFailure => .text "generic_failure"
  | .requestNotSupported => .text "request_not_supported"
  | .other code => .ofFields [("other", .integer code.toInt)]

/-- Reads the result of a request. -/
def Completion.ofDatum (c : Convention) (d : Datum) : Except Fault Completion := do
  let f ← d.fields c ["status", "resp", "error"]
  let status ← f.required "status" (Datum.asName c)
  let response ← f.optional "resp" (Response.ofDatum c)
  let error ← f.withDefault "error" .none (RadioError.ofDatum c)
  return ⟨status, response, error⟩

/-- What is written of the result of a request. -/
def Completion.datum (a : Completion) : Datum :=
  .ofFields [("status", .ofName a.status), ("resp", .ofOption Response.datum a.response),
    ("error", a.error.datum)]

/-- Reads the two polling intervals, which must both be there. -/
def Intervals.ofDatum (c : Convention) (d : Datum) : Except Fault Intervals := do
  let f ← d.fields c ["short_ms", "long_ms"]
  let short ← f.required "short_ms" Datum.asUInt32
  let long ← f.required "long_ms" Datum.asUInt32
  return ⟨short, long⟩

/-- What is written of the two polling intervals. -/
def Intervals.datum (i : Intervals) : Datum :=
  .ofFields [("short_ms", .ofUInt32 i.short), ("long_ms", .ofUInt32 i.long)]

end ModemWatch
