import ModemWatch.Json.Printer
import ModemWatch.Radio.Data
import ModemWatch.Replay.Run

/-!
# Reports as text

A report is written as one JSON object.  Its step and its action are always there; requests,
intervals and the answered request only if there are any.

* `Report.datum` — what is written;
* `Report.render` — the text, on one line or over several.
-/

namespace ModemWatch

namespace Report

/-- A list as a field, unless it is empty. -/
def listField (name : String) (items : List Datum) : List (String × Datum) :=
  if items.isEmpty then [] else [(name, .list items)]

/-- What is written of a report. -/
def datum (r : Report) : Datum :=
  .ofFields
    ([("step", .ofNat r.step), ("action", .text r.action)]
      ++ listField "requests" (r.requests.map Outgoing.datum)
      ++ listField "intervals" (r.intervals.map (Datum.ofOption Datum.ofUInt32))
      ++ r.answered.toList.map (fun serial => ("answered", .ofNat serial)))

/-- Writes a report, on one line or over several, with a line end behind it. -/
def render (pretty : Bool) (r : Report) : String :=
  (if pretty then Json.pretty r.datum else Json.compact r.datum) ++ "\n"

end Report

end ModemWatch
