import ModemWatch.Radio.Interface

/-!
# Indication filters

An indication filter is a word of 32 bits; each set bit lets one kind of unsolicited indication
through.  Later interface versions define more bits.  While the display is on a session asks for
everything its version defines, otherwise for a single harmless bit: an empty mask might be read
as "no filter at all".

* `IndicationFilter.forDisplay_ne_empty` — the mask that is sent is never empty.
-/

namespace ModemWatch

/-- A set of indications, one bit each. -/
structure IndicationFilter where
  bits : UInt32
  deriving DecidableEq, Repr

namespace IndicationFilter

/-- The filter that lets nothing through. -/
def empty : IndicationFilter := ⟨0⟩
def signalStrength : IndicationFilter := ⟨0x01⟩
def fullNetworkState : IndicationFilter := ⟨0x02⟩
def dataCallDormancyChanged : IndicationFilter := ⟨0x04⟩
def linkCapacityEstimate : IndicationFilter := ⟨0x08⟩
def physicalChannelConfig : IndicationFilter := ⟨0x10⟩
def registrationFailure : IndicationFilter := ⟨0x20⟩
def barringInfo : IndicationFilter := ⟨0x40⟩

/-- The single indications with their names, in the order of their bits. -/
def single : List (String × IndicationFilter) :=
  [("SIGNAL_STRENGTH", signalStrength),
   ("FULL_NETWORK_STATE", fullNetworkState),
   ("DATA_CALL_DORMANCY_CHANGED", dataCallDormancyChanged),
   ("LINK_CAPACITY_ESTIMATE", linkCapacityEstimate),
   ("PHYSICAL_CHANNEL_CONFIG", physicalChannelConfig),
   ("REGISTRATION_FAILURE", registrationFailure),
   ("BARRING_INFO", barringInfo)]

/-- No indication is let through. -/
def isEmpty (f : IndicationFilter) : Bool := f.bits == 0

/-- Every indication of `g` is one of `f`. -/
def contains (f g : IndicationFilter) : Bool := f.bits &&& g.bits == g.bits

/-- The indications of both. -/
def union (f g : IndicationFilter) : IndicationFilter := ⟨f.bits ||| g.bits⟩

/-- Every indication that a version defines. -/
def allFor (i : Interface) : IndicationFilter :=
  match i.revision with
  | .base => ⟨0x07⟩
  | .since12 => ⟨0x1f⟩
  | .since15 => ⟨0x7f⟩

/-- The filter for a display that is on or off. -/
def forDisplay (displayOn : Bool) (i : Interface) : IndicationFilter :=
  if displayOn then allFor i else dataCallDormancyChanged

/-- Names of the single indications in a filter. -/
def names (f : IndicationFilter) : List String :=
  (single.filter (fun s => f.contains s.2)).map (fun s => s.1)

/-- The word in hexadecimal, with at least two digits. -/
def text (f : IndicationFilter) : String :=
  let digits := Nat.toDigits 16 f.bits.toNat
  "0x" ++ String.ofList (List.replicate (2 - digits.length) '0' ++ digits)

/-- A session never asks for an empty filter. -/
theorem forDisplay_ne_empty (displayOn : Bool) (i : Interface) :
    forDisplay displayOn i ≠ empty := by
  cases displayOn <;> cases i <;> decide

end IndicationFilter

end ModemWatch
