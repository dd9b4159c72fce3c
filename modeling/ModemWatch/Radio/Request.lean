import ModemWatch.Radio.Filter

/-!
# Radio requests

A session sends three classes of request.  Two of them report a state of the device, the third
sets the indication filter; for the latter the interface version picks the form of the request and
the width of the mask.  The remote side answers with a response code and an error code.

* `RequestClass.build` is the request that carries a value of a class;
* `RequestClass.response_build` — the request of a class is answered by the response the class
  expects, whatever the value and the version;
* `RequestClass.build_ne` — requests for the two values of a class differ.
-/

namespace ModemWatch

/-- Operations that are requested. -/
inductive RequestCode where
  | sendDeviceState
  | setIndicationFilter
  | setIndicationFilter12
  | setIndicationFilter15
  deriving DecidableEq, Repr

instance : Named RequestCode where
  all := [.sendDeviceState, .setIndicationFilter, .setIndicationFilter12, .setIndicationFilter15]
  name
    | .sendDeviceState => "send_device_state"
    | .setIndicationFilter => "set_indication_filter"
    | .setIndicationFilter12 => "set_indication_filter_1_2"
    | .setIndicationFilter15 => "set_indication_filter_1_5"

/-- Operations that a response echoes. -/
inductive Response where
  | sendDeviceState
  | setIndicationFilter
  | other (code : UInt32)
  deriving DecidableEq, Repr

/-- The response as people read it. -/
def Response.text : Response → String
  | .sendDeviceState => "sendDeviceStateResponse"
  | .setIndicationFilter => "setIndicationFilterResponse"
  | .other code => s!"response {code.toNat}"

namespace RequestCode

/-- The response that answers an operation; all forms of the filter request share one. -/
def response : RequestCode → Response
  | .sendDeviceState => .sendDeviceState
  | .setIndicationFilter | .setIndicationFilter12 | .setIndicationFilter15 => .setIndicationFilter

/-- The filter request that a version understands. -/
def indicationFilterFor (i : Interface) : RequestCode :=
  match i.revision with
  | .base => .setIndicationFilter
  | .since12 => .setIndicationFilter12
  | .since15 => .setIndicationFilter15

/-- The operation as people read it. -/
def text : RequestCode → String
  | .sendDeviceState => "sendDeviceState"
  | .setIndicationFilter => "setIndicationFilter"
  | .setIndicationFilter12 => "setIndicationFilter_1_2"
  | .setIndicationFilter15 => "setIndicationFilter_1_5"

end RequestCode

/-- Error codes that a response carries. -/
inductive RadioError where
  | none
  | genericFailure
  | requestNotSupported
  | other (code : Int32)
  deriving DecidableEq, Repr

namespace RadioError

/-- The error that a numeric code stands for. -/
def ofCode (code : Int32) : RadioError :=
  if code = 0 then .none
  else if code = 2 then .genericFailure
  else if code = 6 then .requestNotSupported
  else .other code

/-- The numeric code of an error. -/
def code : RadioError → Int32
  | .none => 0
  | .genericFailure => 2
  | .requestNotSupported => 6
  | .other code => code

/-- A decoded error has the code it was decoded from. -/
theorem code_ofCode (c : Int32) : (ofCode c).code = c := by
  unfold ofCode
  split
  · next h => exact h.symm
  · split
    · next h => exact h.symm
    · split
      · next h => exact h.symm
      · rfl

end RadioError

/-- Kinds of device state that can be sent. -/
inductive DeviceStateType where
  | powerSaveMode
  | chargingState
  | lowDataExpected
  deriving DecidableEq, Repr

instance : Named DeviceStateType where
  all := [.powerSaveMode, .chargingState, .lowDataExpected]
  name
    | .powerSaveMode => "power_save_mode"
    | .chargingState => "charging_state"
    | .lowDataExpected => "low_data_expected"

/-- The number that stands for a kind of device state. -/
def DeviceStateType.number : DeviceStateType → Nat
  | .powerSaveMode => 0
  | .chargingState => 1
  | .lowDataExpected => 2

/-- The kind of device state as it stands in the text of a request. -/
def DeviceStateType.text : DeviceStateType → String
  | .powerSaveMode => "PowerSaveMode"
  | .chargingState => "ChargingState"
  | .lowDataExpected => "LowDataExpected"

/-- Arguments of a request. -/
inductive Payload where
  | deviceState (kind : DeviceStateType) (state : Bool)
  | indicationFilter (filter : IndicationFilter)
  deriving DecidableEq, Repr

/-- A request with its arguments. -/
structure Request where
  code : RequestCode
  payload : Payload
  deriving DecidableEq, Repr

/-- The request as people read it. -/
def Request.text (r : Request) : String :=
  match r.payload with
  | .deviceState kind state => s!"{r.code.text}({kind.text}, {state})"
  | .indicationFilter filter => s!"{r.code.text}({filter.text})"

/-- What a request is about.  Of each class at most one request is in flight per session, and the
remote side may declare a whole class unsupported. -/
inductive RequestClass where
  | lowDataExpected
  | chargingState
  | indicationFilter
  deriving DecidableEq, Repr

instance : Named RequestClass where
  all := [.lowDataExpected, .chargingState, .indicationFilter]
  name
    | .lowDataExpected => "low_data_expected"
    | .chargingState => "charging_state"
    | .indicationFilter => "indication_filter"

namespace RequestClass

/-- Every class, in order. -/
def all : List RequestClass := [.lowDataExpected, .chargingState, .indicationFilter]

/-- The class as people read it. -/
def text : RequestClass → String
  | .lowDataExpected => "LOW_DATA_EXPECTED"
  | .chargingState => "CHARGING_STATE"
  | .indicationFilter => "INDICATION_FILTER"

/-- The response that a well-behaved remote side gives to a class. -/
def expectedResponse : RequestClass → Response
  | .lowDataExpected | .chargingState => .sendDeviceState
  | .indicationFilter => .setIndicationFilter

/-- The request that carries `value` for a class. -/
def build (c : RequestClass) (value : Bool) (i : Interface) : Request :=
  match c with
  | .lowDataExpected => ⟨.sendDeviceState, .deviceState .lowDataExpected value⟩
  | .chargingState => ⟨.sendDeviceState, .deviceState .chargingState value⟩
  | .indicationFilter => ⟨.indicationFilterFor i, .indicationFilter (.forDisplay value i)⟩

/-- The request of a class is answered by the response that the class expects. -/
@[simp] theorem response_build (c : RequestClass) (value : Bool) (i : Interface) :
    (c.build value i).code.response = c.expectedResponse := by
  cases c <;> cases i <;> rfl

/-- The requests for the two values of a class differ. -/
theorem build_ne (c : RequestClass) (i : Interface) : c.build true i ≠ c.build false i := by
  cases c <;> cases i <;> decide

end RequestClass

end ModemWatch
