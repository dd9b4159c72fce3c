import ModemWatch.Radio.Request

/-!
# Submitting requests and matching their answers

A transport numbers the requests that are submitted, queues them for whoever writes to the modem,
and keeps for each request that waits for its answer a *callback*: a value that says where the
answer goes.  The number is used up whether or not the request could be queued.  A callback leaves
the transport at most once: with an answer, with a failure of everything that waits, or, unheard,
with a cancellation.

* `Transport.submit`, `Transport.respond`, `Transport.failAll`, `Transport.cancel` are the four
  things that can happen to a request;
* `Radio` is what a dispatcher needs of a transport.  Other transports may answer at any moment,
  even before `submit` returns; `Transport` never does.
-/

namespace ModemWatch

/-- Whether a request reached the remote side and was answered. -/
inductive TxStatus where
  | ok
  | failed
  | timeout
  deriving DecidableEq, Repr

instance : Named TxStatus where
  all := [.ok, .failed, .timeout]
  name
    | .ok => "ok"
    | .failed => "failed"
    | .timeout => "timeout"

/-- Result of a submitted request.  The response is missing when delivery failed. -/
structure Completion where
  status : TxStatus
  response : Option Response
  error : RadioError
  deriving DecidableEq, Repr

namespace Completion

/-- Delivered and answered without error. -/
def ok (response : Response) : Completion := ⟨.ok, some response, .none⟩

/-- Delivered and answered with an error. -/
def answered (response : Response) (error : RadioError) : Completion :=
  ⟨.ok, some response, error⟩

/-- Not delivered. -/
def failed (status : TxStatus) : Completion := ⟨status, none, .none⟩

end Completion

/-- Number of a submission; the first is 1. -/
abbrev Serial := Nat

/-- The number as people read it. -/
def Serial.text (serial : Serial) : String := s!"#{serial}"

/-- A numbered request on its way to the modem. -/
structure Outgoing where
  serial : Serial
  request : Request
  deriving DecidableEq, Repr

/-- Requests on their way to the modem and callbacks of those that wait for an answer. -/
structure Transport (κ : Type) where
  /-- Name of the modem slot. -/
  slot : String
  interface : Interface
  nextSerial : Serial := 1
  /-- No further request can be queued. -/
  closed : Bool := false
  /-- Requests that nobody has taken yet, oldest first. -/
  queued : List Outgoing := []
  /-- Requests that wait for an answer, oldest first. -/
  pending : List (Serial × κ) := []

namespace Transport

variable {κ : Type}

/-- The callback that waits for the answer to a request. -/
def callback? (serial : Serial) (t : Transport κ) : Option κ :=
  (t.pending.find? (fun p => p.1 == serial)).map (fun p => p.2)

/-- A request waits for its answer. -/
def isPending (serial : Serial) (t : Transport κ) : Bool := (t.callback? serial).isSome

/-- Forgets the callback of a request. -/
def forget (serial : Serial) (t : Transport κ) : Transport κ :=
  { t with pending := t.pending.filter (fun p => p.1 != serial) }

/-- Numbers a request and queues it.  A closed queue refuses it; the number is gone all the same. -/
def submit (request : Request) (callback : κ) (t : Transport κ) : Option Serial × Transport κ :=
  let serial := t.nextSerial
  if t.closed then (none, { t with nextSerial := serial + 1 })
  else (some serial,
    { t with
      nextSerial := serial + 1
      queued := t.queued ++ [⟨serial, request⟩]
      pending := t.pending ++ [(serial, callback)] })

/-- Takes in an answer: the callback that it is for, unless nothing waits under that number. -/
def respond (serial : Serial) (t : Transport κ) : Option κ × Transport κ :=
  (t.callback? serial, t.forget serial)

/-- Gives up on everything that waits: all callbacks, oldest first. -/
def failAll (t : Transport κ) : List κ × Transport κ :=
  (t.pending.map (fun p => p.2), { t with pending := [] })

/-- Drops a request, so that its answer is never delivered; an unknown number is ignored. -/
def cancel (serial : Serial) (t : Transport κ) : Transport κ := t.forget serial

/-- From now on nothing can be queued. -/
def close (t : Transport κ) : Transport κ := { t with closed := true }

/-- Takes everything out of the queue. -/
def drain (t : Transport κ) : List Outgoing × Transport κ := (t.queued, { t with queued := [] })

@[simp] theorem nextSerial_submit (r : Request) (k : κ) (t : Transport κ) :
    (t.submit r k).2.nextSerial = t.nextSerial + 1 := by
  unfold submit
  split <;> rfl

@[simp] theorem callback?_forget_self (serial : Serial) (t : Transport κ) :
    (t.forget serial).callback? serial = none := by
  simp [callback?, forget]

@[simp] theorem callback?_forget_ne (t : Transport κ) {serial other : Serial}
    (h : other ≠ serial) : (t.forget serial).callback? other = t.callback? other := by
  unfold callback? forget
  congr 1
  rw [List.find?_filter]
  congr 1
  funext p
  by_cases hp : p.1 = other
  · simp [hp, h]
  · simp [hp]

end Transport

/-- What a dispatcher needs of a transport with callbacks `κ`. -/
class Radio (τ : Type) (κ : outParam Type) where
  interface : τ → Interface
  /-- Submits a request: its number, or nothing if it could not be submitted at all. -/
  submit : Request → κ → τ → Option Serial × τ
  /-- Drops a request. -/
  cancel : Serial → τ → τ

instance (κ : Type) : Radio (Transport κ) κ where
  interface t := t.interface
  submit := Transport.submit
  cancel := Transport.cancel

end ModemWatch
