import ModemWatch.Radio.ByClass
import ModemWatch.Session.Message

/-!
# Dispatching requests

A dispatcher sends the requests of one session.  Of each class at most one is in flight: sending a
new value drops the old request first.  Every submission gets a ticket, and an answer counts only
if its ticket is still the one in flight; the answer to a dropped request may already be on its
way and must not be taken for the answer to its successor.

A class that the remote side answers with "request not supported" is never sent again.  That needs
an answer that was delivered, that echoes the operation the class expects and that carries this
error; anything less leaves the class as it was.

* `Completion.outcome` — what an answer means for its class;
* `Dispatcher.send`, `Dispatcher.complete`, `Dispatcher.cancel`, `Dispatcher.dropAll`;
* `Dispatcher.complete_stale` — an answer with another ticket changes nothing;
* `Dispatcher.pending_complete_ne`, `Dispatcher.supported_complete_ne` — no answer touches another
  class than its own.
-/

namespace ModemWatch

/-- A request that waits for its answer: its ticket here, its number at the transport. -/
structure InFlight where
  ticket : Ticket
  serial : Serial
  deriving DecidableEq, Repr

/-- Which classes the remote side still supports.  There is no way back. -/
abbrev Capabilities := ByClass Bool

/-- Everything is supported. -/
def Capabilities.full : Capabilities := .const true

/-- Marks a class as unsupported and tells whether it was supported before. -/
def Capabilities.revoke (c : RequestClass) (s : Capabilities) : Bool × Capabilities :=
  (s.get c, s.set c false)

/-- What became of sending a value. -/
inductive Submission where
  | submitted (ticket : Ticket)
  /-- The class is not supported; nothing was sent. -/
  | unsupported
  /-- The transport refused the request. -/
  | failed
  deriving DecidableEq, Repr

/-- What an answer amounts to. -/
inductive Outcome where
  /-- The request was dropped before; nothing happens. -/
  | stale
  | delivered
  | transportFailed (status : TxStatus)
  | notSupported
  /-- The answer is not one to this request. -/
  | anomaly
  deriving DecidableEq, Repr

/-- What an answer to a request in flight means for its class. -/
def Completion.outcome (c : RequestClass) (a : Completion) : Outcome :=
  if a.status ≠ .ok then .transportFailed a.status
  else if a.response ≠ some c.expectedResponse then .anomaly
  else if a.error = .requestNotSupported then .notSupported
  else .delivered

/-- The requests of one session. -/
structure Dispatcher where
  pending : ByClass (Option InFlight) := .const none
  supported : Capabilities := .full
  nextTicket : Ticket := 1
  deriving DecidableEq, Repr

namespace Dispatcher

variable {τ : Type} [Radio τ Callback]

/-- A request of the class is in flight. -/
def isPending (c : RequestClass) (d : Dispatcher) : Bool := (d.pending.get c).isSome

/-- Number of requests in flight. -/
def pendingCount (d : Dispatcher) : Nat := RequestClass.all.countP (fun c => d.isPending c)

/-- Drops the request of a class, if one is in flight. -/
def cancel (c : RequestClass) (d : Dispatcher) (radio : τ) : Dispatcher × τ :=
  match d.pending.get c with
  | none => (d, radio)
  | some p => ({ d with pending := d.pending.set c none }, Radio.cancel p.serial radio)

/-- Drops the requests of the listed classes. -/
def cancelAll : List RequestClass → Dispatcher → τ → Dispatcher × τ
  | [], d, radio => (d, radio)
  | c :: rest, d, radio =>
    let (d, radio) := d.cancel c radio
    cancelAll rest d radio

/-- Drops every request. -/
def dropAll (d : Dispatcher) (radio : τ) : Dispatcher × τ := cancelAll RequestClass.all d radio

/-- Submits a value of a supported class, in place of the one in flight. -/
def submit (session : SessionId) (c : RequestClass) (value : Bool) (d : Dispatcher) (radio : τ) :
    Submission × Dispatcher × τ :=
  let (d, radio) := d.cancel c radio
  let ticket := d.nextTicket
  let request := c.build value (Radio.interface radio)
  match Radio.submit request (⟨session, c, ticket⟩ : Callback) radio with
  | (some serial, radio) =>
    (.submitted ticket,
      { d with nextTicket := ticket + 1, pending := d.pending.set c (some ⟨ticket, serial⟩) },
      radio)
  | (none, radio) => (.failed, { d with nextTicket := ticket + 1 }, radio)

/-- Sends a value of a class for a session. -/
def send (session : SessionId) (c : RequestClass) (value : Bool) (d : Dispatcher) (radio : τ) :
    Submission × Dispatcher × τ :=
  if d.supported.get c then d.submit session c value radio else (.unsupported, d, radio)

/-- Ends the request of a class that is in flight. -/
def release (c : RequestClass) (outcome : Outcome) (d : Dispatcher) : Dispatcher :=
  { d with
    pending := d.pending.set c none
    supported := if outcome = .notSupported then (d.supported.revoke c).2 else d.supported }

/-- Takes in an answer. -/
def complete (c : RequestClass) (ticket : Ticket) (a : Completion) (d : Dispatcher) :
    Outcome × Dispatcher :=
  match d.pending.get c with
  | none => (.stale, d)
  | some p => if p.ticket = ticket then (a.outcome c, d.release c (a.outcome c)) else (.stale, d)

/-- An answer with another ticket than the one in flight changes nothing. -/
theorem complete_stale {c : RequestClass} {ticket : Ticket} {d : Dispatcher}
    (h : ∀ p, d.pending.get c = some p → p.ticket ≠ ticket) (a : Completion) :
    d.complete c ticket a = (.stale, d) := by
  unfold complete
  split
  · rfl
  · next p hp => rw [if_neg (h p hp)]

/-- An answer with the ticket in flight ends the request. -/
theorem complete_of_pending {c : RequestClass} {d : Dispatcher} {p : InFlight}
    (h : d.pending.get c = some p) (a : Completion) :
    d.complete c p.ticket a = (a.outcome c, d.release c (a.outcome c)) := by
  simp [complete, h]

/-- The answer to a request of one class leaves the requests of the others in flight. -/
theorem pending_complete_ne {c e : RequestClass} (he : e ≠ c) (ticket : Ticket) (a : Completion)
    (d : Dispatcher) : (d.complete c ticket a).2.pending.get e = d.pending.get e := by
  unfold complete
  split
  · rfl
  · split
    · simp [release, he]
    · rfl

/-- The answer to a request of one class leaves the capability of the others alone. -/
theorem supported_complete_ne {c e : RequestClass} (he : e ≠ c) (ticket : Ticket) (a : Completion)
    (d : Dispatcher) : (d.complete c ticket a).2.supported.get e = d.supported.get e := by
  unfold complete
  split
  · rfl
  · split
    · simp only [release]
      split
      · simp [Capabilities.revoke, he]
      · rfl
    · rfl

end Dispatcher

end ModemWatch
