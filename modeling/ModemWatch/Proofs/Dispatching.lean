import ModemWatch.Proofs.Waiting
import ModemWatch.Session.Dispatcher

/-!
# What a dispatcher does

A dispatcher that sends a value of a class does one of three things.  It refuses, because the class
is not supported; or it drops the request in flight and then finds the queue to the modem closed,
which costs a ticket and a number; or it drops the request in flight and puts a new one in its
place.  An answer counts only if it carries the ticket in flight.

* `Dispatcher.send_cases` — the three cases, whatever the radio does;
* `Dispatcher.send_of_unsupported`, `Dispatcher.send_of_closed`, `Dispatcher.send_of_open` — the
  three cases on a transport, each with the whole state afterwards;
* `Dispatcher.dispatcher_cancel`, `Dispatcher.transport_cancel` — what dropping a request leaves;
* `Dispatcher.outcome_complete`, `Dispatcher.supported_complete` — which answers count, and which
  of them take the support of a class away.
-/

namespace ModemWatch

/-- Of two entries for a class the later one counts. -/
@[simp] theorem ByClass.set_set {α : Type} (t : ByClass α) (c : RequestClass) (a b : α) :
    (t.set c a).set c b = t.set c b := by
  cases c <;> rfl

/-- An answer to a request in flight is never stale. -/
theorem Completion.outcome_ne_stale (c : RequestClass) (a : Completion) : a.outcome c ≠ .stale := by
  unfold Completion.outcome
  split
  · simp
  · split
    · simp
    · split <;> simp

/-- A class is refused by a delivered answer that echoes its operation and carries the one error. -/
theorem Completion.outcome_eq_notSupported_iff {c : RequestClass} {a : Completion} :
    a.outcome c = .notSupported ↔
      a.status = .ok ∧ a.response = some c.expectedResponse ∧ a.error = .requestNotSupported := by
  unfold Completion.outcome
  by_cases hs : a.status = .ok
  · by_cases hr : a.response = some c.expectedResponse
    · by_cases he : a.error = .requestNotSupported <;> simp [hs, hr, he]
    · simp [hs, hr]
  · simp [hs]

namespace Dispatcher

/-! ## On any radio -/

section AnyRadio

variable {τ : Type} [Radio τ Callback] (d : Dispatcher) (radio : τ)

theorem cancel_of_none {c : RequestClass} (h : d.pending.get c = none) :
    d.cancel c radio = (d, radio) := by
  simp [cancel, h]

/-- Dropping the request of a class changes nothing about a dispatcher but that request. -/
theorem dispatcher_cancel (c : RequestClass) :
    (d.cancel c radio).1 = { d with pending := d.pending.set c none } := by
  cases h : d.pending.get c with
  | none =>
      have hset := d.pending.set_get_self c
      rw [h] at hset
      rw [cancel_of_none d radio h, hset]
  | some p => simp [cancel, h]

/-- **Sending.**  Either the class is not supported; or the request in flight is dropped, and then
the radio takes the new one or refuses it. -/
theorem send_cases (session : SessionId) (c : RequestClass) (value : Bool) :
    (d.supported.get c = false ∧ d.send session c value radio = (.unsupported, d, radio)) ∨
      (∃ request serial radio', d.supported.get c = true ∧
        Radio.submit request (⟨session, c, d.nextTicket⟩ : Callback) (d.cancel c radio).2 =
          (some serial, radio') ∧
        d.send session c value radio =
          (.submitted d.nextTicket,
            { d with
              nextTicket := d.nextTicket + 1
              pending := d.pending.set c (some ⟨d.nextTicket, serial⟩) }, radio')) ∨
      ∃ request radio', d.supported.get c = true ∧
        Radio.submit request (⟨session, c, d.nextTicket⟩ : Callback) (d.cancel c radio).2 =
          (none, radio') ∧
        d.send session c value radio =
          (.failed,
            { d with
              nextTicket := d.nextTicket + 1
              pending := d.pending.set c none }, radio') := by
  cases hs : d.supported.get c with
  | false => exact .inl ⟨rfl, by simp [send, hs]⟩
  | true =>
      obtain ⟨d₁, radio₁, hcancel⟩ : ∃ d₁ radio₁, d.cancel c radio = (d₁, radio₁) := ⟨_, _, rfl⟩
      obtain rfl : { d with pending := d.pending.set c none } = d₁ := by
        rw [← dispatcher_cancel d radio c, hcancel]
      rw [hcancel]
      rcases hr : Radio.submit (c.build value (Radio.interface radio₁))
        (⟨session, c, d.nextTicket⟩ : Callback) radio₁ with ⟨_ | serial, radio'⟩
      · exact .inr (.inr ⟨_, radio', rfl, hr, by simp [send, hs, submit, hcancel, hr]⟩)
      · exact .inr (.inl ⟨_, serial, radio', rfl, hr, by simp [send, hs, submit, hcancel, hr]⟩)

/-- Sending takes no class away and gives none back. -/
theorem supported_send (session : SessionId) (c : RequestClass) (value : Bool) :
    (d.send session c value radio).2.1.supported = d.supported := by
  rcases d.send_cases radio session c value with
    ⟨-, hsend⟩ | ⟨_, _, _, -, -, hsend⟩ | ⟨_, _, -, -, hsend⟩ <;> rw [hsend]

/-- Sending a value of a class touches no request of another. -/
theorem pending_send_ne {c e : RequestClass} (hc : c ≠ e) (session : SessionId) (value : Bool) :
    (d.send session e value radio).2.1.pending.get c = d.pending.get c := by
  rcases d.send_cases radio session e value with
    ⟨-, hsend⟩ | ⟨_, _, _, -, -, hsend⟩ | ⟨_, _, -, -, hsend⟩ <;> simp [hsend, hc]

end AnyRadio

/-! ## On a transport -/

variable (d : Dispatcher) (t : Transport Callback)

theorem cancel_of_some {c : RequestClass} {p : InFlight} (h : d.pending.get c = some p) :
    d.cancel c t = ({ d with pending := d.pending.set c none }, t.forget p.serial) := by
  simp [cancel, h, Radio.cancel, Transport.cancel]

/-- Dropping a request changes nothing about a transport but what waits there. -/
theorem transport_cancel (c : RequestClass) :
    (d.cancel c t).2 = { t with pending := (d.cancel c t).2.pending } := by
  cases h : d.pending.get c with
  | none => rw [cancel_of_none d t h]
  | some p => rw [cancel_of_some d t h]; rfl

/-- A class that is not supported is not sent. -/
theorem send_of_unsupported {c : RequestClass} (h : d.supported.get c = false)
    (session : SessionId) (value : Bool) : d.send session c value t = (.unsupported, d, t) := by
  simp [send, h]

/-- A closed queue refuses the new request when the old one is already gone. -/
theorem send_of_closed {c : RequestClass} (hs : d.supported.get c = true) (hc : t.closed = true)
    (session : SessionId) (value : Bool) :
    d.send session c value t =
      (.failed, { (d.cancel c t).1 with nextTicket := d.nextTicket + 1 },
        { (d.cancel c t).2 with nextSerial := t.nextSerial + 1 }) := by
  have hc' : (d.cancel c t).2.closed = true := by rw [transport_cancel]; exact hc
  have hn : (d.cancel c t).2.nextSerial = t.nextSerial := by rw [transport_cancel]
  have ht : (d.cancel c t).1.nextTicket = d.nextTicket := by rw [dispatcher_cancel]
  unfold send submit
  rw [if_pos hs]
  simp only [Radio.submit, Transport.submit_of_closed hc', hn, ht]

/-- An open queue takes the new request, which stands in the place of the old one. -/
theorem send_of_open {c : RequestClass} (hs : d.supported.get c = true) (hc : t.closed = false)
    (session : SessionId) (value : Bool) :
    d.send session c value t =
      (.submitted d.nextTicket,
        { d with
          nextTicket := d.nextTicket + 1
          pending := d.pending.set c (some ⟨d.nextTicket, t.nextSerial⟩) },
        { (d.cancel c t).2 with
          nextSerial := t.nextSerial + 1
          queued := t.queued ++ [⟨t.nextSerial, c.build value t.interface⟩]
          pending :=
            (d.cancel c t).2.pending ++ [(t.nextSerial, ⟨session, c, d.nextTicket⟩)] }) := by
  have ht := transport_cancel d t c
  have hc' : (d.cancel c t).2.closed = false := by rw [ht]; exact hc
  unfold send submit
  rw [if_pos hs]
  simp only [Radio.submit, Transport.submit_of_open hc', dispatcher_cancel, ByClass.set_set]
  rw [ht]
  rfl

/-- Only the ticket in flight gets an outcome that counts. -/
theorem outcome_complete (c : RequestClass) (ticket : Ticket) (a : Completion) :
    (d.complete c ticket a).1 =
      if (d.pending.get c).map InFlight.ticket = some ticket then a.outcome c else .stale := by
  unfold complete
  split
  · next h => simp [h]
  · next p h => by_cases hp : p.ticket = ticket <;> simp [h, hp]

/-- A request that is over takes at most its own class away. -/
theorem supported_release (c e : RequestClass) (outcome : Outcome) (d : Dispatcher) :
    (d.release c outcome).supported.get e =
      if e = c ∧ outcome = .notSupported then false else d.supported.get e := by
  by_cases ho : outcome = .notSupported <;> simp [release, ho, Capabilities.revoke, ByClass.get_set]

/-- Only an outcome that says so takes the support of a class away. -/
theorem supported_complete (c e : RequestClass) (ticket : Ticket) (a : Completion) :
    (d.complete c ticket a).2.supported.get e =
      if e = c ∧ (d.complete c ticket a).1 = .notSupported then false else d.supported.get e := by
  unfold complete
  split
  · simp
  · next p hp =>
      by_cases ht : p.ticket = ticket
      · simp only [if_pos ht, supported_release]
      · simp [ht]

end Dispatcher

end ModemWatch
