import Mathlib.Logic.Function.Basic
import ModemWatch.Proofs.Dispatching

/-!
# Several dispatchers on one transport

A switchboard is any number of dispatchers that share a transport, each at a desk of its own with an
inbox.  An answer of the radio goes to the inbox that its callback names; it counts for nothing
until the dispatcher of that desk takes it out and looks at it.  Anything may happen between the
two, and in any order:

* a dispatcher sends, cancels or drops its requests (`Step.send`, `Step.cancel`, `Step.dropAll`);
* the radio answers some number, whether or not anything waits under it (`Step.respond`), or gives
  up on everything at once, in no particular order (`Step.failAll`);
* the queue to the modem is closed (`Step.close`);
* a dispatcher takes the oldest answer out of its inbox (`Step.complete`).

`Trace` is any number of such steps with a record of each, which holds what came of it.

An *entry* is the request in flight of one class at one desk.  The lemmas below say what sending
and cancelling do to entries, to the callbacks that wait, and to everything else.
-/

namespace ModemWatch

/-- The ticket of an answer. -/
def Message.ticket? : Message → Option Ticket
  | .completed _ ticket _ => some ticket
  | .signal _ | .screenChanged | .watchFailed _ => none

/-- A dispatcher with the messages that it has not taken yet, oldest first. -/
structure Desk where
  dispatcher : Dispatcher := {}
  inbox : List Message := []

/-- The tickets of the answers in the inbox. -/
def Desk.tickets (d : Desk) : List Ticket := d.inbox.filterMap Message.ticket?

/-- Dispatchers that share a transport. -/
structure Switchboard where
  transport : Transport Callback
  desks : SessionId → Desk

namespace Switchboard

/-- A new transport, and dispatchers that have not sent anything. -/
def new (slot : String) (interface : Interface) : Switchboard where
  transport := { slot := slot, interface := interface }
  desks _ := {}

/-- The request in flight of a class at a desk. -/
def entry (i : SessionId) (c : RequestClass) (s : Switchboard) : Option InFlight :=
  (s.desks i).dispatcher.pending.get c

/-- Puts the dispatcher of a desk and the transport into another state. -/
def update (i : SessionId) (d : Dispatcher) (t : Transport Callback) (s : Switchboard) :
    Switchboard where
  transport := t
  desks := Function.update s.desks i { s.desks i with dispatcher := d }

/-- A dispatcher sends a value of a class. -/
def send (i : SessionId) (c : RequestClass) (value : Bool) (s : Switchboard) :
    Submission × Switchboard :=
  let r := (s.desks i).dispatcher.send i c value s.transport
  (r.1, s.update i r.2.1 r.2.2)

/-- A dispatcher drops its request of a class. -/
def cancel (i : SessionId) (c : RequestClass) (s : Switchboard) : Switchboard :=
  let r := (s.desks i).dispatcher.cancel c s.transport
  s.update i r.1 r.2

/-- A dispatcher drops all its requests. -/
def dropAll (i : SessionId) (s : Switchboard) : Switchboard :=
  let r := (s.desks i).dispatcher.dropAll s.transport
  s.update i r.1 r.2

/-- An answer goes where a callback says. -/
def post (a : Completion) (k : Callback) (s : Switchboard) : Switchboard where
  transport := s.transport
  desks := Function.update s.desks k.session
    { s.desks k.session with inbox := (s.desks k.session).inbox ++ [k.message a] }

/-- An answer goes where each of the callbacks says, one after the other. -/
def answer (a : Completion) (ks : List Callback) (s : Switchboard) : Switchboard :=
  ks.foldl (fun s k => s.post a k) s

/-- The radio answers a number. -/
def respond (n : Serial) (a : Completion) (s : Switchboard) : Switchboard :=
  let r := s.transport.respond n
  ({ s with transport := r.2 } : Switchboard).answer a r.1.toList

/-- The queue to the modem takes no further request. -/
def close (s : Switchboard) : Switchboard := { s with transport := s.transport.close }

/-- A dispatcher looks at an answer that it took out of its inbox, which leaves `rest`. -/
def complete (i : SessionId) (c : RequestClass) (ticket : Ticket) (a : Completion)
    (rest : List Message) (s : Switchboard) : Outcome × Switchboard :=
  let r := (s.desks i).dispatcher.complete c ticket a
  (r.1, { s with desks := Function.update s.desks i ⟨r.2, rest⟩ })

/-- What happened in one step, and what came of it. -/
inductive Record where
  | sent (desk : SessionId) (cls : RequestClass) (value : Bool) (submission : Submission)
  | cancelled (desk : SessionId) (cls : RequestClass)
  | droppedAll (desk : SessionId)
  | responded (serial : Serial) (completion : Completion)
  | failedAll (status : TxStatus)
  | closed
  | completed (desk : SessionId) (cls : RequestClass) (ticket : Ticket) (completion : Completion)
      (outcome : Outcome)

/-- One step of a switchboard. -/
inductive Step : Switchboard → Record → Switchboard → Prop
  | send (i : SessionId) (c : RequestClass) (value : Bool) (s : Switchboard) :
      Step s (.sent i c value (s.send i c value).1) (s.send i c value).2
  | cancel (i : SessionId) (c : RequestClass) (s : Switchboard) :
      Step s (.cancelled i c) (s.cancel i c)
  | dropAll (i : SessionId) (s : Switchboard) : Step s (.droppedAll i) (s.dropAll i)
  | respond (n : Serial) (a : Completion) (s : Switchboard) :
      Step s (.responded n a) (s.respond n a)
  /-- The table of waiting requests is emptied in any order. -/
  | failAll (status : TxStatus) (s : Switchboard) {waiting : List (Serial × Callback)}
      (order : waiting.Perm s.transport.pending) :
      Step s (.failedAll status)
        (({ s with transport := s.transport.failAll.2 } : Switchboard).answer (.failed status)
          (waiting.map (fun p => p.2)))
  | close (s : Switchboard) : Step s .closed s.close
  | complete {i : SessionId} {c : RequestClass} {ticket : Ticket} {a : Completion}
      {rest : List Message} {s : Switchboard}
      (oldest : (s.desks i).inbox = .completed c ticket a :: rest) :
      Step s (.completed i c ticket a (s.complete i c ticket a rest).1)
        (s.complete i c ticket a rest).2

/-- Any number of steps, with a record of each. -/
inductive Trace (start : Switchboard) : List Record → Switchboard → Prop
  | nil : Trace start [] start
  | snoc {log : List Record} {s s' : Switchboard} {r : Record} :
      Trace start log s → Step s r s' → Trace start (log ++ [r]) s'

/-- A state that dispatchers on a new transport can come to. -/
def Reachable (s : Switchboard) : Prop :=
  ∃ slot interface log, Trace (new slot interface) log s

/-- The ticket that a dispatcher gives out next. -/
def nextTicket (i : SessionId) (s : Switchboard) : Ticket := (s.desks i).dispatcher.nextTicket

/-- A dispatcher still sends requests of a class. -/
def supports (i : SessionId) (c : RequestClass) (s : Switchboard) : Bool :=
  (s.desks i).dispatcher.supported.get c

section Views

variable (s : Switchboard) (i j : SessionId) (c e : RequestClass)

/-! ## What a changed desk shows -/

section Update

variable (d : Dispatcher) (t : Transport Callback)

@[simp] theorem transport_update : (s.update i d t).transport = t := rfl

@[simp] theorem update_self : s.update i (s.desks i).dispatcher s.transport = s := by
  simp [update]

theorem update_update (d' : Dispatcher) (t' : Transport Callback) :
    (s.update i d t).update i d' t' = s.update i d' t' := by
  simp [update]

theorem dispatcher_update : ((s.update i d t).desks i).dispatcher = d := by
  simp [update]

theorem entry_update :
    (s.update i d t).entry j e = if j = i then d.pending.get e else s.entry j e := by
  by_cases h : j = i <;> simp [entry, update, h]

theorem nextTicket_update :
    (s.update i d t).nextTicket j = if j = i then d.nextTicket else s.nextTicket j := by
  by_cases h : j = i <;> simp [nextTicket, update, h]

@[simp] theorem inbox_update : ((s.update i d t).desks j).inbox = (s.desks j).inbox := by
  by_cases h : j = i <;> simp [update, h]

theorem supports_update :
    (s.update i d t).supports j e = if j = i then d.supported.get e else s.supports j e := by
  by_cases h : j = i <;> simp [supports, update, h]

end Update

/-! ## Cancelling -/

theorem entry_cancel :
    (s.cancel i c).entry j e = if j = i ∧ e = c then none else s.entry j e := by
  simp only [cancel, Dispatcher.dispatcher_cancel, entry_update, ByClass.get_set]
  by_cases hj : j = i
  · simp [hj, entry]
  · simp [hj]

theorem callback?_cancel (n : Serial) :
    (s.cancel i c).transport.callback? n =
      if ∃ p, s.entry i c = some p ∧ p.serial = n then none else s.transport.callback? n := by
  unfold cancel entry
  cases h : (s.desks i).dispatcher.pending.get c with
  | none => simp [Dispatcher.cancel_of_none _ _ h]
  | some p => simp [Dispatcher.cancel_of_some _ _ h, Transport.callback?_forget, eq_comm]

theorem numbered_cancel (h : s.transport.Numbered) : (s.cancel i c).transport.Numbered := by
  unfold cancel
  cases hp : (s.desks i).dispatcher.pending.get c with
  | none => simpa [Dispatcher.cancel_of_none _ _ hp] using h
  | some p => simpa [Dispatcher.cancel_of_some _ _ hp] using h.forget p.serial

@[simp] theorem inbox_cancel : ((s.cancel i c).desks j).inbox = (s.desks j).inbox :=
  inbox_update ..

/-- Cancelling changes nothing about the transport but what waits there. -/
theorem transport_cancel :
    (s.cancel i c).transport
      = { s.transport with pending := (s.cancel i c).transport.pending } :=
  Dispatcher.transport_cancel ..

@[simp] theorem nextSerial_cancel :
    (s.cancel i c).transport.nextSerial = s.transport.nextSerial := by
  rw [transport_cancel]

@[simp] theorem closed_cancel : (s.cancel i c).transport.closed = s.transport.closed := by
  rw [transport_cancel]

@[simp] theorem nextTicket_cancel : (s.cancel i c).nextTicket j = s.nextTicket j := by
  simp only [cancel, Dispatcher.dispatcher_cancel, nextTicket_update]
  split
  · next h => rw [h, nextTicket]
  · rfl

@[simp] theorem supports_cancel : (s.cancel i c).supports j e = s.supports j e := by
  simp only [cancel, Dispatcher.dispatcher_cancel, supports_update]
  split
  · next h => rw [h, supports]
  · rfl

/-- Dropping all requests is cancelling in every class. -/
theorem dropAll_eq_foldl :
    s.dropAll i = RequestClass.all.foldl (fun s c => s.cancel i c) s := by
  have hall : ∀ (cs : List RequestClass) (s : Switchboard),
      s.update i (Dispatcher.cancelAll cs (s.desks i).dispatcher s.transport).1
          (Dispatcher.cancelAll cs (s.desks i).dispatcher s.transport).2
        = cs.foldl (fun s c => s.cancel i c) s := by
    intro cs
    induction cs with
    | nil => exact fun s => update_self s i
    | cons c cs ih =>
        intro s
        have h := ih (s.cancel i c)
        simp only [cancel, dispatcher_update, transport_update, update_update] at h
        exact h
  exact hall RequestClass.all s

theorem entry_dropAll :
    (s.dropAll i).entry j e = if j = i then none else s.entry j e := by
  rw [dropAll_eq_foldl]
  simp only [RequestClass.all, List.foldl_cons, List.foldl_nil, entry_cancel]
  cases e <;> simp

theorem nextTicket_dropAll : (s.dropAll i).nextTicket j = s.nextTicket j := by
  simp [dropAll_eq_foldl, RequestClass.all]

theorem supports_dropAll : (s.dropAll i).supports j e = s.supports j e := by
  simp [dropAll_eq_foldl, RequestClass.all]

/-! ## Submitting where nothing is in flight -/

/-- A dispatcher submits a request of a class in which nothing is in flight. -/
def launch (i : SessionId) (c : RequestClass) (value : Bool) (s : Switchboard) : Switchboard :=
  let d := (s.desks i).dispatcher
  let r := s.transport.submit (c.build value s.transport.interface) ⟨i, c, d.nextTicket⟩
  let pending := match r.1 with
    | some n => d.pending.set c (some ⟨d.nextTicket, n⟩)
    | none => d.pending
  s.update i { d with nextTicket := d.nextTicket + 1, pending := pending } r.2

theorem send_of_unsupported {c : RequestClass}
    (h : (s.desks i).dispatcher.supported.get c = false) (value : Bool) :
    s.send i c value = (.unsupported, s) := by
  simp [send, Dispatcher.send_of_unsupported _ _ h]

theorem launch_of_closed (h : s.transport.closed = true) (value : Bool) :
    s.launch i c value =
      s.update i { (s.desks i).dispatcher with nextTicket := s.nextTicket i + 1 }
        { s.transport with nextSerial := s.transport.nextSerial + 1 } := by
  simp only [launch, Transport.submit_of_closed h, nextTicket]

theorem launch_of_open (h : s.transport.closed = false) (value : Bool) :
    s.launch i c value =
      s.update i
        { (s.desks i).dispatcher with
          nextTicket := s.nextTicket i + 1
          pending := (s.desks i).dispatcher.pending.set c
            (some ⟨s.nextTicket i, s.transport.nextSerial⟩) }
        { s.transport with
          nextSerial := s.transport.nextSerial + 1
          queued := s.transport.queued ++
            [⟨s.transport.nextSerial, c.build value s.transport.interface⟩]
          pending := s.transport.pending ++
            [(s.transport.nextSerial, ⟨i, c, s.nextTicket i⟩)] } := by
  simp only [launch, Transport.submit_of_open h, nextTicket]

/-- Sending is cancelling and then submitting. -/
theorem send_of_supported {c : RequestClass}
    (h : (s.desks i).dispatcher.supported.get c = true) (value : Bool) :
    (s.send i c value).2 = (s.cancel i c).launch i c value := by
  cases hc : s.transport.closed with
  | true =>
      rw [launch_of_closed _ _ _ ((closed_cancel s i c).trans hc)]
      simp only [send, Dispatcher.send_of_closed _ _ h hc, nextTicket, nextSerial_cancel]
      simp only [cancel, dispatcher_update, transport_update, update_update,
        Dispatcher.dispatcher_cancel]
  | false =>
      rw [launch_of_open _ _ _ ((closed_cancel s i c).trans hc), transport_cancel]
      simp only [send, Dispatcher.send_of_open _ _ h hc, nextTicket]
      simp only [cancel, dispatcher_update, transport_update, update_update,
        Dispatcher.dispatcher_cancel, ByClass.set_set]
      rw [Dispatcher.transport_cancel]

theorem transport_launch (value : Bool) :
    (s.launch i c value).transport
      = (s.transport.submit (c.build value s.transport.interface) ⟨i, c, s.nextTicket i⟩).2 := rfl

theorem entry_launch (value : Bool) :
    (s.launch i c value).entry j e =
      if s.transport.closed = false ∧ j = i ∧ e = c then
        some ⟨s.nextTicket i, s.transport.nextSerial⟩
      else s.entry j e := by
  cases hc : s.transport.closed with
  | true =>
      rw [launch_of_closed _ _ _ hc, entry_update]
      split
      · next h => simp [h, entry]
      · simp
  | false =>
      rw [launch_of_open _ _ _ hc, entry_update, ByClass.get_set]
      by_cases hj : j = i
      · simp [hj, entry]
      · simp [hj]

@[simp] theorem inbox_launch (value : Bool) :
    ((s.launch i c value).desks j).inbox = (s.desks j).inbox :=
  inbox_update ..

theorem nextTicket_launch (value : Bool) :
    (s.launch i c value).nextTicket j = if j = i then s.nextTicket i + 1 else s.nextTicket j :=
  nextTicket_update ..

theorem numbered_launch (h : s.transport.Numbered) (value : Bool) :
    (s.launch i c value).transport.Numbered :=
  h.submit ..

theorem nextSerial_launch (value : Bool) :
    (s.launch i c value).transport.nextSerial = s.transport.nextSerial + 1 :=
  Transport.nextSerial_submit ..

@[simp] theorem supports_launch (value : Bool) :
    (s.launch i c value).supports j e = s.supports j e := by
  rw [launch, supports_update]
  split
  · next h => rw [h, supports]
  · rfl

/-! ## Sending -/

theorem submission_send (value : Bool) :
    (s.send i c value).1 =
      if s.supports i c then
        if s.transport.closed then .failed else .submitted (s.nextTicket i)
      else .unsupported := by
  cases hs : s.supports i c with
  | false => simp [send_of_unsupported s i hs]
  | true =>
      cases hc : s.transport.closed with
      | true => simp [send, Dispatcher.send_of_closed _ _ hs hc]
      | false => simp [send, Dispatcher.send_of_open _ _ hs hc, nextTicket]

theorem entry_send (value : Bool) :
    (s.send i c value).2.entry j e =
      if j = i ∧ e = c ∧ s.supports i c = true then
        if s.transport.closed then none else some ⟨s.nextTicket i, s.transport.nextSerial⟩
      else s.entry j e := by
  cases hs : s.supports i c with
  | false => simp [send_of_unsupported s i hs]
  | true =>
      rw [send_of_supported s i hs, entry_launch, entry_cancel]
      by_cases h : j = i ∧ e = c
      · cases hc : s.transport.closed <;> simp [h, hc]
      · simp [h]

theorem nextTicket_send (value : Bool) :
    (s.send i c value).2.nextTicket j =
      if j = i ∧ s.supports i c = true then s.nextTicket j + 1 else s.nextTicket j := by
  cases hs : s.supports i c with
  | false => simp [send_of_unsupported s i hs]
  | true =>
      rw [send_of_supported s i hs, nextTicket_launch, nextTicket_cancel, nextTicket_cancel]
      by_cases h : j = i <;> simp [h]

theorem supports_send (value : Bool) :
    (s.send i c value).2.supports j e = s.supports j e := by
  cases hs : s.supports i c with
  | false => rw [send_of_unsupported s i hs]
  | true => rw [send_of_supported s i hs, supports_launch, supports_cancel]

/-! ## Answers on their way -/

@[simp] theorem transport_post (a : Completion) (k : Callback) :
    (s.post a k).transport = s.transport := rfl

@[simp] theorem dispatcher_post (a : Completion) (k : Callback) :
    ((s.post a k).desks j).dispatcher = (s.desks j).dispatcher := by
  by_cases h : j = k.session <;> simp [post, h]

@[simp] theorem entry_post (a : Completion) (k : Callback) :
    (s.post a k).entry j e = s.entry j e := by
  simp [entry]

@[simp] theorem nextTicket_post (a : Completion) (k : Callback) :
    (s.post a k).nextTicket j = s.nextTicket j := by
  simp [nextTicket]

theorem tickets_post (a : Completion) (k : Callback) :
    ((s.post a k).desks j).tickets =
      if j = k.session then (s.desks j).tickets ++ [k.ticket] else (s.desks j).tickets := by
  by_cases h : j = k.session
  · simp [post, h, Desk.tickets, Callback.message, Message.ticket?]
  · simp [post, h]

theorem mem_inbox_post {a : Completion} {k : Callback} {m : Message} :
    m ∈ ((s.post a k).desks j).inbox ↔
      m ∈ (s.desks j).inbox ∨ j = k.session ∧ m = k.message a := by
  by_cases h : j = k.session <;> simp [post, h]

/-! ## Taking an answer out -/

theorem outcome_complete (t : Ticket) (a : Completion) (rest : List Message) :
    (s.complete i c t a rest).1 =
      if (s.entry i c).map InFlight.ticket = some t then a.outcome c else .stale :=
  Dispatcher.outcome_complete ..

theorem entry_complete (ticket : Ticket) (a : Completion) (rest : List Message) :
    (s.complete i c ticket a rest).2.entry j e =
      if j = i ∧ e = c ∧ (s.entry i c).any (fun p => p.ticket = ticket) then none
      else s.entry j e := by
  by_cases hj : j = i
  · subst hj
    simp only [complete, Dispatcher.complete, entry]
    cases h : (s.desks j).dispatcher.pending.get c with
    | none => simp
    | some p =>
        by_cases ht : p.ticket = ticket
        · simp [ht, Dispatcher.release, ByClass.get_set]
        · simp [ht]
  · simp [complete, entry, hj]

theorem inbox_complete (ticket : Ticket) (a : Completion) (rest : List Message) :
    ((s.complete i c ticket a rest).2.desks j).inbox
      = if j = i then rest else (s.desks j).inbox := by
  by_cases h : j = i <;> simp [complete, h]

theorem nextTicket_complete (ticket : Ticket) (a : Completion) (rest : List Message) :
    (s.complete i c ticket a rest).2.nextTicket j = s.nextTicket j := by
  by_cases hj : j = i
  · subst hj
    simp only [complete, Dispatcher.complete, nextTicket, Function.update_self]
    split
    · rfl
    · split <;> rfl
  · simp [complete, nextTicket, hj]

/-- Only an outcome that says so takes the support of a class away. -/
theorem supports_complete (t : Ticket) (a : Completion) (rest : List Message) :
    (s.complete i c t a rest).2.supports j e =
      if j = i ∧ e = c ∧ (s.complete i c t a rest).1 = .notSupported then false
      else s.supports j e := by
  by_cases hj : j = i
  · subst hj
    simp only [complete, supports, Function.update_self, Dispatcher.supported_complete, true_and]
  · simp [complete, supports, hj]

end Views

/-! ## What was there before -/

section Before

variable {s : Switchboard} {i j : SessionId} {c e : RequestClass} {n : Serial} {k : Callback}
  {p : InFlight} {value : Bool}

theorem entry_cancel_eq_some :
    (s.cancel i c).entry j e = some p ↔ ¬(j = i ∧ e = c) ∧ s.entry j e = some p := by
  rw [entry_cancel]
  split <;> simp_all

theorem callback?_cancel_eq_some :
    (s.cancel i c).transport.callback? n = some k ↔
      (∀ p, s.entry i c = some p → p.serial ≠ n) ∧ s.transport.callback? n = some k := by
  rw [callback?_cancel]
  split
  · next h =>
      obtain ⟨p, hp, hn⟩ := h
      exact ⟨fun hk => absurd hk.symm (Option.some_ne_none k), fun hk => absurd hn (hk.1 p hp)⟩
  · next h => exact ⟨fun hk => ⟨fun p hp hn => h ⟨p, hp, hn⟩, hk⟩, fun hk => hk.2⟩

/-- What waits after a submission waited before or is the new request. -/
theorem callback?_of_launch (h : s.transport.Numbered)
    (hk : (s.launch i c value).transport.callback? n = some k) :
    (s.transport.closed = false ∧ n = s.transport.nextSerial ∧ k = ⟨i, c, s.nextTicket i⟩) ∨
      s.transport.callback? n = some k := by
  rw [transport_launch, h.callback?_submit] at hk
  split at hk
  · next hn => exact .inl ⟨hn.1, hn.2, (Option.some.inj hk).symm⟩
  · exact .inr hk

/-- What is in flight after a submission was so before or is the new request. -/
theorem entry_of_launch
    (hp : (s.launch i c value).entry j e = some p) :
    (s.transport.closed = false ∧ j = i ∧ e = c ∧
        p = ⟨s.nextTicket i, s.transport.nextSerial⟩) ∨
      s.entry j e = some p := by
  rw [entry_launch] at hp
  split at hp
  · next hn => exact .inl ⟨hn.1, hn.2.1, hn.2.2, (Option.some.inj hp).symm⟩
  · exact .inr hp

/-! ## Answers for several callbacks -/

theorem entry_answer (a : Completion) (ks : List Callback) (s : Switchboard) :
    (s.answer a ks).entry i c = s.entry i c := by
  induction ks generalizing s with
  | nil => rfl
  | cons k ks ih => exact (ih (s.post a k)).trans (entry_post s i c a k)

theorem nextTicket_answer (a : Completion) (ks : List Callback) (s : Switchboard) :
    (s.answer a ks).nextTicket i = s.nextTicket i := by
  induction ks generalizing s with
  | nil => rfl
  | cons k ks ih => exact (ih (s.post a k)).trans (nextTicket_post s i a k)

theorem supports_answer (a : Completion) (ks : List Callback) (s : Switchboard) :
    (s.answer a ks).supports i c = s.supports i c := by
  induction ks generalizing s with
  | nil => rfl
  | cons k ks ih => exact (ih (s.post a k)).trans (by simp [supports])

end Before

end Switchboard

end ModemWatch
