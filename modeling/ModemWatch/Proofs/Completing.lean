import ModemWatch.Proofs.Capability
import ModemWatch.Proofs.Ended

/-!
# Answers keep to their class

An answer is for one class of one session.  If it has the ticket that is in flight for the class,
the request is over, whatever became of it: delivered or not, with the right response, a wrong one
or none, with any error.  One answer does more, and takes the class away.  An answer with any other
ticket does nothing at all.

Beyond its class an answer does nothing either.  Nothing is sent, no interval is pushed and no watch
let go; what the session remembers of the signals, what it has decided and whether it still polls
stay as they are.

* `Dispatcher.complete_eq` — the dispatcher after an answer, as a whole;
* `Session.Completes` — all that an answer does; `Session.completes_handle` — that it does this;
* `Host.answer_keeps_to_its_class` — so it is for every session of every host.
-/

namespace ModemWatch

/-- An answer that takes its class away, if it has the right ticket: it was delivered, it echoes the
operation that the class expects, and it carries the error "request not supported". -/
def Completion.Revokes (c : RequestClass) (a : Completion) : Prop :=
  a.status = .ok ∧ a.response = some c.expectedResponse ∧ a.error = .requestNotSupported

instance Completion.decidableRevokes (c : RequestClass) (a : Completion) :
    Decidable (a.Revokes c) :=
  inferInstanceAs (Decidable (_ ∧ _ ∧ _))

namespace Dispatcher

/-- The ticket is the one in flight for the class. -/
def Expects (d : Dispatcher) (c : RequestClass) (ticket : Ticket) : Prop :=
  (d.pending.get c).map InFlight.ticket = some ticket

instance decidableExpects (d : Dispatcher) (c : RequestClass) (ticket : Ticket) :
    Decidable (d.Expects c ticket) :=
  inferInstanceAs (Decidable (_ = _))

variable {d : Dispatcher} {c : RequestClass} {ticket : Ticket}

/-- **An answer ends the request that it is for, and at most takes the class away.** -/
theorem complete_eq (d : Dispatcher) (c : RequestClass) (ticket : Ticket) (a : Completion) :
    (d.complete c ticket a).2 =
      if d.Expects c ticket then
        { d with
          pending := d.pending.set c none
          supported := if a.Revokes c then d.supported.set c false else d.supported }
      else d := by
  by_cases hd : d.Expects c ticket
  · obtain ⟨p, hp, rfl⟩ := Option.map_eq_some_iff.mp hd
    rw [if_pos hd, complete_of_pending hp, release]
    by_cases ha : a.Revokes c
    · rw [if_pos (Completion.outcome_eq_notSupported_iff.mpr ha), if_pos ha]
      rfl
    · rw [if_neg (mt Completion.outcome_eq_notSupported_iff.mp ha), if_neg ha]
  · have hstale : ∀ p, d.pending.get c = some p → p.ticket ≠ ticket := by
      rintro p hp rfl
      exact hd (by rw [Expects, hp, Option.map_some])
    rw [if_neg hd, complete_stale hstale]

end Dispatcher

namespace Session

/-- All that an answer for a class does to a session and its platform. -/
structure Completes (c : RequestClass) (ticket : Ticket) (a : Completion) (s : Session)
    (p : Platform) (s' : Session) (p' : Platform) : Prop where
  /-- No request, no interval, no watch. -/
  platform : p' = p
  /-- The signals as remembered, the decisions of both origins and the bridge. -/
  tracker : s'.tracker = s.tracker
  rest : s'.subscriptions = s.subscriptions ∧ s'.queue = s.queue ∧ s'.closed = s.closed ∧
    s'.dispatcher.nextTicket = s.dispatcher.nextTicket
  others : ∀ e, e ≠ c →
    s'.dispatcher.pending.get e = s.dispatcher.pending.get e ∧
      s'.dispatcher.supported.get e = s.dispatcher.supported.get e
  released : s.dispatcher.Expects c ticket → s'.dispatcher.isPending c = false
  revoked : s.dispatcher.Expects c ticket → a.Revokes c →
    s'.dispatcher.supported.get c = false
  kept : ¬ (s.dispatcher.Expects c ticket ∧ a.Revokes c) →
    s'.dispatcher.supported = s.dispatcher.supported
  stale : ¬ s.dispatcher.Expects c ticket → s' = s

variable {id : SessionId} {s : Session} {c : RequestClass} {ticket : Ticket} {a : Completion}

/-- A session that is closed expects no answer. -/
def Settled (s : Session) : Prop :=
  s.closed = true → ∀ c, s.dispatcher.pending.get c = none

theorem completes_handle (hs : s.Settled) (id : SessionId) (c : RequestClass) (ticket : Ticket)
    (a : Completion) (p : Platform) :
    s.Completes c ticket a p (s.handle id (.completed c ticket a) p).1
      (s.handle id (.completed c ticket a) p).2 := by
  cases hopen : s.closed with
  | true =>
      have hnone : ¬ s.dispatcher.Expects c ticket := by
        simp [Dispatcher.Expects, hs hopen c]
      rw [handle_closed hopen]
      exact
        { platform := rfl
          tracker := rfl
          rest := ⟨rfl, rfl, rfl, rfl⟩
          others := fun _ _ => ⟨rfl, rfl⟩
          released := fun h => absurd h hnone
          revoked := fun h _ => absurd h hnone
          kept := fun _ => rfl
          stale := fun _ => rfl }
  | false =>
      have hhandle : s.handle id (.completed c ticket a) p =
          ({ s with dispatcher := (s.dispatcher.complete c ticket a).2 }, p) := by
        simp [handle, hopen]
      have heq := s.dispatcher.complete_eq c ticket a
      rw [hhandle]
      exact
        { platform := rfl
          tracker := rfl
          rest := ⟨rfl, rfl, rfl, by rw [heq]; split <;> rfl⟩
          others := fun e he =>
            ⟨Dispatcher.pending_complete_ne he ticket a s.dispatcher,
              Dispatcher.supported_complete_ne he ticket a s.dispatcher⟩
          released := fun h => by simp [heq, if_pos h, Dispatcher.isPending]
          revoked := fun h ha => by simp [heq, if_pos h, if_pos ha]
          kept := fun h => by
            by_cases hd : s.dispatcher.Expects c ticket
            · have ha : ¬ a.Revokes c := fun ha => h ⟨hd, ha⟩
              simp [heq, if_pos hd, if_neg ha]
            · simp [heq, if_neg hd]
          stale := fun h => by simp [heq, if_neg h] }

theorem Settled.handle (hs : s.Settled) (id : SessionId) (m : Message) (p : Platform) :
    (s.handle id m p).1.Settled := by
  cases hopen : s.closed with
  | true => rwa [handle_closed hopen]
  | false =>
      rw [handle_of_open id p hopen]
      intro hclosed
      exact absurd (hopen.symm.trans hclosed) (by simp)

/-- Who ends drops what is in flight. -/
theorem Settled.shutdown (hs : s.Settled) (id : SessionId) (p : Platform) :
    (s.shutdown id p).1.Settled := by
  cases hopen : s.closed with
  | true => rwa [shutdown_of_closed id hopen]
  | false => exact fun _ => (over_shutdown id hopen p).inFlight

/-- **A row of answers.**  However many come and whatever they say, the platform and the tracker
stay as they are, and so does every class that none of them is for. -/
theorem completes_handleAll (hs : s.Settled) (id : SessionId) {answers : List Message}
    (hanswers : ∀ m ∈ answers, ∃ c ticket a, m = .completed c ticket a) (p : Platform) :
    (s.handleAll id answers p).2 = p ∧ (s.handleAll id answers p).1.tracker = s.tracker ∧
      ∀ e, (∀ ticket a, .completed e ticket a ∉ answers) →
        (s.handleAll id answers p).1.dispatcher.pending.get e = s.dispatcher.pending.get e ∧
          (s.handleAll id answers p).1.dispatcher.supported.get e =
            s.dispatcher.supported.get e := by
  induction answers generalizing s p with
  | nil => exact ⟨rfl, rfl, fun _ _ => ⟨rfl, rfl⟩⟩
  | cons m answers ih =>
      obtain ⟨c, ticket, a, rfl⟩ := hanswers m List.mem_cons_self
      have hone := completes_handle hs id c ticket a p
      obtain ⟨hplatform, htracker, hothers⟩ := ih (hs.handle id (.completed c ticket a) p)
        (fun m hm => hanswers m (List.mem_cons_of_mem _ hm))
        (s.handle id (.completed c ticket a) p).2
      refine ⟨hplatform.trans hone.platform, htracker.trans hone.tracker, fun e he => ?_⟩
      have hne : e ≠ c := by
        rintro rfl
        exact he ticket a List.mem_cons_self
      obtain ⟨hpending, hsupported⟩ :=
        hothers e fun ticket a hm => he ticket a (List.mem_cons_of_mem _ hm)
      exact ⟨hpending.trans (hone.others e hne).1, hsupported.trans (hone.others e hne).2⟩

end Session

namespace Host

/-- Sessions that have ended expect nothing. -/
theorem settled_travel {slot : String} {interface : Interface} {es : List Move} {j : SessionId}
    {s : Session} (hs : ((new slot interface).travel es).sessions[j]? = some s) : s.Settled := by
  refine forall_sessions (P := Session.Settled) ?_ ?_ ?_ ?_ slot interface es hs
  · intro id variant intervals watchPath p hclosed
    have hopen := (Session.started id ⟨variant, intervals, watchPath⟩ p).closed
    exact absurd (hopen.symm.trans hclosed) (by simp)
  · exact fun s queue h => h
  · exact fun id m s p h => h.handle id m p
  · exact fun id s p h => h.shutdown id p

/-- **An answer keeps to its class**: it does what `Session.Completes` says and no more, to every
session of every host, open or closed, whatever the class, the ticket and the answer are. -/
theorem answer_keeps_to_its_class (slot : String) (interface : Interface) {es : List Move}
    {j : SessionId} {s : Session} (hs : ((new slot interface).travel es).sessions[j]? = some s)
    (c : RequestClass) (ticket : Ticket) (a : Completion) (p : Platform) :
    s.Completes c ticket a p (s.handle j (.completed c ticket a) p).1
      (s.handle j (.completed c ticket a) p).2 :=
  Session.completes_handle (settled_travel hs) j c ticket a p

/-- Two classes are in flight.  An answer without a response and with an error that nobody knows
ends the request of its class and does nothing else; a refusal takes the class away as well.  Both
leave the other class in flight. -/
theorem answer_keeps_to_its_class_of_two :
    let h := (new "slot1" .v15).travel
      [.happen (.start ⟨.deviceState, {}, none⟩),
       .happen (.signal ⟨.charger, .valid true⟩),
       .happen (.signal ⟨.charger, .state .on⟩),
       .happen (.processOne 0),
       .happen (.processOne 0)]
    ∃ s ticket, h.sessions[0]? = some s ∧ s.dispatcher.Expects .chargingState ticket ∧
      s.dispatcher.isPending .lowDataExpected = true ∧
      let strange := s.handle 0 (.completed .chargingState ticket ⟨.ok, none, .other 99⟩) h.platform
      let refused := s.handle 0 (.completed .chargingState ticket
        ⟨.ok, some .sendDeviceState, .requestNotSupported⟩) h.platform
      strange.2 = h.platform ∧ strange.1.tracker = s.tracker ∧
        strange.1.dispatcher.isPending .chargingState = false ∧
        strange.1.dispatcher.supported = s.dispatcher.supported ∧
        refused.1.dispatcher.isPending .chargingState = false ∧
        refused.1.dispatcher.supported.get .chargingState = false ∧
        refused.1.dispatcher.pending.get .lowDataExpected =
          s.dispatcher.pending.get .lowDataExpected := by
  intro h
  obtain ⟨s, ticket, hs, hexpects, hother⟩ : ∃ s ticket, h.sessions[0]? = some s ∧
      s.dispatcher.Expects .chargingState ticket ∧
      s.dispatcher.isPending .lowDataExpected = true :=
    ⟨_, _, rfl, rfl, rfl⟩
  have hstrange := answer_keeps_to_its_class "slot1" .v15 hs .chargingState ticket
    ⟨.ok, none, .other 99⟩ h.platform
  have hrefused := answer_keeps_to_its_class "slot1" .v15 hs .chargingState ticket
    ⟨.ok, some .sendDeviceState, .requestNotSupported⟩ h.platform
  exact ⟨s, ticket, hs, hexpects, hother, hstrange.platform, hstrange.tracker,
    hstrange.released hexpects, hstrange.kept fun hboth => absurd hboth.2 (by decide),
    hrefused.released hexpects, hrefused.revoked hexpects (by decide),
    (hrefused.others .lowDataExpected (by decide)).1⟩

end Host

end ModemWatch
