import ModemWatch.Proofs.Deciding
import ModemWatch.Proofs.Dispatching
import ModemWatch.Proofs.Subscribing
import ModemWatch.Session.Basic

/-!
# What carrying out actions does

The actions of a session reach three parts of the platform that have nothing to do with each other:
values go through the dispatcher to the transport, intervals go to the modem slot, watches go back
to the notifier.  The order between actions of different kinds therefore does not matter
(`Platform.carryOut_eq`), and what a session sends can be studied on its dispatcher and the
transport alone.

Sending never changes what is supported, and never whether the queue to the modem is open; so of a
whole list of values exactly those of a supported class come out as requests, all of them or none
(`Dispatcher.requests_sendAll`).  What is supported changes by answers only, and by one kind of them
(`Dispatcher.supported_hear_eq_false_iff`).
-/

namespace ModemWatch

namespace Action

/-- The interval that an action pushes. -/
def interval? : Action → Option Millis
  | .push ms => some ms
  | .attempt _ | .unwatch _ => none

/-- The watch that an action lets go of. -/
def watch? : Action → Option WatchId
  | .unwatch watch => some watch
  | .attempt _ | .push _ => none

/-- The intervals that a list of actions pushes, in order. -/
def pushes (actions : List Action) : List Millis := actions.filterMap interval?

/-- The watches that a list of actions lets go of, in order. -/
def unwatches (actions : List Action) : List WatchId := actions.filterMap watch?

/-- A pass lets go of no watch. -/
theorem unwatches_attempts (o : Origin) (news : List (RequestClass × Bool)) (ms : Millis) :
    unwatches (attempts o news ++ [.push ms]) = [] := by
  simp [unwatches, attempts, watch?]

/-- A pass pushes one interval. -/
theorem pushes_attempts (o : Origin) (news : List (RequestClass × Bool)) (ms : Millis) :
    pushes (attempts o news ++ [.push ms]) = [ms] := by
  simp [pushes, attempts, interval?]

end Action

/-- An owner requests intervals, one after the other. -/
def Slot.pushAll (owner : Owner) (intervals : List Millis) (s : Slot) : Slot :=
  intervals.foldl (fun s ms => s.take (.set owner ms)) s

/-- Watches are closed, one after the other. -/
def Notifier.closeAll {κ : Type} (watches : List WatchId) (n : Notifier κ) : Notifier κ :=
  watches.foldl (fun n w => n.close w) n

namespace Dispatcher

/-- Values are sent, one after the other. -/
def sendAll (id : SessionId) (values : List Attempt) (run : Dispatcher × Transport Callback) :
    Dispatcher × Transport Callback :=
  values.foldl (fun run a => (run.1.send id a.cls a.value run.2).2) run

end Dispatcher

/-- **Actions of different kinds do not meet.** -/
theorem Platform.carryOut_eq (id : SessionId) (actions : List Action) (d : Dispatcher)
    (p : Platform) :
    p.carryOut id actions d =
      ((Dispatcher.sendAll id (Action.sends actions) (d, p.transport)).1,
        { p with
          transport := (Dispatcher.sendAll id (Action.sends actions) (d, p.transport)).2
          slot := p.slot.pushAll id (Action.pushes actions)
          notifier := p.notifier.closeAll (Action.unwatches actions) }) := by
  unfold carryOut
  induction actions generalizing d p with
  | nil => rfl
  | cons a actions ih =>
      rw [List.foldl_cons]
      cases a with
      | attempt a =>
          exact ih (d.send id a.cls a.value p.transport).2.1
            { p with transport := (d.send id a.cls a.value p.transport).2.2 }
      | push ms => exact ih d { p with slot := p.slot.take (.set id ms) }
      | unwatch watch => exact ih d { p with notifier := p.notifier.close watch }

namespace Dispatcher

section Send

variable (d : Dispatcher) (t : Transport Callback) (id : SessionId) (c : RequestClass)
  (value : Bool)

theorem closed_send : (d.send id c value t).2.2.closed = t.closed := by
  cases hs : d.supported.get c with
  | false => rw [send_of_unsupported d t hs]
  | true =>
      cases hc : t.closed with
      | true => rw [send_of_closed d t hs hc, transport_cancel]; exact hc
      | false => rw [send_of_open d t hs hc, transport_cancel]; exact hc

theorem interface_send : (d.send id c value t).2.2.interface = t.interface := by
  cases hs : d.supported.get c with
  | false => rw [send_of_unsupported d t hs]
  | true =>
      cases hc : t.closed with
      | true => rw [send_of_closed d t hs hc, transport_cancel]
      | false => rw [send_of_open d t hs hc, transport_cancel]

theorem queued_send : (d.send id c value t).2.2.queued =
    t.queued ++ if d.supported.get c = true ∧ t.closed = false then
      [⟨t.nextSerial, c.build value t.interface⟩] else [] := by
  cases hs : d.supported.get c with
  | false => simp [send_of_unsupported d t hs]
  | true =>
      cases hc : t.closed with
      | true => rw [send_of_closed d t hs hc, transport_cancel]; simp
      | false => rw [send_of_open d t hs hc]; simp

end Send

section SendAll

variable (id : SessionId) (values : List Attempt) (d : Dispatcher) (t : Transport Callback)

theorem supported_sendAll : (sendAll id values (d, t)).1.supported = d.supported := by
  induction values generalizing d t with
  | nil => rfl
  | cons a values ih => exact (ih _ _).trans (supported_send d t id a.cls a.value)

theorem closed_sendAll : (sendAll id values (d, t)).2.closed = t.closed := by
  induction values generalizing d t with
  | nil => rfl
  | cons a values ih => exact (ih _ _).trans (closed_send d t id a.cls a.value)

theorem interface_sendAll : (sendAll id values (d, t)).2.interface = t.interface := by
  induction values generalizing d t with
  | nil => rfl
  | cons a values ih => exact (ih _ _).trans (interface_send d t id a.cls a.value)

/-- **The supported ones come out, if the queue is open.** -/
theorem requests_sendAll :
    (sendAll id values (d, t)).2.queued.map (fun o => o.request) =
      t.queued.map (fun o => o.request) ++
        if t.closed then []
        else (values.filter (fun a => d.supported.get a.cls)).map
          (fun a => a.cls.build a.value t.interface) := by
  induction values generalizing d t with
  | nil => simp [sendAll]
  | cons a values ih =>
      have hrest := ih (d.send id a.cls a.value t).2.1 (d.send id a.cls a.value t).2.2
      rw [supported_send, closed_send, interface_send, queued_send] at hrest
      refine hrest.trans ?_
      cases hc : t.closed with
      | true => simp
      | false =>
          cases hs : d.supported.get a.cls with
          | true => simp [hs]
          | false => simp [hs]

end SendAll

end Dispatcher

/-- What a request is about, by what it carries. -/
def Request.cls? (r : Request) : Option RequestClass :=
  match r.payload with
  | .deviceState .lowDataExpected _ => some .lowDataExpected
  | .deviceState .chargingState _ => some .chargingState
  | .deviceState .powerSaveMode _ => none
  | .indicationFilter _ => some .indicationFilter

@[simp] theorem Request.cls?_build (c : RequestClass) (value : Bool) (i : Interface) :
    (c.build value i).cls? = some c := by
  cases c <;> rfl

/-! ## What sessions do -/

/-- What a message tells a dispatcher: an answer ends a request, everything else is not its
business. -/
def Dispatcher.hear (m : Message) (d : Dispatcher) : Dispatcher :=
  match m with
  | .completed c ticket a => (d.complete c ticket a).2
  | .signal _ | .screenChanged | .watchFailed _ => d

namespace Dispatcher

/-- An answer that takes a class away: it has the ticket in flight for the class, was delivered,
echoes the operation that the class expects and carries the error "request not supported". -/
def Refuses (d : Dispatcher) (c : RequestClass) (m : Message) : Prop :=
  ∃ p a, d.pending.get c = some p ∧ m = .completed c p.ticket a ∧ a.status = .ok ∧
    a.response = some c.expectedResponse ∧ a.error = .requestNotSupported

variable {d : Dispatcher}

theorem refuses_completed_iff {c e : RequestClass} {ticket : Ticket} {a : Completion} :
    d.Refuses c (.completed e ticket a) ↔ c = e ∧ (d.complete e ticket a).1 = .notSupported := by
  rw [outcome_complete]
  constructor
  · rintro ⟨p, a', hp, heq, ha⟩
    injection heq with hc ht ha'
    subst hc ht ha'
    rw [hp, Option.map_some, if_pos rfl]
    exact ⟨rfl, Completion.outcome_eq_notSupported_iff.mpr ha⟩
  · rintro ⟨rfl, ho⟩
    split at ho
    · next hp =>
        obtain ⟨p, hget, rfl⟩ := Option.map_eq_some_iff.mp hp
        exact ⟨p, a, hget, rfl, Completion.outcome_eq_notSupported_iff.mp ho⟩
    · cases ho

/-- **Only a refusal takes a class away.** -/
theorem supported_hear_eq_false_iff {c : RequestClass} {m : Message} :
    (d.hear m).supported.get c = false ↔ d.supported.get c = false ∨ d.Refuses c m := by
  cases m with
  | signal | screenChanged | watchFailed => simp [Dispatcher.hear, Refuses]
  | completed e ticket a =>
      rw [refuses_completed_iff, Dispatcher.hear, supported_complete]
      split
      · next h => exact iff_of_true rfl (.inr h)
      · next h => exact ⟨.inl, fun hc => hc.resolve_right h⟩

/-- Only an answer can take support away, and it gives none. -/
theorem supported_of_hear {m : Message} {c : RequestClass}
    (h : (d.hear m).supported.get c = true) : d.supported.get c = true := by
  cases hs : d.supported.get c with
  | true => rfl
  | false =>
      rw [supported_hear_eq_false_iff.mpr (.inl hs)] at h
      cases h

end Dispatcher

/-- A tracker with a bridge that has not looked at anything. -/
def Tracker.bridged (watch : WatchId) (t : Tracker) : Tracker :=
  { t with bridge := some { Bridge.new t.profile.pollRules with watch := some watch } }

/-- Such a bridge records what its rules assume. -/
theorem Tracker.exists_of_bridged {t : Tracker} {watch : WatchId} {c : RequestClass} {value : Bool}
    (h : (t.bridged watch).decision .polling c = some value) :
    ∃ r ∈ t.profile.pollRules, r.cls = c ∧ r.initial = some value :=
  (DecisionSet.get_of_assumed h).resolve_left (by simp [DecisionSet.empty, ByClass.get_const])

theorem Bridge.start_of_ok {id : SessionId} {path : String} {rules : List PollRule}
    {n : Notifier SessionId} {watch : WatchId} (h : (n.watch path id).1 = .ok watch) :
    (Bridge.new rules).start path id n =
      (.ok (), { Bridge.new rules with watch := some watch }, (n.watch path id).2) := by
  unfold Bridge.start
  cases hw : n.watch path id with
  | mk r n' =>
      rw [hw] at h
      obtain rfl : r = .ok watch := h
      rfl

namespace Session

variable (id : SessionId) (s : Session) (p : Platform)

theorem perform_eq (step : Tracker × List Action) :
    s.perform id step p =
      ({ s with
          tracker := step.1
          dispatcher :=
            (Dispatcher.sendAll id (Action.sends step.2) (s.dispatcher, p.transport)).1 },
        { p with
          transport :=
            (Dispatcher.sendAll id (Action.sends step.2) (s.dispatcher, p.transport)).2
          slot := p.slot.pushAll id (Action.pushes step.2)
          notifier := p.notifier.closeAll (Action.unwatches step.2) }) := by
  unfold perform
  rw [Platform.carryOut_eq]

variable {s}

/-- **One message.**  The tracker takes it in, what it wants is carried out, and an answer ends the
request that it is for. -/
theorem handle_of_open (h : s.closed = false) (m : Message) :
    s.handle id m p =
      ({ s with
          tracker := (s.tracker.handle p.sample m).1
          dispatcher := ((Dispatcher.sendAll id (Action.sends (s.tracker.handle p.sample m).2)
            (s.dispatcher, p.transport)).1).hear m },
        { p with
          transport := (Dispatcher.sendAll id (Action.sends (s.tracker.handle p.sample m).2)
            (s.dispatcher, p.transport)).2
          slot := p.slot.pushAll id (Action.pushes (s.tracker.handle p.sample m).2)
          notifier := p.notifier.closeAll
            (Action.unwatches (s.tracker.handle p.sample m).2) }) := by
  unfold handle
  rw [if_neg (by simp [h])]
  cases m with
  | completed c ticket a => rfl
  | signal | screenChanged | watchFailed => exact perform_eq ..

theorem tracker_handle (h : s.closed = false) (m : Message) :
    (s.handle id m p).1.tracker = (s.tracker.handle p.sample m).1 := by
  rw [handle_of_open id p h]

theorem current_handle (h : s.tracker.Current) (m : Message) :
    (s.handle id m p).1.tracker.Current := by
  cases hc : s.closed with
  | true => rw [handle_closed hc]; exact h
  | false => rw [handle_of_open id p hc]; exact h.handle p.sample m

/-- **A start.**  The session subscribes and takes a first pass over what the signals show. -/
theorem start_none (variant : Variant) (intervals : Intervals) :
    Session.start id variant intervals none p =
      ({ tracker := Tracker.new variant intervals p.sources.snapshot
         subscriptions := (p.sources.subscribeAll id variant.profile.signals).1 } :
          Session).perform id (Tracker.start variant intervals p.sources.snapshot)
        { p with sources := (p.sources.subscribeAll id variant.profile.signals).2 } := by
  rw [← Sources.snapshot_subscribeAll id variant.profile.signals p.sources]
  rfl

/-- Polling starts after the first pass. -/
theorem start_some (variant : Variant) (intervals : Intervals) (path : String) :
    Session.start id variant intervals (some path) p =
      (Session.start id variant intervals none p).1.startPolling id path
        (Session.start id variant intervals none p).2 := rfl

/-- Without a watch there is no bridge. -/
theorem startPolling_of_error {path : String} {failure : Failure}
    (h : (p.notifier.watch path id).1 = .error failure) :
    s.startPolling id path p = (s, { p with notifier := (p.notifier.watch path id).2 }) := by
  simp [startPolling, Bridge.start_of_error h]

/-- With a watch the bridge takes a first look. -/
theorem startPolling_of_ok {path : String} {watch : WatchId}
    (h : (p.notifier.watch path id).1 = .ok watch) :
    s.startPolling id path p =
      ({ s with tracker := s.tracker.bridged watch } : Session).perform id
        ((s.tracker.bridged watch).poll p.sample)
        { p with notifier := (p.notifier.watch path id).2 } := by
  simp only [startPolling, Bridge.start_of_ok h]
  rfl

/-- **An end.**  The session gives back all that it holds. -/
theorem shutdown_of_open (h : s.closed = false) :
    s.shutdown id p =
      ({ tracker := s.tracker.stopPolling.1
         dispatcher := (s.dispatcher.dropAll p.transport).1
         subscriptions := []
         queue := []
         closed := true },
        { p with
          sources := s.subscriptions.foldl Sources.unsubscribe p.sources
          transport := (s.dispatcher.dropAll p.transport).2
          slot := p.slot.take (.drop id)
          notifier := p.notifier.closeAll (Action.unwatches s.tracker.stopPolling.2) }) := by
  have hidle : Action.sends s.tracker.stopPolling.2 = [] ∧
      Action.pushes s.tracker.stopPolling.2 = [] := by
    unfold Tracker.stopPolling
    split
    · exact ⟨rfl, rfl⟩
    · split <;> exact ⟨rfl, rfl⟩
  unfold shutdown
  rw [if_neg (by simp [h])]
  simp only [Platform.carryOut_eq, hidle]
  rfl

end Session

end ModemWatch
