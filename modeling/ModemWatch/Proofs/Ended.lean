import ModemWatch.Proofs.Accounts
import ModemWatch.Proofs.Capability

/-!
# Sessions that have ended

An end is final.  Whoever else still writes to the signals, answers requests, reports to watches or
hands messages over, a session that has ended stays as its end left it: it does nothing when it is
asked to work, it makes no call and sends no request, and nobody has anything of it any more.  It
shows nothing to the other sessions either; how they go on would be the same with any other session
that has ended in its place (`Host.travel_bury`).

* `Session.Over` — what an end leaves; `Session.Keeps` — what it does not change;
* `Host.Gone` — a session that stays as it is and does nothing;
* `Host.end_is_final` — that an end makes it so for good.
-/

namespace ModemWatch

namespace Dispatcher

/-- Dropping requests leaves nothing in flight in their classes. -/
theorem dispatcher_cancelAll {τ : Type} [Radio τ Callback] (cs : List RequestClass)
    (d : Dispatcher) (radio : τ) :
    (cancelAll cs d radio).1 =
      { d with pending := cs.foldl (fun pending c => pending.set c none) d.pending } := by
  induction cs generalizing d radio with
  | nil => rfl
  | cons c cs ih => rw [cancelAll_cons, ih, dispatcher_cancel, List.foldl_cons]

theorem dispatcher_dropAll {τ : Type} [Radio τ Callback] (d : Dispatcher) (radio : τ) :
    (d.dropAll radio).1 = { d with pending := (d.dropAll radio).1.pending } := by
  rw [dropAll, dispatcher_cancelAll]

theorem transport_dropAll (d : Dispatcher) (t : Transport Callback) :
    (d.dropAll t).2 = { t with pending := (d.dropAll t).2.pending } :=
  transport_cancelAll ..

theorem pending_dropAll {τ : Type} [Radio τ Callback] (d : Dispatcher) (radio : τ)
    (c : RequestClass) : (d.dropAll radio).1.pending.get c = none := by
  rw [dropAll, dispatcher_cancelAll]
  cases c <;> rfl

end Dispatcher

namespace Session

/-- A session that has ended: nothing waits for it, it holds nothing and has nothing in flight. -/
structure Over (s : Session) : Prop where
  closed : s.closed = true
  queue : s.queue = []
  subscriptions : s.subscriptions = []
  inFlight : ∀ c, s.dispatcher.pending.get c = none
  watch : s.tracker.watch = none

/-- One session remembers, has decided and may send what the other does. -/
structure Keeps (s t : Session) : Prop where
  snapshot : t.tracker.snapshot = s.tracker.snapshot
  decision : ∀ o c, t.tracker.decision o c = s.tracker.decision o c
  supported : t.dispatcher.supported = s.dispatcher.supported

theorem over_shutdown (id : SessionId) {s : Session} (hopen : s.closed = false) (p : Platform) :
    (s.shutdown id p).1.Over := by
  rw [shutdown_of_open id p hopen]
  exact ⟨rfl, rfl, rfl, fun c => Dispatcher.pending_dropAll s.dispatcher p.transport c,
    (Tracker.watch_stopPolling s.tracker).1⟩

theorem shutdown_of_closed (id : SessionId) {s : Session} (h : s.closed = true) (p : Platform) :
    s.shutdown id p = (s, p) := by
  rw [shutdown, if_pos h]

theorem closed_shutdown (id : SessionId) (s : Session) (p : Platform) :
    (s.shutdown id p).1.closed = true := by
  cases hopen : s.closed with
  | true => rw [Session.shutdown_of_closed id hopen]; exact hopen
  | false => exact (Session.over_shutdown id hopen p).closed

theorem keeps_shutdown (id : SessionId) (s : Session) (p : Platform) :
    s.Keeps (s.shutdown id p).1 := by
  refine ⟨?_, ?_, supported_shutdown id s p⟩
  · cases hopen : s.closed with
    | true => rw [shutdown_of_closed id hopen]
    | false =>
        rw [shutdown_of_open id p hopen]
        exact Tracker.snapshot_handle p.sample (.watchFailed "") s.tracker
  · intro o c
    cases hopen : s.closed with
    | true => rw [shutdown_of_closed id hopen]
    | false =>
        rw [shutdown_of_open id p hopen]
        exact Tracker.decision_stopPolling o c s.tracker

/-- A session that has ended takes no messages. -/
theorem receiveAll_of_closed {s : Session} (h : s.closed = true) (ms : List Message) :
    s.receiveAll ms = s := by
  rw [receiveAll, if_pos h]

end Session

namespace Host

/-- A session of a host that is `t` and does nothing when it is asked to, while nobody has anything
for it. -/
structure Gone (h : Host) (j : SessionId) (t : Session) : Prop where
  stands : h.sessions[j]? = some t
  handle : ∀ m, h.handle j m = h
  processOne : h.processOne j = h
  process : h.process j = (0, h)
  shutdown : h.shutdown j = h
  handlers : ∀ k, ∀ x ∈ (h.platform.sources.get k).registry.handlers, x.owner ≠ j
  watches : ∀ w ∈ h.platform.notifier.watches, w.2 ≠ j
  requests : j ∉ h.platform.slot.owners

/-- Whoever has ended is over. -/
def AllOver (h : Host) : Prop :=
  ∀ (j : SessionId) (s : Session), h.sessions[j]? = some s → s.closed = true → s.Over

/-- Puts another session in the place of one. -/
def bury (j : SessionId) (t : Session) (h : Host) : Host :=
  { h with sessions := h.sessions.set j t }

/-- The requests of a session that wait for their answers in the transport. -/
def waitsFor (j : SessionId) (h : Host) : List (Serial × Callback) :=
  h.platform.transport.pending.filter (fun w => w.2.session == j)

/-- The number of ends of a session so far. -/
def endings (j : SessionId) (h : Host) : Nat :=
  if (h.sessions[j]?).any (fun s => s.closed) then 1 else 0

variable {h h' : Host} {j : SessionId} {s t : Session}

/-! ## What happens to a session that has ended -/

/-- **A session that has ended stays as it is.** -/
theorem stands_effect (hs : h.sessions[j]? = some s) (hclosed : s.closed = true)
    (he : h.Effect h') : h'.sessions[j]? = some s := by
  have hlt : j < h.sessions.length := (List.getElem?_eq_some_iff.mp hs).1
  -- the session that a move is about is open
  have hother : ∀ {id : SessionId} {s₀ : Session}, h.sessions[id]? = some s₀ →
      s₀.closed = false → id ≠ j := by
    rintro id s₀ hs₀ hopen rfl
    obtain rfl : s = s₀ := Option.some.inj (hs.symm.trans hs₀)
    rw [hclosed] at hopen
    cases hopen
  cases he with
  | posts hp =>
      have hs' := List.getElem?_eq_getElem (hp.length ▸ hlt)
      obtain ⟨s₀, ms, hs₀, heq⟩ := hp.mail hs'
      obtain rfl : s = s₀ := Option.some.inj (hs.symm.trans hs₀)
      rw [hs', heq, Session.receiveAll_of_closed hclosed]
  | handles m queue hs₀ hopen => exact (List.getElem?_set_ne (hother hs₀ hopen)).trans hs
  | ends hs₀ hopen => exact (List.getElem?_set_ne (hother hs₀ hopen)).trans hs
  | starts m => exact (List.getElem?_append_left hlt).trans hs

theorem AllOver.effect (ha : h.AllOver) (he : h.Effect h') : h'.AllOver := by
  intro j s' hs' hclosed
  cases he with
  | posts hp =>
      obtain ⟨s, ms, hs, rfl⟩ := hp.mail hs'
      rw [Session.closed_receiveAll] at hclosed
      rw [Session.receiveAll_of_closed hclosed]
      exact ha j s hs hclosed
  | handles m queue hs hopen =>
      rcases getElem?_set_cases hs' with ⟨rfl, rfl⟩ | ⟨-, hold⟩
      · rw [(Session.same_handle ..).closed, hopen] at hclosed
        cases hclosed
      · exact ha j s' hold hclosed
  | ends hs hopen =>
      rcases getElem?_set_cases hs' with ⟨rfl, rfl⟩ | ⟨-, hold⟩
      · exact Session.over_shutdown j hopen h.platform
      · exact ha j s' hold hclosed
  | starts m =>
      rcases getElem?_concat_cases hs' with ⟨-, hold⟩ | ⟨-, rfl⟩
      · exact ha j s' hold hclosed
      · rw [(Session.started _ m _).closed] at hclosed
        cases hclosed

theorem mem_waitsFor {w : Serial × Callback} :
    w ∈ h.waitsFor j ↔ w ∈ h.platform.transport.pending ∧ w.2.session = j := by
  rw [waitsFor, List.mem_filter, beq_iff_eq]

/-- **A session that has ended sends nothing.** -/
theorem waitsFor_effect (hs : h.sessions[j]? = some s) (hclosed : s.closed = true)
    (he : h.Effect h') : h'.waitsFor j ⊆ h.waitsFor j := by
  intro w hmem
  obtain ⟨hw, hmine⟩ := mem_waitsFor.mp hmem
  refine mem_waitsFor.mpr ⟨?_, hmine⟩
  cases he with
  | posts hp => exact hp.pending w hw
  | @handles id s₀ m queue hs₀ hopen =>
      rw [Session.handle_of_open id h.platform hopen] at hw
      refine (Dispatcher.mem_pending_sendAll hw).resolve_right ?_
      rintro ⟨rfl, -⟩
      rw [hmine, hs] at hs₀
      cases hs₀
      rw [hclosed] at hopen
      cases hopen
  | @ends id s₀ hs₀ hopen =>
      rw [Session.shutdown_of_open id h.platform hopen] at hw
      simp only [Dispatcher.dropAll, Dispatcher.pending_cancelAll] at hw
      exact (List.mem_filter.mp hw).1
  | starts m =>
      obtain ⟨values, -, hsends⟩ := Session.sends_start h.sessions.length m h.platform
      have hsent : (Session.start h.sessions.length m.variant m.intervals m.watchPath
          h.platform).2.transport = _ := congrArg Prod.snd hsends
      simp only [hsent] at hw
      refine (Dispatcher.mem_pending_sendAll hw).resolve_right ?_
      rintro ⟨hlast, -⟩
      rw [← hmine, hlast] at hs
      exact Nat.lt_irrefl _ (List.getElem?_eq_some_iff.mp hs).1

/-! ## Calls -/

/-- The calls that the slot got between two states. -/
def newCalls (h h' : Host) : List SlotCall :=
  h'.platform.slot.calls.drop h.platform.slot.calls.length

theorem newCalls_of_append {new : List SlotCall}
    (hcalls : h'.platform.slot.calls = h.platform.slot.calls ++ new) : h.newCalls h' = new := by
  rw [newCalls, hcalls, List.drop_left]

/-- The calls of a session are requests while it is open and one drop when it ends. -/
inductive CallsOf (h h' : Host) : List SlotCall → Prop
  | none : (∀ j, h'.endings j = h.endings j) → CallsOf h h' []
  | sets (id : SessionId) (intervals : List Millis) : (∀ j, h'.endings j = h.endings j) →
      (∀ s : Session, h.sessions[id]? = some s → s.closed = false) →
      CallsOf h h' (intervals.map (fun ms => .set id ms))
  | drops {id : SessionId} {s : Session} : h.sessions[id]? = some s → s.closed = false →
      (∀ j, h'.endings j = if j = id then 1 else h.endings j) → CallsOf h h' [.drop id]

theorem endings_of_posted (hp : h.Posted h') (j : SessionId) : h'.endings j = h.endings j := by
  have hsame := hp.exists_iff (fun s => s.closed = true)
    (fun ms s => by rw [Session.closed_receiveAll]) j
  unfold endings
  refine if_congr ?_ rfl rfl
  rw [Option.any_eq_true, Option.any_eq_true]
  exact hsame.symm

theorem endings_set (hs : h.sessions[j]? = some s) (p : Platform) (s' : Session) (i : SessionId) :
    (⟨p, h.sessions.set j s'⟩ : Host).endings i =
      if i = j then (if s'.closed then 1 else 0) else h.endings i := by
  have hlt : j < h.sessions.length := (List.getElem?_eq_some_iff.mp hs).1
  unfold endings
  by_cases hi : i = j
  · subst hi
    simp [List.getElem?_set_self hlt]
  · simp [hi, List.getElem?_set_ne (Ne.symm hi)]

theorem endings_append (p : Platform) {s' : Session} (hopen : s'.closed = false) (i : SessionId) :
    (⟨p, h.sessions ++ [s']⟩ : Host).endings i = h.endings i := by
  unfold endings
  rcases Nat.lt_trichotomy i h.sessions.length with hi | hi | hi
  · simp [List.getElem?_append_left hi]
  · simp [hi, hopen]
  · have hnone : (h.sessions ++ [s'])[i]? = none :=
      List.getElem?_eq_none (by simpa using Nat.succ_le_of_lt hi)
    have hnone' : h.sessions[i]? = none := List.getElem?_eq_none (Nat.le_of_lt hi)
    simp [hnone, hnone']

/-- **Who calls**: an open session for itself. -/
theorem calls_effect (he : h.Effect h') : CallsOf h h' (h.newCalls h') := by
  cases he with
  | posts hp =>
      have hnone : h.newCalls h' = [] := by
        rcases hp.calls with hcalls | hcalls
        · exact newCalls_of_append (by rw [hcalls, List.append_nil])
        · rw [newCalls, hcalls, List.drop_nil]
      rw [hnone]
      exact .none (endings_of_posted hp)
  | @handles id s m queue hs hopen =>
      have hcalls : (s.handle id m h.platform).2.slot.calls = h.platform.slot.calls ++
          (Action.pushes (s.tracker.handle h.platform.sample m).2).map (fun ms => .set id ms) := by
        rw [Session.handle_of_open id h.platform hopen]
        exact Slot.calls_pushAll ..
      have hclosed := (Session.same_handle id m s h.platform).closed.trans hopen
      rw [newCalls_of_append hcalls]
      refine .sets id _ (fun j => ?_) fun s₀ hs₀ => ?_
      · rw [endings_set hs]
        split
        · next hj => simp [endings, hj, hs, hopen, hclosed]
        · rfl
      · rw [hs] at hs₀
        exact Option.some.inj hs₀ ▸ hopen
  | @ends id s hs hopen =>
      have hcalls : (s.shutdown id h.platform).2.slot.calls =
          h.platform.slot.calls ++ [.drop id] := by
        rw [Session.shutdown_of_open id h.platform hopen]
        rfl
      rw [newCalls_of_append hcalls]
      refine .drops hs hopen fun j => ?_
      rw [endings_set hs, (Session.over_shutdown id hopen h.platform).closed, if_pos rfl]
  | starts m =>
      obtain ⟨intervals, -, hslot⟩ := Session.slot_start h.sessions.length m h.platform
      have hcalls : (Session.start h.sessions.length m.variant m.intervals m.watchPath
          h.platform).2.slot.calls =
            h.platform.slot.calls ++ intervals.map (fun ms => .set h.sessions.length ms) := by
        rw [hslot]
        exact Slot.calls_pushAll ..
      rw [newCalls_of_append hcalls]
      refine .sets _ _ (endings_append _ (Session.started _ m _).closed) fun s₀ hs₀ => ?_
      exact absurd (List.getElem?_eq_some_iff.mp hs₀).1 (Nat.lt_irrefl _)

/-- A session that has ended makes no call. -/
theorem CallsOf.owner_ne {new : List SlotCall} (hc : CallsOf h h' new)
    (hs : h.sessions[j]? = some s) (hclosed : s.closed = true) : ∀ call ∈ new, call.owner ≠ j := by
  intro call hcall hmine
  cases hc with
  | none => cases hcall
  | sets id intervals _ hopen =>
      obtain ⟨ms, -, rfl⟩ := List.mem_map.mp hcall
      obtain rfl : id = j := hmine
      rw [hopen s hs] at hclosed
      cases hclosed
  | @drops id s₀ hs₀ hopen _ =>
      rw [List.mem_singleton.mp hcall] at hmine
      obtain rfl : id = j := hmine
      obtain rfl : s = s₀ := Option.some.inj (hs.symm.trans hs₀)
      rw [hclosed] at hopen
      cases hopen

/-- A session drops its request when it ends and at no other time. -/
theorem CallsOf.count_drop {new : List SlotCall} (hc : CallsOf h h' new) (j : SessionId) :
    h.endings j + new.count (.drop j) = h'.endings j := by
  cases hc with
  | none hsame => rw [hsame, List.count_nil, Nat.add_zero]
  | sets id intervals hsame _ =>
      have hnone : (intervals.map (fun ms => SlotCall.set id ms)).count (.drop j) = 0 := by
        rw [List.count_eq_zero]
        intro hmem
        obtain ⟨ms, -, hdrop⟩ := List.mem_map.mp hmem
        cases hdrop
      rw [hsame, hnone, Nat.add_zero]
  | @drops id s hs hopen hends =>
      rw [hends]
      by_cases hj : j = id
      · subst hj
        simp [endings, hs, hopen]
      · have hother : SlotCall.drop id ≠ SlotCall.drop j := fun hd => hj (SlotCall.drop.inj hd).symm
        rw [if_neg hj, List.count_singleton, if_neg (by simpa using hother), Nat.add_zero]

/-- **Over a row of moves a session drops its request once, if it has ended.** -/
theorem count_drop_callsAlong (hswept : h.Swept) {es : List Move} (hes : ∀ e ∈ es, e.Inside)
    (j : SessionId) :
    h.endings j + (callsAlong es h).count (.drop j) = (h.travel es).endings j := by
  induction es generalizing h with
  | nil => rfl
  | cons e es ih =>
      have he := effect_move hswept (hes e List.mem_cons_self)
      have hrest := ih (hswept.effect he) fun e' he' => hes e' (List.mem_cons_of_mem _ he')
      have hone := (calls_effect he).count_drop j
      rw [callsAlong, List.count_append, ← Nat.add_assoc]
      exact (congrArg (· + _) hone).trans hrest

/-! ## What the others notice of it -/

theorem deliver_bury (hs : h.sessions[j]? = some s) (hclosed : t.closed = true)
    (letters : List (SessionId × Message)) :
    (h.bury j t).deliver letters = (h.deliver letters).bury j t := by
  have hlt : j < h.sessions.length := (List.getElem?_eq_some_iff.mp hs).1
  have hplatform : ((h.bury j t).deliver letters).platform =
      ((h.deliver letters).bury j t).platform := by
    rw [platform_deliver, bury, bury, platform_deliver]
  have hsessions : ((h.bury j t).deliver letters).sessions =
      ((h.deliver letters).bury j t).sessions := by
    refine List.ext_getElem? fun i => ?_
    rw [getElem?_deliver]
    by_cases hi : i = j
    · subst hi
      have hlt' : i < (h.deliver letters).sessions.length := by rwa [length_deliver]
      rw [bury, List.getElem?_set_self hlt, bury, List.getElem?_set_self hlt', Option.map_some,
        Session.receiveAll_of_closed hclosed]
    · rw [bury, List.getElem?_set_ne (Ne.symm hi), bury, List.getElem?_set_ne (Ne.symm hi),
        getElem?_deliver]
  exact eq_of_parts hplatform hsessions

/-- What a session does to a host does not depend on another that has ended. -/
theorem withSession_bury (hs : h.sessions[j]? = some s) {id : SessionId}
    {f : Session → Platform → Session × Platform} (hold : ∀ p, (f s p).2 = p)
    (hnew : ∀ p, f t p = (t, p)) :
    (h.bury j t).withSession id f = (h.withSession id f).bury j t := by
  have hlt : j < h.sessions.length := (List.getElem?_eq_some_iff.mp hs).1
  by_cases hid : id = j
  · subst hid
    have ht : (h.bury id t).sessions[id]? = some t := List.getElem?_set_self hlt
    rw [withSession_of_some ht, withSession_of_some hs, hnew]
    simp only [bury, List.set_set, hold]
  · have hsame : (h.bury j t).sessions[id]? = h.sessions[id]? := List.getElem?_set_ne (Ne.symm hid)
    cases hs' : h.sessions[id]? with
    | none => rw [withSession_of_none (hsame.trans hs'), withSession_of_none hs']
    | some s' =>
        rw [withSession_of_some (hsame.trans hs'), withSession_of_some hs']
        simp only [bury, List.set_comm _ _ (Ne.symm hid)]

/-- **Nobody sees which session it is that has ended.** -/
theorem move_bury (hs : h.sessions[j]? = some s) (hover : s.Over) (hclosed : t.closed = true)
    (hempty : t.queue = []) {e : Move} (he : e.Inside) :
    (h.bury j t).move e = (h.move e).bury j t := by
  have hlt : j < h.sessions.length := (List.getElem?_eq_some_iff.mp hs).1
  have hmail : ∀ (p : Platform) (letters : List (SessionId × Message)),
      (({ h with platform := p } : Host).bury j t).deliver letters =
        (({ h with platform := p } : Host).deliver letters).bury j t :=
    fun p letters => deliver_bury (h := { h with platform := p }) hs hclosed letters
  cases e with
  | happen e =>
      cases e with
      | signal u =>
          simp only [move, step, Host.signal, postTo_eq_deliver]
          exact hmail _ _
      | respond n a =>
          simp only [move, step, Host.respond, answer_eq_deliver]
          exact hmail _ _
      | failAll status =>
          simp only [move, step, Host.failAll, answer_eq_deliver]
          exact hmail _ _
      | emit event =>
          simp only [move, step, Host.emit, postTo_eq_deliver]
          exact hmail h.platform _
      | start m =>
          simp only [move, step, start_eq, bury, List.length_set]
          exact eq_of_parts rfl (List.set_append_left _ _ hlt).symm
      | processOne id =>
          exact withSession_bury hs (fun p => by rw [Session.processOne_of_empty id hover.queue])
            fun p => Session.processOne_of_empty id hempty p
      | shutdown id =>
          exact withSession_bury hs (fun p => by rw [Session.shutdown_of_closed id hover.closed])
            fun p => Session.shutdown_of_closed id hclosed p
      | closeOutgoing | failNextWatch | writeScreen | setPower | takeOutgoing | collectSlot => rfl
  | failAll status order perm =>
      simp only [move, answer_eq_deliver]
      exact hmail _ _
  | hand id m =>
      exact withSession_bury hs (fun p => by rw [Session.handle_closed hover.closed])
        fun p => Session.handle_closed hclosed
  | exchange f signals => exact absurd he not_false

theorem travel_bury (hs : h.sessions[j]? = some s) (hover : s.Over) (hclosed : t.closed = true)
    (hempty : t.queue = []) (hswept : h.Swept) {es : List Move} (hes : ∀ e ∈ es, e.Inside) :
    (h.bury j t).travel es = (h.travel es).bury j t := by
  induction es generalizing h with
  | nil => rfl
  | cons e es ih =>
      have hin := hes e List.mem_cons_self
      have he := effect_move hswept hin
      have hrest := ih (stands_effect hs hover.closed he) (hswept.effect he) fun e' he' =>
        hes e' (List.mem_cons_of_mem _ he')
      rw [← move_bury hs hover hclosed hempty hin] at hrest
      exact hrest

/-! ## Ends are final -/

/-- Through any row of moves a session that has ended stays and sends nothing. -/
theorem stands_travel (hswept : h.Swept) (hs : h.sessions[j]? = some t) (hclosed : t.closed = true)
    {es : List Move} (hes : ∀ e ∈ es, e.Inside) :
    (h.travel es).sessions[j]? = some t ∧ (h.travel es).waitsFor j ⊆ h.waitsFor j := by
  refine (effect_induction (P := fun g => g.sessions[j]? = some t ∧ g.waitsFor j ⊆ h.waitsFor j)
    hswept ?_ hes ⟨hs, fun _ hw => hw⟩).2
  rintro g g' - he ⟨hstands, hwaits⟩
  exact ⟨stands_effect hstands hclosed he, fun _ hw =>
    hwaits (waitsFor_effect hstands hclosed he hw)⟩

/-- A session that has ended makes no call in any row of moves. -/
theorem owner_ne_of_callsAlong (hswept : h.Swept) (hs : h.sessions[j]? = some t)
    (hclosed : t.closed = true) {es : List Move} (hes : ∀ e ∈ es, e.Inside) :
    ∀ call ∈ callsAlong es h, call.owner ≠ j := by
  induction es generalizing h with
  | nil => exact fun call hcall => absurd hcall List.not_mem_nil
  | cons e es ih =>
      have he := effect_move hswept (hes e List.mem_cons_self)
      intro call hcall
      rcases List.mem_append.mp hcall with hcall | hcall
      · exact (calls_effect he).owner_ne hs hclosed call hcall
      · exact ih (hswept.effect he) (stands_effect hs hclosed he)
          (fun e' he' => hes e' (List.mem_cons_of_mem _ he')) call hcall

/-- A session that has ended has given up its interval once. -/
theorem count_drop_of_closed {slot : String} {interface : Interface} {es : List Move}
    (hes : ∀ e ∈ es, e.Inside) (hs : ((new slot interface).travel es).sessions[j]? = some t)
    (hclosed : t.closed = true) :
    (callsAlong es (new slot interface)).count (.drop j) = 1 := by
  have hcount := count_drop_callsAlong (swept_new slot interface) hes j
  have hfirst : (new slot interface).endings j = 0 := rfl
  rw [hfirst, Nat.zero_add] at hcount
  rw [hcount, endings, hs, Option.any_some, if_pos hclosed]

/-- On a host that is in order nothing waits for a session that has ended. -/
theorem Wired.waitsFor_of_closed (hw : h.Wired) (hs : h.sessions[j]? = some t)
    (hclosed : t.closed = true) : h.waitsFor j = [] := by
  rw [List.eq_nil_iff_forall_not_mem]
  intro w hmem
  obtain ⟨hpending, hmine⟩ := mem_waitsFor.mp hmem
  obtain ⟨s, hs', hopen, -⟩ := hw.waiting hpending
  rw [hmine, hs] at hs'
  rw [← Option.some.inj hs', hclosed] at hopen
  cases hopen

/-- A session that is over is gone. -/
theorem gone_of_over (hm : h.Subscribed) (hw : h.Watched) (hb : h.Booked)
    (ht : h.sessions[j]? = some t) (hover : t.Over) : h.Gone j t where
  stands := ht
  handle m := by
    rw [Host.handle, withSession_of_some ht, Session.handle_closed hover.closed, put_back ht]
  processOne := by
    rw [Host.processOne, withSession_of_some ht, Session.processOne_of_empty j hover.queue,
      put_back ht]
  process := by
    rw [process, withSession_of_some ht, Session.process_of_empty hover.queue, put_back ht, queued,
      ht]
    simp only [hover.queue, List.length_nil]
  shutdown := shutdown_of_closed ht hover.closed
  handlers k x hx howner := by
    have hnone : (h.platform.sources.heldBy k j).map (fun x => x.event) = [] := by
      rw [(hm.held j t ht).events k, Session.observed, if_pos hover.closed]
      rfl
    have hmine : x ∈ h.platform.sources.heldBy k j :=
      List.mem_filter.mpr ⟨hx, beq_iff_eq.mpr howner⟩
    rw [List.map_eq_nil_iff.mp hnone] at hmine
    cases hmine
  watches w hmem howner := by
    obtain ⟨s, hs, hwatch⟩ := (hw.held w.1 w.2).mp hmem
    rw [howner, ht] at hs
    rw [← Option.some.inj hs, hover.watch] at hwatch
    cases hwatch
  requests hmem := by
    obtain ⟨s, hs, hopen⟩ := (hb.held j).mp hmem
    rw [ht] at hs
    rw [← Option.some.inj hs, hover.closed] at hopen
    cases hopen

/-- **An end is final.**  Take any row of moves, a session, open or not, that is ended then, and any
further row of moves.  The session is over and keeps what it remembers, has decided and may send; it
is gone for good; the slot hears no call of it any more, and of one drop in all the time; it sends
nothing, and if answers came by the queues nothing waits for it in the transport.  The other sessions
are as they were, and go on as they would with any session in its place that has ended. -/
theorem end_is_final (slot : String) (interface : Interface) {es more : List Move}
    (hes : ∀ e ∈ es, e.Inside) (hmore : ∀ e ∈ more, e.Inside) {j : SessionId} {s : Session}
    (hs : ((new slot interface).travel es).sessions[j]? = some s) :
    let h := (new slot interface).travel es
    let t := (s.shutdown j h.platform).1
    let h' := (h.shutdown j).travel more
    t.Over ∧ s.Keeps t ∧ h'.Gone j t ∧
    (∀ call ∈ callsAlong more (h.shutdown j), call.owner ≠ j) ∧
    (callsAlong (es ++ .happen (.shutdown j) :: more) (new slot interface)).count (.drop j) = 1 ∧
    h'.waitsFor j ⊆ (h.shutdown j).waitsFor j ∧
    ((∀ e ∈ es, e.Queued) → h'.waitsFor j = []) ∧
    (∀ i, i ≠ j → (h.shutdown j).sessions[i]? = h.sessions[i]?) ∧
    ∀ t' : Session, t'.closed = true → t'.queue = [] →
      ((h.shutdown j).bury j t').travel more = h'.bury j t' := by
  intro h t h'
  have hrow : ∀ e ∈ es ++ .happen (.shutdown j) :: more, e.Inside := by
    intro e he
    rcases List.mem_append.mp he with he | he
    · exact hes e he
    · rcases List.mem_cons.mp he with rfl | he
      · trivial
      · exact hmore e he
  have hend : (new slot interface).travel (es ++ .happen (.shutdown j) :: more) = h' :=
    travel_append ..
  have hswept : (h.shutdown j).Swept := by
    have hall := (effect_induction (P := fun _ => True) (swept_new slot interface)
      (fun _ _ _ _ _ => trivial) hes trivial).1
    exact hall.effect (effect_shutdown j h)
  -- what is so after every move is so at the end
  have hkeep : ∀ {P : Host → Prop}, P (new slot interface) →
      (∀ g g' : Host, g.Swept → g.Effect g' → P g → P g') → P h' := by
    intro P hP hstep
    rw [← hend]
    exact (effect_induction (swept_new slot interface) hstep hrow hP).2
  have hstands : (h.shutdown j).sessions[j]? = some t := by
    rw [Host.shutdown, getElem?_withSession, if_pos rfl, hs, Option.map_some]
  have hclosed : t.closed = true := Session.closed_shutdown j s h.platform
  obtain ⟨hlast, hwaits⟩ := stands_travel hswept hstands hclosed hmore
  have hover : t.Over := by
    refine hkeep (P := AllOver) (fun i s hs => ?_) (fun _ _ _ he ha => ha.effect he) j t hlast hclosed
    simp [new] at hs
  refine ⟨hover, Session.keeps_shutdown j s h.platform, ?_, ?_, ?_, hwaits, ?_, ?_, ?_⟩
  · exact gone_of_over
      (hkeep (subscribed_new slot interface) fun _ _ _ he hm => hm.effect he)
      (hkeep (watched_new slot interface) fun _ _ _ he hw => hw.effect he)
      (hkeep (booked_new slot interface) fun _ _ _ he hb => hb.effect he) hlast hover
  · exact owner_ne_of_callsAlong hswept hstands hclosed hmore
  · refine count_drop_of_closed hrow ?_ hclosed
    rw [hend]
    exact hlast
  · intro hqueued
    have hwired := (wired_new slot interface).travel (swept_new slot interface) hqueued
    rw [(hwired.shutdown j).waitsFor_of_closed hstands hclosed] at hwaits
    exact List.subset_nil.mp hwaits
  · intro i hi
    rw [Host.shutdown, getElem?_withSession, if_neg hi]
  · exact fun t' hclosed' hempty' =>
      travel_bury hstands hover hclosed' hempty' hswept hmore

/-- A session polls, has a request in flight and news of the display in its queue when it is ended.
Then the answer comes, the file changes, and the session is handed news and ended again: it is gone,
the answer reaches nobody, and its request for an interval was dropped once. -/
theorem end_is_final_while_polling :
    let es : List Move :=
      [.happen (.start ⟨.deviceState, {}, some "screen"⟩),
       .happen (.start ⟨.indicationFilter, {}, none⟩),
       .happen (.signal ⟨.display, .state .on⟩)]
    let more : List Move :=
      [.happen (.respond 1 (.failed .timeout)), .happen (.emit .changed),
       .hand 0 (.signal ⟨.charger, .state .on⟩), .happen (.shutdown 0), .happen (.processOne 1)]
    let h := (new "slot1" .v15).travel es
    let h' := (h.shutdown 0).travel more
    h.platform.transport.isPending 1 = true ∧
    (∃ s, h.sessions[0]? = some s ∧ s.queue.length = 1 ∧ s.tracker.isPolling = true ∧
      h'.Gone 0 (s.shutdown 0 h.platform).1) ∧
    (callsAlong (es ++ .happen (.shutdown 0) :: more) (new "slot1" .v15)).count (.drop 0) = 1 ∧
    h'.waitsFor 0 = [] := by
  intro es more h h'
  have hes : ∀ e ∈ es, e.Queued := by
    intro e he
    simp only [es, List.mem_cons, List.not_mem_nil, or_false] at he
    rcases he with rfl | rfl | rfl <;> trivial
  have hmore : ∀ e ∈ more, e.Inside := by
    intro e he
    simp only [more, List.mem_cons, List.not_mem_nil, or_false] at he
    rcases he with rfl | rfl | rfl | rfl | rfl <;> trivial
  obtain ⟨s, hs, hqueue, hlive⟩ : ∃ s, h.sessions[0]? = some s ∧ s.queue.length = 1 ∧
      s.tracker.isPolling = true := ⟨_, rfl, rfl, rfl⟩
  obtain ⟨-, -, hgone, -, hcount, -, hpending, -, -⟩ :=
    end_is_final "slot1" .v15 (fun e he => (hes e he).inside) hmore hs
  exact ⟨rfl, ⟨s, hs, hqueue, hlive, hgone⟩, hcount, hpending hes⟩

end Host

end ModemWatch
