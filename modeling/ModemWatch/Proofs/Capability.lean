import ModemWatch.Proofs.Moves

/-!
# Classes that the radio refuses

A class is lost to a session by one thing only, a *refusal* (`Dispatcher.Refuses`): the session,
while it is open, handles an answer with the ticket that is in flight for the class, and the answer
was delivered, echoes the operation that the class expects and carries the one error.  No other
answer takes a class away, and nothing gives one back.

A class that is lost is out of the session's reach.  No request of it is in flight again and none
is queued, whichever source of decisions asks for it.  The decisions themselves are drawn as ever,
since a tracker does not know what the radio supports.

* `Session.supported_handle_eq_false_iff` — what takes a class away from a session;
* `Host.revoked_move_iff`, `Host.revoked_travel_iff` — and when, in one move and in a row of them;
* `Host.Without` — how a session works without a class, and `Host.Revoked.without` — that it does;
* `Host.capability_latch` — all of it, for every row of moves.
-/

namespace ModemWatch

/-- One number stands for the error that takes a class away. -/
theorem RadioError.ofCode_eq_requestNotSupported_iff {code : Int32} :
    RadioError.ofCode code = .requestNotSupported ↔ code = 6 := by
  unfold ofCode
  by_cases h0 : code = 0
  · subst h0
    decide
  · by_cases h2 : code = 2
    · subst h2
      decide
    · simp [h0, h2]

namespace Dispatcher

/-- Nothing is in flight of a class that is not supported. -/
def Silenced (d : Dispatcher) : Prop :=
  ∀ c, d.supported.get c = false → d.pending.get c = none

variable {d : Dispatcher}

theorem silenced_of_full (h : d.supported = .full) : d.Silenced := by
  intro c hc
  rw [h, Capabilities.full, ByClass.get_const] at hc
  cases hc

theorem Silenced.send {τ : Type} [Radio τ Callback] (h : d.Silenced) (radio : τ) (id : SessionId)
    (e : RequestClass) (value : Bool) : (d.send id e value radio).2.1.Silenced := by
  intro c hc
  rw [supported_send] at hc
  by_cases he : c = e
  · subst he
    have hsend : d.send id c value radio = (.unsupported, d, radio) := by
      simp [Dispatcher.send, hc]
    rw [hsend]
    exact h c hc
  · rw [pending_send_ne d radio he]
    exact h c hc

theorem Silenced.sendAll (h : d.Silenced) (id : SessionId) (values : List Attempt)
    (t : Transport Callback) : (Dispatcher.sendAll id values (d, t)).1.Silenced := by
  induction values generalizing d t with
  | nil => exact h
  | cons a values ih => exact ih (h.send t id a.cls a.value) _

theorem Silenced.release (h : d.Silenced) (c : RequestClass) (outcome : Outcome) :
    (d.release c outcome).Silenced := by
  intro e he
  by_cases hc : e = c
  · subst hc
    exact ByClass.get_set_self ..
  · refine (ByClass.get_set_ne _ _ hc).trans (h e ?_)
    simp only [Dispatcher.release] at he
    split at he
    · exact (ByClass.get_set_ne _ _ hc).symm.trans he
    · exact he

theorem Silenced.hear (h : d.Silenced) (m : Message) : (d.hear m).Silenced := by
  cases m with
  | signal | screenChanged | watchFailed => exact h
  | completed c ticket a =>
      simp only [Dispatcher.hear, Dispatcher.complete]
      split
      · exact h
      · split
        · exact h.release c _
        · exact h

theorem Silenced.cancel {τ : Type} [Radio τ Callback] (h : d.Silenced) (c : RequestClass)
    (radio : τ) : (d.cancel c radio).1.Silenced := by
  rw [dispatcher_cancel]
  intro e he
  by_cases hc : e = c
  · subst hc
    exact ByClass.get_set_self ..
  · exact (ByClass.get_set_ne _ _ hc).trans (h e he)

theorem Silenced.dropAll {τ : Type} [Radio τ Callback] (h : d.Silenced) (radio : τ) :
    (d.dropAll radio).1.Silenced :=
  (((h.cancel _ _).cancel _ _).cancel _ _)

/-- Dropping requests takes no class away. -/
theorem supported_dropAll (d : Dispatcher) (t : Transport Callback) :
    (d.dropAll t).1.supported = d.supported := by
  simp only [Dispatcher.dropAll, RequestClass.all, cancelAll, dispatcher_cancel]

/-- **What is sent is queued behind what is there**: values that were to be sent, of classes that are
supported. -/
theorem exists_queued_sendAll (id : SessionId) (values : List Attempt) (d : Dispatcher)
    (t : Transport Callback) :
    ∃ sent, (Dispatcher.sendAll id values (d, t)).2.queued = t.queued ++ sent ∧
      ∀ o ∈ sent, ∃ a ∈ values, o.request.cls? = some a.cls ∧ d.supported.get a.cls = true := by
  induction values generalizing d t with
  | nil => exact ⟨[], (List.append_nil _).symm, by simp⟩
  | cons a values ih =>
      obtain ⟨sent, hsent, hsupported⟩ := ih (d.send id a.cls a.value t).2.1
        (d.send id a.cls a.value t).2.2
      rw [supported_send] at hsupported
      refine ⟨_, hsent.trans (by rw [queued_send, List.append_assoc]), ?_⟩
      intro o ho
      rcases List.mem_append.mp ho with ho | ho
      · split at ho
        · next h =>
            obtain rfl := List.mem_singleton.mp ho
            exact ⟨a, List.mem_cons_self, Request.cls?_build .., h.1⟩
        · exact absurd ho List.not_mem_nil
      · obtain ⟨e, he, hcls⟩ := hsupported o ho
        exact ⟨e, List.mem_cons_of_mem _ he, hcls⟩

end Dispatcher

/-! ## Decisions that are drawn as ever -/

namespace Tracker

/-- After a message the decisions of a class are drawn anew: those of the signals from the signals
as heard of with this message, those of polling, if there is a live bridge and the message is about
its sources, from the sample. -/
structure Redrawn (sample : PollSample) (m : Message) (c : RequestClass) (t t' : Tracker) :
    Prop where
  heard : t'.snapshot = t.snapshot.hear m
  signals : ∀ r ∈ t.profile.rules, r.cls = c →
    t'.decision .signals c = some (r.compute (t.snapshot.hear m))
  polling : m = .screenChanged → t.isPolling = true → ∀ q ∈ t.profile.pollRules, q.cls = c →
    t'.decision .polling c = some (q.compute sample)

theorem redrawn_handle {t : Tracker} (h : t.Current) (sample : PollSample) (m : Message)
    (c : RequestClass) : t.Redrawn sample m c (t.handle sample m).1 := by
  have hsnapshot := snapshot_handle sample m t
  have hprofile : (t.handle sample m).1.profile = t.profile :=
    congrArg Variant.profile (recorded_handle sample m t).variant
  refine ⟨hsnapshot, ?_, ?_⟩
  · rintro r hr rfl
    rw [← hsnapshot]
    exact (h.handle sample m).computed r (by rw [hprofile]; exact hr)
  · rintro rfl halive q hq rfl
    exact decision_poll halive hq sample

end Tracker

/-! ## Sessions -/

namespace Session

variable {id : SessionId} {s : Session}

theorem supported_startPolling (id : SessionId) (path : String) (s : Session) (p : Platform) :
    (s.startPolling id path p).1.dispatcher.supported = s.dispatcher.supported := by
  cases hw : (p.notifier.watch path id).1 with
  | error failure => rw [startPolling_of_error id p hw]
  | ok watch =>
      rw [startPolling_of_ok id p hw, perform_eq]
      exact Dispatcher.supported_sendAll ..

/-- A session starts with every class. -/
theorem supported_start (id : SessionId) (variant : Variant) (intervals : Intervals)
    (watchPath : Option String) (p : Platform) :
    (Session.start id variant intervals watchPath p).1.dispatcher.supported = .full := by
  have hnone : (Session.start id variant intervals none p).1.dispatcher.supported = .full := by
    rw [start_none, perform_eq]
    exact Dispatcher.supported_sendAll ..
  cases watchPath with
  | none => exact hnone
  | some path => rw [start_some]; exact (supported_startPolling ..).trans hnone

/-- Ending takes no class away. -/
theorem supported_shutdown (id : SessionId) (s : Session) (p : Platform) :
    (s.shutdown id p).1.dispatcher.supported = s.dispatcher.supported := by
  cases h : s.closed with
  | true => simp [shutdown, h]
  | false => rw [shutdown_of_open id p h]; exact Dispatcher.supported_dropAll ..

/-- **A session loses a class by a refusal that it handles while it is open.** -/
theorem supported_handle_eq_false_iff (id : SessionId) (m : Message) (s : Session) (p : Platform)
    (c : RequestClass) :
    (s.handle id m p).1.dispatcher.supported.get c = false ↔
      s.dispatcher.supported.get c = false ∨ (s.closed = false ∧ s.dispatcher.Refuses c m) := by
  cases h : s.closed with
  | true => simp [handle_closed h]
  | false =>
      rw [handle_of_open id p h]
      cases m with
      | completed e ticket a =>
          -- an answer makes the tracker want nothing
          exact Dispatcher.supported_hear_eq_false_iff.trans (by simp [Action.sends,
            Dispatcher.sendAll])
      | signal | screenChanged | watchFailed =>
          simp only [Dispatcher.hear, Dispatcher.supported_sendAll]
          simp [Dispatcher.Refuses]

/-- What comes out of a handled message is of the session's own classes, and of none that is lost. -/
theorem exists_queued_handle (id : SessionId) (m : Message) (s : Session) (p : Platform) :
    ∃ sent, (s.handle id m p).2.transport.queued = p.transport.queued ++ sent ∧
      ∀ o ∈ sent, ∃ c ∈ s.tracker.profile.classes, o.request.cls? = some c ∧
        s.dispatcher.supported.get c = true := by
  cases h : s.closed with
  | true => exact ⟨[], by rw [handle_closed h, List.append_nil], by simp⟩
  | false =>
      rw [handle_of_open id p h]
      obtain ⟨sent, hsent, hvalues⟩ := Dispatcher.exists_queued_sendAll id
        (Action.sends (s.tracker.handle p.sample m).2) s.dispatcher p.transport
      refine ⟨sent, hsent, fun o ho => ?_⟩
      obtain ⟨a, ha, hcls, hsupported⟩ := hvalues o ho
      exact ⟨a.cls, Tracker.cls_mem_of_handle ha, hcls, hsupported⟩

end Session

namespace Host

section Invariants

variable {slot : String} {interface : Interface} {es : List Move} {j : SessionId} {s : Session}

/-- No session has anything in flight of a class that it has lost. -/
theorem silenced_travel (hs : ((new slot interface).travel es).sessions[j]? = some s) :
    s.dispatcher.Silenced := by
  refine forall_sessions (P := fun s => s.dispatcher.Silenced) ?_ ?_ ?_ ?_ slot interface es hs
  · exact fun id variant intervals watchPath p =>
      Dispatcher.silenced_of_full (Session.supported_start ..)
  · exact fun s queue h => h
  · intro id m s p h
    cases hc : s.closed with
    | true => rw [Session.handle_closed hc]; exact h
    | false => rw [Session.handle_of_open id p hc]; exact (h.sendAll _ _ _).hear m
  · intro id s p h
    cases hc : s.closed with
    | true => simpa [Session.shutdown, hc] using h
    | false => rw [Session.shutdown_of_open id p hc]; exact h.dropAll _

/-- Every session's decisions are current. -/
theorem current_travel (hs : ((new slot interface).travel es).sessions[j]? = some s) :
    s.tracker.Current := by
  refine forall_sessions (P := fun s => s.tracker.Current) ?_ ?_ ?_ ?_ slot interface es hs
  · exact fun id variant intervals watchPath p =>
      (Course.start variant intervals watchPath p : Course id _ _).kept.current
  · exact fun s queue h => h
  · exact fun id m s p h => Session.current_handle id p h m
  · intro id s p h
    cases hc : s.closed with
    | true => simpa [Session.shutdown, hc] using h
    | false => rw [Session.shutdown_of_open id p hc]; exact h.stopPolling

end Invariants

/-! ## Hosts -/

/-- A session has lost a class. -/
def Revoked (h : Host) (j : SessionId) (c : RequestClass) : Prop :=
  ∃ s, h.sessions[j]? = some s ∧ s.dispatcher.supported.get c = false

/-- In a move an open session handles a refusal of a class. -/
def Refusal (h : Host) (e : Move) (j : SessionId) (c : RequestClass) : Prop :=
  ∃ s m, h.sessions[j]? = some s ∧ s.closed = false ∧ h.heard j e = some m ∧
    s.dispatcher.Refuses c m

/-- How a session handles a message without a class: no request of the class is queued, and its
decisions are drawn as ever as long as the session is open. -/
structure Without (h : Host) (e : Move) (j : SessionId) (m : Message) (c : RequestClass) :
    Prop where
  unsent : ∃ sent, (h.move e).platform.transport.queued = h.platform.transport.queued ++ sent ∧
    ∀ o ∈ sent, o.request.cls? ≠ some c
  redrawn : ∀ s s', h.sessions[j]? = some s → s.closed = false →
    (h.move e).sessions[j]? = some s' → s.tracker.Redrawn h.platform.sample m c s'.tracker

variable {h : Host} {e : Move} {j k : SessionId} {c d : RequestClass}

/-- A move has one refusal at most. -/
theorem Refusal.unique (hj : h.Refusal e j c) (hk : h.Refusal e k d) : k = j ∧ d = c := by
  obtain ⟨s, m, hs, -, hm, p, a, -, rfl, -⟩ := hj
  obtain ⟨s', m', hs', -, hm', p', a', -, rfl, -⟩ := hk
  obtain rfl := eq_of_heard hm hm'
  -- one message, which names one class
  rw [hm] at hm'
  injection hm' with hm'
  injection hm' with hcls
  exact ⟨rfl, hcls.symm⟩

/-- **Only a refusal takes a class from a session**, and nothing gives one back. -/
theorem revoked_move_iff : (h.move e).Revoked j c ↔ h.Revoked j c ∨ h.Refusal e j c := by
  cases hs : h.sessions[j]? with
  | none =>
      have hnone : ¬ (h.Revoked j c ∨ h.Refusal e j c) := by
        rintro (⟨s, hs', -⟩ | ⟨s, m, hs', -⟩) <;> exact absurd (hs.symm.trans hs') (by simp)
      refine iff_of_false ?_ hnone
      rintro ⟨s', hs', hlost⟩
      rcases moved_or_started hs' with ⟨s, hold, -⟩ | ⟨m, rfl, -⟩
      · exact absurd (hs.symm.trans hold) (by simp)
      · rw [Session.supported_start, Capabilities.full, ByClass.get_const] at hlost
        cases hlost
  | some s =>
      obtain ⟨s', hs', hmoved⟩ := exists_moved hs e
      have hafter : (h.move e).Revoked j c ↔ s'.dispatcher.supported.get c = false :=
        ⟨fun ⟨_, hget, hlost⟩ => Option.some.inj (hs'.symm.trans hget) ▸ hlost,
          fun hlost => ⟨s', hs', hlost⟩⟩
      have hbefore : h.Revoked j c ↔ s.dispatcher.supported.get c = false :=
        ⟨fun ⟨_, hget, hlost⟩ => Option.some.inj (hs.symm.trans hget) ▸ hlost,
          fun hlost => ⟨s, hs, hlost⟩⟩
      have hrefusal : h.Refusal e j c ↔
          ∃ m, h.heard j e = some m ∧ s.closed = false ∧ s.dispatcher.Refuses c m := by
        constructor
        · rintro ⟨_, m, hget, hopen, hm, hr⟩
          obtain rfl := Option.some.inj (hs.symm.trans hget)
          exact ⟨m, hm, hopen, hr⟩
        · rintro ⟨m, hm, hopen, hr⟩
          exact ⟨s, m, hs, hopen, hm, hr⟩
      rw [hafter, hbefore, hrefusal]
      cases hmoved with
      | receives ms hheard => simp [hheard]
      | handles queue hheard hplatform =>
          exact (Session.supported_handle_eq_false_iff ..).trans (by simp [hheard])
      | ends hheard => simp [hheard, Session.supported_shutdown]

/-- **A class is lost exactly when it was refused once.** -/
theorem revoked_travel_iff (slot : String) (interface : Interface) (es : List Move) :
    ((new slot interface).travel es).Revoked j c ↔
      ∃ before e after, es = before ++ e :: after ∧
        ((new slot interface).travel before).Refusal e j c := by
  induction es using List.reverseRecOn with
  | nil =>
      refine iff_of_false ?_ (by simp)
      rintro ⟨s, hs, -⟩
      simp [travel, new] at hs
  | append_singleton es e ih =>
      -- the refusal was in the last move or before it
      rw [travel_concat, revoked_move_iff, ih]
      constructor
      · rintro (⟨before, e', after, rfl, hr⟩ | hr)
        · exact ⟨before, e', after ++ [e], by simp, hr⟩
        · exact ⟨es, e, [], rfl, hr⟩
      · rintro ⟨before, e', after, heq, hr⟩
        rcases List.eq_nil_or_concat after with rfl | ⟨after, e'', rfl⟩
        · obtain ⟨rfl, he⟩ := List.append_inj' heq rfl
          obtain rfl : e = e' := List.singleton_inj.mp he
          exact .inr hr
        · rw [List.concat_eq_append, ← List.cons_append, ← List.append_assoc] at heq
          obtain ⟨rfl, -⟩ := List.append_inj' heq rfl
          exact .inl ⟨before, e', after, rfl, hr⟩

theorem Revoked.travel (hr : h.Revoked j c) (es : List Move) : (h.travel es).Revoked j c := by
  induction es generalizing h with
  | nil => exact hr
  | cons e es ih => exact ih (revoked_move_iff.mpr (.inl hr))

/-- **A session works on without a class that it has lost.** -/
theorem Revoked.without {m : Message} (hr : h.Revoked j c) (hm : h.heard j e = some m)
    (hcurrent : ∀ s, h.sessions[j]? = some s → s.tracker.Current) : h.Without e j m c := by
  obtain ⟨s, hs, hlost⟩ := hr
  obtain ⟨s', hs', hmoved⟩ := exists_moved hs e
  -- whoever handles a message neither receives any nor ends
  cases hmoved with
  | receives ms hheard => rw [hm] at hheard; cases hheard
  | ends hheard => rw [hm] at hheard; cases hheard
  | handles queue hheard hplatform =>
      obtain rfl := Option.some.inj (hm.symm.trans hheard)
      constructor
      · obtain ⟨sent, hsent, hsupported⟩ := Session.exists_queued_handle j m s h.platform
        refine ⟨sent, by rw [hplatform]; exact hsent, fun o ho hcls => ?_⟩
        obtain ⟨e, -, he, hkept⟩ := hsupported o ho
        obtain rfl : e = c := Option.some.inj (he.symm.trans hcls)
        rw [hkept] at hlost
        cases hlost
      · intro s₀ s₁ hs₀ hopen hs₁
        obtain rfl := Option.some.inj (hs.symm.trans hs₀)
        obtain rfl := Option.some.inj (hs'.symm.trans hs₁)
        rw [Session.handle_of_open j _ hopen]
        exact Tracker.redrawn_handle (hcurrent s hs) h.platform.sample m c

/-- **The capability latch.**  Take any row of moves, a session and a class.

The error in question is what the number 6 stands for.  The session has lost the class if and only
if it handled a refusal of it in one of the moves.  Once it has, it stays so whatever else happens;
nothing is in flight of the class, and whatever message the session handles, it works without the
class.  And a refusal takes no other class from the session and none from any other session. -/
theorem capability_latch (slot : String) (interface : Interface) (es : List Move) (j : SessionId)
    (c : RequestClass) :
    (∀ code, RadioError.ofCode code = .requestNotSupported ↔ code = 6) ∧
    (((new slot interface).travel es).Revoked j c ↔
      ∃ before e after, es = before ++ e :: after ∧
        ((new slot interface).travel before).Refusal e j c) ∧
    (((new slot interface).travel es).Revoked j c → ∀ more,
      let h := ((new slot interface).travel es).travel more
      h.Revoked j c ∧
      (∀ s, h.sessions[j]? = some s → s.dispatcher.isPending c = false) ∧
      ∀ e m, h.heard j e = some m → h.Without e j m c) ∧
    (∀ e, ((new slot interface).travel es).Refusal e j c → ∀ k d, (k, d) ≠ (j, c) →
      ((((new slot interface).travel es).move e).Revoked k d ↔
        ((new slot interface).travel es).Revoked k d)) := by
  refine ⟨fun _ => RadioError.ofCode_eq_requestNotSupported_iff, revoked_travel_iff ..,
    fun hlost more => ?_, fun e he k d hne => ?_⟩
  · have hafter := hlost.travel more
    simp only [← travel_append] at hafter ⊢
    refine ⟨hafter, fun s hs => ?_, fun e m hm => hafter.without hm fun s hs => current_travel hs⟩
    obtain ⟨s', hs', hunsupported⟩ := hafter
    obtain rfl := Option.some.inj (hs.symm.trans hs')
    rw [Dispatcher.isPending, silenced_travel hs c hunsupported]
    rfl
  · rw [revoked_move_iff]
    refine ⟨fun h => h.resolve_right fun hk => hne ?_, .inl⟩
    obtain ⟨rfl, rfl⟩ := he.unique hk
    rfl

/-- The radio does not know the first class that a session sends: the session does without it, a
change of the display notwithstanding, and keeps the other one. -/
theorem capability_latch_of_refusal :
    let es : List Move :=
      [.happen (.start ⟨.deviceState, {}, none⟩),
       .happen (.respond 1 (.answered .sendDeviceState .requestNotSupported)),
       .happen (.processOne 0)]
    let h := (new "slot1" .v15).travel es
    ((new "slot1" .v15).travel (es.take 2)).Refusal (.happen (.processOne 0)) 0 .lowDataExpected ∧
    h.Revoked 0 .lowDataExpected ∧ ¬ h.Revoked 0 .chargingState ∧
    h.Without (.hand 0 (.signal ⟨.display, .valid true⟩)) 0 (.signal ⟨.display, .valid true⟩)
      .lowDataExpected := by
  intro es h
  have hrefusal : ((new "slot1" .v15).travel (es.take 2)).Refusal (.happen (.processOne 0)) 0
      .lowDataExpected :=
    ⟨_, _, rfl, rfl, rfl, _, _, rfl, rfl, rfl, rfl, rfl⟩
  have hlost : h.Revoked 0 .lowDataExpected :=
    (capability_latch "slot1" .v15 es 0 .lowDataExpected).2.1.mpr
      ⟨es.take 2, _, [], rfl, hrefusal⟩
  refine ⟨hrefusal, hlost, ?_, ?_⟩
  · rintro ⟨s, hs, hunsupported⟩
    cases hs
    cases hunsupported
  · exact ((capability_latch "slot1" .v15 es 0 .lowDataExpected).2.2.1 hlost []).2.2 _ _ rfl

end Host

end ModemWatch
