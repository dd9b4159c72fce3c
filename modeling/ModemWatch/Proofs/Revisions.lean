import ModemWatch.Proofs.Resting

/-!
# What is sent of one class

The requests of a class come from one session, and they tell what changes about its decisions: one
request for each decision about the class that is not what it was, in the order in which the session
comes to it.  So what will have been asked for once the sessions have worked can be told before they
begin, from the messages that wait for that session.  The only thing that could change it is an
answer that takes the class away meanwhile, and none can: an answer that waits was given to a request
that is in flight, and if none is, it is not to one of the requests that are sent only now.

* `Tracker.revisions` — the changed decisions about a class;
* `Session.due` — the requests of a class that are queued, and those that are to come;
* `Host.Paid` — what the work of the sessions does about a class, kept by every message handled;
* `Host.Serves.settle` — what all of it comes to;
* `Replay.Clear` — a class with nothing in flight between two steps, and what the next one sends.
-/

namespace ModemWatch

/-! ## Changed decisions -/

/-- The news of a class is what is on record afterwards, if it was not on record before. -/
theorem DecisionSet.news_eq {values : List (RequestClass × Bool)}
    (hn : (values.map (fun v => v.1)).Nodup) (c : RequestClass) (d : DecisionSet) :
    ((revise values d).2.filter (fun v => v.1 == c)).map (fun v => v.2) =
      if (revise values d).1.get c = d.get c then [] else ((revise values d).1.get c).toList := by
  by_cases hc : c ∈ values.map (fun v => v.1)
  · obtain ⟨⟨_, value⟩, hmem, rfl⟩ := List.mem_map.mp hc
    rw [news_of_mem hn hmem, get_revise_of_mem hn hmem]
    grind [changes]
  · rw [news_of_notMem hc, get_revise_of_notMem hc, if_pos rfl, List.map_nil]

/-- What one source of decisions wants sent of a class, and then the other: all that is wanted, if
it is one source that wants it. -/
theorem Attempt.values_append_values {attempts : List Attempt} {o : Origin}
    (ho : ∀ a ∈ attempts, a.origin = o) (c : RequestClass) :
    values .signals c attempts ++ values .polling c attempts =
      (attempts.filter (fun a => a.cls == c)).map (fun a => a.value) := by
  have hmine : values o c attempts =
      (attempts.filter (fun a => a.cls == c)).map (fun a => a.value) := by
    refine congrArg _ (List.filter_congr fun a ha => ?_)
    simp [ho a ha]
  have hother : ∀ o', o' ≠ o → values o' c attempts = [] := by
    intro o' hne
    simp only [values, List.map_eq_nil_iff, List.filter_eq_nil_iff]
    intro a ha
    simp [ho a ha, Ne.symm hne]
  cases o with
  | signals => rw [hmine, hother .polling (by decide), List.append_nil]
  | polling => rw [hmine, hother .signals (by decide), List.nil_append]

namespace Tracker

/-- What a source of decisions has come to about a class, if it is not what it was. -/
def revised (o : Origin) (c : RequestClass) (t t' : Tracker) : List Bool :=
  if t'.decision o c = t.decision o c then [] else (t'.decision o c).toList

/-- The decisions about a class that change while messages are taken in, one after the other. -/
def revisions (c : RequestClass) (sample : PollSample) : List Message → Tracker → List Bool
  | [], _ => []
  | m :: ms, t =>
    let t' := (t.handle sample m).1
    t.revised .signals c t' ++ t.revised .polling c t' ++ revisions c sample ms t'

variable {t : Tracker}

theorem revised_of_same {o : Origin} {c : RequestClass} {t' : Tracker}
    (h : t'.decision o c = t.decision o c) : t.revised o c t' = [] :=
  if_pos h

theorem values_evaluate (changed : Option SignalKind) (o : Origin) (c : RequestClass)
    (t : Tracker) :
    Attempt.values o c (Action.sends (t.evaluate changed).2) =
      t.revised o c (t.evaluate changed).1 := by
  cases o with
  | signals =>
      rw [evaluate, Attempt.values_attempts, if_pos rfl]
      exact DecisionSet.news_eq (nodup_affected changed t t.snapshot) c t.decisions
  | polling => exact (polled_evaluate changed t c).trans (revised_of_same rfl).symm

theorem values_poll (sample : PollSample) (o : Origin) (c : RequestClass) (t : Tracker) :
    Attempt.values o c (Action.sends (t.poll sample).2) = t.revised o c (t.poll sample).1 := by
  cases hlive : t.isPolling with
  | false => rw [poll_of_dead hlive, revised_of_same rfl]; rfl
  | true =>
      obtain ⟨bridge, hb, halive⟩ := isPolling_iff.mp hlive
      rw [poll_of_live hb halive, Attempt.values_attempts]
      cases o with
      | signals => exact (if_neg (by decide)).trans (revised_of_same rfl).symm
      | polling =>
          have hold : t.decision .polling c = bridge.decisions.get c := by simp [decision, hb]
          rw [if_pos rfl, revised, hold]
          exact DecisionSet.news_eq (nodup_pollValues t.variant sample) c bridge.decisions

/-- **What is sent is what changed**, of each source of decisions and for each class. -/
theorem values_handle (sample : PollSample) (m : Message) (o : Origin) (c : RequestClass)
    (t : Tracker) :
    Attempt.values o c (Action.sends (t.handle sample m).2) =
      t.revised o c (t.handle sample m).1 := by
  cases m with
  | signal u =>
      refine (values_evaluate (some u.kind) o c { t with snapshot := t.snapshot.apply u }).trans ?_
      cases o <;> rfl
  | completed e ticket a => exact (revised_of_same rfl).symm
  | screenChanged => exact values_poll sample o c t
  | watchFailed reason =>
      rw [handle, sends_stopPolling, revised_of_same (decision_stopPolling o c t)]
      rfl

/-- What a message makes a tracker send of a class. -/
theorem sends_handle (sample : PollSample) (m : Message) (c : RequestClass) (t : Tracker) :
    ((Action.sends (t.handle sample m).2).filter (fun a => a.cls == c)).map (fun a => a.value) =
      t.revised .signals c (t.handle sample m).1 ++ t.revised .polling c (t.handle sample m).1 := by
  obtain ⟨o, ho, -⟩ := inOrder_handle sample m t
  rw [← values_handle, ← values_handle, Attempt.values_append_values ho]

/-- A tracker comes to no decisions about the classes of others. -/
theorem revisions_of_notMem {c : RequestClass} (hc : c ∉ t.profile.classes) (sample : PollSample)
    (ms : List Message) : t.revisions c sample ms = [] := by
  induction ms generalizing t with
  | nil => rfl
  | cons m ms ih =>
      have hprofile : (t.handle sample m).1.profile = t.profile :=
        congrArg Variant.profile (recorded_handle sample m t).variant
      have hnone : (Action.sends (t.handle sample m).2).filter (fun a => a.cls == c) = [] := by
        rw [List.filter_eq_nil_iff]
        intro a ha hcls
        exact hc (beq_iff_eq.mp hcls ▸ cls_mem_of_handle ha)
      rw [revisions, ← sends_handle, hnone, ih (by rwa [hprofile])]
      rfl

end Tracker

/-! ## Requests of a class -/

/-- The requests of a class, without their numbers. -/
def RequestClass.among (c : RequestClass) (l : List Outgoing) : List Request :=
  (l.map (fun o => o.request)).filter (fun q => q.cls? == some c)

theorem RequestClass.among_append (c : RequestClass) (l l' : List Outgoing) :
    c.among (l ++ l') = c.among l ++ c.among l' := by
  rw [among, List.map_append, List.filter_append]
  rfl

theorem RequestClass.among_eq_nil_iff {c : RequestClass} {l : List Outgoing} :
    c.among l = [] ↔ ∀ o ∈ l, o.request.cls? ≠ some c := by
  simp [among]

namespace Dispatcher

variable {c : RequestClass} {d : Dispatcher} {t : Transport Callback} {ticket : Ticket}

/-- What comes out of some values are those of a class that are of the class. -/
theorem among_sendAll (hopen : t.closed = false) (id : SessionId) (values : List Attempt) :
    c.among (sendAll id values (d, t)).2.queued = c.among t.queued ++
      if d.supported.get c then
        ((values.filter (fun a => a.cls == c)).map (fun a => a.value)).map
          (fun value => c.build value t.interface)
      else [] := by
  rw [RequestClass.among, requests_sendAll, hopen, List.filter_append, if_neg Bool.false_ne_true]
  refine congrArg _ ?_
  induction values with
  | nil => cases d.supported.get c <;> rfl
  | cons a values ih =>
      by_cases ha : a.cls = c
      · subst ha
        cases hs : d.supported.get a.cls <;> simpa [hs] using ih
      · cases hs : d.supported.get a.cls <;> simpa [hs, ha] using ih

/-- Nothing about a class changes by values that are not sent as requests of the class. -/
theorem pending_sendAll_of_unsent (id : SessionId) {values : List Attempt}
    (hnone : ∀ a ∈ values, a.cls = c → d.supported.get c = false) :
    (sendAll id values (d, t)).1.pending.get c = d.pending.get c := by
  induction values generalizing d t with
  | nil => rfl
  | cons a values ih =>
      have hfirst : (d.send id a.cls a.value t).2.1.pending.get c = d.pending.get c := by
        by_cases ha : a.cls = c
        · rw [send_of_unsupported d t (ha ▸ hnone a List.mem_cons_self ha)]
        · exact pending_send_ne d t (Ne.symm ha) id a.value
      refine (ih fun e he hcls => ?_).trans hfirst
      rw [supported_send]
      exact hnone e (List.mem_cons_of_mem _ he) hcls

/-- A ticket that was given to a request which is not the one in flight of a class. -/
structure Past (c : RequestClass) (ticket : Ticket) (d : Dispatcher) : Prop where
  given : ticket < d.nextTicket
  ended : ∀ p, d.pending.get c = some p → p.ticket ≠ ticket

theorem Past.send (h : d.Past c ticket) (id : SessionId) (e : RequestClass) (value : Bool)
    (t : Transport Callback) : (d.send id e value t).2.1.Past c ticket := by
  have hlater : ticket < d.nextTicket + 1 := Nat.lt_succ_of_lt h.given
  cases hs : d.supported.get e with
  | false => rw [send_of_unsupported d t hs]; exact h
  | true =>
      by_cases he : c = e
      · subst he
        cases hc : t.closed with
        | true =>
            rw [send_of_closed d t hs hc, dispatcher_cancel]
            exact ⟨hlater, by simp⟩
        | false =>
            -- the request in flight is a new one
            rw [send_of_open d t hs hc]
            refine ⟨hlater, fun p hp => ?_⟩
            rw [ByClass.get_set_self] at hp
            obtain rfl := Option.some.inj hp
            exact Nat.ne_of_gt h.given
      · refine ⟨?_, fun p hp => h.ended p (by rwa [pending_send_ne _ _ he] at hp)⟩
        cases hc : t.closed with
        | true => rw [send_of_closed d t hs hc]; exact hlater
        | false => rw [send_of_open d t hs hc]; exact hlater

theorem Past.sendAll (h : d.Past c ticket) (id : SessionId) (values : List Attempt)
    (t : Transport Callback) : (Dispatcher.sendAll id values (d, t)).1.Past c ticket := by
  induction values generalizing d t with
  | nil => exact h
  | cons a values ih => exact ih (h.send id a.cls a.value t) _

theorem Past.hear (h : d.Past c ticket) (m : Message) : (d.hear m).Past c ticket := by
  cases m with
  | signal | screenChanged | watchFailed => exact h
  | completed e ticket' a =>
      simp only [Dispatcher.hear, complete]
      split
      · exact h
      · split
        · refine ⟨h.given, fun p hp => h.ended p ?_⟩
          simp only [release, ByClass.get_set] at hp
          split at hp
          · cases hp
          · exact hp
        · exact h

/-- An answer of another class, or one that nobody waits for, leaves nothing in flight of a class. -/
theorem pending_hear_of_none (h : d.pending.get c = none) (m : Message) :
    (d.hear m).pending.get c = none := by
  cases m with
  | signal | screenChanged | watchFailed => exact h
  | completed e ticket' a =>
      by_cases he : c = e
      · subst he
        rw [Dispatcher.hear, complete_stale (by simp [h])]
        exact h
      · rw [Dispatcher.hear, pending_complete_ne he]
        exact h

end Dispatcher

/-! ## What a session is to send -/

namespace Session

variable {c : RequestClass} {s : Session} {p p' : Platform} {id : SessionId} {m : Message}
  {rest : List Message}

/-- The requests of a class that a message makes a session send, unless the class is lost to it. -/
def asks (c : RequestClass) (m : Message) (s : Session) (p : Platform) : List Request :=
  if s.dispatcher.supported.get c then
    (s.tracker.revisions c p.sample [m]).map (fun value => c.build value p.transport.interface)
  else []

/-- The requests of a class that are queued, and behind them those that the messages of a session
will lead to. -/
def due (c : RequestClass) (s : Session) (p : Platform) : List Request :=
  c.among p.transport.queued ++
    if s.dispatcher.supported.get c then
      (s.tracker.revisions c p.sample s.queue).map (fun value => c.build value p.transport.interface)
    else []

/-- No answer that waits for a session is to the request of a class that is in flight. -/
def Deaf (c : RequestClass) (s : Session) : Prop :=
  ∀ ticket a, Message.completed c ticket a ∈ s.queue → s.dispatcher.Past c ticket

theorem due_of_empty (hq : s.queue = []) (p : Platform) :
    s.due c p = c.among p.transport.queued := by
  simp [due, hq, Tracker.revisions]

/-- Sessions show the same to each other whatever they handle. -/
theorem shown_handle (id : SessionId) (m : Message) (s : Session) (p : Platform) :
    (s.handle id m p).2.sample = p.sample ∧
      (s.handle id m p).2.transport.interface = p.transport.interface ∧
      (s.handle id m p).2.transport.closed = p.transport.closed := by
  cases hc : s.closed with
  | true => rw [handle_closed hc]; exact ⟨rfl, rfl, rfl⟩
  | false =>
      rw [handle_of_open id p hc]
      exact ⟨rfl, Dispatcher.interface_sendAll .., Dispatcher.closed_sendAll ..⟩

/-- The class stays as it is. -/
theorem supported_handle_of_deaf (hd : s.Deaf c) (hq : s.queue = m :: rest) (id : SessionId)
    (p : Platform) :
    (s.handle id m p).1.dispatcher.supported.get c = s.dispatcher.supported.get c := by
  have hlost := supported_handle_eq_false_iff id m s p c
  have hkept : ¬ s.dispatcher.Refuses c m := by
    intro hrefuses
    obtain ⟨q, a, hp, rfl, -⟩ := hrefuses
    exact (hd q.ticket a (by rw [hq]; exact List.mem_cons_self)).ended q hp rfl
  grind

theorem Deaf.handle (hd : s.Deaf c) (hq : s.queue = m :: rest) (id : SessionId) (p : Platform) :
    Deaf c { (s.handle id m p).1 with queue := rest } := by
  intro ticket a hmem
  have hpast := hd ticket a (by rw [hq]; exact List.mem_cons_of_mem _ hmem)
  cases hc : s.closed with
  | true => rw [handle_closed hc]; exact hpast
  | false => rw [handle_of_open id p hc]; exact (hpast.sendAll id _ _).hear m

theorem among_handle (hopen : s.closed = false) (hflow : p.transport.closed = false)
    (id : SessionId) (c : RequestClass) (m : Message) :
    c.among (s.handle id m p).2.transport.queued =
      c.among p.transport.queued ++ s.asks c m p := by
  rw [handle_of_open id p hopen, Dispatcher.among_sendAll hflow, Tracker.sends_handle, asks,
    Tracker.revisions, Tracker.revisions, List.append_nil]

/-- **A message that is handled is paid for**: what was to come of it is queued. -/
theorem due_handle (hd : s.Deaf c) (hq : s.queue = m :: rest) (hopen : s.closed = false)
    (hflow : p.transport.closed = false) (id : SessionId) :
    due c { (s.handle id m p).1 with queue := rest } (s.handle id m p).2 = s.due c p := by
  have hsupported := supported_handle_of_deaf hd hq id p
  obtain ⟨hsample, hinterface, -⟩ := shown_handle id m s p
  simp only [due, asks, hsupported, hsample, hinterface, among_handle hopen hflow,
    tracker_handle id p hopen, hq, Tracker.revisions]
  cases s.dispatcher.supported.get c <;> simp

/-- If nothing is to come, the oldest message leads to nothing. -/
theorem asks_of_settled (hq : s.queue = m :: rest)
    (hdue : s.due c p = c.among p.transport.queued) : s.asks c m p = [] := by
  rw [due, List.append_right_eq_self] at hdue
  unfold asks
  split
  · next hs =>
      rw [if_pos hs, List.map_eq_nil_iff, hq, Tracker.revisions, List.append_eq_nil_iff] at hdue
      rw [List.map_eq_nil_iff, Tracker.revisions, Tracker.revisions, List.append_nil]
      exact hdue.1
  · rfl

/-- A session with nothing in flight of a class still has nothing in flight if a message leads to no
request of the class. -/
theorem pending_handle_of_settled (hopen : s.closed = false) (hasks : s.asks c m p = [])
    (hnone : s.dispatcher.pending.get c = none) :
    (s.handle id m p).1.dispatcher.pending.get c = none := by
  rw [handle_of_open id p hopen]
  refine Dispatcher.pending_hear_of_none ?_ m
  refine (Dispatcher.pending_sendAll_of_unsent id fun a ha hcls => ?_).trans hnone
  cases hs : s.dispatcher.supported.get c with
  | false => rfl
  | true =>
      -- a value of a supported class is one that the message leads to
      rw [asks, if_pos hs, List.map_eq_nil_iff, Tracker.revisions, Tracker.revisions,
        List.append_nil, ← Tracker.sends_handle, List.map_eq_nil_iff, List.filter_eq_nil_iff] at hasks
      exact absurd (beq_iff_eq.mpr hcls) (hasks a ha)

end Session

/-- Of the parts of a list all but one may be empty. -/
theorem flatMap_eq_of_getElem? {α β : Type} {l : List α} {f : α → List β} {j : Nat} {x : α}
    (hx : l[j]? = some x) (hnone : ∀ i a, l[i]? = some a → i ≠ j → f a = []) :
    l.flatMap f = f x := by
  induction l generalizing j with
  | nil => cases hx
  | cons a l ih =>
      cases j with
      | zero =>
          obtain rfl : a = x := Option.some.inj hx
          have hrest : l.flatMap f = [] := by
            rw [List.flatMap_eq_nil_iff]
            intro b hb
            obtain ⟨i, hi⟩ := List.mem_iff_getElem?.mp hb
            exact hnone (i + 1) b hi (Nat.succ_ne_zero i)
          rw [List.flatMap_cons, hrest, List.append_nil]
      | succ j =>
          have hrest := ih (j := j) hx fun i b hb hi => hnone (i + 1) b hb (by omega)
          rw [List.flatMap_cons, hrest, hnone 0 a rfl (Nat.succ_ne_zero j).symm, List.nil_append]

namespace Host

variable {v : Variant} {j : SessionId} {c : RequestClass} {taken : List Outgoing} {h h' : Host}
  {s s' : Session}

/-- A session whose variant alone has the class, on a host in order. -/
structure Serves (v : Variant) (j : SessionId) (c : RequestClass) (taken : List Outgoing)
    (h : Host) (s : Session) : Prop where
  order : h.InOrder taken
  only : h.Only v j
  flows : h.platform.transport.closed = false
  session : h.sessions[j]? = some s
  variant : s.tracker.variant = v
  cls : c ∈ v.profile.classes
  deaf : s.Deaf c

/-- What work of the sessions does about a class of one of them: the class stays as it is, what was
to come is queued, and if nothing was to come then nothing is queued and nothing in flight. -/
structure Paid (c : RequestClass) (h : Host) (s : Session) (h' : Host) (s' : Session) : Prop where
  supported : s'.dispatcher.supported.get c = s.dispatcher.supported.get c
  due : s'.due c h'.platform = s.due c h.platform
  settled : s.due c h.platform = c.among h.platform.transport.queued →
    s.dispatcher.pending.get c = none → s'.dispatcher.pending.get c = none ∧
      c.among h'.platform.transport.queued = c.among h.platform.transport.queued

theorem Paid.refl (c : RequestClass) (h : Host) (s : Session) : Paid c h s h s :=
  ⟨rfl, rfl, fun _ hnone => ⟨hnone, rfl⟩⟩

theorem Paid.trans {h'' : Host} {s'' : Session} (hf : Paid c h s h' s')
    (hl : Paid c h' s' h'' s'') : Paid c h s h'' s'' where
  supported := hl.supported.trans hf.supported
  due := hl.due.trans hf.due
  settled hdue hnone := by
    obtain ⟨hnone', hamong⟩ := hf.settled hdue hnone
    obtain ⟨hnone'', hamong'⟩ := hl.settled (hf.due.trans (hdue.trans hamong.symm)) hnone'
    exact ⟨hnone'', hamong'.trans hamong⟩

/-- **One message**, whoever handles it. -/
theorem Serves.processOne (hs : Serves v j c taken h s) (id : SessionId) :
    ∃ s', Serves v j c taken (h.processOne id) s' ∧ Paid c h s (h.processOne id) s' := by
  rcases processOne_cases h id with heq | ⟨t, m, rest, ht, hq, heq⟩
  · rw [heq]
    exact ⟨s, hs, .refl ..⟩
  have horder := hs.order.processOne id
  have honly : (h.processOne id).Only v j := by
    rw [Only, variants_processOne]
    exact hs.only
  obtain ⟨hsample, hinterface, hclosed⟩ := Session.shown_handle id m t h.platform
  have hflows : (h.processOne id).platform.transport.closed = false := by
    rw [heq]
    exact hclosed.trans hs.flows
  by_cases hid : id = j
  · subst hid
    obtain rfl : t = s := Option.some.inj (ht.symm.trans hs.session)
    have hopen := hs.order.swept.open_of_cons ht hq
    have hlt : id < h.sessions.length := (List.getElem?_eq_some_iff.mp ht).1
    refine ⟨{ (t.handle id m h.platform).1 with queue := rest }, ⟨horder, honly, hflows, ?_, ?_,
      hs.cls, hs.deaf.handle hq id h.platform⟩, ?_⟩
    · rw [heq]
      exact List.getElem?_set_self hlt
    · exact (Session.same_handle id m t h.platform).variant.trans hs.variant
    · rw [heq]
      refine ⟨Session.supported_handle_of_deaf hs.deaf hq id h.platform,
        Session.due_handle hs.deaf hq hopen hs.flows id, fun hdue hnone => ?_⟩
      have hasks := Session.asks_of_settled hq hdue
      refine ⟨Session.pending_handle_of_settled hopen hasks hnone, ?_⟩
      rw [Session.among_handle hopen hs.flows, hasks, List.append_nil]
  · -- others send nothing of the class
    have hsame : (h.processOne id).sessions[j]? = some s := by
      rw [heq]
      exact (List.getElem?_set_ne hid).trans hs.session
    have hamong : c.among (h.processOne id).platform.transport.queued =
        c.among h.platform.transport.queued := by
      obtain ⟨sent, hsent, hmine⟩ := exists_queued_processOne id h
      rw [hsent, RequestClass.among_append, List.append_right_eq_self, RequestClass.among_eq_nil_iff]
      intro o ho hcls
      obtain ⟨w, hw, hown⟩ := hmine o ho
      obtain rfl := Variant.eq_of_owns hown (Variant.owns_of_mem hcls hs.cls)
      exact hid (hs.only id hw)
    refine ⟨s, ⟨horder, honly, hflows, hsame, hs.variant, hs.cls, hs.deaf⟩, rfl, ?_,
      fun _ hnone => ⟨hnone, hamong⟩⟩
    rw [Session.due, hamong, heq, hsample, hinterface]
    rfl

/-- **All the work of the sessions.**  In the end the requests of the class are those that were
queued and those that were to come. -/
theorem Serves.settle (hs : Serves v j c taken h s) :
    ∃ s', Serves v j c taken h.settle s' ∧ Paid c h s h.settle s' ∧
      c.among h.settle.platform.transport.queued = s.due c h.platform := by
  have hall : ∃ s', Serves v j c taken h.settle s' ∧ Paid c h s h.settle s' := by
    refine settle_induction (P := fun h' => ∃ s', Serves v j c taken h' s' ∧ Paid c h s h' s')
      ⟨s, hs, .refl ..⟩ fun id g hg => ?_
    obtain ⟨t, ht, hpaid⟩ := hg
    obtain ⟨t', ht', hpaid'⟩ := ht.processOne id
    exact ⟨t', ht', hpaid.trans hpaid'⟩
  obtain ⟨s', hs', hpaid⟩ := hall
  have hempty : s'.queue = [] := idle_settle h s' (List.mem_of_getElem? hs'.session)
  refine ⟨s', hs', hpaid, ?_⟩
  rw [← hpaid.due, Session.due_of_empty hempty]

/-- The decisions about a class that change while the sessions handle what waits for them. -/
def revisions (c : RequestClass) (h : Host) : List Bool :=
  h.sessions.flatMap fun t => t.tracker.revisions c h.platform.sample t.queue

theorem getElem?_variants (hs : h.sessions[j]? = some s) :
    h.variants[j]? = some s.tracker.variant := by
  rw [variants, List.getElem?_map, hs, Option.map_some]

/-- They are those of the session that has the class. -/
theorem Serves.revisions_eq (hs : Serves v j c taken h s) :
    h.revisions c = s.tracker.revisions c h.platform.sample s.queue := by
  refine flatMap_eq_of_getElem? hs.session fun i t ht hi => Tracker.revisions_of_notMem ?_ ..
  intro hc
  refine hi (hs.only i ((getElem?_variants ht).trans (congrArg some ?_)))
  exact Profile.variant_eq_of_classes hc hs.cls

/-- A session with nothing in flight of a class hears no answer to a request of it. -/
theorem InOrder.deaf (ho : h.InOrder taken) (hs : h.sessions[j]? = some s)
    (hnone : s.dispatcher.pending.get c = none) : s.Deaf c := by
  intro ticket a hmem
  refine ⟨?_, by simp [hnone]⟩
  have hdesk := desks_board hs
  have hticket : ticket ∈ (h.board.desks j).tickets :=
    Switchboard.Owned.mem_tickets (by rw [hdesk]; exact hmem)
  have hlt := ho.wired.owned.ticket_lt hticket
  rwa [Switchboard.nextTicket, hdesk] at hlt

/-- A step of a scenario, before the sessions work, takes no class from a session and sends nothing. -/
theorem exists_session_scripted (hthrough : h.Through Happening.Scripted h')
    (hs : h.sessions[j]? = some s) :
    ∃ s', h'.sessions[j]? = some s' ∧ s'.dispatcher.supported = s.dispatcher.supported ∧
      (s.dispatcher.pending.get c = none → s'.dispatcher.pending.get c = none) := by
  obtain ⟨es, hes, rfl⟩ := hthrough
  refine run_induction (P := fun h' => ∃ s', h'.sessions[j]? = some s' ∧
    s'.dispatcher.supported = s.dispatcher.supported ∧
    (s.dispatcher.pending.get c = none → s'.dispatcher.pending.get c = none))
    (fun e he g hg => ?_) ⟨s, hs, rfl, id⟩
  obtain ⟨t, ht, hsupported, hpending⟩ := hg
  obtain ⟨t', ht', hmoved⟩ := exists_moved ht (.happen e)
  refine ⟨t', ht', ?_⟩
  cases hmoved with
  | receives ms =>
      rw [Session.dispatcher_receiveAll]
      exact ⟨hsupported, hpending⟩
  | handles queue hheard =>
      -- only sessions that work handle messages
      have hscripted := hes e he
      cases e with
      | processOne => exact absurd hscripted not_false
      | _ => cases hheard
  | ends =>
      refine ⟨(Session.supported_shutdown ..).trans hsupported, fun hnone => ?_⟩
      cases hclosed : t.closed with
      | true => rw [Session.shutdown_of_closed j hclosed]; exact hpending hnone
      | false => exact (Session.over_shutdown j hclosed g.platform).inFlight c

end Host

/-- A transport that takes requests of a version. -/
def Transport.Flows (i : Interface) (t : Transport Callback) : Prop :=
  t.closed = false ∧ t.interface = i

theorem Transport.lasting_flows (i : Interface) : Lasting fun _ t => t.Flows i where
  forget h _ := h
  failAll h := h
  drain h := h
  submit h _ := by
    rw [submit_of_open h.1]
    exact h

namespace Replay

variable {v : Variant} {variants : List Variant} {j : SessionId} {c : RequestClass} {i : Interface}
  {supported : Bool} {r r' : Replay} {step : Step} {steps : List Step} {number : Nat}
  {report : Report} {reports : List Report}

/-- The decisions about a class that change in a step. -/
def revisions (c : RequestClass) (step : Step) (r : Replay) : List Bool :=
  match r.perform step with
  | .error _ => []
  | .ok (_, h) => h.revisions c

/-- The decisions about a class that change in some steps. -/
def revisionsAlong (c : RequestClass) : List Step → Replay → List Bool
  | [], _ => []
  | step :: steps, r =>
    r.revisions c step ++
      match r.apply 0 step with
      | .error _ => []
      | .ok (_, r') => revisionsAlong c steps r'

/-- Between two steps: the only session that has a class has nothing in flight of it; whether it
may send any is `supported`. -/
structure Clear (v : Variant) (variants : List Variant) (j : SessionId) (c : RequestClass)
    (i : Interface) (supported : Bool) (r : Replay) : Prop where
  rested : Rested variants r
  only : ∀ k, variants[k]? = some v → k = j
  cls : c ∈ v.profile.classes
  flows : r.host.platform.transport.Flows i
  session : ∃ s, r.host.sessions[j]? = some s ∧ s.tracker.variant = v ∧
    s.dispatcher.supported.get c = supported ∧ s.dispatcher.pending.get c = none

/-- **The requests of a class that a step leads to.** -/
theorem Clear.apply (hc : Clear v variants j c i supported r)
    (happly : r.apply number step = .ok (report, r')) :
    c.among report.requests =
        (if supported then (r.revisions c step).map (fun value => c.build value i) else []) ∧
      (c.among report.requests = [] → Clear v variants j c i supported r') := by
  have hrested := hc.rested.apply happly
  obtain ⟨answered, h, hstep, rfl, rfl⟩ := exists_of_apply happly
  have hthrough := through_perform hstep
  have hsilent := hthrough.silently
  obtain ⟨s, hs, hvariant, hsupported, hnone⟩ := hc.session
  -- the step sends nothing, and then the sessions work
  obtain ⟨s₁, hs₁, hkept, hpending⟩ := Host.exists_session_scripted (c := c) hthrough hs
  have hvariants : h.variants = variants := hsilent.variants_eq.trans hc.rested.variants
  have hflows : h.platform.transport.Flows i :=
    @Host.lasting_through _ r.sent _ _ (Transport.lasting_flows i) hc.flows
      (hthrough.mono fun _ => Happening.Scripted.unread)
  have hserves : h.Serves v j c r.sent s₁ := by
    refine ⟨hc.rested.order.silently hsilent, fun k hk => hc.only k (hvariants ▸ hk), hflows.1, hs₁,
      ?_, hc.cls, (hc.rested.order.silently hsilent).deaf hs₁ (hpending hnone)⟩
    have hsame := (Host.getElem?_variants hs₁).symm.trans
      ((congrArg (fun l => l[j]?) (hvariants.trans hc.rested.variants.symm)).trans
        (Host.getElem?_variants hs))
    exact (Option.some.inj hsame).trans hvariant
  obtain ⟨s₂, hserves₂, hpaid, hall⟩ := hserves.settle
  have hqueued : c.among h.platform.transport.queued = [] := by
    rw [hsilent.queued_eq, hc.rested.taken]
    rfl
  have hrevisions : r.revisions c step = s₁.tracker.revisions c h.platform.sample s₁.queue := by
    rw [revisions, hstep]
    exact hserves.revisions_eq
  have hsame : s₁.dispatcher.supported.get c = supported := by rw [hkept, hsupported]
  have htotal : c.among h.settle.platform.transport.queued =
      if supported then (r.revisions c step).map (fun value => c.build value i) else [] := by
    rw [hall, Session.due, hqueued, List.nil_append, hsame, hflows.2, ← hrevisions]
  refine ⟨htotal, fun hnothing => ⟨hrested, hc.only, hc.cls,
    lasting_report (r := { r with host := h }) (Transport.lasting_flows i) hflows _ _ _, s₂,
    hserves₂.session, hserves₂.variant, hpaid.supported.trans hsame, ?_⟩⟩
  have hdue : s₁.due c h.platform = c.among h.platform.transport.queued :=
    hall.symm.trans (Eq.trans hnothing hqueued.symm)
  exact (hpaid.settled hdue (hpending hnone)).1

/-- A class that is lost is not sent any more. -/
theorem Clear.follow_of_lost (hc : Clear v variants j c i false r)
    (hfollow : Replay.follow number steps r = .ok (reports, r')) :
    ∀ report ∈ reports, c.among report.requests = [] := by
  induction steps generalizing number r reports with
  | nil =>
      obtain ⟨rfl, -⟩ := Prod.mk.inj (Except.ok.inj hfollow)
      exact fun report hmem => absurd hmem List.not_mem_nil
  | cons step steps ih =>
      obtain ⟨report, r₁, rest, happly, hrest, rfl⟩ := follow_cons_eq_ok.mp hfollow
      obtain ⟨hnone, hclear⟩ := hc.apply happly
      intro report' hmem
      rcases List.mem_cons.mp hmem with rfl | hmem
      · exact hnone
      · exact ih (hclear hnone) hrest report' hmem

/-- What a step leaves has nothing to do with its number. -/
theorem apply_renumber (happly : r.apply number step = .ok (report, r')) (number' : Nat) :
    ∃ report', r.apply number' step = .ok (report', r') := by
  obtain ⟨answered, h, hstep, -, rfl⟩ := exists_of_apply happly
  refine ⟨(({ r with host := h } : Replay).report number' step.action answered).1, ?_⟩
  rw [Replay.apply, hstep]
  rfl

/-- As long as no decision about a class changes, nothing is sent of it. -/
theorem Clear.follow (hc : Clear v variants j c i supported r)
    (hnone : r.revisionsAlong c steps = [])
    (hfollow : Replay.follow number steps r = .ok (reports, r')) :
    Clear v variants j c i supported r' := by
  induction steps generalizing number r reports with
  | nil =>
      obtain ⟨-, rfl⟩ := Prod.mk.inj (Except.ok.inj hfollow)
      exact hc
  | cons step steps ih =>
      obtain ⟨report, r₁, rest, happly, hrest, -⟩ := follow_cons_eq_ok.mp hfollow
      obtain ⟨report', happly'⟩ := apply_renumber happly 0
      rw [revisionsAlong, happly', List.append_eq_nil_iff] at hnone
      obtain ⟨hrequests, hclear⟩ := hc.apply happly
      refine ih (hclear ?_) hnone.2 hrest
      rw [hrequests, hnone.1]
      cases supported <;> rfl

end Replay

end ModemWatch
