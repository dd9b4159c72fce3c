import ModemWatch.Proofs.Effects
import ModemWatch.Proofs.Ownership

/-!
# Sessions as dispatchers on one transport

The sessions of a host share its transport as dispatchers at the desks of a switchboard do; the queue
of a session is the inbox of its desk.  Whatever a session does to the transport it does by its
dispatcher, message by message, and what holds of switchboards therefore holds of hosts: a request
that waits for its answer is in flight at the session that its callback names.

A host has more in its queues than answers.  News of signals and reports of watches say nothing about
requests, and a session that ends throws its queue away, which it may do because it has dropped its
requests before.

* `Host.board` — the switchboard of a host;
* `Host.Wired` — it is in order, and sessions that have ended have nothing in flight;
* `Host.Wired.travel` — it stays so while answers come by the queues.
-/

namespace ModemWatch

/-- The answers among some messages. -/
def answersIn (ms : List Message) : List Message := ms.filter (fun m => m.ticket?.isSome)

theorem answersIn_of_quiet {ms : List Message} (h : ∀ m ∈ ms, m.ticket? = none) :
    answersIn ms = [] := by
  rw [answersIn, List.filter_eq_nil_iff]
  intro m hm
  rw [h m hm]
  exact Bool.false_ne_true

theorem answersIn_append (ms ns : List Message) :
    answersIn (ms ++ ns) = answersIn ms ++ answersIn ns :=
  List.filter_append ..

namespace Switchboard

variable {s s' : Switchboard}

theorem mem_answersIn {ms : List Message} {c : RequestClass} {ticket : Ticket} {a : Completion} :
    Message.completed c ticket a ∈ answersIn ms ↔ Message.completed c ticket a ∈ ms := by
  simp [answersIn, Message.ticket?]

theorem tickets_eq (d : Desk) : d.tickets = (answersIn d.inbox).filterMap Message.ticket? := by
  unfold Desk.tickets answersIn
  rw [List.filterMap_filter]
  refine List.filterMap_congr fun m _ => ?_
  cases m <;> rfl

/-- What is in order stays so while requests in flight, answers and numbers are the same. -/
theorem Owned.frame (h : Owned s) (hpending : s'.transport.pending = s.transport.pending)
    (hnext : s'.transport.nextSerial = s.transport.nextSerial)
    (hdispatcher : ∀ j, (s'.desks j).dispatcher = (s.desks j).dispatcher)
    (hanswers : ∀ j, answersIn (s'.desks j).inbox = answersIn (s.desks j).inbox) : Owned s' := by
  have hcall : ∀ n, s'.transport.callback? n = s.transport.callback? n := by
    intro n
    rw [Transport.callback?, Transport.callback?, hpending]
  have hentry : ∀ j c, s'.entry j c = s.entry j c := by
    intro j c
    rw [entry, entry, hdispatcher]
  have hticket : ∀ j, s'.nextTicket j = s.nextTicket j := by
    intro j
    rw [nextTicket, nextTicket, hdispatcher]
  have htickets : ∀ j, (s'.desks j).tickets = (s.desks j).tickets := by
    intro j
    rw [tickets_eq, tickets_eq, hanswers]
  constructor
  · exact ⟨by rw [hpending]; exact h.numbered.distinct,
      by rw [hpending, hnext]; exact h.numbered.given⟩
  · intro n k hk
    rw [hentry]
    rw [hcall] at hk
    exact h.waiting hk
  · intro i c p hp
    rw [hcall]
    rw [hentry] at hp
    refine (h.served hp).imp_right ?_
    rintro ⟨a, ha⟩
    exact ⟨a, mem_answersIn.mp (by rw [hanswers]; exact mem_answersIn.mpr ha)⟩
  · intro n k hk
    rw [htickets]
    rw [hcall] at hk
    exact h.unanswered hk
  · intro i
    rw [htickets]
    exact h.once i
  · intro i t ht
    rw [hticket]
    rw [htickets] at ht
    exact h.ticket_lt ht
  · intro i c p hp
    rw [hticket, hnext]
    rw [hentry] at hp
    exact h.entry_lt hp
  · intro i c e p q hp hq
    rw [hentry] at hp hq
    exact h.ticket_inj hp hq
  · intro i j c e p q hp hq
    rw [hentry] at hp hq
    exact h.serial_inj hp hq

/-- A desk with another inbox. -/
def refill (i : SessionId) (inbox : List Message) (s : Switchboard) : Switchboard where
  transport := s.transport
  desks := Function.update s.desks i ⟨(s.desks i).dispatcher, inbox⟩

/-- Messages that are no answers may come and go. -/
theorem Owned.refill (h : Owned s) (i : SessionId) (inbox : List Message)
    (hanswers : answersIn inbox = answersIn (s.desks i).inbox) :
    Owned (s.refill i inbox) := by
  refine h.frame rfl rfl (fun j => ?_) (fun j => ?_)
  · by_cases hj : j = i
    · subst hj
      simp [Switchboard.refill]
    · simp [Switchboard.refill, hj]
  · by_cases hj : j = i
    · subst hj
      simp only [Switchboard.refill, Function.update_self]
      exact hanswers
    · simp [Switchboard.refill, hj]

/-- A dispatcher with nothing in flight may throw its inbox away. -/
theorem Owned.clear (h : Owned s) {i : SessionId} (hnone : ∀ c, s.entry i c = none) :
    Owned (s.refill i []) := by
  have hentry : ∀ j c, (s.refill i []).entry j c = s.entry j c := by
    intro j c
    by_cases hj : j = i
    · subst hj
      simp [Switchboard.refill, entry]
    · simp [Switchboard.refill, entry, hj]
  have hticket : ∀ j, (s.refill i []).nextTicket j = s.nextTicket j := by
    intro j
    by_cases hj : j = i
    · subst hj
      simp [Switchboard.refill, nextTicket]
    · simp [Switchboard.refill, nextTicket, hj]
  have hinbox : ∀ j, ((s.refill i []).desks j).inbox = if j = i then [] else (s.desks j).inbox := by
    intro j
    by_cases hj : j = i <;> simp [Switchboard.refill, hj]
  have htickets : ∀ j, ((s.refill i []).desks j).tickets =
      if j = i then [] else (s.desks j).tickets := by
    intro j
    rw [Desk.tickets, hinbox]
    split <;> rfl
  constructor
  · exact h.numbered
  · intro n k hk
    rw [hentry]
    exact h.waiting hk
  · intro j c p hp
    rw [hentry] at hp
    refine (h.served hp).imp_right ?_
    rintro ⟨a, ha⟩
    refine ⟨a, ?_⟩
    rw [hinbox, if_neg]
    · exact ha
    · rintro rfl
      rw [hnone] at hp
      cases hp
  · intro n k hk ht
    rw [htickets] at ht
    split at ht
    · cases ht
    · exact h.unanswered hk ht
  · intro j
    rw [htickets]
    split
    · exact List.nodup_nil
    · exact h.once j
  · intro j t ht
    rw [hticket]
    rw [htickets] at ht
    split at ht
    · cases ht
    · exact h.ticket_lt ht
  · intro j c p hp
    rw [hticket]
    rw [hentry] at hp
    exact h.entry_lt hp
  · intro j c e p q hp hq
    rw [hentry] at hp hq
    exact h.ticket_inj hp hq
  · intro j k c e p q hp hq
    rw [hentry] at hp hq
    exact h.serial_inj hp hq

/-- A dispatcher sends several values. -/
theorem Owned.sendAll (h : Owned s) (i : SessionId) (values : List Attempt) :
    Owned (s.update i
      (Dispatcher.sendAll i values ((s.desks i).dispatcher, s.transport)).1
      (Dispatcher.sendAll i values ((s.desks i).dispatcher, s.transport)).2) := by
  induction values generalizing s with
  | nil =>
      have hsame := update_self s i
      simpa [Dispatcher.sendAll, hsame] using h
  | cons a values ih =>
      have hnext := ih (h.send i a.cls a.value)
      simp only [Switchboard.send, dispatcher_update, transport_update, update_update] at hnext
      exact hnext

end Switchboard

/-- Two lists of values, one after the other. -/
theorem Dispatcher.sendAll_append (id : SessionId) (a b : List Attempt)
    (run : Dispatcher × Transport Callback) :
    sendAll id (a ++ b) run = sendAll id b (sendAll id a run) :=
  List.foldl_append

namespace Dispatcher

/-- What a dispatcher sends waits under the name of its session. -/
theorem mem_pending_send {d : Dispatcher} {t : Transport Callback} {id : SessionId}
    {c : RequestClass} {value : Bool} {w : Serial × Callback}
    (hw : w ∈ (d.send id c value t).2.2.pending) :
    w ∈ t.pending ∨ w.2.session = id ∧ w.2.cls = c := by
  have hcancel : w ∈ (d.cancel c t).2.pending → w ∈ t.pending := by
    intro hmem
    cases hp : d.pending.get c with
    | none => rwa [cancel_of_none d t hp] at hmem
    | some p =>
        rw [cancel_of_some d t hp] at hmem
        exact (List.mem_filter.mp hmem).1
  cases hs : d.supported.get c with
  | false =>
      rw [send_of_unsupported d t hs] at hw
      exact .inl hw
  | true =>
      cases hc : t.closed with
      | true =>
          rw [send_of_closed d t hs hc] at hw
          exact .inl (hcancel hw)
      | false =>
          rw [send_of_open d t hs hc] at hw
          rcases List.mem_append.mp hw with hw | hw
          · exact .inl (hcancel hw)
          · rw [List.mem_singleton.mp hw]
            exact .inr ⟨rfl, rfl⟩

theorem mem_pending_sendAll {id : SessionId} {values : List Attempt} {d : Dispatcher}
    {t : Transport Callback} {w : Serial × Callback}
    (hw : w ∈ (sendAll id values (d, t)).2.pending) :
    w ∈ t.pending ∨ w.2.session = id ∧ ∃ a ∈ values, w.2.cls = a.cls := by
  induction values generalizing d t with
  | nil => exact .inl hw
  | cons a values ih =>
      rcases ih hw with hw | ⟨hid, e, he, hcls⟩
      · refine (mem_pending_send hw).imp_right ?_
        rintro ⟨hid, hcls⟩
        exact ⟨hid, a, List.mem_cons_self, hcls⟩
      · exact .inr ⟨hid, e, List.mem_cons_of_mem _ he, hcls⟩

end Dispatcher

/-- A session that starts sends some values of its own classes, and does nothing else to the
transport. -/
theorem Session.sends_start (id : SessionId) (m : Monitor) (p : Platform) :
    ∃ values, (∀ a ∈ values, a.cls ∈ m.variant.profile.classes) ∧
      ((Session.start id m.variant m.intervals m.watchPath p).1.dispatcher,
        (Session.start id m.variant m.intervals m.watchPath p).2.transport) =
      Dispatcher.sendAll id values ({}, p.transport) := by
  have hfirst : ((Session.start id m.variant m.intervals none p).1.dispatcher,
      (Session.start id m.variant m.intervals none p).2.transport) =
        Dispatcher.sendAll id
          (Action.sends (Tracker.start m.variant m.intervals p.sources.snapshot).2)
          ({}, p.transport) := by
    rw [start_none, perform_eq]
  have hclasses : ∀ a ∈ Action.sends (Tracker.start m.variant m.intervals p.sources.snapshot).2,
      a.cls ∈ m.variant.profile.classes := fun a ha =>
    Tracker.cls_mem_of_evaluate (t := Tracker.new m.variant m.intervals p.sources.snapshot) ha
  cases m.watchPath with
  | none => exact ⟨_, hclasses, hfirst⟩
  | some path =>
      have hvariant := (Session.started id ⟨m.variant, m.intervals, none⟩ p).variant
      rw [start_some]
      generalize Session.start id m.variant m.intervals none p = first at hfirst hvariant
      cases hw : (first.2.notifier.watch path id).1 with
      | error failure =>
          rw [startPolling_of_error id first.2 hw]
          exact ⟨_, hclasses, hfirst⟩
      | ok watch =>
          rw [startPolling_of_ok id first.2 hw, perform_eq]
          refine ⟨Action.sends (Tracker.start m.variant m.intervals p.sources.snapshot).2 ++
            Action.sends ((first.1.tracker.bridged watch).poll first.2.sample).2, ?_, ?_⟩
          · intro a ha
            rcases List.mem_append.mp ha with ha | ha
            · exact hclasses a ha
            · have hpoll := Tracker.cls_mem_of_poll ha
              rwa [Tracker.profile, show (first.1.tracker.bridged watch).variant = m.variant from
                hvariant] at hpoll
          · rw [Dispatcher.sendAll_append, ← hfirst]

namespace Host

/-- The dispatchers of the sessions on their transport, with their queues. -/
def board (h : Host) : Switchboard where
  transport := h.platform.transport
  desks j := match h.sessions[j]? with
    | some s => ⟨s.dispatcher, s.queue⟩
    | none => {}

/-- The switchboard of a host is in order, and a session that has ended has nothing in flight. -/
structure Wired (h : Host) : Prop where
  owned : h.board.Owned
  retired : ∀ (j : SessionId) (s : Session), h.sessions[j]? = some s → s.closed = true →
    ∀ c, s.dispatcher.pending.get c = none

variable {h : Host} {j : SessionId} {s : Session}

theorem desks_board (hs : h.sessions[j]? = some s) :
    h.board.desks j = ⟨s.dispatcher, s.queue⟩ := by
  simp [board, hs]

theorem desks_board_of_none (hs : h.sessions[j]? = none) : h.board.desks j = {} := by
  simp [board, hs]

theorem entry_board (hs : h.sessions[j]? = some s) (c : RequestClass) :
    h.board.entry j c = s.dispatcher.pending.get c := by
  rw [Switchboard.entry, desks_board hs]

/-- Another session in a place is another desk. -/
theorem board_set {p : Platform} (hs : h.sessions[j]? = some s) (s' : Session) :
    (⟨p, h.sessions.set j s'⟩ : Host).board =
      ⟨p.transport, Function.update h.board.desks j ⟨s'.dispatcher, s'.queue⟩⟩ := by
  have hlt : j < h.sessions.length := (List.getElem?_eq_some_iff.mp hs).1
  unfold board
  congr 1
  funext i
  by_cases hi : i = j
  · subst hi
    simp [List.getElem?_set_self hlt]
  · simp [hi, List.getElem?_set_ne (Ne.symm hi)]

/-- One more session is one more desk. -/
theorem board_append {p : Platform} (s' : Session) :
    (⟨p, h.sessions ++ [s']⟩ : Host).board =
      ⟨p.transport,
        Function.update h.board.desks h.sessions.length ⟨s'.dispatcher, s'.queue⟩⟩ := by
  unfold board
  congr 1
  funext i
  rcases Nat.lt_trichotomy i h.sessions.length with hi | hi | hi
  · simp [List.getElem?_append_left hi, Nat.ne_of_lt hi]
  · simp [hi]
  · have hnone : (h.sessions ++ [s'])[i]? = none :=
      List.getElem?_eq_none (by simpa using Nat.succ_le_of_lt hi)
    have hnone' : h.sessions[i]? = none := List.getElem?_eq_none (Nat.le_of_lt hi)
    simp [hnone, hnone', Nat.ne_of_gt hi]

/-- An answer to an open session. -/
theorem board_post {k : Callback} (hs : h.sessions[k.session]? = some s)
    (hopen : s.closed = false) (a : Completion) :
    (h.post k.session (k.message a)).board = h.board.post a k := by
  unfold post Switchboard.post
  rw [Switchboard.mk.injEq]
  refine ⟨rfl, ?_⟩
  funext i
  simp only [board, List.getElem?_modify]
  by_cases hi : i = k.session
  · subst hi
    simp [hs, Session.receive, hopen]
  · simp [hi, Ne.symm hi]

/-- Answers to open sessions. -/
theorem board_answer {ks : List Callback}
    (hopen : ∀ k ∈ ks, ∃ s : Session, h.sessions[k.session]? = some s ∧ s.closed = false)
    (a : Completion) : (h.answer a ks).board = h.board.answer a ks := by
  induction ks generalizing h with
  | nil => rfl
  | cons k ks ih =>
      obtain ⟨s, hs, hso⟩ := hopen k List.mem_cons_self
      rw [Host.answer, List.foldl_cons, Switchboard.answer, List.foldl_cons, ← board_post hs hso]
      refine ih fun l hl => ?_
      obtain ⟨t, ht, hto⟩ := hopen l (List.mem_cons_of_mem _ hl)
      rw [post, List.getElem?_modify, ht]
      refine ⟨_, rfl, ?_⟩
      split
      · simp [Session.receive, hto]
      · exact hto

theorem wired_new (slot : String) (interface : Interface) : (new slot interface).Wired where
  owned := Switchboard.Owned.new slot interface
  retired j s hs := by simp [new] at hs

/-- What is in flight is in flight at an open session. -/
theorem Wired.open_of_entry (hw : h.Wired) {c : RequestClass} {p : InFlight}
    (hp : h.board.entry j c = some p) :
    ∃ s : Session, h.sessions[j]? = some s ∧ s.closed = false ∧
      s.dispatcher.pending.get c = some p := by
  cases hs : h.sessions[j]? with
  | none =>
      rw [Switchboard.entry, desks_board_of_none hs, ByClass.get_const] at hp
      cases hp
  | some s =>
      rw [entry_board hs] at hp
      refine ⟨s, rfl, ?_, hp⟩
      cases hclosed : s.closed with
      | false => rfl
      | true =>
          rw [hw.retired j s hs hclosed] at hp
          cases hp

/-- **Who waits is open.**  What waits in the transport is in flight at an open session. -/
theorem Wired.waiting (hw : h.Wired) {n : Serial} {k : Callback}
    (hk : (n, k) ∈ h.platform.transport.pending) :
    ∃ s : Session, h.sessions[k.session]? = some s ∧ s.closed = false ∧
      s.dispatcher.pending.get k.cls = some ⟨k.ticket, n⟩ :=
  hw.open_of_entry (hw.owned.waiting (hw.owned.numbered.callback?_eq_some_iff.mpr hk))

/-- A callback with the number of the request in flight that it is for. -/
def numbered (h : Host) (k : Callback) : Serial × Callback :=
  (((h.board.entry k.session k.cls).map (fun p => p.serial)).getD 0, k)

theorem Wired.numbered_of_pending (hw : h.Wired) {w : Serial × Callback}
    (hmem : w ∈ h.platform.transport.pending) : h.numbered w.2 = w := by
  rw [numbered, hw.owned.waiting (hw.owned.numbered.callback?_eq_some_iff.mpr hmem)]
  rfl

/-! ## What sessions do to the switchboard -/

/-- Mail without answers, while the transport keeps what waits. -/
theorem Wired.deliver (hw : h.Wired) {p : Platform} (letters : List (SessionId × Message))
    (hpending : p.transport.pending = h.platform.transport.pending)
    (hnext : p.transport.nextSerial = h.platform.transport.nextSerial)
    (hquiet : ∀ l ∈ letters, l.2.ticket? = none) :
    (({ h with platform := p } : Host).deliver letters).Wired := by
  have hnone : ∀ i, answersIn (lettersTo i letters) = [] := by
    intro i
    refine answersIn_of_quiet fun m hm => ?_
    obtain ⟨l, hl, rfl⟩ := List.mem_map.mp hm
    exact hquiet l (List.mem_filter.mp hl).1
  constructor
  · refine hw.owned.frame ?_ ?_ (fun i => ?_) (fun i => ?_)
    · simp only [board, platform_deliver]
      exact hpending
    · simp only [board, platform_deliver]
      exact hnext
    · simp only [board, getElem?_deliver]
      cases h.sessions[i]? with
      | none => rfl
      | some s => exact Session.dispatcher_receiveAll ..
    · simp only [board, getElem?_deliver]
      cases h.sessions[i]? with
      | none => rfl
      | some s =>
          simp only [Option.map_some, Session.receiveAll]
          split
          · rfl
          · simp only [answersIn_append, hnone, List.append_nil]
  · intro i s' hs' hclosed
    rw [getElem?_deliver] at hs'
    obtain ⟨s, hs, rfl⟩ := Option.map_eq_some_iff.mp hs'
    rw [Session.dispatcher_receiveAll]
    exact hw.retired i s hs (by rwa [Session.closed_receiveAll] at hclosed)

/-- The platform changes where nobody looks. -/
theorem Wired.platform (hw : h.Wired) {p : Platform}
    (hpending : p.transport.pending = h.platform.transport.pending)
    (hnext : p.transport.nextSerial = h.platform.transport.nextSerial) :
    ({ h with platform := p } : Host).Wired :=
  hw.deliver [] hpending hnext fun _ hl => absurd hl List.not_mem_nil

theorem Wired.signal (hw : h.Wired) (u : SignalUpdate) : (h.signal u).Wired := by
  simp only [Host.signal, postTo_eq_deliver]
  refine hw.deliver _ rfl rfl fun l hl => ?_
  obtain ⟨id, -, rfl⟩ := List.mem_map.mp hl
  rfl

theorem Wired.emit (hw : h.Wired) (event : WatchEvent) : (h.emit event).Wired := by
  rw [Host.emit, postTo_eq_deliver]
  refine hw.deliver (p := h.platform) _ rfl rfl fun l hl => ?_
  obtain ⟨id, -, rfl⟩ := List.mem_map.mp hl
  cases event <;> rfl

/-- Answers go to open sessions, which alone have something in flight. -/
theorem Wired.answer (hw : h.Wired) {t : Transport Callback} {ks : List Callback} {a : Completion}
    (hks : ∀ k ∈ ks, ∃ n, (n, k) ∈ h.platform.transport.pending)
    (howned : (({ h.board with transport := t } : Switchboard).answer a ks).Owned) :
    (({ h with platform := { h.platform with transport := t } } : Host).answer a ks).Wired := by
  constructor
  · rw [board_answer]
    · exact howned
    · intro k hk
      obtain ⟨n, hn⟩ := hks k hk
      obtain ⟨s, hs, hopen, -⟩ := hw.waiting hn
      exact ⟨s, hs, hopen⟩
  · intro i s' hs' hclosed
    rw [answer_eq_deliver, getElem?_deliver] at hs'
    obtain ⟨s, hs, rfl⟩ := Option.map_eq_some_iff.mp hs'
    rw [Session.dispatcher_receiveAll]
    exact hw.retired i s hs (by rwa [Session.closed_receiveAll] at hclosed)

theorem Wired.respond (hw : h.Wired) (n : Serial) (a : Completion) : (h.respond n a).2.Wired := by
  refine hw.answer (fun k hk => ⟨n, ?_⟩) (hw.owned.respond n a)
  exact hw.owned.numbered.callback?_eq_some_iff.mp (Option.mem_toList.mp hk)

/-- The radio gives up on everything that waits, in whatever order. -/
theorem Wired.failAll (hw : h.Wired) (status : TxStatus) {ks : List Callback}
    (hks : ks.Perm (h.platform.transport.pending.map (fun w => w.2))) :
    (({ h with platform := { h.platform with
      transport := h.platform.transport.failAll.2 } } : Host).answer (.failed status) ks).Wired := by
  have hwaiting := hks.map h.numbered
  have hback : (h.platform.transport.pending.map (fun w => w.2)).map h.numbered =
      h.platform.transport.pending := by
    rw [List.map_map]
    refine (List.map_congr_left fun w hmem => ?_).trans (List.map_id _)
    exact hw.numbered_of_pending hmem
  rw [hback] at hwaiting
  refine hw.answer (fun k hk => ?_) ?_
  · obtain ⟨w, hw', rfl⟩ := List.mem_map.mp (hks.subset hk)
    exact ⟨w.1, hw'⟩
  · have hall := hw.owned.failAll hwaiting (.failed status)
    have hcallbacks : (ks.map h.numbered).map (fun w => w.2) = ks := by
      rw [List.map_map]
      exact List.map_id _
    rw [hcallbacks] at hall
    exact hall

/-- What a session does by its dispatcher, with a change of its queue that no answer sees. -/
theorem Wired.handle (hw : h.Wired) (hs : h.sessions[j]? = some s) (hopen : s.closed = false)
    {m : Message} (hm : m.ticket? = none) (queue : List Message)
    (hqueue : answersIn queue = answersIn s.queue) :
    (⟨(s.handle j m h.platform).2,
      h.sessions.set j { (s.handle j m h.platform).1 with queue := queue }⟩ : Host).Wired := by
  have hdesk := desks_board hs
  have hhear : ∀ d : Dispatcher, d.hear m = d := by
    intro d
    cases m with
    | completed c ticket a => cases hm
    | signal | screenChanged | watchFailed => rfl
  rw [Session.handle_of_open j h.platform hopen]
  simp only [hhear]
  constructor
  · have hsent := hw.owned.sendAll j (Action.sends (s.tracker.handle h.platform.sample m).2)
    have hfilled := hsent.refill j queue (by
      rw [Switchboard.inbox_update, hdesk]
      exact hqueue)
    simp only [Switchboard.refill, Switchboard.update, hdesk, Function.update_self,
      Function.update_idem] at hfilled
    rw [board_set hs]
    exact hfilled
  · intro i s' hs' hclosed
    rcases getElem?_set_cases hs' with ⟨rfl, rfl⟩ | ⟨-, hold⟩
    · simp [hopen] at hclosed
    · exact hw.retired i s' hold hclosed

/-- A session takes an answer out of its queue. -/
theorem Wired.complete (hw : h.Wired) (hs : h.sessions[j]? = some s) (hopen : s.closed = false)
    {c : RequestClass} {ticket : Ticket} {a : Completion} {rest : List Message}
    (hq : s.queue = .completed c ticket a :: rest) :
    (⟨(s.handle j (.completed c ticket a) h.platform).2,
      h.sessions.set j
        { (s.handle j (.completed c ticket a) h.platform).1 with queue := rest }⟩ : Host).Wired := by
  have hdesk := desks_board hs
  have hone : s.handle j (.completed c ticket a) h.platform =
      ({ s with dispatcher := (s.dispatcher.complete c ticket a).2 }, h.platform) := by
    simp [Session.handle, hopen]
  rw [hone]
  constructor
  · have holdest : (h.board.desks j).inbox = .completed c ticket a :: rest := by
      rw [hdesk]
      exact hq
    have hdone := hw.owned.complete holdest
    simp only [Switchboard.complete, hdesk] at hdone
    rw [board_set hs]
    exact hdone
  · intro i s' hs' hclosed
    rcases getElem?_set_cases hs' with ⟨rfl, rfl⟩ | ⟨-, hold⟩
    · simp [hopen] at hclosed
    · exact hw.retired i s' hold hclosed

theorem Wired.processOne (hw : h.Wired) (hswept : h.Swept) (id : SessionId) :
    (h.processOne id).Wired := by
  rcases processOne_cases h id with heq | ⟨s, m, rest, hs, hq, heq⟩
  · rw [heq]; exact hw
  · have hopen := hswept.open_of_cons hs hq
    rw [heq]
    cases m with
    | completed c ticket a => exact hw.complete hs hopen hq
    | signal | screenChanged | watchFailed =>
        exact hw.handle hs hopen rfl rest (by rw [hq]; rfl)

/-- A session is handed a message that is no answer. -/
theorem Wired.hand (hw : h.Wired) (id : SessionId) {m : Message} (hm : m.ticket? = none) :
    (h.handle id m).Wired := by
  cases hs : h.sessions[id]? with
  | none => rw [Host.handle, withSession_of_none hs]; exact hw
  | some s =>
      rw [Host.handle, withSession_of_some hs]
      cases hopen : s.closed with
      | true => rw [Session.handle_closed hopen, put_back hs]; exact hw
      | false =>
          have hkept := hw.handle hs hopen hm (s.handle id m h.platform).1.queue
            (by rw [Session.queue_handle])
          exact hkept

/-- **A session that ends drops its requests before it throws its queue away.** -/
theorem Wired.shutdown (hw : h.Wired) (id : SessionId) : (h.shutdown id).Wired := by
  cases hs : h.sessions[id]? with
  | none => rw [Host.shutdown, withSession_of_none hs]; exact hw
  | some s =>
      cases hopen : s.closed with
      | true => rw [shutdown_of_closed hs hopen]; exact hw
      | false =>
          have hdesk := desks_board hs
          have hdropped := hw.owned.dropAll id
          have hnone : ∀ c, (h.board.dropAll id).entry id c = none := by
            intro c
            rw [Switchboard.entry_dropAll, if_pos rfl]
          have hcleared := hdropped.clear hnone
          rw [Host.shutdown, withSession_of_some hs, Session.shutdown_of_open id h.platform hopen]
          constructor
          · simp only [Switchboard.refill, Switchboard.dropAll, Switchboard.update, hdesk,
              Function.update_self, Function.update_idem] at hcleared
            rw [board_set hs]
            exact hcleared
          · intro i s' hs' hclosed
            rcases getElem?_set_cases hs' with ⟨rfl, rfl⟩ | ⟨-, hold⟩
            · intro c
              have hc := hnone c
              rw [Switchboard.entry, Switchboard.dropAll, hdesk,
                Switchboard.dispatcher_update] at hc
              exact hc
            · exact hw.retired i s' hold hclosed

/-- **A session that starts sends at a desk of its own.** -/
theorem Wired.start (hw : h.Wired) (m : Monitor) : (h.start m).Wired := by
  obtain ⟨values, -, hsends⟩ := Session.sends_start h.sessions.length m h.platform
  have hnew := Session.started h.sessions.length m h.platform
  have hdesk := desks_board_of_none (List.getElem?_eq_none (Nat.le_refl h.sessions.length))
  rw [start_eq]
  constructor
  · have hsent := hw.owned.sendAll h.sessions.length values
    simp only [Switchboard.update, hdesk] at hsent
    rw [board_append, hnew.queue]
    rw [show h.board.transport = h.platform.transport from rfl, ← hsends] at hsent
    exact hsent
  · intro i s' hs' hclosed
    rcases getElem?_concat_cases hs' with ⟨-, hold⟩ | ⟨-, rfl⟩
    · exact hw.retired i s' hold hclosed
    · rw [hnew.closed] at hclosed
      cases hclosed

theorem Wired.step (hw : h.Wired) (hswept : h.Swept) (e : Happening) : (h.step e).Wired := by
  cases e with
  | signal u => exact hw.signal u
  | respond n a => exact hw.respond n a
  | failAll status => exact hw.failAll status (List.Perm.refl _)
  | emit event => exact hw.emit event
  | start m => exact hw.start m
  | processOne id => exact hw.processOne hswept id
  | shutdown id => exact hw.shutdown id
  | closeOutgoing | failNextWatch | writeScreen | setPower | takeOutgoing | collectSlot =>
      exact hw.platform rfl rfl

/-- **Every move keeps the switchboard in order**, if answers come by the queues. -/
theorem Wired.move (hw : h.Wired) (hswept : h.Swept) {e : Move} (he : e.Queued) :
    (h.move e).Wired := by
  cases e with
  | happen e => exact hw.step hswept e
  | failAll status order perm => exact hw.failAll status (perm _)
  | hand id m =>
      cases m with
      | completed c ticket a => exact absurd he not_false
      | signal | screenChanged | watchFailed => exact hw.hand id rfl
  | exchange f signals => exact absurd he not_false

theorem Wired.travel (hw : h.Wired) (hswept : h.Swept) {es : List Move}
    (hes : ∀ e ∈ es, e.Queued) : (h.travel es).Wired := by
  induction es generalizing h with
  | nil => exact hw
  | cons e es ih =>
      have he := hes e List.mem_cons_self
      exact ih (hw.move hswept he) (hswept.effect (effect_move hswept he.inside))
        fun e' he' => hes e' (List.mem_cons_of_mem _ he')

end Host

end ModemWatch
