import ModemWatch.Proofs.Happenings

/-!
# Mail

Signals, the radio and the watches reach the sessions by mail only.  A *letter* is a message with
the session it is for, and a happening posts any number of letters.  Nothing about a session changes
by it but its queue, and nothing about the platform.

* `Host.getElem?_deliver` — each session receives the letters to it, in order;
* `Host.sessions_signal`, `Host.sessions_respond`, `Host.sessions_failAll`, `Host.sessions_emit` —
  which letters a happening posts.
-/

namespace ModemWatch

namespace Session

/-- A session receives several messages; a closed one takes none. -/
def receiveAll (ms : List Message) (s : Session) : Session :=
  if s.closed then s else { s with queue := s.queue ++ ms }

@[simp] theorem tracker_receiveAll (ms : List Message) (s : Session) :
    (s.receiveAll ms).tracker = s.tracker := by
  unfold receiveAll
  split <;> rfl

@[simp] theorem dispatcher_receiveAll (ms : List Message) (s : Session) :
    (s.receiveAll ms).dispatcher = s.dispatcher := by
  unfold receiveAll
  split <;> rfl

@[simp] theorem subscriptions_receiveAll (ms : List Message) (s : Session) :
    (s.receiveAll ms).subscriptions = s.subscriptions := by
  unfold receiveAll
  split <;> rfl

@[simp] theorem closed_receiveAll (ms : List Message) (s : Session) :
    (s.receiveAll ms).closed = s.closed := by
  unfold receiveAll
  split <;> rfl

theorem queue_receiveAll {s : Session} (h : s.closed = false) (ms : List Message) :
    (s.receiveAll ms).queue = s.queue ++ ms := by
  simp [receiveAll, h]

@[simp] theorem receiveAll_nil (s : Session) : s.receiveAll [] = s := by
  simp [receiveAll]

theorem receiveAll_receive (m : Message) (ms : List Message) (s : Session) :
    (s.receive m).receiveAll ms = s.receiveAll (m :: ms) := by
  cases h : s.closed <;> simp [receive, receiveAll, h]

end Session

/-- The messages of the letters to a session, in order. -/
def lettersTo (id : SessionId) (letters : List (SessionId × Message)) : List Message :=
  (letters.filter (fun l => l.1 == id)).map (fun l => l.2)

namespace Host

variable (h : Host)

/-- Posts letters, one after the other. -/
def deliver (letters : List (SessionId × Message)) : Host :=
  letters.foldl (fun h l => h.post l.1 l.2) h

theorem platform_deliver (letters : List (SessionId × Message)) :
    (h.deliver letters).platform = h.platform := by
  induction letters generalizing h with
  | nil => rfl
  | cons l letters ih => exact ih (h.post l.1 l.2)

theorem length_deliver (letters : List (SessionId × Message)) :
    (h.deliver letters).sessions.length = h.sessions.length := by
  induction letters generalizing h with
  | nil => rfl
  | cons l letters ih => exact (ih (h.post l.1 l.2)).trans (List.length_modify ..)

/-- **Each session receives the letters to it.** -/
theorem getElem?_deliver (letters : List (SessionId × Message)) (j : SessionId) :
    (h.deliver letters).sessions[j]? =
      (h.sessions[j]?).map (Session.receiveAll (lettersTo j letters)) := by
  induction letters generalizing h with
  | nil =>
      have hid : Session.receiveAll (lettersTo j []) = id := funext Session.receiveAll_nil
      rw [hid, Option.map_id]
      rfl
  | cons l letters ih =>
      have hpost : (h.post l.1 l.2).sessions[j]? =
          (h.sessions[j]?).map (fun s => if l.1 = j then s.receive l.2 else s) := by
        rw [post, List.getElem?_modify]
        rfl
      refine (ih (h.post l.1 l.2)).trans ?_
      rw [hpost, Option.map_map]
      congr 1
      funext s
      by_cases hl : l.1 = j
      · simp [lettersTo, hl, Session.receiveAll_receive]
      · simp [lettersTo, hl]

theorem postTo_eq_deliver (m : Message) (ids : List SessionId) :
    h.postTo m ids = h.deliver (ids.map (fun id => (id, m))) := by
  rw [postTo, deliver, List.foldl_map]

theorem answer_eq_deliver (a : Completion) (ks : List Callback) :
    h.answer a ks = h.deliver (ks.map (fun k => (k.session, k.message a))) := by
  rw [answer, deliver, List.foldl_map]

theorem lettersTo_same (j : SessionId) (m : Message) (ids : List SessionId) :
    lettersTo j (ids.map (fun id => (id, m))) = List.replicate (ids.count j) m := by
  induction ids with
  | nil => rfl
  | cons id ids ih =>
      by_cases hid : id = j
      · subst hid
        simpa [lettersTo, List.replicate_succ] using ih
      · simpa [lettersTo, hid] using ih

/-- The answers to a session. -/
theorem lettersTo_answers (j : SessionId) (a : Completion) (ks : List Callback) :
    lettersTo j (ks.map (fun k => (k.session, k.message a))) =
      (ks.filter (fun k => k.session == j)).map (fun k => k.message a) := by
  simp [lettersTo, List.filter_map, Function.comp_def]

/-! ## Who receives what -/

theorem platform_signal (u : SignalUpdate) :
    (h.signal u).platform = { h.platform with sources := (h.platform.sources.write u).1 } := by
  simp only [signal, postTo_eq_deliver, platform_deliver]

theorem sessions_signal (u : SignalUpdate) (j : SessionId) :
    (h.signal u).sessions[j]? =
      (h.sessions[j]?).map
        (Session.receiveAll (List.replicate ((h.platform.sources.write u).2.count j) (.signal u)))
    := by
  simp only [signal, postTo_eq_deliver, getElem?_deliver, lettersTo_same]

theorem platform_respond (n : Serial) (a : Completion) :
    (h.respond n a).2.platform =
      { h.platform with transport := h.platform.transport.forget n } := by
  simp only [respond, answer_eq_deliver, platform_deliver]
  rfl

theorem sessions_respond (n : Serial) (a : Completion) (j : SessionId) :
    (h.respond n a).2.sessions[j]? =
      (h.sessions[j]?).map (Session.receiveAll
        (((h.platform.transport.callback? n).toList.filter (fun k => k.session == j)).map
          (fun k => k.message a))) := by
  simp only [respond, answer_eq_deliver, getElem?_deliver, lettersTo_answers]
  rfl

theorem platform_failAll (status : TxStatus) :
    (h.failAll status).2.platform =
      { h.platform with transport := h.platform.transport.failAll.2 } := by
  simp only [failAll, answer_eq_deliver, platform_deliver]

theorem sessions_failAll (status : TxStatus) (j : SessionId) :
    (h.failAll status).2.sessions[j]? =
      (h.sessions[j]?).map (Session.receiveAll
        ((h.platform.transport.failAll.1.filter (fun k => k.session == j)).map
          (fun k => k.message (.failed status)))) := by
  simp only [failAll, answer_eq_deliver, getElem?_deliver, lettersTo_answers]

theorem platform_emit (event : WatchEvent) : (h.emit event).platform = h.platform := by
  simp only [emit, postTo_eq_deliver, platform_deliver]

theorem sessions_emit (event : WatchEvent) (j : SessionId) :
    (h.emit event).sessions[j]? =
      (h.sessions[j]?).map (Session.receiveAll
        (List.replicate (h.platform.notifier.listeners.count j) event.message)) := by
  simp only [emit, postTo_eq_deliver, getElem?_deliver, lettersTo_same]

end Host

end ModemWatch
