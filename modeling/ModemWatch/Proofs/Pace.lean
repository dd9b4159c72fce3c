import ModemWatch.Proofs.Handlers

/-!
# Sessions at any pace

A session can be let work whenever one likes: after every write to a signal or after many of them,
on one message or on all that wait.  Once its queue is empty again it does not matter how that was
done.

The reason is that writing to a signal and handling a message do not meet.  A write looks at the
signals only, and puts messages at the end of the queues; the session takes a message from the front
of its queue, and what it makes of it does not depend on what the signals show by then.  So the two
commute as long as something waits, and every schedule comes to the same as all of its writes,
followed by a number of messages handled.

* `Session.handle_sources` — handling a message never consults the signals;
* `Host.signal_processOne` — writing and handling commute;
* `Host.play_eq` — what a schedule comes to;
* `Host.same_at_any_pace` — schedules of the same writes that leave nothing waiting.
-/

namespace ModemWatch

/-- What may happen while the signals are written to and one session works. -/
inductive Beat where
  | write (u : SignalUpdate)
  /-- The session handles its oldest message. -/
  | one
  /-- The session handles all that waits for it. -/
  | all

/-- The writes of a schedule, in order. -/
def Beat.written : List Beat → List SignalUpdate
  | [] => []
  | .write u :: beats => u :: written beats
  | .one :: beats | .all :: beats => written beats

/-- The writes that change something, in order. -/
def Snapshot.transitions : List SignalUpdate → Snapshot → List SignalUpdate
  | [], _ => []
  | u :: us, s =>
    (if (s.get u.kind).apply u.update = s.get u.kind then [] else [u]) ++
      transitions us (s.apply u)

namespace Session

/-- **Handling a message never consults the signals**, and leaves them as they are. -/
theorem handle_sources (id : SessionId) (m : Message) (s : Session) (p : Platform)
    (sources : Sources SessionId) :
    s.handle id m { p with sources := sources } =
      ((s.handle id m p).1, { (s.handle id m p).2 with sources := sources }) := by
  cases h : s.closed with
  | true => simp only [handle_closed h]
  | false => simp only [handle_of_open id _ h]; rfl

/-- Nothing but the queue of a session grows by what it receives. -/
theorem receiveAll_eq (ms : List Message) (s : Session) :
    s.receiveAll ms = { s with queue := s.queue ++ if s.closed then [] else ms } := by
  cases s with
  | mk tracker dispatcher subscriptions queue closed => cases closed <;> simp [receiveAll]

/-- A session with something waiting handles it in the same way before and after it receives more,
whatever the signals show. -/
theorem processOne_receiveAll {s : Session} (h : s.queue ≠ []) (id : SessionId)
    (ms : List Message) (p : Platform) (sources : Sources SessionId) :
    (s.receiveAll ms).processOne id { p with sources := sources } =
      ((s.processOne id p).1.receiveAll ms,
        { (s.processOne id p).2 with sources := sources }) := by
  obtain ⟨m, rest, hq⟩ := List.exists_cons_of_ne_nil h
  have hmore : (s.receiveAll ms).queue = m :: (rest ++ if s.closed then [] else ms) := by
    rw [receiveAll_eq, hq]
    rfl
  have hclosed := (same_handle id m s p).closed
  rw [processOne_of_cons hmore, processOne_of_cons hq, receiveAll_eq, receiveAll_eq, handle_queue,
    handle_sources]
  simp only [hclosed]

end Session

namespace Host

variable {h : Host} {j : SessionId}

/-- The messages that wait for a session, oldest first. -/
def waiting (j : SessionId) (h : Host) : List Message :=
  match h.sessions[j]? with
  | none => []
  | some s => s.queue

/-- The signals are written to, one update after the other. -/
def signals (us : List SignalUpdate) (h : Host) : Host := us.foldl (fun h u => h.signal u) h

/-- A session handles a number of messages, one by one. -/
def workOff (j : SessionId) (n : Nat) (h : Host) : Host := h.run (List.replicate n (.processOne j))

/-- The host after a beat; session `j` is the one that works. -/
def beat (j : SessionId) (h : Host) : Beat → Host
  | .write u => h.signal u
  | .one => h.processOne j
  | .all => (h.process j).2

/-- The messages that session `j` handles at a beat. -/
def taken (j : SessionId) (h : Host) : Beat → List Message
  | .write _ => []
  | .one => (h.waiting j).take 1
  | .all => h.waiting j

/-- The host after a schedule. -/
def play (j : SessionId) (beats : List Beat) (h : Host) : Host := beats.foldl (beat j) h

/-- The messages that session `j` handles in the course of a schedule, in order. -/
def handledIn (j : SessionId) : List Beat → Host → List Message
  | [], _ => []
  | b :: beats, h => h.taken j b ++ handledIn j beats (h.beat j b)

theorem length_waiting (j : SessionId) (h : Host) : (h.waiting j).length = h.queued j := by
  unfold waiting queued
  split <;> simp_all

/-! ## Handling a number of messages -/

theorem workOff_succ (j : SessionId) (n : Nat) (h : Host) :
    h.workOff j (n + 1) = (h.processOne j).workOff j n := rfl

theorem workOff_add (j : SessionId) (n k : Nat) (h : Host) :
    h.workOff j (n + k) = (h.workOff j n).workOff j k := by
  rw [workOff, List.replicate_add, run_append]
  rfl

theorem waiting_processOne (j : SessionId) (h : Host) :
    (h.processOne j).waiting j = (h.waiting j).tail := by
  unfold waiting
  rw [processOne, getElem?_withSession, if_pos rfl]
  cases h.sessions[j]? with
  | none => rfl
  | some s => exact Session.queue_processOne j s h.platform

theorem waiting_workOff (j : SessionId) (n : Nat) (h : Host) :
    (h.workOff j n).waiting j = (h.waiting j).drop n := by
  induction n generalizing h with
  | zero => rfl
  | succ n ih => rw [workOff_succ, ih, waiting_processOne, List.drop_tail]

theorem processOne_of_idle (hq : h.waiting j = []) : h.processOne j = h := by
  rcases processOne_cases h j with hsame | ⟨s, m, rest, hs, hcons, -⟩
  · exact hsame
  · simp [waiting, hs, hcons] at hq

theorem process_eq_workOff (j : SessionId) (h : Host) :
    (h.process j).2 = h.workOff j (h.waiting j).length := by
  rw [process_eq_run, length_waiting]
  rfl

/-! ## Writing and handling -/

theorem sources_processOne (j : SessionId) (h : Host) :
    (h.processOne j).platform.sources = h.platform.sources := by
  cases hs : h.sessions[j]? with
  | none => rw [processOne, withSession_of_none hs]
  | some s =>
      rw [processOne, withSession_of_some hs]
      exact Session.sources_processOne j s h.platform

/-- What waits is not touched by a write. -/
theorem waiting_prefix_signal (j : SessionId) (u : SignalUpdate) (h : Host) :
    h.waiting j <+: (h.signal u).waiting j := by
  unfold waiting
  rw [sessions_signal]
  cases h.sessions[j]? with
  | none => exact List.prefix_rfl
  | some s =>
      rw [Option.map_some, Session.receiveAll_eq]
      exact List.prefix_append ..

/-- **Writing and handling commute**, as long as something waits. -/
theorem signal_processOne (hq : h.waiting j ≠ []) (u : SignalUpdate) :
    (h.processOne j).signal u = (h.signal u).processOne j := by
  have hsources := sources_processOne j h
  cases hs : h.sessions[j]? with
  | none => simp [waiting, hs] at hq
  | some s =>
      have hqueue : s.queue ≠ [] := by simpa [waiting, hs] using hq
      have hreceive := fun ms => Session.processOne_receiveAll hqueue j ms h.platform
        (h.platform.sources.write u).1
      refine eq_of_parts ?_ (List.ext_getElem? fun k => ?_)
      · rw [platform_signal, hsources, processOne, processOne, withSession_of_some hs,
          withSession_of_some (by rw [sessions_signal, hs]; rfl), platform_signal, hreceive]
      · rw [sessions_signal, hsources, processOne, processOne, getElem?_withSession,
          getElem?_withSession, sessions_signal, platform_signal]
        -- session `j` works and receives; all others only receive
        by_cases hk : k = j
        · subst hk
          simp only [if_true, hs, Option.map_some, hreceive]
        · rw [if_neg hk, if_neg hk]

theorem signal_workOff {n : Nat} (hn : n ≤ (h.waiting j).length) (u : SignalUpdate) :
    (h.workOff j n).signal u = (h.signal u).workOff j n := by
  induction n generalizing h with
  | zero => rfl
  | succ n ih =>
      -- the write passes one message, and `n` still wait behind it
      have hq : h.waiting j ≠ [] := List.ne_nil_of_length_pos (Nat.lt_of_lt_of_le n.succ_pos hn)
      have hrest : n ≤ ((h.processOne j).waiting j).length := by
        rw [waiting_processOne, List.length_tail]
        exact Nat.le_sub_one_of_lt hn
      rw [workOff_succ, workOff_succ, ih hrest, signal_processOne hq]

theorem signals_workOff {n : Nat} (hn : n ≤ (h.waiting j).length) (us : List SignalUpdate) :
    (h.workOff j n).signals us = (h.signals us).workOff j n := by
  induction us generalizing h with
  | nil => rfl
  | cons u us ih =>
      have hmore := Nat.le_trans hn (waiting_prefix_signal j u h).length_le
      refine Eq.trans ?_ (ih hmore)
      exact congrArg (signals us) (signal_workOff hn u)

theorem waiting_prefix_signals (j : SessionId) (us : List SignalUpdate) (h : Host) :
    h.waiting j <+: (h.signals us).waiting j := by
  induction us generalizing h with
  | nil => exact List.prefix_rfl
  | cons u us ih => exact (waiting_prefix_signal j u h).trans (ih (h.signal u))

/-! ## Schedules -/

/-- What a session handles at a beat is what waits for it, from the front. -/
theorem prefix_taken (j : SessionId) (h : Host) (b : Beat) : h.taken j b <+: h.waiting j := by
  cases b with
  | write u => exact List.nil_prefix
  | one => exact List.take_prefix ..
  | all => exact List.prefix_rfl

/-- At a beat that is no write the session handles a number of messages. -/
theorem beat_eq_workOff {b : Beat} (hb : ∀ u, b ≠ .write u) :
    h.beat j b = h.workOff j (h.taken j b).length := by
  cases b with
  | write u => exact absurd rfl (hb u)
  | all => exact process_eq_workOff j h
  | one =>
      cases hq : h.waiting j with
      | nil => rw [beat, processOne_of_idle hq, taken, hq]; rfl
      | cons m rest => rw [taken, hq]; rfl

/-- **What a schedule comes to**: all of its writes, and then a number of the messages that wait,
from the front. -/
theorem play_eq (j : SessionId) (beats : List Beat) (h : Host) :
    h.handledIn j beats <+: (h.signals (Beat.written beats)).waiting j ∧
      h.play j beats =
        (h.signals (Beat.written beats)).workOff j (h.handledIn j beats).length := by
  induction beats generalizing h with
  | nil => exact ⟨List.nil_prefix, rfl⟩
  | cons b beats ih =>
      by_cases hb : ∀ u, b ≠ .write u
      · -- the session works first, and the writes that follow may as well come before
        have hwritten : Beat.written (b :: beats) = Beat.written beats := by
          cases b with
          | write u => exact absurd rfl (hb u)
          | one => rfl
          | all => rfl
        have hcommute : (h.beat j b).signals (Beat.written beats) =
            (h.signals (Beat.written beats)).workOff j (h.taken j b).length := by
          rw [beat_eq_workOff hb, signals_workOff (prefix_taken j h b).length_le]
        obtain ⟨rest, hrest⟩ :=
          (prefix_taken j h b).trans (waiting_prefix_signals j (Beat.written beats) h)
        obtain ⟨hhandled, hplay⟩ := ih (h.beat j b)
        rw [hcommute, waiting_workOff, ← hrest, List.drop_left] at hhandled
        rw [hcommute, ← workOff_add, ← List.length_append] at hplay
        rw [hwritten, handledIn, ← hrest]
        exact ⟨(List.prefix_append_right_inj _).mpr hhandled, hplay⟩
      · obtain ⟨u, rfl⟩ := not_forall_not.mp hb
        exact ih (h.signal u)

/-- A schedule that leaves nothing waiting comes to its writes and one pass over the queue. -/
theorem play_of_idle {beats : List Beat} (hq : (h.play j beats).queued j = 0) :
    h.handledIn j beats = (h.signals (Beat.written beats)).waiting j ∧
      h.play j beats = ((h.signals (Beat.written beats)).process j).2 := by
  obtain ⟨hhandled, hplay⟩ := play_eq j beats h
  have hleft : ((h.play j beats).waiting j).length = 0 := (length_waiting j _).trans hq
  rw [hplay, waiting_workOff, List.length_drop] at hleft
  have hall := hhandled.eq_of_length_le (Nat.le_of_sub_eq_zero hleft)
  exact ⟨hall, by rw [hplay, hall, process_eq_workOff]⟩

/-! ## What writes leave waiting -/

/-- A write that changes a signal leaves one message with an open session that observes the signal;
every other write leaves none. -/
theorem Subscribed.waiting_signal (hm : h.Subscribed) {s : Session} (hs : h.sessions[j]? = some s)
    (hopen : s.closed = false) (u : SignalUpdate) :
    (h.signal u).waiting j = h.waiting j ++
      ((h.platform.sources.snapshot.transitions [u]).filter
        (fun u => s.tracker.profile.observes u.kind)).map .signal := by
  have hcount := Sources.count_write (hm.held j s hs) u
  have hobserved : s.observed = s.tracker.profile.signals := by simp [Session.observed, hopen]
  simp only [waiting, sessions_signal, hs, Option.map_some, Session.queue_receiveAll hopen, hcount,
    hobserved, Snapshot.transitions, Sources.get_snapshot, List.append_nil]
  by_cases hsame : (h.platform.sources.get u.kind).reading.apply u.update =
      (h.platform.sources.get u.kind).reading
  · simp [hsame]
  · by_cases hobs : u.kind ∈ s.tracker.profile.signals <;> simp [hsame, hobs, Profile.observes]

/-- **Every transition waits once**: an open session that observes a signal is left one message for
each write that changes it, in the order of the writes. -/
theorem Subscribed.waiting_signals (hm : h.Subscribed) {s : Session}
    (hs : h.sessions[j]? = some s) (hopen : s.closed = false) (us : List SignalUpdate) :
    (h.signals us).waiting j = h.waiting j ++
      ((h.platform.sources.snapshot.transitions us).filter
        (fun u => s.tracker.profile.observes u.kind)).map .signal := by
  induction us generalizing h s with
  | nil => simp [signals, Snapshot.transitions]
  | cons u us ih =>
      have hfirst := hm.waiting_signal hs hopen u
      have hs' := sessions_signal h u j
      rw [hs, Option.map_some] at hs'
      have hrest := ih (hm.signal u) hs' ((Session.closed_receiveAll _ s).trans hopen)
      rw [platform_signal, Sources.snapshot_write, Session.tracker_receiveAll, hfirst] at hrest
      refine hrest.trans ?_
      simp [Snapshot.transitions]

/-- **A session works at any pace.**  Take a host and one session on it that is let work, on single
messages or on all that waits, any number of times between writes to the signals.

Two schedules of the same writes that leave nothing waiting for the session lead to the same host:
the same requests on their way, under the same numbers, the same calls on the slot, the same session
with its decisions, what it remembers of the signals and its requests in flight.  In both the session
handles the same messages in the same order, and the host is the one after all the writes and one
pass over the queue.

These messages are those that waited at first and then one for each write that changes a signal that
the session observes; so no transition gets lost, is merged with another or comes twice.

It is so because handling a message never consults the signals. -/
theorem same_at_any_pace (j : SessionId) (h : Host) :
    (∀ as bs : List Beat, Beat.written as = Beat.written bs →
      (h.play j as).queued j = 0 → (h.play j bs).queued j = 0 →
      h.play j as = h.play j bs ∧ h.handledIn j as = h.handledIn j bs) ∧
    (∀ beats : List Beat, (h.play j beats).queued j = 0 →
      h.play j beats = ((h.signals (Beat.written beats)).process j).2 ∧
      (h.Subscribed → ∀ s : Session, h.sessions[j]? = some s → s.closed = false →
        h.handledIn j beats = h.waiting j ++
          ((h.platform.sources.snapshot.transitions (Beat.written beats)).filter
            (fun u => s.tracker.profile.observes u.kind)).map .signal)) ∧
    ∀ (id : SessionId) (m : Message) (s : Session) (p : Platform) (sources : Sources SessionId),
      s.handle id m { p with sources := sources } =
        ((s.handle id m p).1, { (s.handle id m p).2 with sources := sources }) := by
  refine ⟨fun as bs hwritten has hbs => ?_, fun beats hq => ?_,
    fun id m s p sources => Session.handle_sources id m s p sources⟩
  · obtain ⟨hhandled, hplay⟩ := play_of_idle has
    obtain ⟨hhandled', hplay'⟩ := play_of_idle hbs
    rw [hplay, hhandled, hplay', hhandled', hwritten]
    exact ⟨rfl, rfl⟩
  · obtain ⟨hhandled, hplay⟩ := play_of_idle hq
    exact ⟨hplay, fun hm s hs hopen => hhandled.trans (hm.waiting_signals hs hopen _)⟩

/-- The display comes on and goes off again.  A session that looks after each write and one that
looks late send the same, both requests included, and hear of the three changes. -/
theorem same_at_any_pace_flicker :
    let h := (Host.new "slot1" .v15).start ⟨.indicationFilter, {}, none⟩
    let prompt : List Beat := [.write ⟨.display, .valid true⟩, .one,
      .write ⟨.display, .state .on⟩, .all, .write ⟨.display, .state .on⟩, .one,
      .write ⟨.display, .state .off⟩, .one]
    let late : List Beat := [.all, .write ⟨.display, .valid true⟩, .write ⟨.display, .state .on⟩,
      .write ⟨.display, .state .on⟩, .write ⟨.display, .state .off⟩, .one, .all]
    h.play 0 prompt = h.play 0 late ∧ h.handledIn 0 prompt = h.handledIn 0 late ∧
      h.handledIn 0 late = [.signal ⟨.display, .valid true⟩, .signal ⟨.display, .state .on⟩,
        .signal ⟨.display, .state .off⟩] ∧
      (h.play 0 late).platform.transport.queued.length = 3 := by
  intro h prompt late
  have hprompt : (h.play 0 prompt).queued 0 = 0 := by decide
  have hlate : (h.play 0 late).queued 0 = 0 := by decide
  have hlength : (h.play 0 late).platform.transport.queued.length = 3 := by decide
  have hsubscribed : h.Subscribed := (subscribed_new "slot1" .v15).start _
  obtain ⟨s, hs, hopen, hprofile⟩ : ∃ s : Session, h.sessions[0]? = some s ∧
      s.closed = false ∧ s.tracker.profile = Profile.indicationFilter := ⟨_, rfl, rfl, rfl⟩
  have hnone : h.waiting 0 = [] := rfl
  have hshown : h.platform.sources.snapshot = Sources.snapshot (κ := SessionId) {} := rfl
  -- from here on the host may be any that starts like this
  clear_value h
  obtain ⟨hsame, honce, -⟩ := same_at_any_pace 0 h
  obtain ⟨hplay, hhandled⟩ := hsame prompt late rfl hprompt hlate
  have hmessages := (honce late hlate).2 hsubscribed s hs hopen
  rw [hnone, hshown, hprofile] at hmessages
  exact ⟨hplay, hhandled, hmessages, hlength⟩

end Host

end ModemWatch
