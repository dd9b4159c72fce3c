import ModemWatch.Session.Host

/-!
# What happens on a host

All that changes a host is a number of small happenings, one after the other.  A session handles one
message at a time, whoever lets it work; so processing a queue, processing every queue, and letting
the sessions work until nothing waits are each a row of single messages handled.  What holds through
every happening therefore holds through all of it.

* `Host.step`, `Host.run` — one happening, and a row of them; `Host.Through` — a row of one kind;
* `Host.process_eq_run`, `Host.exists_run_settle` — working off queues is handling single messages;
* `Host.settle_induction` — so it keeps what each of these keeps;
* `Host.idle_settle` — and nothing waits afterwards.
-/

namespace ModemWatch

/-- Something that happens on a host. -/
inductive Happening where
  | signal (u : SignalUpdate)
  | respond (serial : Serial) (a : Completion)
  | failAll (status : TxStatus)
  | closeOutgoing
  | emit (event : WatchEvent)
  | failNextWatch (reason : String)
  | writeScreen (content : FileContent)
  | setPower (power : PowerState)
  | start (m : Monitor)
  /-- A session handles its oldest message. -/
  | processOne (id : SessionId)
  | shutdown (id : SessionId)
  | takeOutgoing
  | collectSlot

namespace Host

/-- The host after a happening. -/
def step (h : Host) : Happening → Host
  | .signal u => h.signal u
  | .respond serial a => (h.respond serial a).2
  | .failAll status => (h.failAll status).2
  | .closeOutgoing => h.closeOutgoing
  | .emit event => h.emit event
  | .failNextWatch reason => h.failNextWatch reason
  | .writeScreen content => h.writeScreen content
  | .setPower power => h.setPower power
  | .start m => h.start m
  | .processOne id => h.processOne id
  | .shutdown id => h.shutdown id
  | .takeOutgoing => h.takeOutgoing.2
  | .collectSlot => h.collectSlot.2

/-- The host after a row of happenings. -/
def run (es : List Happening) (h : Host) : Host := es.foldl step h

theorem run_append (es fs : List Happening) (h : Host) : h.run (es ++ fs) = (h.run es).run fs :=
  List.foldl_append

/-- What every happening of a row preserves, the row preserves. -/
theorem run_induction {P : Host → Prop} {es : List Happening}
    (hstep : ∀ e ∈ es, ∀ h, P h → P (h.step e)) {h : Host} (hP : P h) : P (h.run es) := by
  induction es generalizing h with
  | nil => exact hP
  | cons e es ih =>
      refine ih (fun e' he' => hstep e' (List.mem_cons_of_mem _ he')) ?_
      exact hstep e List.mem_cons_self h hP

/-- One host comes of another through happenings of a kind. -/
def Through (K : Happening → Prop) (h h' : Host) : Prop :=
  ∃ es : List Happening, (∀ e ∈ es, K e) ∧ h' = h.run es

section Through

variable {K L : Happening → Prop} {h h₁ h₂ : Host}

theorem Through.refl (h : Host) : h.Through K h :=
  ⟨[], fun _ he => absurd he List.not_mem_nil, rfl⟩

theorem Through.trans (hf : h.Through K h₁) (hs : h₁.Through K h₂) : h.Through K h₂ := by
  obtain ⟨es, hes, rfl⟩ := hf
  obtain ⟨fs, hfs, rfl⟩ := hs
  refine ⟨es ++ fs, fun e he => ?_, (run_append es fs h).symm⟩
  exact (List.mem_append.mp he).elim (hes e) (hfs e)

theorem Through.mono (hl : ∀ e, K e → L e) (ht : h.Through K h₁) : h.Through L h₁ := by
  obtain ⟨es, hes, hrun⟩ := ht
  exact ⟨es, fun e he => hl e (hes e he), hrun⟩

theorem through_step (h : Host) {e : Happening} (he : K e) : h.Through K (h.step e) :=
  ⟨[e], fun _ hmem => List.mem_singleton.mp hmem ▸ he, rfl⟩

end Through

/-- A host is known by its platform and its sessions. -/
theorem eq_of_parts {h h' : Host} (hp : h.platform = h'.platform)
    (hs : h.sessions = h'.sessions) : h = h' := by
  cases h
  cases h'
  simp_all

/-- Nothing waits for any session. -/
def Idle (h : Host) : Prop := ∀ s ∈ h.sessions, s.queue = []

section WithSession

variable {h : Host} {id j : SessionId} {f : Session → Platform → Session × Platform}

theorem withSession_of_none (hs : h.sessions[id]? = none) : h.withSession id f = h := by
  simp [withSession, hs]

theorem withSession_of_some {s : Session} (hs : h.sessions[id]? = some s) :
    h.withSession id f = ⟨(f s h.platform).2, h.sessions.set id (f s h.platform).1⟩ := by
  simp [withSession, hs]

theorem getElem?_withSession :
    (h.withSession id f).sessions[j]? =
      if j = id then (h.sessions[j]?).map (fun s => (f s h.platform).1) else h.sessions[j]? := by
  cases hs : h.sessions[id]? with
  | none =>
      rw [withSession_of_none hs]
      by_cases hj : j = id
      · rw [if_pos hj, hj, hs, Option.map_none]
      · rw [if_neg hj]
  | some s =>
      rw [withSession_of_some hs]
      by_cases hj : j = id
      · have hlt : id < h.sessions.length := (List.getElem?_eq_some_iff.mp hs).1
        rw [if_pos hj, hj, hs, Option.map_some, List.getElem?_set_self hlt]
      · rw [if_neg hj, List.getElem?_set_ne (Ne.symm hj)]

theorem length_withSession : (h.withSession id f).sessions.length = h.sessions.length := by
  cases hs : h.sessions[id]? with
  | none => rw [withSession_of_none hs]
  | some s => rw [withSession_of_some hs, List.length_set]

/-- Putting a session back in its place changes nothing. -/
theorem put_back {s : Session} (hs : h.sessions[id]? = some s) :
    (⟨h.platform, h.sessions.set id s⟩ : Host) = h := by
  obtain ⟨hlt, rfl⟩ := List.getElem?_eq_some_iff.mp hs
  rw [List.set_getElem_self]

end WithSession

end Host

/-! ## One message at a time -/

namespace Session

/-- What waits behind a message does not matter to the message. -/
theorem handle_queue (id : SessionId) (m : Message) (s : Session) (p : Platform)
    (q : List Message) :
    ({ s with queue := q } : Session).handle id m p =
      ({ (s.handle id m p).1 with queue := q }, (s.handle id m p).2) := by
  cases hc : s.closed with
  | true => simp [handle, hc]
  | false => cases m <;> simp [handle, hc, perform]

/-- A session with something waiting handles the oldest of it. -/
theorem processOne_of_cons {id : SessionId} {s : Session} {m : Message} {rest : List Message}
    (h : s.queue = m :: rest) (p : Platform) :
    s.processOne id p =
      ({ (s.handle id m p).1 with queue := rest }, (s.handle id m p).2) := by
  rw [← handle_queue]
  simp [processOne, h]

theorem processOne_of_empty (id : SessionId) {s : Session} (h : s.queue = []) (p : Platform) :
    s.processOne id p = (s, p) := by
  simp [processOne, h]

theorem process_of_empty {id : SessionId} {s : Session} (h : s.queue = []) (p : Platform) :
    s.process id p = (s, p) := by
  obtain ⟨tracker, dispatcher, subscriptions, queue, closed⟩ := s
  obtain rfl : queue = [] := h
  rfl

/-- Processing a queue begins with its oldest message. -/
theorem process_of_cons {id : SessionId} {s : Session} {m : Message} {rest : List Message}
    (h : s.queue = m :: rest) (p : Platform) :
    s.process id p = (s.processOne id p).1.process id (s.processOne id p).2 := by
  rw [processOne_of_cons h, process, h, handleAll, List.foldl_cons, handle_queue]
  rfl

theorem queue_handleAll (id : SessionId) (ms : List Message) (s : Session) (p : Platform) :
    (s.handleAll id ms p).1.queue = s.queue := by
  unfold handleAll
  induction ms generalizing s p with
  | nil => rfl
  | cons m ms ih => exact (ih _ _).trans (queue_handle id m s p)

theorem queue_process (id : SessionId) (s : Session) (p : Platform) :
    (s.process id p).1.queue = [] :=
  queue_handleAll ..

theorem queue_processOne (id : SessionId) (s : Session) (p : Platform) :
    (s.processOne id p).1.queue = s.queue.tail := by
  unfold processOne
  split
  · next h => simp [h]
  · next m rest h => rw [queue_handle, h, List.tail_cons]

end Session

namespace Host

/-- A session handles a message, or nothing happens. -/
theorem processOne_cases (h : Host) (id : SessionId) :
    h.processOne id = h ∨ ∃ (s : Session) (m : Message) (rest : List Message),
      h.sessions[id]? = some s ∧ s.queue = m :: rest ∧
        h.processOne id = ⟨(s.handle id m h.platform).2,
          h.sessions.set id { (s.handle id m h.platform).1 with queue := rest }⟩ := by
  cases hs : h.sessions[id]? with
  | none => exact .inl (withSession_of_none hs)
  | some s =>
      rw [processOne, withSession_of_some hs]
      cases hq : s.queue with
      | nil =>
          left
          rw [Session.processOne_of_empty id hq, put_back hs]
      | cons m rest =>
          right
          exact ⟨s, m, rest, rfl, hq, by rw [Session.processOne_of_cons hq]⟩

/-- **Processing a queue is handling its messages one by one.** -/
theorem process_eq_run (id : SessionId) (h : Host) :
    (h.process id).2 = h.run (List.replicate (h.queued id) (.processOne id)) := by
  suffices hall : ∀ (n : Nat) (h : Host) (s : Session), h.sessions[id]? = some s →
      s.queue.length = n →
      h.withSession id (Session.process id) = h.run (List.replicate n (.processOne id)) by
    cases hs : h.sessions[id]? with
    | none =>
        simp only [process, queued, hs]
        exact withSession_of_none hs
    | some s =>
        simp only [process, queued, hs]
        exact hall _ h s hs rfl
  intro n
  induction n with
  | zero =>
      intro h s hs hlen
      rw [withSession_of_some hs, Session.process_of_empty (List.length_eq_zero_iff.mp hlen)]
      obtain ⟨hlt, rfl⟩ := List.getElem?_eq_some_iff.mp hs
      rw [List.set_getElem_self]
      rfl
  | succ n ih =>
      intro h s hs hlen
      obtain ⟨m, rest, hq⟩ := List.exists_cons_of_length_eq_add_one hlen
      have hlt : id < h.sessions.length := (List.getElem?_eq_some_iff.mp hs).1
      have hstep : h.step (.processOne id) =
          ⟨(s.processOne id h.platform).2, h.sessions.set id (s.processOne id h.platform).1⟩ :=
        withSession_of_some (f := Session.processOne id) hs
      have hs' : (h.step (.processOne id)).sessions[id]? =
          some (s.processOne id h.platform).1 := by
        rw [hstep]
        exact List.getElem?_set_self hlt
      have hlen' : (s.processOne id h.platform).1.queue.length = n := by
        rw [Session.queue_processOne, hq, List.tail_cons]
        simpa [hq] using hlen
      rw [List.replicate_succ]
      refine Eq.trans ?_ (ih (h.step (.processOne id)) _ hs' hlen')
      rw [withSession_of_some hs, withSession_of_some hs', Session.process_of_cons hq, hstep,
        List.set_set]

/-- A row in which sessions handle their oldest messages. -/
def Working (es : List Happening) : Prop := ∀ e ∈ es, ∃ id, e = .processOne id

theorem exists_run_processEach (ids : List SessionId) (h : Host) :
    ∃ es, Working es ∧ (processEach ids h).2 = h.run es := by
  induction ids generalizing h with
  | nil => exact ⟨[], by simp [Working], rfl⟩
  | cons id ids ih =>
      obtain ⟨es, hes, hrun⟩ := ih (h.process id).2
      refine ⟨List.replicate (h.queued id) (.processOne id) ++ es, ?_, ?_⟩
      · intro e he
        rcases List.mem_append.mp he with he | he
        · exact ⟨id, (List.mem_replicate.mp he).2⟩
        · exact hes e he
      · rw [run_append, ← process_eq_run]
        exact hrun

/-- **Letting the sessions work is handling messages one by one.** -/
theorem exists_run_settle (h : Host) : ∃ es, Working es ∧ h.settle = h.run es := by
  unfold settle
  generalize h.totalQueued + 1 = rounds
  induction rounds generalizing h with
  | zero => exact ⟨[], by simp [Working], rfl⟩
  | succ rounds ih =>
      obtain ⟨es, hes, hrun⟩ := exists_run_processEach (List.range h.sessions.length) h
      simp only [settleWithin]
      by_cases hnone : total h.processAll.1 = 0
      · rw [if_pos hnone]
        exact ⟨es, hes, hrun⟩
      · obtain ⟨fs, hfs, hrun'⟩ := ih h.processAll.2
        rw [if_neg hnone]
        refine ⟨es ++ fs, ?_, by rw [run_append, ← hrun]; exact hrun'⟩
        intro e he
        exact (List.mem_append.mp he).elim (hes e) (hfs e)

/-- **What every message handled keeps, the work of the sessions keeps.** -/
theorem settle_induction {P : Host → Prop} {h : Host} (hP : P h)
    (hstep : ∀ (id : SessionId) (g : Host), P g → P (g.processOne id)) : P h.settle := by
  obtain ⟨es, hes, hrun⟩ := exists_run_settle h
  rw [hrun]
  refine run_induction (fun e he g hg => ?_) hP
  obtain ⟨id, rfl⟩ := hes e he
  exact hstep id g hg

theorem length_processEach (ids : List SessionId) (h : Host) :
    (processEach ids h).2.sessions.length = h.sessions.length := by
  induction ids generalizing h with
  | nil => rfl
  | cons id ids ih => exact (ih (h.process id).2).trans length_withSession

/-- A session that is processed, or that nothing waited for, has nothing waiting afterwards. -/
theorem queue_processEach {ids : List SessionId} {h : Host} {j : SessionId}
    (hj : j ∈ ids ∨ ∀ s, h.sessions[j]? = some s → s.queue = []) {s : Session}
    (hs : (processEach ids h).2.sessions[j]? = some s) : s.queue = [] := by
  induction ids generalizing h with
  | nil => exact hj.resolve_left List.not_mem_nil s hs
  | cons id ids ih =>
      refine ih (h := (h.process id).2) ?_ hs
      by_cases hid : j = id
      · right
        intro s' hs'
        rw [process, getElem?_withSession, if_pos hid] at hs'
        obtain ⟨s₀, -, rfl⟩ := Option.map_eq_some_iff.mp hs'
        exact Session.queue_process ..
      · refine hj.imp (fun hm => (List.mem_cons.mp hm).resolve_left hid) ?_
        intro hq s' hs'
        rw [process, getElem?_withSession, if_neg hid] at hs'
        exact hq s' hs'

/-- One round works off all that waits. -/
theorem idle_processAll (h : Host) : h.processAll.2.Idle := by
  intro s hs
  obtain ⟨j, hj, hget⟩ := List.mem_iff_getElem.mp hs
  have hlt : j < h.sessions.length := by rwa [processAll, length_processEach] at hj
  have hget? : (processEach (List.range h.sessions.length) h).2.sessions[j]? = some s :=
    List.getElem?_eq_some_iff.mpr ⟨hj, hget⟩
  exact queue_processEach (.inl (List.mem_range.mpr hlt)) hget?

/-- **Nothing waits once the sessions have worked.** -/
theorem idle_settle (h : Host) : h.settle.Idle := by
  unfold settle
  generalize h.totalQueued = rounds
  induction rounds generalizing h with
  | zero =>
      simp only [settleWithin]
      split <;> exact idle_processAll h
  | succ rounds ih =>
      rw [settleWithin]
      simp only
      split
      · exact idle_processAll h
      · exact ih h.processAll.2

/-! ## Starting and ending sessions -/

theorem startAll_eq_run (monitors : List Monitor) (h : Host) :
    h.startAll monitors = h.run (monitors.map .start) := by
  rw [startAll, run, List.foldl_map]
  rfl

theorem shutdownAll_eq_run (h : Host) :
    h.shutdownAll = h.run ((List.range h.sessions.length).map .shutdown) := by
  rw [shutdownAll, run, List.foldl_map]
  rfl

end Host

end ModemWatch
