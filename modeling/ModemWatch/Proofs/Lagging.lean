import ModemWatch.Proofs.Moves

/-!
# Sessions that lag behind

A session remembers the signals as it last heard of them, which may be long ago.  What it lacks
stands in its queue: the updates of one signal that wait there, stored in order into what the
session remembers of the signal, give what the signal shows.  So a session whose queue has no news
of signals remembers all signals that it observes as they are.

That needs one thing only, that news of signals are handled out of the queue.  Sessions may come and
go, answers and reports of watches may come by any way, and all that sessions share besides the
signals may be exchanged.

* `Session.updates` — the updates of a signal that wait for a session;
* `Host.Mirrored.move` — every such move keeps mirrors;
* `Host.mirror_of_queue` — the lag of every open session, for every row of moves.
-/

namespace ModemWatch

/-- The update of a signal that a message brings. -/
def Message.update? (k : SignalKind) : Message → Option (Update k.State)
  | .signal u => if h : u.kind = k then some (h ▸ u.update) else none
  | .completed .. | .screenChanged | .watchFailed _ => none

/-- The updates of a signal that wait for a session, in order. -/
def Session.updates (k : SignalKind) (s : Session) : List (Update k.State) :=
  s.queue.filterMap (Message.update? k)

/-- Messages that bring no update of a signal leave it as it is; one that does has it stored. -/
theorem Snapshot.get_hear (s : Snapshot) (m : Message) (k : SignalKind) :
    (s.hear m).get k = (m.update? k).toList.foldl Reading.apply (s.get k) := by
  cases m with
  | completed | screenChanged | watchFailed => rfl
  | signal u =>
      by_cases hk : u.kind = k
      · subst hk
        simp [Message.update?, Snapshot.hear]
      · simp [Message.update?, Snapshot.hear, hk, Snapshot.get_apply_ne s (Ne.symm hk)]

/-- **Each signal is told by its own updates.** -/
theorem Snapshot.get_foldl_hear (s : Snapshot) (ms : List Message) (k : SignalKind) :
    (ms.foldl Snapshot.hear s).get k =
      (ms.filterMap (Message.update? k)).foldl Reading.apply (s.get k) := by
  induction ms generalizing s with
  | nil => rfl
  | cons m ms ih =>
      rw [List.foldl_cons, ih, get_hear]
      cases hu : m.update? k with
      | none => rw [List.filterMap_cons_none hu]; rfl
      | some u => rw [List.filterMap_cons_some hu]; rfl

theorem Session.get_foreseen (s : Session) (k : SignalKind) :
    s.foreseen.get k = (s.updates k).foldl Reading.apply (s.tracker.snapshot.get k) :=
  Snapshot.get_foldl_hear ..

/-- What is no news of a signal changes no snapshot. -/
theorem Snapshot.hear_of_no_signal {m : Message} (h : ∀ u, m ≠ .signal u) (s : Snapshot) :
    s.hear m = s := by
  cases m with
  | signal u => exact absurd rfl (h u)
  | completed | screenChanged | watchFailed => rfl

/-- A message that brings nothing new is handled without a trace in what is foreseen. -/
theorem Session.foreseen_handle (id : SessionId) {m : Message} (h : ∀ u, m ≠ .signal u)
    (s : Session) (p : Platform) : (s.handle id m p).1.foreseen = s.foreseen := by
  cases hc : s.closed with
  | true => rw [handle_closed hc]
  | false =>
      rw [handle_of_open id p hc]
      simp only [foreseen, Tracker.snapshot_handle, Snapshot.hear_of_no_signal h]

namespace Host

variable {h : Host}

/-- A session handles a message that is no news of a signal. -/
theorem Mirrored.hand (hm : h.Mirrored) (id : SessionId) {m : Message}
    (hquiet : ∀ u, m ≠ .signal u) : (h.handle id m).Mirrored := by
  refine hm.frame ?_ length_withSession ?_
  · cases hs : h.sessions[id]? with
    | none => rw [Host.handle, withSession_of_none hs]
    | some s => rw [Host.handle, withSession_of_some hs]; exact Session.sources_handle ..
  · intro j s' hs'
    rw [Host.handle, getElem?_withSession] at hs'
    split at hs'
    · obtain ⟨s, hs, rfl⟩ := Option.map_eq_some_iff.mp hs'
      exact ⟨s, hs, Session.same_handle .., fun _ => Session.foreseen_handle id hquiet s _⟩
    · exact ⟨s', hs', Session.Same.refl s', fun _ => rfl⟩

/-- **Every move keeps mirrors**, if no session is handed news of a signal past its queue. -/
theorem Mirrored.move (hm : h.Mirrored) {e : Move} (he : ∀ id u, e ≠ .hand id (.signal u)) :
    (h.move e).Mirrored := by
  cases e with
  | happen e => exact hm.step e
  | failAll status order perm =>
      exact (hm.platform (p := { h.platform with
        transport := h.platform.transport.failAll.2 }) rfl).answer _ _
  | hand id m => exact hm.hand id fun u hu => he id u (by rw [hu])
  | exchange f signals => exact hm.platform (signals h.platform)

theorem Mirrored.travel (hm : h.Mirrored) {es : List Move}
    (hes : ∀ e ∈ es, ∀ id u, e ≠ .hand id (.signal u)) : (h.travel es).Mirrored := by
  induction es generalizing h with
  | nil => exact hm
  | cons e es ih =>
      exact ih (hm.move (hes e List.mem_cons_self)) fun e' he' =>
        hes e' (List.mem_cons_of_mem _ he')

/-- **Mirrors.**  Take any row of moves in which news of signals are handled out of queues only, and
an open session.  The updates of a signal that wait for the session, stored in order into what the
session remembers of the signal, give what the signal shows, for every signal that the session
observes.  If no news of signals wait, the session remembers them as they are. -/
theorem mirror_of_queue (slot : String) (interface : Interface) {es : List Move}
    (hes : ∀ e ∈ es, ∀ id u, e ≠ .hand id (.signal u)) {j : SessionId} {s : Session}
    (hs : ((new slot interface).travel es).sessions[j]? = some s) (hopen : s.closed = false) :
    (∀ k ∈ s.tracker.profile.signals,
      (s.updates k).foldl Reading.apply (s.tracker.snapshot.get k) =
        (((new slot interface).travel es).platform.sources.get k).reading) ∧
    ((∀ m ∈ s.queue, ∀ u, m ≠ .signal u) → ∀ k ∈ s.tracker.profile.signals,
      s.tracker.snapshot.get k =
        (((new slot interface).travel es).platform.sources.get k).reading) := by
  have hmirror : ∀ k ∈ s.tracker.profile.signals,
      (s.updates k).foldl Reading.apply (s.tracker.snapshot.get k) =
        (((new slot interface).travel es).platform.sources.get k).reading := by
    intro k hk
    rw [← Session.get_foreseen, ← Sources.get_snapshot]
    exact ((mirrored_new slot interface).travel hes).mirror j s hs hopen k hk
  refine ⟨hmirror, fun hquiet k hk => ?_⟩
  have hnone : s.updates k = [] := by
    rw [Session.updates, List.filterMap_eq_nil_iff]
    intro m hm
    cases m with
    | signal u => exact absurd rfl (hquiet _ hm u)
    | completed | screenChanged | watchFailed => rfl
  have h := hmirror k hk
  rwa [hnone] at h

/-- Two sessions observe the display, which comes on after the first of them has caught up: it
remembers the display as it is, the second still has to hear of it. -/
theorem mirror_of_queue_lagging :
    let es : List Move :=
      [.happen (.start ⟨.deviceState, {}, none⟩),
       .happen (.start ⟨.indicationFilter, {}, none⟩),
       .happen (.signal ⟨.display, .state .on⟩),
       .hand 1 .screenChanged,
       .happen (.processOne 0)]
    let h := (new "slot1" .v15).travel es
    ∃ s t, h.sessions[0]? = some s ∧ h.sessions[1]? = some t ∧
      s.tracker.snapshot.get .display = (h.platform.sources.get .display).reading ∧
      t.tracker.snapshot.get .display ≠ (h.platform.sources.get .display).reading ∧
      (t.updates .display).foldl Reading.apply (t.tracker.snapshot.get .display) =
        (h.platform.sources.get .display).reading := by
  intro es h
  have hes : ∀ e ∈ es, ∀ id u, e ≠ .hand id (.signal u) := by
    intro e he id u
    simp only [es, List.mem_cons, List.not_mem_nil, or_false] at he
    rcases he with rfl | rfl | rfl | rfl | rfl <;> simp
  obtain ⟨s, hs, hsopen, hsquiet, hsk⟩ : ∃ s, h.sessions[0]? = some s ∧ s.closed = false ∧
      s.queue = [] ∧ SignalKind.display ∈ s.tracker.profile.signals :=
    ⟨_, rfl, rfl, rfl, by decide⟩
  obtain ⟨t, ht, htopen, hbehind, htk⟩ : ∃ t, h.sessions[1]? = some t ∧ t.closed = false ∧
      t.tracker.snapshot.get .display ≠ (h.platform.sources.get .display).reading ∧
      SignalKind.display ∈ t.tracker.profile.signals :=
    ⟨_, rfl, rfl, by decide, by decide⟩
  have hfirst := (mirror_of_queue "slot1" .v15 hes hs hsopen).2 (by simp [hsquiet]) .display hsk
  have hsecond := (mirror_of_queue "slot1" .v15 hes ht htopen).1 .display htk
  exact ⟨s, t, hs, ht, hfirst, hbehind, hsecond⟩

end Host

end ModemWatch
