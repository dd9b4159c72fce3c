import ModemWatch.Proofs.Handlers

/-!
# Mirrors

A session remembers the signals as it last heard of them and hears of a change when it handles the
message about it.  What it will remember once it has handled its whole queue is what the signals
show now: no change is lost, none comes twice, and none comes too late to be overtaken.

The invariant carries the registered handlers along.  A change reaches a session once because the
session holds two handlers on each signal that it observes, one for either field.

* `Session.foreseen` — what a session will remember;
* `Host.Mirrored` — the invariant, and `Host.Mirrored.step` — that every happening keeps it.
-/

namespace ModemWatch

namespace Session

/-- What the session will remember of the signals once it has handled its queue. -/
def foreseen (s : Session) : Snapshot := s.queue.foldl Snapshot.hear s.tracker.snapshot

theorem foreseen_receiveAll {s : Session} (h : s.closed = false) (ms : List Message) :
    (s.receiveAll ms).foreseen = ms.foldl Snapshot.hear s.foreseen := by
  rw [foreseen, queue_receiveAll h, tracker_receiveAll, List.foldl_append]
  rfl

/-- Handling a message brings nothing that was not foreseen. -/
theorem foreseen_processOne (id : SessionId) {s : Session} (h : s.closed = false) (p : Platform) :
    (s.processOne id p).1.foreseen = s.foreseen := by
  unfold processOne
  split
  · rfl
  · next m rest hq =>
      rw [handle_queue, handle_of_open id p h]
      simp only [foreseen, hq, List.foldl_cons, Tracker.snapshot_handle]

end Session

namespace Host

/-- **Mirrors.**  The numbers on the signals are in order; every handler belongs to a session, and
every session holds the handlers that it knows of, two for each signal that it observes; and what an
open session will remember of a signal that it observes is what the signal shows. -/
structure Mirrored (h : Host) : Prop where
  tidy : h.platform.sources.Tidy
  owned : ∀ k, ∀ x ∈ (h.platform.sources.get k).registry.handlers, x.owner < h.sessions.length
  held : ∀ (j : SessionId) (s : Session), h.sessions[j]? = some s →
    h.platform.sources.Holds j s.subscriptions s.observed
  mirror : ∀ (j : SessionId) (s : Session), h.sessions[j]? = some s → s.closed = false →
    ∀ k ∈ s.tracker.profile.signals, s.foreseen.get k = h.platform.sources.snapshot.get k

theorem Mirrored.subscribed {h : Host} (hm : h.Mirrored) : h.Subscribed :=
  ⟨hm.tidy, hm.owned, hm.held⟩

theorem mirrored_new (slot : String) (interface : Interface) : (new slot interface).Mirrored where
  tidy := Sources.tidy_new
  owned := (subscribed_new slot interface).owned
  held := (subscribed_new slot interface).held
  mirror j s hs := by simp [new] at hs

variable {h h' : Host}

/-- What neither touches the signals nor changes what sessions hold and foresee keeps mirrors. -/
theorem Mirrored.frame (hm : h.Mirrored) (hsources : h'.platform.sources = h.platform.sources)
    (hlength : h'.sessions.length = h.sessions.length)
    (hsessions : ∀ (j : SessionId) (s' : Session), h'.sessions[j]? = some s' →
      ∃ s : Session, h.sessions[j]? = some s ∧ s.Same s' ∧
        (s.closed = false → s'.foreseen = s.foreseen)) : h'.Mirrored := by
  have hsub : h'.Subscribed := by
    refine hm.subscribed.frame (by rw [hsources]; exact hm.tidy) (fun k o => by rw [hsources])
      hlength fun j s' hs' => ?_
    obtain ⟨s, hs, hsame, -⟩ := hsessions j s' hs'
    exact ⟨s, hs, hsame⟩
  refine ⟨hsub.tidy, hsub.owned, hsub.held, ?_⟩
  intro j s' hs' hopen k hk
  obtain ⟨s, hs, hsame, hforeseen⟩ := hsessions j s' hs'
  rw [hsame.closed] at hopen
  rw [Tracker.profile, hsame.variant] at hk
  rw [hsources, hforeseen hopen]
  exact hm.mirror j s hs hopen k hk

/-- A change of the platform alone. -/
theorem Mirrored.platform (hm : h.Mirrored) {p : Platform}
    (hp : p.sources = h.platform.sources) : ({ h with platform := p } : Host).Mirrored :=
  hm.frame hp rfl fun _ s' hs' => ⟨s', hs', Session.Same.refl s', fun _ => rfl⟩

/-- Mail without news of signals. -/
theorem Mirrored.mail (hm : h.Mirrored) {letters : List (SessionId × Message)}
    (hquiet : ∀ l ∈ letters, ∀ s : Snapshot, s.hear l.2 = s) : (h.deliver letters).Mirrored := by
  refine hm.frame (by rw [platform_deliver]) (length_deliver ..) ?_
  intro j s' hs'
  rw [getElem?_deliver] at hs'
  obtain ⟨s, hs, rfl⟩ := Option.map_eq_some_iff.mp hs'
  refine ⟨s, hs, Session.same_receiveAll _ s, fun hopen => ?_⟩
  rw [Session.foreseen_receiveAll hopen]
  have hall : ∀ m ∈ lettersTo j letters, ∀ s : Snapshot, s.hear m = s := by
    intro m hm
    obtain ⟨l, hl, rfl⟩ := List.mem_map.mp hm
    exact hquiet l (List.mem_filter.mp hl).1
  generalize lettersTo j letters = ms at hall
  generalize s.foreseen = snapshot
  induction ms with
  | nil => rfl
  | cons m ms ih =>
      rw [List.foldl_cons, hall m List.mem_cons_self]
      exact ih fun m' hm' => hall m' (List.mem_cons_of_mem _ hm')

theorem Mirrored.answer (hm : h.Mirrored) (a : Completion) (ks : List Callback) :
    (h.answer a ks).Mirrored := by
  rw [answer_eq_deliver]
  refine hm.mail fun l hl s => ?_
  obtain ⟨k, -, rfl⟩ := List.mem_map.mp hl
  rfl

theorem Mirrored.emit (hm : h.Mirrored) (event : WatchEvent) : (h.emit event).Mirrored := by
  rw [Host.emit, postTo_eq_deliver]
  refine hm.mail fun l hl s => ?_
  obtain ⟨id, -, rfl⟩ := List.mem_map.mp hl
  cases event <;> rfl

/-- **A change is foreseen as soon as it is made.** -/
theorem Mirrored.signal (hm : h.Mirrored) (u : SignalUpdate) : (h.signal u).Mirrored := by
  have hp := platform_signal h u
  have hsub := hm.subscribed.signal u
  refine ⟨hsub.tidy, hsub.owned, hsub.held, ?_⟩
  intro j s' hs' hopen k hk
  rw [sessions_signal] at hs'
  obtain ⟨s, hs, rfl⟩ := Option.map_eq_some_iff.mp hs'
  rw [Session.closed_receiveAll] at hopen
  rw [Session.tracker_receiveAll] at hk
  have hobserved : s.observed = s.tracker.profile.signals := by
    simp [Session.observed, hopen]
  have hcount := Sources.count_write (hm.held j s hs) u
  have hold := hm.mirror j s hs hopen
  rw [hp, Sources.snapshot_write, Session.foreseen_receiveAll hopen, hcount, hobserved]
  by_cases hku : k = u.kind
  · subst hku
    rw [Snapshot.get_apply_self, ← Sources.get_snapshot]
    by_cases hchange : (h.platform.sources.snapshot.get u.kind).apply u.update =
        h.platform.sources.snapshot.get u.kind
    · -- nobody hears of a write that changes nothing
      rw [if_neg (fun hc => hc.1 hchange), hchange]
      exact hold u.kind hk
    · rw [if_pos ⟨hchange, hk⟩]
      simp only [List.replicate_one, List.foldl_cons, List.foldl_nil, Snapshot.hear,
        Snapshot.get_apply_self]
      rw [hold u.kind hk]
  · rw [Snapshot.get_apply_ne _ hku]
    split
    · simp only [List.replicate_one, List.foldl_cons, List.foldl_nil, Snapshot.hear,
        Snapshot.get_apply_ne _ hku]
      exact hold k hk
    · exact hold k hk

theorem Mirrored.processOne (hm : h.Mirrored) (id : SessionId) : (h.processOne id).Mirrored := by
  cases hs : h.sessions[id]? with
  | none => rw [Host.processOne, withSession_of_none hs]; exact hm
  | some s =>
      refine hm.frame ?_ length_withSession ?_
      · rw [Host.processOne, withSession_of_some hs]
        exact Session.sources_processOne ..
      · intro j s' hs'
        rw [Host.processOne, getElem?_withSession] at hs'
        split at hs'
        · obtain ⟨s₀, hs₀, rfl⟩ := Option.map_eq_some_iff.mp hs'
          exact ⟨s₀, hs₀, Session.same_processOne .., fun hopen =>
            Session.foreseen_processOne id hopen _⟩
        · exact ⟨s', hs', Session.Same.refl s', fun _ => rfl⟩

/-- **A session that starts misses nothing.** -/
theorem Mirrored.append (hm : h.Mirrored) {m : Monitor} {s₀ : Session} {p : Platform}
    (hnew : Session.Started h.sessions.length m h.platform s₀ p) :
    (⟨p, h.sessions ++ [s₀]⟩ : Host).Mirrored := by
  have hsub := hm.subscribed.append hnew
  refine ⟨hsub.tidy, hsub.owned, hsub.held, ?_⟩
  intro j s hs hopen k hk
  simp only [hnew.sources, Sources.snapshot_subscribeAll]
  rcases getElem?_concat_cases hs with ⟨-, hs⟩ | ⟨rfl, rfl⟩
  · exact hm.mirror j s hs hopen k hk
  · rw [Session.foreseen, hnew.queue, List.foldl_nil, hnew.snapshot]

theorem Mirrored.start (hm : h.Mirrored) (m : Monitor) : (h.start m).Mirrored :=
  hm.append (Session.started h.sessions.length m h.platform)

/-- **A session that ends takes nothing from the others.** -/
theorem Mirrored.shutdown (hm : h.Mirrored) (id : SessionId) : (h.shutdown id).Mirrored := by
  cases hs : h.sessions[id]? with
  | none => rw [Host.shutdown, withSession_of_none hs]; exact hm
  | some s =>
      cases hopen : s.closed with
      | true => rw [shutdown_of_closed hs hopen]; exact hm
      | false =>
          have hsub := hm.subscribed.shutdown id
          refine ⟨hsub.tidy, hsub.owned, hsub.held, ?_⟩
          rw [Host.shutdown, withSession_of_some hs, Session.shutdown_of_open id _ hopen]
          have hlt : id < h.sessions.length := (List.getElem?_eq_some_iff.mp hs).1
          intro j s' hs' hopen' k hk
          by_cases hj : id = j
          · subst hj
            rw [List.getElem?_set_self hlt] at hs'
            obtain rfl := Option.some.inj hs'
            cases hopen'
          · rw [List.getElem?_set_ne hj] at hs'
            simp only [Sources.snapshot_unsubscribeAll]
            exact hm.mirror j s' hs' hopen' k hk

/-- **Every happening keeps mirrors.** -/
theorem Mirrored.step (hm : h.Mirrored) (e : Happening) : (h.step e).Mirrored := by
  cases e with
  | signal u => exact hm.signal u
  | respond serial a =>
      exact (hm.platform (p := { h.platform with
        transport := h.platform.transport.forget serial }) rfl).answer a _
  | failAll status =>
      exact (hm.platform (p := { h.platform with
        transport := h.platform.transport.failAll.2 }) rfl).answer _ _
  | emit event => exact hm.emit event
  | start m => exact hm.start m
  | processOne id => exact hm.processOne id
  | shutdown id => exact hm.shutdown id
  | closeOutgoing | failNextWatch | writeScreen | setPower | takeOutgoing | collectSlot =>
      exact hm.platform rfl

theorem Mirrored.run (hm : h.Mirrored) (es : List Happening) : (h.run es).Mirrored :=
  run_induction (P := Mirrored) (fun e _ _ hm => hm.step e) hm

end Host

end ModemWatch
