import ModemWatch.Proofs.Mail
import ModemWatch.Proofs.Performing

/-!
# Whose handlers stand on a host

A session registers its handlers when it starts and gives them back when it ends; whatever it handles
in between changes neither the handlers that it knows of nor the signals that it observes.  Through
everything that happens on a host each session therefore holds exactly the handlers that it knows of,
and every handler belongs to a session.

* `Session.Same` — what a session keeps whatever it handles; `Session.Started` — what it has at first;
* `Host.Subscribed` — who holds which handlers, with one lemma for each way in which a host changes.
-/

namespace ModemWatch

namespace Session

/-- The signals on which the session holds handlers. -/
def observed (s : Session) : List SignalKind :=
  if s.closed then [] else s.tracker.profile.signals

/-- What stays the same of a session whatever it handles. -/
structure Same (s s' : Session) : Prop where
  subscriptions : s'.subscriptions = s.subscriptions
  closed : s'.closed = s.closed
  variant : s'.tracker.variant = s.tracker.variant
  intervals : s'.tracker.intervals = s.tracker.intervals

theorem Same.refl (s : Session) : s.Same s := ⟨rfl, rfl, rfl, rfl⟩

theorem Same.trans {s s' s'' : Session} (h : s.Same s') (h' : s'.Same s'') : s.Same s'' :=
  ⟨h'.subscriptions.trans h.subscriptions, h'.closed.trans h.closed, h'.variant.trans h.variant,
    h'.intervals.trans h.intervals⟩

theorem Same.observed {s s' : Session} (h : s.Same s') : s'.observed = s.observed := by
  simp only [Session.observed, Tracker.profile, h.closed, h.variant]

theorem same_receiveAll (ms : List Message) (s : Session) : s.Same (s.receiveAll ms) := by
  constructor <;> simp

theorem same_handle (id : SessionId) (m : Message) (s : Session) (p : Platform) :
    s.Same (s.handle id m p).1 := by
  cases h : s.closed with
  | true => rw [handle_closed h]; exact Same.refl s
  | false =>
      rw [handle_of_open id p h]
      have hrec := Tracker.recorded_handle p.sample m s.tracker
      exact ⟨rfl, rfl, hrec.variant, hrec.intervals⟩

theorem profile_handle (id : SessionId) (m : Message) (s : Session) (p : Platform) :
    (s.handle id m p).1.tracker.profile = s.tracker.profile :=
  congrArg Variant.profile (same_handle id m s p).variant

theorem same_processOne (id : SessionId) (s : Session) (p : Platform) :
    s.Same (s.processOne id p).1 := by
  unfold processOne
  split
  · exact Same.refl s
  · next m rest hq =>
      refine Same.trans ?_ (same_handle id m { s with queue := rest } p)
      exact ⟨rfl, rfl, rfl, rfl⟩

theorem sources_handle (id : SessionId) (m : Message) (s : Session) (p : Platform) :
    (s.handle id m p).2.sources = p.sources := by
  cases h : s.closed with
  | true => rw [handle_closed h]
  | false => rw [handle_of_open id p h]

theorem sources_processOne (id : SessionId) (s : Session) (p : Platform) :
    (s.processOne id p).2.sources = p.sources := by
  unfold processOne
  split
  · rfl
  · exact sources_handle ..

/-- Setting up a poll bridge leaves everything else as it is. -/
theorem same_startPolling (id : SessionId) (path : String) (s : Session) (p : Platform) :
    s.Same (s.startPolling id path p).1 ∧ (s.startPolling id path p).1.queue = s.queue ∧
      (s.startPolling id path p).1.tracker.snapshot = s.tracker.snapshot ∧
      (s.startPolling id path p).2.sources = p.sources := by
  cases hw : (p.notifier.watch path id).1 with
  | error failure =>
      rw [startPolling_of_error id p hw]
      exact ⟨Same.refl s, rfl, rfl, rfl⟩
  | ok watch =>
      rw [startPolling_of_ok id p hw, perform_eq]
      have hrec := Tracker.recorded_poll p.sample (s.tracker.bridged watch)
      have hsnap := Tracker.snapshot_handle p.sample .screenChanged (s.tracker.bridged watch)
      exact ⟨⟨rfl, rfl, hrec.variant, hrec.intervals⟩, rfl, hsnap, rfl⟩

/-- A session right after its start. -/
structure Started (id : SessionId) (m : Monitor) (p : Platform) (s : Session) (p' : Platform) :
    Prop where
  subscriptions : s.subscriptions = (p.sources.subscribeAll id m.variant.profile.signals).1
  closed : s.closed = false
  queue : s.queue = []
  variant : s.tracker.variant = m.variant
  intervals : s.tracker.intervals = m.intervals
  snapshot : s.tracker.snapshot = p.sources.snapshot
  sources : p'.sources = (p.sources.subscribeAll id m.variant.profile.signals).2

theorem started (id : SessionId) (m : Monitor) (p : Platform) :
    Started id m p (Session.start id m.variant m.intervals m.watchPath p).1
      (Session.start id m.variant m.intervals m.watchPath p).2 := by
  have hnone : Started id m p (Session.start id m.variant m.intervals none p).1
      (Session.start id m.variant m.intervals none p).2 := by
    rw [start_none, perform_eq]
    exact ⟨rfl, rfl, rfl, rfl, rfl, rfl, rfl⟩
  cases m.watchPath with
  | none => exact hnone
  | some path =>
      rw [start_some]
      obtain ⟨hsame, hqueue, hsnap, hsources⟩ := same_startPolling id path
        (Session.start id m.variant m.intervals none p).1
        (Session.start id m.variant m.intervals none p).2
      exact ⟨hsame.subscriptions.trans hnone.subscriptions, hsame.closed.trans hnone.closed,
        hqueue.trans hnone.queue, hsame.variant.trans hnone.variant,
        hsame.intervals.trans hnone.intervals, hsnap.trans hnone.snapshot,
        hsources.trans hnone.sources⟩

end Session

/-- A profile names each of its signals once. -/
theorem Profile.signals_nodup (v : Variant) : v.profile.signals.Nodup := by
  cases v <;> decide

/-- Of a list with one element replaced an entry is the new one or another of the old list. -/
theorem getElem?_set_cases {α : Type} {l : List α} {n j : Nat} {x y : α}
    (h : (l.set n x)[j]? = some y) : (j = n ∧ y = x) ∨ (j ≠ n ∧ l[j]? = some y) := by
  by_cases hj : n = j
  · subst hj
    obtain ⟨hlt, hget⟩ := List.getElem?_eq_some_iff.mp h
    rw [List.getElem_set_self] at hget
    exact .inl ⟨rfl, hget.symm⟩
  · rw [List.getElem?_set_ne hj] at h
    exact .inr ⟨Ne.symm hj, h⟩

/-- Of a list with one more element an entry is one of the old list or the new one. -/
theorem getElem?_concat_cases {α : Type} {l : List α} {x y : α} {j : Nat}
    (h : (l ++ [x])[j]? = some y) : (j ≠ l.length ∧ l[j]? = some y) ∨ (j = l.length ∧ y = x) := by
  rcases Nat.lt_trichotomy j l.length with hj | hj | hj
  · rw [List.getElem?_append_left hj] at h
    exact .inl ⟨Nat.ne_of_lt hj, h⟩
  · rw [hj, List.getElem?_concat_length] at h
    exact .inr ⟨hj, (Option.some.inj h).symm⟩
  · rw [List.getElem?_eq_none (by simpa using Nat.succ_le_of_lt hj)] at h
    cases h

namespace Host

/-- **Who holds which handlers.**  The numbers on the signals are in order; every handler belongs to a
session; and every session holds the handlers that it knows of, two for each signal that it
observes. -/
structure Subscribed (h : Host) : Prop where
  tidy : h.platform.sources.Tidy
  owned : ∀ k, ∀ x ∈ (h.platform.sources.get k).registry.handlers, x.owner < h.sessions.length
  held : ∀ (j : SessionId) (s : Session), h.sessions[j]? = some s →
    h.platform.sources.Holds j s.subscriptions s.observed

theorem subscribed_new (slot : String) (interface : Interface) :
    (new slot interface).Subscribed where
  tidy := Sources.tidy_new
  owned k x hx := by cases k <;> exact absurd hx List.not_mem_nil
  held j s hs := by simp [new] at hs

variable {h h' : Host}

/-- What leaves the handlers alone, and what sessions know of them, changes nobody's share. -/
theorem Subscribed.frame (hm : h.Subscribed) (htidy : h'.platform.sources.Tidy)
    (hheld : ∀ k o, h'.platform.sources.heldBy k o = h.platform.sources.heldBy k o)
    (hlength : h'.sessions.length = h.sessions.length)
    (hsessions : ∀ (j : SessionId) (s' : Session), h'.sessions[j]? = some s' →
      ∃ s : Session, h.sessions[j]? = some s ∧ s.Same s') : h'.Subscribed where
  tidy := htidy
  owned k x hx := by
    have hx' : x ∈ h.platform.sources.heldBy k x.owner := by
      rw [← hheld]
      exact List.mem_filter.mpr ⟨hx, beq_self_eq_true _⟩
    rw [hlength]
    exact hm.owned k x (List.mem_filter.mp hx').1
  held j s' hs' := by
    obtain ⟨s, hs, hsame⟩ := hsessions j s' hs'
    have hold := hm.held j s hs
    rw [hsame.subscriptions, hsame.observed]
    exact ⟨fun k => by rw [hheld]; exact hold.ids k, fun k => by rw [hheld]; exact hold.events k⟩

/-- A change does not move the handlers. -/
theorem Subscribed.signal (hm : h.Subscribed) (u : SignalUpdate) : (h.signal u).Subscribed := by
  have hp := platform_signal h u
  refine hm.frame ?_ ?_ ?_ ?_
  · rw [hp]
    exact hm.tidy.write u
  · intro k o
    rw [hp]
    exact Sources.heldBy_write u k o
  · simp only [Host.signal, postTo_eq_deliver, length_deliver]
  · intro j s' hs'
    rw [sessions_signal] at hs'
    obtain ⟨s, hs, rfl⟩ := Option.map_eq_some_iff.mp hs'
    exact ⟨s, hs, Session.same_receiveAll _ s⟩

/-- **A session that starts holds what it subscribed to.** -/
theorem Subscribed.append (hm : h.Subscribed) {m : Monitor} {s₀ : Session} {p : Platform}
    (hnew : Session.Started h.sessions.length m h.platform s₀ p) :
    (⟨p, h.sessions ++ [s₀]⟩ : Host).Subscribed := by
  have hnone : ∀ k, h.platform.sources.heldBy k h.sessions.length = [] := by
    intro k
    rw [Sources.heldBy, List.filter_eq_nil_iff]
    intro x hx howner
    exact Nat.lt_irrefl _ (beq_iff_eq.mp howner ▸ hm.owned k x hx)
  constructor
  · simp only [hnew.sources]
    exact hm.tidy.subscribeAll _ _
  · intro k x hx
    simp only [hnew.sources] at hx
    rw [List.length_append, List.length_singleton]
    by_cases howner : x.owner = h.sessions.length
    · rw [howner]
      exact Nat.lt_succ_self _
    · have hheld := Sources.heldBy_subscribeAll_ne (s := h.platform.sources) howner
        m.variant.profile.signals k
      have hx' : x ∈ h.platform.sources.heldBy k x.owner := by
        rw [← hheld]
        exact List.mem_filter.mpr ⟨hx, beq_self_eq_true _⟩
      exact Nat.lt_succ_of_lt (hm.owned k x (List.mem_filter.mp hx').1)
  · intro j s hs
    simp only [hnew.sources]
    rcases getElem?_concat_cases hs with ⟨hj, hs⟩ | ⟨rfl, rfl⟩
    · have hold := hm.held j s hs
      exact ⟨fun k => by rw [Sources.heldBy_subscribeAll_ne hj]; exact hold.ids k,
        fun k => by rw [Sources.heldBy_subscribeAll_ne hj]; exact hold.events k⟩
    · have hobserved : s.observed = m.variant.profile.signals := by
        simp [Session.observed, hnew.closed, Tracker.profile, hnew.variant]
      rw [hnew.subscriptions, hobserved]
      exact Sources.holds_subscribeAll hnone (Profile.signals_nodup m.variant)

theorem Subscribed.start (hm : h.Subscribed) (m : Monitor) : (h.start m).Subscribed :=
  hm.append (Session.started h.sessions.length m h.platform)

/-- Ending a session again changes nothing. -/
theorem shutdown_of_closed {id : SessionId} {s : Session} (hs : h.sessions[id]? = some s)
    (hclosed : s.closed = true) : h.shutdown id = h := by
  rw [Host.shutdown, withSession_of_some hs, Session.shutdown, if_pos hclosed, put_back hs]

/-- **A session that ends gives back its own handlers.** -/
theorem Subscribed.shutdown (hm : h.Subscribed) (id : SessionId) :
    (h.shutdown id).Subscribed := by
  cases hs : h.sessions[id]? with
  | none => rw [Host.shutdown, withSession_of_none hs]; exact hm
  | some s =>
      cases hopen : s.closed with
      | true => rw [shutdown_of_closed hs hopen]; exact hm
      | false =>
          rw [Host.shutdown, withSession_of_some hs, Session.shutdown_of_open id _ hopen]
          have hlt : id < h.sessions.length := (List.getElem?_eq_some_iff.mp hs).1
          have hholds := hm.held id s hs
          constructor
          · exact Sources.tidy_unsubscribeAll hm.tidy s.subscriptions
          · intro k x hx
            simp only [Sources.handlers_unsubscribeAll] at hx
            rw [List.length_set]
            exact hm.owned k x (List.mem_filter.mp hx).1
          · intro j s' hs'
            by_cases hj : id = j
            · subst hj
              rw [List.getElem?_set_self hlt] at hs'
              obtain rfl := Option.some.inj hs'
              exact Sources.holds_unsubscribeAll hm.tidy hholds
            · rw [List.getElem?_set_ne hj] at hs'
              have hold := hm.held j s' hs'
              have hne := Sources.heldBy_unsubscribeAll_ne hm.tidy hholds (Ne.symm hj)
              exact ⟨fun k => by simp only [hne]; exact hold.ids k,
                fun k => by simp only [hne]; exact hold.events k⟩

end Host

end ModemWatch
