import ModemWatch.Proofs.Faithful

/-!
# What sessions ask of the modem slot

Sessions that follow the signals alone push an interval with every pass, the one that the signals as
they remember them ask for.  So each session's request at the slot is always the one that follows
from its memory, and the slot holds no other requests.  The slot applies the shortest.

* `Host.Asked` — the invariant, kept by mail, by handling a message and by a start;
* `Host.Asked.applied` — where all sessions ask for the same interval, it applies.
-/

namespace ModemWatch

/-- The interval that a session's memory asks for. -/
def Session.interval (s : Session) : Millis :=
  s.tracker.snapshot.cellInfoInterval s.tracker.intervals

namespace Host

/-- The slot holds one request for each session, which is what the session's memory asks for, and no
others; the shortest applies. -/
structure Asked (h : Host) : Prop where
  asked : ∀ (j : SessionId) (s : Session), h.sessions[j]? = some s →
    (j, s.interval) ∈ h.platform.slot.intervals.requests
  asking : ∀ x ∈ h.platform.slot.intervals.requests,
    ∃ s : Session, h.sessions[x.1]? = some s ∧ x.2 = s.interval
  shortest : h.platform.slot.intervals.applied =
    IntervalTable.shortest h.platform.slot.intervals.requests

variable {h h' : Host} {intervals : Intervals} {i : Interface}

theorem Asked.mailed {letters : SessionId → List Message} (ha : h.Asked)
    (hm : h.Mailed h' letters) : h'.Asked := by
  have hinterval : ∀ (j : SessionId) (s : Session),
      (s.receiveAll (letters j)).interval = s.interval := by
    intro j s
    rw [Session.interval, Session.tracker_receiveAll]
    rfl
  constructor
  · intro j s' hs'
    obtain ⟨s, hget, rfl⟩ := hm.exists_of_some hs'
    rw [hm.intervals, hinterval]
    exact ha.asked j s hget
  · intro x hx
    rw [hm.intervals] at hx
    obtain ⟨s, hget, hms⟩ := ha.asking x hx
    exact ⟨_, hm.some_of_some hget, hms.trans (hinterval x.1 s).symm⟩
  · rw [hm.intervals]
    exact ha.shortest

/-- One session asks for another interval, and all others go on asking for theirs. -/
theorem Asked.push {p : Platform} {sessions : List Session} {s : Session} (ha : h.Asked)
    (id : SessionId) (hp : p.slot.intervals = (h.platform.slot.intervals.set id s.interval).1)
    (hnew : sessions[id]? = some s)
    (hold : ∀ j : SessionId, j ≠ id → sessions[j]? = h.sessions[j]?) :
    (⟨p, sessions⟩ : Host).Asked := by
  have hrequests : p.slot.intervals.requests =
      h.platform.slot.intervals.requests.filter (fun r => r.1 != id) ++ [(id, s.interval)] := by
    rw [hp]
    rfl
  constructor
  · intro j s' hs'
    simp only at hs'
    rw [hrequests]
    by_cases hj : j = id
    · subst hj
      obtain rfl : s = s' := Option.some.inj (hnew.symm.trans hs')
      exact List.mem_append_right _ (List.mem_singleton_self _)
    · rw [hold j hj] at hs'
      refine List.mem_append_left _ (List.mem_filter.mpr ⟨ha.asked j s' hs', ?_⟩)
      simpa using hj
  · intro x hx
    rw [hrequests] at hx
    rcases List.mem_append.mp hx with hx | hx
    · obtain ⟨hx, hne⟩ := List.mem_filter.mp hx
      obtain ⟨s', hs', hms⟩ := ha.asking x hx
      exact ⟨s', (hold x.1 (by simpa using hne)).trans hs', hms⟩
    · obtain rfl := List.mem_singleton.mp hx
      exact ⟨s, hnew, rfl⟩
  · rw [hp]
    rfl

theorem Asked.processOne (ha : h.Asked) (hs : h.Steady intervals i) (id : SessionId) :
    (h.processOne id).Asked := by
  rcases processOne_cases h id with heq | ⟨s, m, rest, hget, hq, heq⟩
  · rw [heq]
    exact ha
  have hold := hs.sessions id s hget
  have hlt : id < h.sessions.length := (List.getElem?_eq_some_iff.mp hget).1
  rw [heq, Session.handle_of_open id _ hold.opened, Tracker.handle_of_unpolled hold.unpolled]
  cases m with
  | signal u =>
      refine ha.push id ?_ (List.getElem?_set_self hlt) ?_
      · simp only [Tracker.observe, Tracker.evaluate, Action.pushes_attempts]
        rfl
      · intro j hj
        exact List.getElem?_set_ne (Ne.symm hj)
  | completed | screenChanged | watchFailed =>
      -- nothing is pushed, and the memory stays what it was
      constructor
      · intro j s' hs'
        rcases getElem?_set_cases hs' with ⟨rfl, rfl⟩ | ⟨-, hs'⟩
        · exact ha.asked j s hget
        · exact ha.asked j s' hs'
      · intro x hx
        obtain ⟨s', hs', hms⟩ := ha.asking x hx
        by_cases hx : id = x.1
        · subst hx
          obtain rfl : s = s' := Option.some.inj (hget.symm.trans hs')
          exact ⟨_, List.getElem?_set_self hlt, hms⟩
        · exact ⟨s', (List.getElem?_set_ne hx).trans hs', hms⟩
      · exact ha.shortest

theorem Asked.start {m : Monitor} (ha : h.Asked) (hm : m.watchPath = none) :
    (h.start m).Asked := by
  rw [start_of_unpolled hm, Session.perform_eq]
  refine ha.push h.sessions.length ?_ List.getElem?_concat_length ?_
  · simp only [Tracker.start, Tracker.evaluate, Action.pushes_attempts]
    rfl
  · intro j hj
    by_cases hlt : j < h.sessions.length
    · exact List.getElem?_append_left hlt
    · have hgt : h.sessions.length < j := Nat.lt_of_le_of_ne (Nat.le_of_not_lt hlt) (Ne.symm hj)
      rw [List.getElem?_eq_none (Nat.le_of_lt hgt), List.getElem?_eq_none]
      simpa using Nat.succ_le_of_lt hgt

/-- **What all sessions ask for applies.** -/
theorem Asked.applied (ha : h.Asked) {ms : Millis} (hsome : h.sessions ≠ [])
    (hall : ∀ s ∈ h.sessions, s.interval = ms) :
    h.platform.slot.intervals.applied = some ms := by
  have hrequests : ∀ x ∈ h.platform.slot.intervals.requests, x.2 = ms := by
    intro x hx
    obtain ⟨s, hs, hms⟩ := ha.asking x hx
    rw [hms]
    exact hall s (List.mem_of_getElem? hs)
  obtain ⟨s, rest, hcons⟩ := List.exists_cons_of_ne_nil hsome
  have hmem := ha.asked 0 s (by rw [hcons]; rfl)
  rw [ha.shortest, IntervalTable.shortest, List.min?_eq_some_iff]
  refine ⟨?_, ?_⟩
  · exact List.mem_map.mpr ⟨_, hmem, hrequests _ hmem⟩
  · intro b hb
    obtain ⟨x, hx, rfl⟩ := List.mem_map.mp hb
    rw [hrequests x hx]
    exact UInt32.le_refl ms

end Host

end ModemWatch
