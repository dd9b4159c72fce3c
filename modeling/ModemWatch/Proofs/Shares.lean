import ModemWatch.Proofs.Effects
import ModemWatch.Proofs.Passes

/-!
# What sessions have of the platform

Besides its handlers a session may hold two things that it has to give back: a watch, as long as its
poll bridge is alive, and a request for an interval, from its first pass on.  Both have to be the
session's own.  No message makes a session take another watch, and a message that makes it let go of
its watch lets go of that one only (`Tracker.unwatches_handle`); a session asks for intervals and
drops its request under its own name only.

* `Host.Watched` — the open watches are those that sessions hold;
* `Host.Booked` — the requests for intervals are those of the open sessions;
* `Host.calls`, `Host.callsAlong` — the calls that a slot got in a move, and in a row of them.
-/

namespace ModemWatch

/-! ## Watches -/

namespace Tracker

variable {t : Tracker}

/-- The watch that the bridge of a tracker holds. -/
def watch (t : Tracker) : Option WatchId := t.bridge.bind (fun b => b.watch)

theorem isPolling_eq (t : Tracker) : t.isPolling = t.watch.isSome := by
  unfold isPolling watch
  cases t.bridge <;> rfl

/-- A look at the poll sources neither takes nor gives back a watch. -/
theorem watch_poll (sample : PollSample) (t : Tracker) :
    (t.poll sample).1.watch = t.watch ∧ Action.unwatches (t.poll sample).2 = [] := by
  cases hlive : t.isPolling with
  | false => rw [poll_of_dead hlive]; exact ⟨rfl, rfl⟩
  | true =>
      obtain ⟨bridge, hb, halive⟩ := isPolling_iff.mp hlive
      rw [poll_of_live hb halive]
      refine ⟨?_, Action.unwatches_attempts ..⟩
      simp [watch, hb, Bridge.revise]

theorem watch_stopPolling (t : Tracker) :
    t.stopPolling.1.watch = none ∧ Action.unwatches t.stopPolling.2 = t.watch.toList := by
  unfold stopPolling watch
  cases hb : t.bridge with
  | none => simp [hb, Action.unwatches]
  | some bridge =>
      cases hw : bridge.watch with
      | none => simp [hb, hw, Action.unwatches]
      | some w => simp [hw, Action.unwatches, Action.watch?]

/-- **A tracker keeps its watch or lets go of it.** -/
theorem unwatches_handle (sample : PollSample) (m : Message) (t : Tracker) :
    Action.unwatches (t.handle sample m).2 ++ (t.handle sample m).1.watch.toList =
      t.watch.toList := by
  cases m with
  | signal u =>
      have hnone : Action.unwatches (t.handle sample (.signal u)).2 = [] :=
        Action.unwatches_attempts ..
      rw [hnone]
      rfl
  | completed c ticket a => rfl
  | screenChanged =>
      obtain ⟨hwatch, hnone⟩ := watch_poll sample t
      simp only [handle, hwatch, hnone, List.nil_append]
  | watchFailed reason =>
      obtain ⟨hwatch, hgone⟩ := watch_stopPolling t
      simp only [handle, hwatch, hgone, Option.toList_none, List.append_nil]

end Tracker

/-- What is left is what was not closed. -/
theorem Notifier.closeAll_eq {κ : Type} (gone : List WatchId) (n : Notifier κ) :
    n.closeAll gone = { n with watches := n.watches.filter (fun w => !gone.contains w.1) } := by
  unfold closeAll
  induction gone generalizing n with
  | nil => simp
  | cons w gone ih =>
      rw [List.foldl_cons, ih, close]
      simp only [List.filter_filter, List.contains_cons, Bool.not_or, bne, Bool.and_comm]

namespace Session

/-- Of a start the watches notice nothing, or there is one more and the session holds it. -/
theorem notifier_start (id : SessionId) (m : Monitor) (p : Platform) :
    let r := Session.start id m.variant m.intervals m.watchPath p
    (r.1.tracker.watch = none ∧
      r.2.notifier = { p.notifier with failNext := r.2.notifier.failNext }) ∨
    (r.1.tracker.watch = some p.notifier.nextId ∧
      r.2.notifier = { p.notifier with
        nextId := p.notifier.nextId + 1
        watches := p.notifier.watches ++ [(p.notifier.nextId, id)] }) := by
  intro r
  have hquiet : Action.unwatches (Tracker.start m.variant m.intervals p.sources.snapshot).2 = [] :=
    Action.unwatches_attempts ..
  have hwatch : (Session.start id m.variant m.intervals none p).1.tracker.watch = none := by
    rw [start_none, perform_eq]
    rfl
  have hnotifier : (Session.start id m.variant m.intervals none p).2.notifier = p.notifier := by
    rw [start_none, perform_eq]
    simp only [hquiet]
    rfl
  cases hpath : m.watchPath with
  | none =>
      simp only [r, hpath]
      exact .inl ⟨hwatch, by rw [hnotifier]⟩
  | some path =>
      simp only [r, hpath, start_some]
      generalize Session.start id m.variant m.intervals none p = first at hwatch hnotifier
      cases hfail : p.notifier.failNext with
      | some reason =>
          have herror : (first.2.notifier.watch path id) =
              (.error (.watch path reason), { p.notifier with failNext := none }) := by
            rw [hnotifier]
            exact Notifier.watch_of_refused hfail path id
          rw [startPolling_of_error id first.2 (congrArg Prod.fst herror), herror]
          exact .inl ⟨hwatch, rfl⟩
      | none =>
          have hok : (first.2.notifier.watch path id) =
              (.ok p.notifier.nextId, { p.notifier with
                nextId := p.notifier.nextId + 1
                watches := p.notifier.watches ++ [(p.notifier.nextId, id)] }) := by
            rw [hnotifier]
            exact Notifier.watch_of_free hfail path id
          obtain ⟨hkept, hnone⟩ := Tracker.watch_poll first.2.sample
            (first.1.tracker.bridged p.notifier.nextId)
          rw [startPolling_of_ok id first.2 (congrArg Prod.fst hok), perform_eq, hok]
          simp only [hnone]
          exact .inr ⟨hkept, by rw [← hfail]; rfl⟩

end Session

namespace Host

/-- **Who holds which watch.**  The numbers of the open watches are in order; a watch is open for a
session exactly if it is the one that the bridge of the session holds; and a session that has ended
holds none. -/
structure Watched (h : Host) : Prop where
  distinct : (h.platform.notifier.watches.map (fun w => w.1)).Nodup
  given : ∀ w ∈ h.platform.notifier.watches, w.1 < h.platform.notifier.nextId
  held : ∀ (w : WatchId) (j : SessionId), (w, j) ∈ h.platform.notifier.watches ↔
    ∃ s : Session, h.sessions[j]? = some s ∧ s.tracker.watch = some w
  ended : ∀ (j : SessionId) (s : Session), h.sessions[j]? = some s → s.closed = true →
    s.tracker.watch = none

theorem watched_new (slot : String) (interface : Interface) : (new slot interface).Watched where
  distinct := List.nodup_nil
  given _ hw := absurd hw List.not_mem_nil
  held w j := by simp [new]
  ended j s hs := by simp [new] at hs

variable {h h' : Host}

/-- **A session gives back its own watch or none.** -/
theorem Watched.give (hw : h.Watched) {id : SessionId} {s s' : Session}
    (hs : h.sessions[id]? = some s) (gone : List WatchId)
    (hgone : gone ++ s'.tracker.watch.toList = s.tracker.watch.toList)
    (hended : s'.closed = true → s'.tracker.watch = none) {p : Platform}
    (hp : p.notifier = h.platform.notifier.closeAll gone) :
    (⟨p, h.sessions.set id s'⟩ : Host).Watched := by
  have hlt : id < h.sessions.length := (List.getElem?_eq_some_iff.mp hs).1
  have hgiven : ∀ w ∈ gone, (w, id) ∈ h.platform.notifier.watches := by
    intro w hmem
    have hmine : w ∈ s.tracker.watch.toList := by
      rw [← hgone]
      exact List.mem_append_left _ hmem
    exact (hw.held w id).mpr ⟨s, hs, by simpa using hmine⟩
  have hkept : ∀ w, s'.tracker.watch = some w ↔ s.tracker.watch = some w ∧ w ∉ gone := by
    intro w
    cases hwatch : s.tracker.watch with
    | none => simp_all
    | some v => cases hwatch' : s'.tracker.watch <;> simp_all [List.append_eq_singleton_iff]
  constructor
  · rw [hp, Notifier.closeAll_eq]
    exact (List.filter_sublist.map _).nodup hw.distinct
  · rw [hp, Notifier.closeAll_eq]
    exact fun w hmem => hw.given w (List.mem_filter.mp hmem).1
  · intro w j
    rw [hp, Notifier.closeAll_eq, List.mem_filter, hw.held]
    by_cases hj : j = id
    · subst hj
      simp [hs, List.getElem?_set_self hlt, hkept]
    · -- the watch of another session is not among those given back
      have hother : (∃ t : Session, h.sessions[j]? = some t ∧ t.tracker.watch = some w) →
          w ∉ gone := by
        intro ht hmem
        have hsame := List.inj_on_of_nodup_map hw.distinct ((hw.held w j).mpr ht)
          (hgiven w hmem) rfl
        exact hj (congrArg Prod.snd hsame)
      simp only [List.getElem?_set_ne (Ne.symm hj)]
      refine ⟨fun ⟨ht, _⟩ => ht, fun ht => ⟨ht, ?_⟩⟩
      simpa using hother ht
  · intro j t ht hclosed
    rcases getElem?_set_cases ht with ⟨rfl, rfl⟩ | ⟨-, hold⟩
    · exact hended hclosed
    · exact hw.ended j t hold hclosed

/-- **A session that starts holds a new watch or none.** -/
theorem Watched.start (hw : h.Watched) (m : Monitor) : (h.start m).Watched := by
  have hnew := Session.notifier_start h.sessions.length m h.platform
  have hfresh : ∀ w, (w, h.sessions.length) ∉ h.platform.notifier.watches := by
    intro w hmem
    obtain ⟨s, hs, -⟩ := (hw.held w _).mp hmem
    exact Nat.lt_irrefl _ (List.getElem?_eq_some_iff.mp hs).1
  have hopen := (Session.started h.sessions.length m h.platform).closed
  rw [start_eq]
  generalize Session.start h.sessions.length m.variant m.intervals m.watchPath h.platform = r
    at hnew hopen
  -- who held a watch before still holds it
  have hold : ∀ w j, j ≠ h.sessions.length →
      ((∃ s : Session, (h.sessions ++ [r.1])[j]? = some s ∧ s.tracker.watch = some w) ↔
        (w, j) ∈ h.platform.notifier.watches) := by
    intro w j hj
    rw [hw.held]
    constructor
    · rintro ⟨s, hs, hwatch⟩
      rcases getElem?_concat_cases hs with ⟨-, hs⟩ | ⟨hlast, -⟩
      · exact ⟨s, hs, hwatch⟩
      · exact absurd hlast hj
    · rintro ⟨s, hs, hwatch⟩
      have hlt : j < h.sessions.length := (List.getElem?_eq_some_iff.mp hs).1
      exact ⟨s, (List.getElem?_append_left hlt).trans hs, hwatch⟩
  have hlast : ∀ w, (∃ s : Session, (h.sessions ++ [r.1])[h.sessions.length]? = some s ∧
      s.tracker.watch = some w) ↔ r.1.tracker.watch = some w := by
    intro w
    simp
  have hended : ∀ (j : SessionId) (s : Session), (h.sessions ++ [r.1])[j]? = some s →
      s.closed = true → s.tracker.watch = none := by
    intro j s hs hclosed
    rcases getElem?_concat_cases hs with ⟨-, hs⟩ | ⟨-, rfl⟩
    · exact hw.ended j s hs hclosed
    · rw [hopen] at hclosed
      cases hclosed
  rcases hnew with ⟨hwatch, hnotifier⟩ | ⟨hwatch, hnotifier⟩
  · refine ⟨?_, ?_, ?_, hended⟩
    · rw [hnotifier]; exact hw.distinct
    · rw [hnotifier]; exact hw.given
    · intro w j
      rw [hnotifier]
      by_cases hj : j = h.sessions.length
      · subst hj
        rw [hlast, hwatch]
        simp [hfresh]
      · exact (hold w j hj).symm
  · refine ⟨?_, ?_, ?_, hended⟩
    · rw [hnotifier, List.map_append, List.map_singleton, List.nodup_append]
      refine ⟨hw.distinct, List.nodup_singleton _, ?_⟩
      intro a ha b hb hab
      obtain ⟨x, hx, rfl⟩ := List.mem_map.mp ha
      have hlt := hw.given x hx
      rw [hab, List.mem_singleton.mp hb] at hlt
      exact Nat.lt_irrefl _ hlt
    · rw [hnotifier]
      intro x hx
      rcases List.mem_append.mp hx with hx | hx
      · exact Nat.lt_succ_of_lt (hw.given x hx)
      · rw [List.mem_singleton.mp hx]
        exact Nat.lt_succ_self _
    · intro w j
      rw [hnotifier, List.mem_append, List.mem_singleton, Prod.mk.injEq]
      by_cases hj : j = h.sessions.length
      · subst hj
        rw [hlast, hwatch]
        simp [hfresh, eq_comm]
      · rw [hold w j hj]
        simp [hj]

/-- **Watches stay with those who hold them**, whatever is done to a host. -/
theorem Watched.effect (hw : h.Watched) (he : h.Effect h') : h'.Watched := by
  cases he with
  | posts hp =>
      refine ⟨by rw [hp.watches]; exact hw.distinct,
        by rw [hp.watches, hp.nextWatch]; exact hw.given, fun w j => ?_, fun j s' hs' hclosed => ?_⟩
      · rw [hp.watches, hw.held]
        refine hp.exists_iff (fun s => s.tracker.watch = some w) (fun ms s => ?_) j
        rw [Session.tracker_receiveAll]
      · obtain ⟨s, ms, hs, rfl⟩ := hp.mail hs'
        rw [Session.closed_receiveAll] at hclosed
        rw [Session.tracker_receiveAll]
        exact hw.ended j s hs hclosed
  | @handles id s m queue hs hopen =>
      have hclosed := (Session.same_handle id m s h.platform).closed.trans hopen
      refine hw.give hs (Action.unwatches (s.tracker.handle h.platform.sample m).2) ?_ ?_ ?_
      · simp only [Session.tracker_handle id h.platform hopen]
        exact Tracker.unwatches_handle ..
      · exact fun hc => absurd (hclosed.symm.trans hc) Bool.false_ne_true
      · rw [Session.handle_of_open id h.platform hopen]
  | @ends id s hs hopen =>
      obtain ⟨hwatch, hgone⟩ := Tracker.watch_stopPolling s.tracker
      refine hw.give hs (Action.unwatches s.tracker.stopPolling.2) ?_ ?_ ?_
      · rw [Session.shutdown_of_open id h.platform hopen]
        simp only [hwatch, hgone, Option.toList_none, List.append_nil]
      · rw [Session.shutdown_of_open id h.platform hopen]
        exact fun _ => hwatch
      · rw [Session.shutdown_of_open id h.platform hopen]
  | starts m => exact hw.start m

end Host

/-! ## Requests for intervals -/

/-- Whoever has a request at a slot. -/
def Slot.owners (s : Slot) : List Owner := s.intervals.requests.map (fun r => r.1)

namespace Slot

variable (owner : Owner)

theorem owners_take_set (ms : Millis) (s : Slot) :
    (s.take (.set owner ms)).owners = s.owners.filter (fun o => o != owner) ++ [owner] := by
  simp [owners, take, IntervalTable.set, IntervalTable.put, List.filter_map, Function.comp_def]

theorem owners_take_drop (s : Slot) :
    (s.take (.drop owner)).owners = s.owners.filter (fun o => o != owner) := by
  simp [owners, take, IntervalTable.drop, IntervalTable.put, List.filter_map, Function.comp_def]

/-- Asking again and again leaves one request. -/
theorem owners_pushAll (intervals : List Millis) {s : Slot} (hd : s.owners.Nodup) :
    (s.pushAll owner intervals).owners.Nodup ∧
      ∀ o, o ∈ (s.pushAll owner intervals).owners ↔
        o ∈ s.owners ∨ (o = owner ∧ intervals ≠ []) := by
  unfold pushAll
  induction intervals generalizing s with
  | nil => exact ⟨hd, by simp⟩
  | cons ms intervals ih =>
      have hone : (s.take (.set owner ms)).owners.Nodup := by
        rw [owners_take_set, List.nodup_append]
        refine ⟨hd.filter _, List.nodup_singleton _, ?_⟩
        intro a ha b hb hab
        rw [hab, List.mem_singleton.mp hb] at ha
        simp at ha
      obtain ⟨hnodup, hmem⟩ := ih hone
      refine ⟨hnodup, fun o => ?_⟩
      rw [List.foldl_cons, hmem, owners_take_set]
      by_cases ho : o = owner <;> simp [ho]

end Slot

/-- A session that starts asks for an interval. -/
theorem Session.slot_start (id : SessionId) (m : Monitor) (p : Platform) :
    ∃ intervals ≠ [], (Session.start id m.variant m.intervals m.watchPath p).2.slot =
      p.slot.pushAll id intervals :=
  ⟨_, List.cons_ne_nil _ _, (slot_pushed_at_start id m.variant m.intervals m.watchPath p).1⟩

namespace Host

/-- **Who has requested an interval**: exactly the open sessions, each once. -/
structure Booked (h : Host) : Prop where
  distinct : h.platform.slot.owners.Nodup
  held : ∀ j : SessionId, j ∈ h.platform.slot.owners ↔
    ∃ s : Session, h.sessions[j]? = some s ∧ s.closed = false

theorem booked_new (slot : String) (interface : Interface) : (new slot interface).Booked where
  distinct := List.nodup_nil
  held j := by simp [new, Slot.owners]

variable {h h' : Host}

theorem Booked.effect (hb : h.Booked) (he : h.Effect h') : h'.Booked := by
  cases he with
  | posts hp =>
      have howners : h'.platform.slot.owners = h.platform.slot.owners := by
        rw [Slot.owners, Slot.owners, hp.intervals]
      refine ⟨by rw [howners]; exact hb.distinct, fun j => ?_⟩
      rw [howners, hb.held]
      refine hp.exists_iff (fun s => s.closed = false) (fun ms s => ?_) j
      rw [Session.closed_receiveAll]
  | @handles id s m queue hs hopen =>
      have hslot : (s.handle id m h.platform).2.slot = h.platform.slot.pushAll id
          (Action.pushes (s.tracker.handle h.platform.sample m).2) := by
        rw [Session.handle_of_open id h.platform hopen]
      obtain ⟨hnodup, hmem⟩ := Slot.owners_pushAll id
        (Action.pushes (s.tracker.handle h.platform.sample m).2) hb.distinct
      have hclosed := (Session.same_handle id m s h.platform).closed.trans hopen
      refine ⟨by simp only [hslot]; exact hnodup, fun j => ?_⟩
      simp only [hslot, hmem, hb.held]
      by_cases hj : j = id
      · subst hj
        have hlt : j < h.sessions.length := (List.getElem?_eq_some_iff.mp hs).1
        simp [hs, hopen, hclosed, List.getElem?_set_self hlt]
      · simp [hj, List.getElem?_set_ne (Ne.symm hj)]
  | @ends id s hs hopen =>
      have hslot : (s.shutdown id h.platform).2.slot = h.platform.slot.take (.drop id) := by
        rw [Session.shutdown_of_open id h.platform hopen]
      have hclosed : (s.shutdown id h.platform).1.closed = true := by
        rw [Session.shutdown_of_open id h.platform hopen]
      constructor
      · simp only [hslot, Slot.owners_take_drop]
        exact hb.distinct.filter _
      · intro j
        simp only [hslot, Slot.owners_take_drop, List.mem_filter, hb.held]
        by_cases hj : j = id
        · subst hj
          have hlt : j < h.sessions.length := (List.getElem?_eq_some_iff.mp hs).1
          simp [hclosed, List.getElem?_set_self hlt]
        · simp [hj, List.getElem?_set_ne (Ne.symm hj)]
  | starts m =>
      obtain ⟨intervals, hsome, hslot⟩ := Session.slot_start h.sessions.length m h.platform
      have hopen := (Session.started h.sessions.length m h.platform).closed
      obtain ⟨hnodup, hmem⟩ := Slot.owners_pushAll h.sessions.length intervals hb.distinct
      refine ⟨by simp only [hslot]; exact hnodup, fun j => ?_⟩
      simp only [hslot, hmem, hb.held]
      constructor
      · rintro (⟨s, hs, hso⟩ | ⟨rfl, -⟩)
        · have hlt : j < h.sessions.length := (List.getElem?_eq_some_iff.mp hs).1
          exact ⟨s, (List.getElem?_append_left hlt).trans hs, hso⟩
        · exact ⟨_, List.getElem?_concat_length, hopen⟩
      · rintro ⟨s, hs, hso⟩
        rcases getElem?_concat_cases hs with ⟨-, hs⟩ | ⟨hlast, -⟩
        · exact .inl ⟨s, hs, hso⟩
        · exact .inr ⟨hlast, hsome⟩

/-! ## Calls -/

/-- The calls that the slot gets in a move. -/
def calls (h : Host) (e : Move) : List SlotCall :=
  (h.move e).platform.slot.calls.drop h.platform.slot.calls.length

/-- The calls that the slot gets in a row of moves. -/
def callsAlong : List Move → Host → List SlotCall
  | [], _ => []
  | e :: es, h => h.calls e ++ callsAlong es (h.move e)

end Host

end ModemWatch
