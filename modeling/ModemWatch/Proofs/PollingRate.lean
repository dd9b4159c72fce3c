import ModemWatch.Proofs.Shares

/-!
# How often a shared slot polls

Several sessions share a modem slot, and each asks for the short interval or the long one with every
pass that it takes.  What it asked for last stands until it asks again or ends.  The slot applies
the shortest request, and the settings see to it that the short interval is not longer than the long
one.  So the slot polls fast exactly while some open session wants it to, and not at all without an
open session.

* `Host.passes`, `Host.passesAlong` — what the passes of a session ask for in a row of moves;
* `Host.Paced` — the invariant, kept by passes, by ends and by mail;
* `Host.polls_fast_iff_wanted` — what applies, after any moves.
-/

namespace ModemWatch

namespace Slot

/-- An owner that asks again and again requests what it asked for last. -/
theorem requested?_pushAll (owner : Owner) (intervals : List Millis) (s : Slot) (o : Owner) :
    (s.pushAll owner intervals).intervals.requested? o =
      if o = owner then intervals.getLast?.or (s.intervals.requested? o)
      else s.intervals.requested? o := by
  rw [pushAll_eq_takeAll, requested?_takeAll, List.filter_map]
  by_cases ho : o = owner
  · subst ho
    have hall : intervals.filter ((fun call => call.owner == o) ∘ SlotCall.set o) = intervals := by
      simp [Function.comp_def, SlotCall.owner]
    rw [hall, if_pos rfl, List.getLast?_map]
    cases intervals.getLast? <;> rfl
  · have hnone : intervals.filter ((fun call => call.owner == o) ∘ SlotCall.set owner) = [] := by
      simp [Function.comp_def, SlotCall.owner, Ne.symm ho]
    rw [hnone, if_neg ho]
    rfl

end Slot

namespace Host

/-- A session that was started and has not ended. -/
def isOpen (j : SessionId) (h : Host) : Bool := (h.sessions[j]?).any (fun s => !s.closed)

/-- What the pass of a session in a move asks for, if it handles a message and takes one. -/
def wish? (j : SessionId) (h : Host) (e : Move) : Option Bool :=
  match h.sessions[j]?, h.heard j e with
  | some s, some m => if s.closed then none else s.tracker.wish? h.platform.sample m
  | _, _ => none

/-- What the passes of a session in a move ask for, be it short polling or not. -/
def passes (j : SessionId) (h : Host) : Move → List Bool
  | .happen (.start m) =>
    if j = h.sessions.length then Session.firstWishes h.sessions.length m.watchPath h.platform
    else []
  | e => (h.wish? j e).toList

/-- What the passes of a session in a row of moves ask for, oldest first. -/
def passesAlong (j : SessionId) : List Move → Host → List Bool
  | [], _ => []
  | e :: es, h => h.passes j e ++ passesAlong j es (h.move e)

variable {h h' : Host} {intervals : Intervals} {asked : SessionId → List Bool} {j : SessionId}
  {s : Session}

/-! ## Who is open -/

theorem isOpen_of_some (hs : h.sessions[j]? = some s) : h.isOpen j = !s.closed := by
  rw [isOpen, hs, Option.any_some]

theorem isOpen_set (hs : h.sessions[j]? = some s) (p : Platform) (s' : Session) (i : SessionId) :
    (⟨p, h.sessions.set j s'⟩ : Host).isOpen i = if i = j then !s'.closed else h.isOpen i := by
  have hlt : j < h.sessions.length := (List.getElem?_eq_some_iff.mp hs).1
  unfold isOpen
  by_cases hi : i = j
  · subst hi
    simp [List.getElem?_set_self hlt]
  · simp [hi, List.getElem?_set_ne (Ne.symm hi)]

theorem isOpen_concat (p : Platform) (s' : Session) (i : SessionId) :
    (⟨p, h.sessions ++ [s']⟩ : Host).isOpen i =
      if i = h.sessions.length then !s'.closed else h.isOpen i := by
  unfold isOpen
  rcases Nat.lt_trichotomy i h.sessions.length with hi | hi | hi
  · simp [List.getElem?_append_left hi, Nat.ne_of_lt hi]
  · simp [hi]
  · have hnone : (h.sessions ++ [s'])[i]? = none :=
      List.getElem?_eq_none (by simpa using Nat.succ_le_of_lt hi)
    have hnone' : h.sessions[i]? = none := List.getElem?_eq_none (Nat.le_of_lt hi)
    simp [hnone, hnone', Nat.ne_of_gt hi]

theorem isOpen_of_posted (hp : h.Posted h') (j : SessionId) : h'.isOpen j = h.isOpen j := by
  have hsame := hp.exists_iff (fun s => (!s.closed) = true)
    (fun ms s => by rw [Session.closed_receiveAll]) j
  rw [Bool.eq_iff_iff, isOpen, isOpen, Option.any_eq_true, Option.any_eq_true]
  exact hsame.symm

/-! ## What is requested -/

/-- Sessions with the same two intervals, each of which asked for some of them in turn: what an open
session asked for last is what it requests, and nobody else requests anything. -/
structure Paced (intervals : Intervals) (asked : SessionId → List Bool) (h : Host) : Prop where
  consistent : h.platform.slot.intervals.Consistent
  uniform : ∀ (j : SessionId) (s : Session), h.sessions[j]? = some s →
    s.tracker.intervals = intervals
  asking : ∀ j, h.isOpen j = true → asked j ≠ []
  requested : ∀ j, h.platform.slot.intervals.requested? j =
    if h.isOpen j then (asked j).getLast?.map intervals.pick else none

theorem paced_new (slot : String) (interface : Interface) (intervals : Intervals) :
    (new slot interface).Paced intervals fun _ => [] where
  consistent := IntervalTable.consistent_new
  uniform j s hs := by simp [new] at hs
  asking j hj := by simp [new, isOpen] at hj
  requested j := by simp [new, isOpen, IntervalTable.requested?]

theorem Paced.posted (hp : h.Paced intervals asked) (hpost : h.Posted h') :
    h'.Paced intervals asked where
  consistent := by rw [hpost.intervals]; exact hp.consistent
  uniform j s' hs' := by
    obtain ⟨s, ms, hs, rfl⟩ := hpost.mail hs'
    rw [Session.tracker_receiveAll]
    exact hp.uniform j s hs
  asking j hj := hp.asking j (by rwa [isOpen_of_posted hpost] at hj)
  requested j := by rw [hpost.intervals, isOpen_of_posted hpost]; exact hp.requested j

/-- **A session asks**, once or several times, and all others go on requesting what they do. -/
theorem Paced.asks (hp : h.Paced intervals asked) {id : SessionId} {wishes : List Bool}
    (hslot : h'.platform.slot = h.platform.slot.pushAll id (wishes.map intervals.pick))
    (hopen : ∀ j, h'.isOpen j = if j = id then true else h.isOpen j)
    (huniform : ∀ (j : SessionId) (s : Session), h'.sessions[j]? = some s →
      s.tracker.intervals = intervals)
    (hwishes : wishes = [] → h.isOpen id = true) :
    h'.Paced intervals fun j => asked j ++ if j = id then wishes else [] where
  consistent := by
    rw [hslot, Slot.pushAll_eq_takeAll]
    exact Slot.consistent_takeAll hp.consistent _
  uniform := huniform
  asking j hj hnil := by
    obtain ⟨hasked, hnone⟩ := List.append_eq_nil_iff.mp hnil
    by_cases hid : j = id
    · subst hid
      rw [if_pos rfl] at hnone
      exact hp.asking j (hwishes hnone) hasked
    · rw [hopen, if_neg hid] at hj
      exact hp.asking j hj hasked
  requested j := by
    rw [hslot, Slot.requested?_pushAll, hopen]
    by_cases hid : j = id
    · subst hid
      simp only [if_true, List.getLast?_map, List.getLast?_append]
      cases hlast : wishes.getLast? with
      | some short => rfl
      | none =>
          -- the session takes no pass, so it was open before
          rw [hp.requested, if_pos (hwishes (List.getLast?_eq_none_iff.mp hlast))]
          rfl
    · simp only [if_neg hid, List.append_nil]
      exact hp.requested j

/-- **A session ends**, and requests nothing any more. -/
theorem Paced.ends (hp : h.Paced intervals asked) (id : SessionId)
    (hslot : h'.platform.slot = h.platform.slot.take (.drop id))
    (hopen : ∀ j, h'.isOpen j = if j = id then false else h.isOpen j)
    (huniform : ∀ (j : SessionId) (s : Session), h'.sessions[j]? = some s →
      s.tracker.intervals = intervals) :
    h'.Paced intervals asked where
  consistent := by
    rw [hslot]
    exact Slot.consistent_take hp.consistent _
  uniform := huniform
  asking j hj := by
    rw [hopen] at hj
    split at hj
    · cases hj
    · exact hp.asking j hj
  requested j := by
    rw [hslot, Slot.requested?_take, hopen]
    by_cases hid : j = id
    · subst hid
      simp [SlotCall.owner, SlotCall.interval?]
    · have hother : (SlotCall.drop id).owner ≠ j := Ne.symm hid
      rw [if_neg hother, if_neg hid]
      exact hp.requested j

/-! ## Moves -/

theorem wish?_of_heard {e : Move} (hheard : h.heard j e = none) : h.wish? j e = none := by
  unfold wish?
  rw [hheard]
  cases h.sessions[j]? <;> rfl

theorem wish?_of_not_open (hclosed : h.isOpen j = false) (e : Move) : h.wish? j e = none := by
  unfold wish?
  cases hs : h.sessions[j]? with
  | none => rfl
  | some s =>
      rw [isOpen_of_some hs, Bool.not_eq_false'] at hclosed
      cases h.heard j e with
      | none => rfl
      | some m => exact if_pos hclosed

/-- The pass of a move is the one of the session that handles a message in it. -/
theorem toList_wish? (hs : h.sessions[j]? = some s) (hopen : s.closed = false) {e : Move}
    {m : Message} (hheard : h.heard j e = some m) (i : SessionId) :
    (h.wish? i e).toList =
      if i = j then (s.tracker.wish? h.platform.sample m).toList else [] := by
  by_cases hi : i = j
  · subst hi
    simp only [wish?, hs, hheard, hopen, Bool.false_eq_true, if_false, if_true]
  · have hnone : h.heard i e = none := by
      cases hother : h.heard i e with
      | none => rfl
      | some m' => exact absurd (eq_of_heard hheard hother) hi
    rw [wish?_of_heard hnone, if_neg hi]
    rfl

/-- Mail makes nobody take a pass. -/
theorem passes_of_mail {e : Move} (he : e.Mail) (j : SessionId) : h.passes j e = [] := by
  cases e with
  | happen e =>
      cases e with
      | start | processOne | shutdown => exact absurd he not_false
      | _ => exact congrArg Option.toList (wish?_of_heard rfl)
  | failAll status order perm => exact congrArg Option.toList (wish?_of_heard rfl)
  | hand | exchange => exact absurd he not_false

/-- An open session handles a message, and pushes what its pass asks for. -/
theorem Paced.handles (hp : h.Paced intervals asked) (hs : h.sessions[j]? = some s)
    (hopen : s.closed = false) (m : Message) (queue : List Message) :
    (⟨(s.handle j m h.platform).2,
      h.sessions.set j { (s.handle j m h.platform).1 with queue := queue }⟩ : Host).Paced intervals
        fun i => asked i ++
          if i = j then (s.tracker.wish? h.platform.sample m).toList else [] := by
  have hsame := Session.same_handle j m s h.platform
  have hmine := hp.uniform j s hs
  refine hp.asks ?_ (fun i => ?_) (fun i s' hs' => ?_) fun _ => ?_
  · rw [Session.calls_handle hopen, hmine, Option.toList_map]
  · rw [isOpen_set hs, hsame.closed, hopen]
    rfl
  · rcases getElem?_set_cases hs' with ⟨rfl, rfl⟩ | ⟨-, hold⟩
    · exact hsame.intervals.trans hmine
    · exact hp.uniform i s' hold
  · rw [isOpen_of_some hs, hopen]
    rfl

theorem Paced.start (hp : h.Paced intervals asked) {m : Monitor} (hm : m.intervals = intervals) :
    (h.start m).Paced intervals fun i => asked i ++
      if i = h.sessions.length then Session.firstWishes h.sessions.length m.watchPath h.platform
      else [] := by
  have hstarted := Session.started h.sessions.length m h.platform
  rw [start_eq]
  refine hp.asks ?_ (fun i => ?_) (fun i s' hs' => ?_)
    fun hnil => absurd hnil (List.cons_ne_nil _ _)
  · rw [← hm]
    exact (Session.slot_pushed_at_start ..).1
  · rw [isOpen_concat, hstarted.closed]
    rfl
  · rcases getElem?_concat_cases hs' with ⟨-, hold⟩ | ⟨-, rfl⟩
    · exact hp.uniform i s' hold
    · exact hstarted.intervals.trans hm

theorem Paced.shutdown (hp : h.Paced intervals asked) (id : SessionId) :
    (h.shutdown id).Paced intervals asked := by
  cases hs : h.sessions[id]? with
  | none => rwa [Host.shutdown, withSession_of_none hs]
  | some s =>
      cases hopen : s.closed with
      | true => rwa [shutdown_of_closed hs hopen]
      | false =>
          have hended := Session.shutdown_of_open id h.platform hopen
          rw [Host.shutdown, withSession_of_some hs]
          refine hp.ends id ?_ (fun i => ?_) fun i s' hs' => ?_
          · rw [hended]
          · rw [isOpen_set hs, hended]
            rfl
          · rcases getElem?_set_cases hs' with ⟨rfl, rfl⟩ | ⟨-, hold⟩
            · rw [hended]
              exact (Tracker.recorded_stopPolling s.tracker).intervals.trans (hp.uniform i s hs)
            · exact hp.uniform i s' hold

/-- A move in which one session is to handle a message: it does, or nothing happens. -/
theorem Paced.attend (hp : h.Paced intervals asked) {e : Move} (id : SessionId)
    (hpasses : ∀ i, h.passes i e = (h.wish? i e).toList)
    (hothers : ∀ i, i ≠ id → h.heard i e = none)
    (hcase : (h.move e = h ∧ h.wish? id e = none) ∨
      ∃ (s : Session) (m : Message) (queue : List Message), h.sessions[id]? = some s ∧
        s.closed = false ∧ h.heard id e = some m ∧
        h.move e = ⟨(s.handle id m h.platform).2,
          h.sessions.set id { (s.handle id m h.platform).1 with queue := queue }⟩) :
    (h.move e).Paced intervals fun j => asked j ++ h.passes j e := by
  rcases hcase with ⟨hmove, hnone⟩ | ⟨s, m, queue, hs, hopen, hheard, hmove⟩
  · have hall : ∀ i, h.passes i e = [] := by
      intro i
      rw [hpasses]
      by_cases hi : i = id
      · rw [hi, hnone]
        rfl
      · rw [wish?_of_heard (hothers i hi)]
        rfl
    simpa only [hmove, hall, List.append_nil] using hp
  · simp only [hmove, hpasses, toList_wish? hs hopen hheard]
    exact hp.handles hs hopen m queue

theorem Paced.hand (hp : h.Paced intervals asked) (id : SessionId) (m : Message) :
    (h.move (.hand id m)).Paced intervals fun j => asked j ++ h.passes j (.hand id m) := by
  refine hp.attend id (fun _ => rfl) (fun i hi => if_neg (Ne.symm hi)) ?_
  rw [Host.move, Host.handle]
  cases hs : h.sessions[id]? with
  | none =>
      left
      exact ⟨withSession_of_none hs, wish?_of_not_open (by rw [isOpen, hs]; rfl) _⟩
  | some s =>
      rw [withSession_of_some hs]
      cases hopen : s.closed with
      | true =>
          left
          rw [Session.handle_closed hopen, put_back hs]
          exact ⟨rfl, wish?_of_not_open (by rw [isOpen_of_some hs, hopen]; rfl) _⟩
      | false =>
          right
          exact ⟨s, m, (s.handle id m h.platform).1.queue, rfl, hopen, if_pos rfl, rfl⟩

theorem Paced.processOne (hp : h.Paced intervals asked) (hswept : h.Swept) (id : SessionId) :
    (h.move (.happen (.processOne id))).Paced intervals fun j =>
      asked j ++ h.passes j (.happen (.processOne id)) := by
  refine hp.attend id (fun _ => rfl) (fun i hi => if_neg (Ne.symm hi)) ?_
  have hheard : h.heard id (.happen (.processOne id)) =
      (h.sessions[id]?).bind (fun s => s.queue.head?) := if_pos rfl
  rw [Host.move, Host.step, Host.processOne]
  cases hs : h.sessions[id]? with
  | none =>
      left
      exact ⟨withSession_of_none hs, wish?_of_not_open (by rw [isOpen, hs]; rfl) _⟩
  | some s =>
      rw [hs, Option.bind_some] at hheard
      rw [withSession_of_some hs]
      cases hq : s.queue with
      | nil =>
          left
          rw [Session.processOne_of_empty id hq, put_back hs]
          exact ⟨rfl, wish?_of_heard (by rw [hheard, hq]; rfl)⟩
      | cons m rest =>
          right
          rw [Session.processOne_of_cons hq]
          exact ⟨s, m, rest, rfl, hswept.open_of_cons hs hq, by rw [hheard, hq]; rfl, rfl⟩

/-- **Every move keeps requests in step with what was asked.** -/
theorem Paced.move (hp : h.Paced intervals asked) (hswept : h.Swept) {e : Move} (he : e.Inside)
    (hstart : ∀ m, e = .happen (.start m) → m.intervals = intervals) :
    (h.move e).Paced intervals fun j => asked j ++ h.passes j e := by
  have hquiet : (h.move e).Paced intervals asked → (∀ i, h.passes i e = []) →
      (h.move e).Paced intervals fun j => asked j ++ h.passes j e := by
    intro hp' hnone
    simpa only [hnone, List.append_nil] using hp'
  have hmail : e.Mail → (h.move e).Paced intervals fun j => asked j ++ h.passes j e :=
    fun hmail => hquiet (hp.posted (posted_move hmail)) (passes_of_mail hmail)
  cases e with
  | happen e =>
      cases e with
      | start m => exact hp.start (hstart m rfl)
      | processOne id => exact hp.processOne hswept id
      | shutdown id =>
          exact hquiet (hp.shutdown id) fun i => congrArg Option.toList (wish?_of_heard rfl)
      | _ => exact hmail trivial
  | failAll status order perm => exact hmail trivial
  | hand id m => exact hp.hand id m
  | exchange f signals => exact absurd he not_false

theorem Paced.travel (hp : h.Paced intervals asked) (hswept : h.Swept) {es : List Move}
    (hes : ∀ e ∈ es, e.Inside)
    (hstarts : ∀ m, .happen (.start m) ∈ es → m.intervals = intervals) :
    (h.travel es).Paced intervals fun j => asked j ++ passesAlong j es h := by
  induction es generalizing h asked with
  | nil =>
      simp only [passesAlong, List.append_nil]
      exact hp
  | cons e es ih =>
      have he := hes e List.mem_cons_self
      have hfirst := hp.move hswept he fun m hm => hstarts m (hm ▸ List.mem_cons_self)
      have hrest := ih hfirst (hswept.effect (effect_move hswept he))
        (fun e' he' => hes e' (List.mem_cons_of_mem _ he'))
        fun m hm => hstarts m (List.mem_cons_of_mem _ hm)
      simp only [List.append_assoc] at hrest
      exact hrest

/-! ## What applies -/

/-- Nothing applies exactly if no session is open. -/
theorem Paced.applied_eq_none_iff (hp : h.Paced intervals asked) :
    h.platform.slot.intervals.applied = none ↔ ∀ j, h.isOpen j = false := by
  rw [hp.consistent.applied_eq_none_iff]
  refine forall_congr' fun j => ?_
  rw [hp.requested]
  cases hopen : h.isOpen j with
  | false => simp
  | true => simp [hp.asking j hopen]

/-- Whatever is requested is what an open session asked for last. -/
theorem Paced.requested?_eq_some_iff (hp : h.Paced intervals asked) {ms : Millis} :
    h.platform.slot.intervals.requested? j = some ms ↔
      h.isOpen j = true ∧ ∃ short, (asked j).getLast? = some short ∧ intervals.pick short = ms := by
  rw [hp.requested, Option.ite_none_right_eq_some, Option.map_eq_some_iff]

/-- With an open session the short interval applies if some open session asked for it last, and
otherwise the long one. -/
theorem Paced.applied (hp : h.Paced intervals asked) (hshort : intervals.short ≤ intervals.long)
    (hopen : h.isOpen j = true) :
    ∃ short : Bool, h.platform.slot.intervals.applied = some (intervals.pick short) ∧
      (short = true ↔ ∃ i, h.isOpen i = true ∧ (asked i).getLast? = some true) := by
  simp only [hp.consistent.applied_eq_some_iff, hp.requested?_eq_some_iff]
  by_cases hfast : ∃ i, h.isOpen i = true ∧ (asked i).getLast? = some true
  · obtain ⟨i, hi, hlast⟩ := hfast
    refine ⟨true, ⟨⟨i, hi, true, hlast, rfl⟩, ?_⟩, iff_of_true rfl ⟨i, hi, hlast⟩⟩
    rintro k ms ⟨-, short, -, rfl⟩
    cases short with
    | true => exact UInt32.le_refl _
    | false => exact hshort
  · -- everybody asked for the long interval last
    have hlong : ∀ i short, h.isOpen i = true → (asked i).getLast? = some short →
        short = false := by
      intro i short hi hlast
      cases short with
      | true => exact absurd ⟨i, hi, hlast⟩ hfast
      | false => rfl
    obtain ⟨short, hlast⟩ := Option.ne_none_iff_exists'.mp
      (mt List.getLast?_eq_none_iff.mp (hp.asking j hopen))
    refine ⟨false, ⟨⟨j, hopen, short, hlast, ?_⟩, ?_⟩, iff_of_false Bool.false_ne_true hfast⟩
    · rw [hlong j short hopen hlast]
    · rintro k ms ⟨hk, other, hother, rfl⟩
      rw [hlong k other hk hother]
      exact UInt32.le_refl _

/-- **A shared slot polls fast exactly while some session wants it to.**  Take sessions of any
variants that share a slot, all with the same two intervals, of which the short one is not longer,
and any row of moves: sessions start and end, handle messages of any kind in any order, and watches
break.

No interval applies exactly if no session is open.  Each open session took a pass, and if there is
an open session, the short interval applies if the last pass of some open session asked for it, and
otherwise the long one.  So no other session hides that one wants to poll fast, and one that has
ended does not count. -/
theorem polls_fast_iff_wanted (slot : String) (interface : Interface) {intervals : Intervals}
    (hshort : intervals.short ≤ intervals.long) {es : List Move} (hes : ∀ e ∈ es, e.Inside)
    (hstarts : ∀ m, .happen (.start m) ∈ es → m.intervals = intervals) :
    let h := (new slot interface).travel es
    (h.platform.slot.intervals.applied = none ↔ ∀ j, h.isOpen j = false) ∧
    (∀ j, h.isOpen j = true → passesAlong j es (new slot interface) ≠ []) ∧
    ((∃ j, h.isOpen j = true) →
      ∃ short : Bool, h.platform.slot.intervals.applied = some (intervals.pick short) ∧
        (short = true ↔ ∃ j, h.isOpen j = true ∧
          (passesAlong j es (new slot interface)).getLast? = some true)) := by
  intro h
  have hp : h.Paced intervals fun j => passesAlong j es (new slot interface) :=
    (paced_new slot interface intervals).travel (swept_new slot interface) hes hstarts
  exact ⟨hp.applied_eq_none_iff, hp.asking, fun ⟨_, hopen⟩ => hp.applied hshort hopen⟩

/-- Two sessions see the display come on; only the one that hears of the charger wants to poll fast,
and the other goes on after it has ended. -/
theorem polls_fast_iff_wanted_by_one :
    let es : List Move :=
      [.happen (.start ⟨.deviceState, {}, none⟩), .happen (.start ⟨.indicationFilter, {}, none⟩),
       .hand 0 (.signal ⟨.display, .valid true⟩), .hand 0 (.signal ⟨.display, .state .on⟩),
       .hand 0 (.signal ⟨.charger, .valid true⟩), .hand 0 (.signal ⟨.charger, .state .on⟩),
       .hand 1 (.signal ⟨.display, .valid true⟩), .hand 1 (.signal ⟨.display, .state .on⟩)]
    let more := es ++ [.happen (.shutdown 0)]
    ((new "slot1" .v15).travel es).platform.slot.intervals.applied = some 2000 ∧
      ((new "slot1" .v15).travel more).platform.slot.intervals.applied = some 30000 := by
  intro es more
  have hmore : ∀ e ∈ more, e.Inside := by
    intro e he
    simp only [more, es, List.mem_cons, List.mem_append, List.not_mem_nil, or_false] at he
    rcases he with (rfl | rfl | rfl | rfl | rfl | rfl | rfl | rfl) | rfl <;> trivial
  have hmonitors : ∀ m, .happen (.start m) ∈ more → m.intervals = {} := by
    intro m hm
    simp only [more, es, List.mem_cons, List.mem_append, List.not_mem_nil, or_false,
      Move.happen.injEq, Happening.start.injEq, reduceCtorEq] at hm
    rcases hm with rfl | rfl <;> rfl
  have hes : ∀ e ∈ es, e ∈ more := fun e he => List.mem_append_left _ he
  refine ⟨?_, ?_⟩
  · obtain ⟨-, -, hopen⟩ := polls_fast_iff_wanted "slot1" .v15 (by decide)
      (fun e he => hmore e (hes e he)) fun m hm => hmonitors m (hes _ hm)
    obtain ⟨short, happlied, hiff⟩ := hopen ⟨0, rfl⟩
    rwa [hiff.mpr ⟨0, rfl, rfl⟩] at happlied
  · obtain ⟨-, -, hopen⟩ := polls_fast_iff_wanted "slot1" .v15 (by decide) hmore hmonitors
    obtain ⟨short, happlied, hiff⟩ := hopen ⟨1, rfl⟩
    cases short with
    | false => exact happlied
    | true =>
        obtain ⟨j, hj, hlast⟩ := hiff.mp rfl
        match j with
        | 0 => cases hj
        | 1 => cases hlast
        | _ + 2 => cases hj

end Host

end ModemWatch
