import Mathlib.Data.List.Nodup
import ModemWatch.Device.Sources
import ModemWatch.Session.Message

/-!
# Whose handlers are registered

Several sessions have handlers on the same four signals, and numbers are given out on each signal
for itself, so that a number says nothing without its signal.  Two facts keep the sessions apart
all the same.  On one signal no number is given out twice; and what a session holds to give back
later are the numbers of exactly its own handlers.

* `Sources.Holds` — an owner's handlers are those that it knows of, two for each of its signals;
* `Sources.holds_subscribeAll`, `Sources.holds_unsubscribeAll` — so it is after subscribing, and
  nothing is left after giving everything back;
* `Sources.count_write` — of a change an owner hears once, if it holds handlers on the signal.
-/

namespace ModemWatch

namespace Registry

variable {κ : Type}

/-- No number is registered twice, and none that is still to be given out. -/
structure Tidy (r : Registry κ) : Prop where
  distinct : (r.handlers.map (fun h => h.id)).Nodup
  given : ∀ h ∈ r.handlers, h.id < r.nextId

theorem tidy_new : ({} : Registry κ).Tidy := ⟨List.nodup_nil, by simp⟩

theorem Tidy.subscribe {r : Registry κ} (h : r.Tidy) (event : SignalEvent) (owner : κ) :
    (r.subscribe event owner).2.Tidy := by
  refine ⟨?_, ?_⟩
  · have hnew : r.nextId ∉ r.handlers.map (fun h => h.id) := by
      intro hm
      obtain ⟨x, hx, hid⟩ := List.mem_map.mp hm
      exact Nat.lt_irrefl _ (hid ▸ h.given x hx)
    rw [handlers_subscribe, List.map_append, List.map_singleton]
    refine List.nodup_append.mpr ⟨h.distinct, List.nodup_singleton _, ?_⟩
    intro a ha b hb hab
    obtain rfl : b = r.nextId := List.mem_singleton.mp hb
    exact hnew (hab ▸ ha)
  · intro x hx
    rw [handlers_subscribe] at hx
    rcases List.mem_append.mp hx with hx | hx
    · exact Nat.lt_succ_of_lt (h.given x hx)
    · rw [List.mem_singleton.mp hx]
      exact Nat.lt_succ_self _

theorem Tidy.unsubscribe {r : Registry κ} (h : r.Tidy) (id : HandlerId) :
    (r.unsubscribe id).Tidy := by
  refine ⟨?_, fun x hx => h.given x (mem_unsubscribe.mp hx).1⟩
  exact (List.filter_sublist.map _).nodup h.distinct

end Registry

namespace Sources

@[simp] theorem set_set {κ : Type} (s : Sources κ) (k : SignalKind) (x y : Signal k.State κ) :
    (s.set k x).set k y = s.set k y := by
  cases k <;> rfl

/-- Subscribing does not change what the sources show. -/
@[simp] theorem snapshot_subscribeAll {κ : Type} (owner : κ) (kinds : List SignalKind)
    (s : Sources κ) : (s.subscribeAll owner kinds).2.snapshot = s.snapshot := by
  induction kinds generalizing s with
  | nil => rfl
  | cons kind kinds ih => exact (ih _).trans (snapshot_subscribe kind owner s)

variable (s : Sources SessionId)

/-- The handlers of an owner on a signal, in order. -/
def heldBy (k : SignalKind) (o : SessionId) : List (Handler SessionId) :=
  (s.get k).registry.handlers.filter (fun h => h.owner == o)

/-- The numbers on each signal are in order. -/
def Tidy : Prop := ∀ k, (s.get k).registry.Tidy

/-- What an owner holds on each signal: the handlers that it knows of, which are two for each of the
listed signals and none on the others. -/
structure Holds (o : SessionId) (subs : List Subscription) (kinds : List SignalKind) : Prop where
  ids : ∀ k, (s.heldBy k o).map (fun h => h.id) =
    (subs.filter (fun sub => sub.kind == k)).map (fun sub => sub.id)
  events : ∀ k, (s.heldBy k o).map (fun h => h.event) =
    if k ∈ kinds then SignalEvent.all else []

variable {s}

theorem tidy_new : ({} : Sources SessionId).Tidy := by
  intro k
  cases k <;> exact Registry.tidy_new

/-! ## Subscribing -/

/-- Subscribing to a signal registers two handlers under the next two numbers. -/
theorem subscribe_eq (kind : SignalKind) (owner : SessionId) (s : Sources SessionId) :
    s.subscribe kind owner =
      ([⟨kind, (s.get kind).registry.nextId⟩, ⟨kind, (s.get kind).registry.nextId + 1⟩],
        s.set kind { s.get kind with registry :=
          (((s.get kind).registry.subscribe .validChanged owner).2.subscribe
            .stateChanged owner).2 }) := by
  simp [subscribe, subscribeTo, SignalEvent.all, Signal.subscribe, Registry.subscribe]

theorem Tidy.subscribe (h : s.Tidy) (kind : SignalKind) (owner : SessionId) :
    (s.subscribe kind owner).2.Tidy := by
  intro k
  rw [subscribe_eq]
  by_cases hk : k = kind
  · subst hk
    rw [get_set_self]
    exact ((h k).subscribe _ owner).subscribe _ owner
  · rw [get_set_ne _ _ hk]
    exact h k

theorem heldBy_subscribe (kind : SignalKind) (owner : SessionId) (k : SignalKind)
    (o : SessionId) :
    (s.subscribe kind owner).2.heldBy k o =
      s.heldBy k o ++ if k = kind ∧ o = owner then
        [⟨(s.get kind).registry.nextId, .validChanged, owner⟩,
          ⟨(s.get kind).registry.nextId + 1, .stateChanged, owner⟩] else [] := by
  rw [subscribe_eq]
  by_cases hk : k = kind
  · subst hk
    by_cases ho : o = owner
    · subst ho
      simp [heldBy]
    · simp [heldBy, ho, Ne.symm ho]
  · simp [heldBy, hk]

theorem Tidy.subscribeAll (h : s.Tidy) (owner : SessionId) (kinds : List SignalKind) :
    (s.subscribeAll owner kinds).2.Tidy := by
  induction kinds generalizing s with
  | nil => exact h
  | cons kind kinds ih => exact ih (h.subscribe kind owner)

/-- Other owners do not notice. -/
theorem heldBy_subscribeAll_ne {owner o : SessionId} (ho : o ≠ owner) (kinds : List SignalKind)
    (k : SignalKind) : (s.subscribeAll owner kinds).2.heldBy k o = s.heldBy k o := by
  induction kinds generalizing s with
  | nil => rfl
  | cons kind kinds ih =>
      refine (ih (s := (s.subscribe kind owner).2)).trans ?_
      rw [heldBy_subscribe, if_neg (fun hk => ho hk.2), List.append_nil]

/-- What an owner is handed is what is registered for it. -/
theorem heldBy_subscribeAll (owner : SessionId) {kinds : List SignalKind} (hn : kinds.Nodup)
    (k : SignalKind) :
    ∃ new, (s.subscribeAll owner kinds).2.heldBy k owner = s.heldBy k owner ++ new ∧
      new.map (fun h => h.id) =
        ((s.subscribeAll owner kinds).1.filter (fun sub => sub.kind == k)).map
          (fun sub => sub.id) ∧
      new.map (fun h => h.event) = if k ∈ kinds then SignalEvent.all else [] := by
  induction kinds generalizing s with
  | nil => exact ⟨[], by simp [subscribeAll], rfl, rfl⟩
  | cons kind kinds ih =>
      obtain ⟨hkind, hkinds⟩ := List.nodup_cons.mp hn
      obtain ⟨new, hheld, hids, hevents⟩ := ih (s := (s.subscribe kind owner).2) hkinds
      refine ⟨(if k = kind then [⟨(s.get kind).registry.nextId, .validChanged, owner⟩,
        ⟨(s.get kind).registry.nextId + 1, .stateChanged, owner⟩] else []) ++ new, ?_, ?_, ?_⟩
      · refine hheld.trans ?_
        rw [heldBy_subscribe, List.append_assoc]
        simp
      · have hsubs : (s.subscribeAll owner (kind :: kinds)).1 =
            (s.subscribe kind owner).1 ++
              ((s.subscribe kind owner).2.subscribeAll owner kinds).1 := rfl
        rw [hsubs, List.filter_append, List.map_append, List.map_append, hids, subscribe_eq]
        by_cases hk : k = kind
        · simp [hk]
        · simp [hk, Ne.symm hk]
      · rw [List.map_append, hevents]
        by_cases hk : k = kind
        · subst hk
          simp [hkind, SignalEvent.all]
        · simp [hk]

/-- An owner without handlers that subscribes holds what it asked for. -/
theorem holds_subscribeAll {owner : SessionId} (hnone : ∀ k, s.heldBy k owner = [])
    {kinds : List SignalKind} (hn : kinds.Nodup) :
    (s.subscribeAll owner kinds).2.Holds owner (s.subscribeAll owner kinds).1 kinds := by
  refine ⟨fun k => ?_, fun k => ?_⟩
  · obtain ⟨new, hheld, hids, -⟩ := heldBy_subscribeAll (s := s) owner hn k
    rw [hheld, hnone, List.nil_append, hids]
  · obtain ⟨new, hheld, -, hevents⟩ := heldBy_subscribeAll (s := s) owner hn k
    rw [hheld, hnone, List.nil_append, hevents]

/-! ## Giving handlers back -/

theorem handlers_unsubscribe {κ : Type} {s : Sources κ} (sub : Subscription) (k : SignalKind) :
    ((s.unsubscribe sub).get k).registry.handlers =
      (s.get k).registry.handlers.filter (fun h => (⟨k, h.id⟩ : Subscription) != sub) := by
  obtain ⟨kind, id⟩ := sub
  unfold unsubscribe
  by_cases hk : k = kind
  · subst hk
    rw [get_set_self]
    simp only [Signal.unsubscribe, Registry.unsubscribe]
    congr 1
    funext h
    rw [Bool.eq_iff_iff]
    simp
  · rw [get_set_ne _ _ hk]
    symm
    rw [List.filter_eq_self]
    intro h _
    simp [hk]

/-- What is left is what was not given back. -/
theorem handlers_unsubscribeAll (subs : List Subscription) (k : SignalKind) :
    ((subs.foldl unsubscribe s).get k).registry.handlers =
      (s.get k).registry.handlers.filter
        (fun h => !subs.contains (⟨k, h.id⟩ : Subscription)) := by
  induction subs generalizing s with
  | nil => simp
  | cons sub subs ih =>
      rw [List.foldl_cons, ih, handlers_unsubscribe, List.filter_filter]
      congr 1
      funext h
      simp only [List.contains_cons, Bool.not_or, bne, Bool.and_comm]

theorem tidy_unsubscribeAll (h : s.Tidy) (subs : List Subscription) :
    (subs.foldl unsubscribe s).Tidy := by
  induction subs generalizing s with
  | nil => exact h
  | cons sub subs ih =>
      refine ih fun k => ?_
      unfold unsubscribe
      by_cases hk : k = sub.kind
      · subst hk
        rw [get_set_self]
        exact (h sub.kind).unsubscribe sub.id
      · rw [get_set_ne _ _ hk]
        exact h k

theorem snapshot_unsubscribeAll {κ : Type} (s : Sources κ) (subs : List Subscription) :
    (subs.foldl unsubscribe s).snapshot = s.snapshot := by
  induction subs generalizing s with
  | nil => rfl
  | cons sub subs ih => exact (ih (s.unsubscribe sub)).trans (snapshot_unsubscribe s sub)

/-- A handler is among the subscriptions of its owner. -/
theorem Holds.mem {o : SessionId} {subs : List Subscription} {kinds : List SignalKind}
    (h : s.Holds o subs kinds) {k : SignalKind} {x : Handler SessionId} (hx : x ∈ s.heldBy k o) :
    (⟨k, x.id⟩ : Subscription) ∈ subs := by
  have hid : x.id ∈ (subs.filter (fun sub => sub.kind == k)).map (fun sub => sub.id) := by
    rw [← h.ids k]
    exact List.mem_map_of_mem hx
  obtain ⟨sub, hsub, heq⟩ := List.mem_map.mp hid
  obtain ⟨hmem, hkind⟩ := List.mem_filter.mp hsub
  obtain rfl : sub.kind = k := beq_iff_eq.mp hkind
  rw [← heq]
  exact hmem

/-- **A handler is among the subscriptions of an owner exactly if it is that owner's.** -/
theorem Holds.mem_iff (ht : s.Tidy) {o : SessionId} {subs : List Subscription}
    {kinds : List SignalKind} (h : s.Holds o subs kinds) {k : SignalKind} {x : Handler SessionId}
    (hx : x ∈ (s.get k).registry.handlers) : (⟨k, x.id⟩ : Subscription) ∈ subs ↔ x.owner = o := by
  constructor
  · intro hmem
    have hid : x.id ∈ (s.heldBy k o).map (fun h => h.id) := by
      rw [h.ids k]
      exact List.mem_map.mpr ⟨⟨k, x.id⟩, List.mem_filter.mpr ⟨hmem, by simp⟩, rfl⟩
    obtain ⟨y, hy, heq⟩ := List.mem_map.mp hid
    obtain ⟨hy, hyo⟩ := List.mem_filter.mp hy
    -- two handlers with one number are the same handler, so it has one owner
    obtain rfl : y = x := List.inj_on_of_nodup_map (ht k).distinct hy hx heq
    exact beq_iff_eq.mp hyo
  · rintro rfl
    exact h.mem (List.mem_filter.mpr ⟨hx, beq_self_eq_true _⟩)

/-- **What an owner gives back is its own**, on every signal. -/
theorem handlers_giveBack (ht : s.Tidy) {o : SessionId} {subs : List Subscription}
    {kinds : List SignalKind} (h : s.Holds o subs kinds) (k : SignalKind) :
    ((subs.foldl unsubscribe s).get k).registry.handlers =
      (s.get k).registry.handlers.filter (fun x => x.owner != o) := by
  rw [handlers_unsubscribeAll]
  refine List.filter_congr fun x hx => ?_
  have hmine := h.mem_iff ht hx
  by_cases hown : x.owner = o
  · simp [hmine.mpr hown, hown]
  · simp [mt hmine.mp hown, hown]

/-- Giving everything back leaves an owner nothing. -/
theorem holds_unsubscribeAll (ht : s.Tidy) {o : SessionId} {subs : List Subscription}
    {kinds : List SignalKind} (h : s.Holds o subs kinds) :
    (subs.foldl unsubscribe s).Holds o [] [] := by
  have hnone : ∀ k, (subs.foldl unsubscribe s).heldBy k o = [] := by
    intro k
    rw [heldBy, handlers_giveBack ht h, List.filter_filter, List.filter_eq_nil_iff]
    intro x _ hkeep
    simp at hkeep
  exact ⟨fun k => by rw [hnone]; rfl, fun k => by rw [hnone]; rfl⟩

/-- What one owner gives back is nobody else's. -/
theorem heldBy_unsubscribeAll_ne (ht : s.Tidy) {o o' : SessionId} {subs : List Subscription}
    {kinds : List SignalKind} (h : s.Holds o subs kinds) (ho : o' ≠ o) (k : SignalKind) :
    (subs.foldl unsubscribe s).heldBy k o' = s.heldBy k o' := by
  rw [heldBy, handlers_giveBack ht h, List.filter_filter]
  refine List.filter_congr fun x _ => ?_
  by_cases hown : x.owner = o'
  · simp [hown, ho]
  · simp [hown]

/-! ## Hearing of a change -/

theorem heldBy_write (u : SignalUpdate) (k : SignalKind) (o : SessionId) :
    (s.write u).1.heldBy k o = s.heldBy k o := by
  unfold heldBy write
  by_cases hk : k = u.kind
  · subst hk
    simp
  · simp [hk]

theorem Tidy.write (h : s.Tidy) (u : SignalUpdate) : (s.write u).1.Tidy := by
  intro k
  unfold Sources.write
  by_cases hk : k = u.kind
  · subst hk
    simpa using h u.kind
  · simpa [hk] using h k

/-- **An owner hears of a change once**, if it holds handlers on the signal; of a write that changes
nothing nobody hears. -/
theorem count_write {o : SessionId} {subs : List Subscription} {kinds : List SignalKind}
    (h : s.Holds o subs kinds) (u : SignalUpdate) :
    (s.write u).2.count o =
      if (s.get u.kind).reading.apply u.update ≠ (s.get u.kind).reading ∧ u.kind ∈ kinds then 1
      else 0 := by
  have hevents := congrArg (List.count u.update.event) (h.events u.kind)
  have howners : (((s.get u.kind).registry.registered u.update.event).map
      (fun x => x.owner)).count o =
        ((s.heldBy u.kind o).map (fun x => x.event)).count u.update.event := by
    simp only [Registry.registered, heldBy, List.count, List.countP_map, List.countP_filter]
    refine List.countP_congr fun x _ => ?_
    simp [and_comm]
  unfold write Signal.write
  by_cases hsame : (s.get u.kind).reading.apply u.update = (s.get u.kind).reading
  · simp [hsame]
  · simp only [hsame, if_false, ne_eq, not_false_eq_true, true_and]
    rw [howners, hevents]
    split
    · cases u.update.event <;> rfl
    · rfl

end Sources

end ModemWatch
