import ModemWatch.Proofs.Lagging

/-!
# Subscribing before looking

Whoever wants to follow the signals subscribes first and then takes a snapshot.  What is written
between the two is in the snapshot and comes through the channel as well, so that such news, stored
in the snapshot, may put an older value back in the place of a newer one.  This does not last.  The
last news of a field is about the last change of it, and by that time the listener had subscribed.

So two things have to be seen.  While a listener subscribes, all that has come through its channel
agrees with the signals as they are now: hearing it again leaves them as they are.  From the
snapshot on, the snapshot together with the channel is what the signals show.

* `Audience` — the signals and those who listen to them; `Audience.run` — a row of events;
* `Audience.step_cases` — what an event does;
* `Reading.foldl_apply_apply` — of a field only the last news counts;
* `Audience.Agrees`, `Audience.Follows` — before the snapshot and after it, kept by every event;
* `Audience.subscribing_first_misses_nothing` — what a listener knows in the end.
-/

namespace ModemWatch

/-! ## The last news of a field -/

namespace Reading

variable {σ : Type}

/-- **What is overwritten in the end might as well not have been there at first.** -/
theorem foldl_apply_apply (us : List (Update σ)) (r : Reading σ) (u : Update σ) :
    (us.foldl apply (r.apply u)).apply u = (us.foldl apply r).apply u := by
  induction us generalizing r with
  | nil => exact apply_apply_of_event rfl
  | cons v us ih =>
      rw [List.foldl_cons, List.foldl_cons]
      by_cases hv : u.event = v.event
      · rw [apply_apply_of_event hv]
      · rw [apply_comm hv]
        exact ih (r.apply v)

/-- News of the other field can come before or after. -/
theorem foldl_apply_comm {us : List (Update σ)} {u : Update σ}
    (hus : ∀ v ∈ us, v.event ≠ u.event) (r : Reading σ) :
    us.foldl apply (r.apply u) = (us.foldl apply r).apply u := by
  induction us generalizing r with
  | nil => rfl
  | cons v us ih =>
      have hv : u.event ≠ v.event := (hus v List.mem_cons_self).symm
      rw [List.foldl_cons, List.foldl_cons, apply_comm hv]
      exact ih (fun w hw => hus w (List.mem_cons_of_mem _ hw)) (r.apply v)

/-- News that come several times are as good as coming once. -/
theorem foldl_replicate_apply {n : Nat} (hn : 0 < n) (r : Reading σ) (u : Update σ) :
    (List.replicate n u).foldl apply r = r.apply u := by
  obtain ⟨n, rfl⟩ : ∃ m, n = m + 1 := Nat.exists_eq_add_one.mpr hn
  rw [List.replicate_succ, List.foldl_cons]
  clear hn
  induction n with
  | zero => rfl
  | succ n ih => rw [List.replicate_succ, List.foldl_cons, apply_apply_of_event rfl, ih]

end Reading

/-! ## Registering handlers one by one -/

namespace Sources

variable {κ : Type} {s : Sources κ} {kind : SignalKind} {owner : κ}

/-- Handlers that are registered stay so when others register. -/
theorem mem_subscribeTo_of_mem {k : SignalKind} {h : Handler κ} (events : List SignalEvent)
    (hh : h ∈ (s.get k).registry.handlers) :
    h ∈ ((subscribeTo kind owner events s).2.get k).registry.handlers := by
  induction events generalizing s with
  | nil => exact hh
  | cons event events ih =>
      refine ih ?_
      by_cases hk : k = kind
      · subst hk
        rw [get_set_self]
        exact List.mem_append_left _ hh
      · rwa [get_set_ne _ _ hk]

/-- A handler that is new belongs to whoever registers, and is handed to it. -/
theorem mem_of_mem_subscribeTo {k : SignalKind} {h : Handler κ} {events : List SignalEvent}
    (hh : h ∈ ((subscribeTo kind owner events s).2.get k).registry.handlers) :
    h ∈ (s.get k).registry.handlers ∨
      h.owner = owner ∧ ⟨k, h.id⟩ ∈ (subscribeTo kind owner events s).1 := by
  induction events generalizing s with
  | nil => exact .inl hh
  | cons event events ih =>
      rcases ih hh with hold | ⟨howner, hmem⟩
      · by_cases hk : k = kind
        · subst hk
          rw [get_set_self] at hold
          rcases List.mem_append.mp hold with hold | hnew
          · exact .inl hold
          · obtain rfl := List.mem_singleton.mp hnew
            exact .inr ⟨rfl, List.mem_cons_self⟩
        · rw [get_set_ne _ _ hk] at hold
          exact .inl hold
      · exact .inr ⟨howner, List.mem_cons_of_mem _ hmem⟩

/-- Every listed event gets a handler. -/
theorem exists_mem_subscribeTo {event : SignalEvent} {events : List SignalEvent}
    (hevent : event ∈ events) :
    ∃ h ∈ ((subscribeTo kind owner events s).2.get kind).registry.handlers,
      h.owner = owner ∧ h.event = event := by
  induction events generalizing s with
  | nil => cases hevent
  | cons first events ih =>
      rcases List.mem_cons.mp hevent with rfl | hevent
      · refine ⟨⟨(s.get kind).registry.nextId, event, owner⟩, ?_, rfl, rfl⟩
        refine mem_subscribeTo_of_mem events ?_
        rw [get_set_self]
        exact List.mem_append_right _ List.mem_cons_self
      · exact ih hevent

end Sources

/-! ## Signals and their listeners -/

/-- The signals and those who listen to them: what came through the channel of each listener, oldest
first, and the handlers that were handed to it. -/
structure Audience (κ : Type) where
  sources : Sources κ := {}
  channel : κ → List Message := fun _ => []
  held : κ → List Subscription := fun _ => []

namespace Audience

/-- Something that is done with the signals. -/
inductive Event (κ : Type) where
  | write (u : SignalUpdate)
  /-- Somebody registers a handler for each of the listed events of a signal.  A subscription to a
  signal lists both; the handlers may as well be registered one at a time. -/
  | subscribe (kind : SignalKind) (events : List SignalEvent) (owner : κ)
  | unsubscribe (sub : Subscription)

variable {κ : Type} [DecidableEq κ]

/-- The audience after an event.  A write reaches each listener by as many handlers as it calls of
that listener. -/
def step (a : Audience κ) : Event κ → Audience κ
  | .write u =>
    let (sources, owners) := a.sources.write u
    { a with
      sources := sources
      channel := fun o => a.channel o ++ List.replicate (owners.count o) (.signal u) }
  | .subscribe kind events owner =>
    let (subscriptions, sources) := Sources.subscribeTo kind owner events a.sources
    { a with
      sources := sources
      held := fun o => if o = owner then a.held o ++ subscriptions else a.held o }
  | .unsubscribe sub => { a with sources := a.sources.unsubscribe sub }

/-- The audience after a row of events. -/
def run (es : List (Event κ)) (a : Audience κ) : Audience κ := es.foldl step a

/-- A handler of a listener is registered for an event of a signal. -/
def Listens (o : κ) (k : SignalKind) (event : SignalEvent) (a : Audience κ) : Prop :=
  ∃ h ∈ (a.sources.get k).registry.handlers, h.owner = o ∧ h.event = event

/-- The news of a signal that came through the channel of a listener. -/
def updates (o : κ) (k : SignalKind) (a : Audience κ) : List (Update k.State) :=
  (a.channel o).filterMap (Message.update? k)

/-- What the signals show of one of them. -/
def reading (k : SignalKind) (a : Audience κ) : Reading k.State := (a.sources.get k).reading

variable {a : Audience κ} {o : κ} {k : SignalKind}

/-! ## What an event does -/

omit [DecidableEq κ] in
theorem get_snapshot (k : SignalKind) (a : Audience κ) :
    a.sources.snapshot.get k = a.reading k :=
  Sources.get_snapshot a.sources k

/-- Only a write to a signal changes what it shows. -/
theorem reading_step_of_quiet {e : Event κ} (he : ∀ u : SignalUpdate, u.kind = k → e ≠ .write u) :
    (a.step e).reading k = a.reading k := by
  rw [← get_snapshot, ← get_snapshot]
  cases e with
  | write u =>
      have hk : k ≠ u.kind := fun hk => he u hk.symm rfl
      exact (congrArg (Snapshot.get · k) (Sources.snapshot_write u a.sources)).trans
        (Snapshot.get_apply_ne _ hk)
  | subscribe kind events owner =>
      exact congrArg (Snapshot.get · k) (Sources.snapshot_subscribeTo kind owner events a.sources)
  | unsubscribe sub =>
      exact congrArg (Snapshot.get · k) (Sources.snapshot_unsubscribe a.sources sub)

/-- Only a write to a signal brings news of it. -/
theorem updates_step_of_quiet {e : Event κ} (he : ∀ u : SignalUpdate, u.kind = k → e ≠ .write u) :
    (a.step e).updates o k = a.updates o k := by
  cases e with
  | write u =>
      have hnone : Message.update? k (.signal u) = none := dif_neg fun hk => he u hk rfl
      rw [updates, step, List.filterMap_append, List.filterMap_replicate_of_none hnone,
        List.append_nil]
      rfl
  | subscribe | unsubscribe => rfl

theorem reading_write (u : SignalUpdate) (a : Audience κ) :
    (a.step (.write u)).reading u.kind = (a.reading u.kind).apply u.update := by
  rw [← get_snapshot, ← get_snapshot]
  exact (congrArg (Snapshot.get · u.kind) (Sources.snapshot_write u a.sources)).trans
    (Snapshot.get_apply_self _ u)

theorem updates_write (u : SignalUpdate) (a : Audience κ) :
    (a.step (.write u)).updates o u.kind =
      a.updates o u.kind ++ List.replicate ((a.sources.write u).2.count o) u.update := by
  have hsome : Message.update? u.kind (.signal u) = some u.update := dif_pos rfl
  rw [updates, step, List.filterMap_append, List.filterMap_replicate_of_some hsome]
  rfl

/-- Whom a write calls. -/
theorem count_write_pos_iff (u : SignalUpdate) (a : Audience κ) :
    0 < (a.sources.write u).2.count o ↔
      (a.reading u.kind).apply u.update ≠ a.reading u.kind ∧
        a.Listens o u.kind u.update.event := by
  rw [List.count_pos_iff, Listens, reading]
  unfold Sources.write Signal.write
  by_cases hsame : (a.sources.get u.kind).reading.apply u.update = (a.sources.get u.kind).reading
  · simp [hsame]
  · simp [hsame, Registry.registered, and_assoc, and_comm (a := _ = o)]

/-- The handlers of a listener are those that it was handed, perhaps less some. -/
def Handed (o : κ) (a : Audience κ) : Prop :=
  ∀ k, ∀ h ∈ (a.sources.get k).registry.handlers, h.owner = o → ⟨k, h.id⟩ ∈ a.held o

omit [DecidableEq κ] in
theorem handed_new (o : κ) : ({} : Audience κ).Handed o := by
  intro k h hh
  cases k <;> cases hh

theorem registry_write (u : SignalUpdate) (k : SignalKind) (a : Audience κ) :
    ((a.step (.write u)).sources.get k).registry = (a.sources.get k).registry := by
  unfold step Sources.write
  by_cases hk : k = u.kind
  · subst hk
    simp
  · simp [hk]

theorem Handed.step (hh : a.Handed o) (e : Event κ) : (a.step e).Handed o := by
  intro k h hmem howner
  cases e with
  | write u =>
      rw [registry_write] at hmem
      exact hh k h hmem howner
  | subscribe kind events owner =>
      simp only [Audience.step]
      rcases Sources.mem_of_mem_subscribeTo hmem with hold | ⟨hnew, hsub⟩
      · split
        · exact List.mem_append_left _ (hh k h hold howner)
        · exact hh k h hold howner
      · rw [if_pos (howner.symm.trans hnew)]
        exact List.mem_append_right _ hsub
  | unsubscribe sub =>
      have hfilter : h ∈ ((a.sources.unsubscribe sub).get k).registry.handlers := hmem
      rw [Sources.handlers_unsubscribe] at hfilter
      exact hh k h (List.mem_filter.mp hfilter).1 howner

/-- Who listens goes on listening, as long as nothing that it was handed is given back. -/
theorem Listens.step {event : SignalEvent} (hl : a.Listens o k event) (hh : a.Handed o)
    {e : Event κ} (he : ∀ sub ∈ a.held o, e ≠ .unsubscribe sub) :
    (a.step e).Listens o k event := by
  obtain ⟨h, hmem, howner, hevent⟩ := hl
  refine ⟨h, ?_, howner, hevent⟩
  cases e with
  | write u => rwa [registry_write]
  | subscribe kind events owner => exact Sources.mem_subscribeTo_of_mem events hmem
  | unsubscribe sub =>
      have hkept : (⟨k, h.id⟩ : Subscription) ≠ sub := fun hsub =>
        he sub (hsub ▸ hh k h hmem howner) rfl
      change h ∈ ((a.sources.unsubscribe sub).get k).registry.handlers
      rw [Sources.handlers_unsubscribe]
      exact List.mem_filter.mpr ⟨hmem, bne_iff_ne.mpr hkept⟩

/-- Whoever registers for some events listens to them. -/
theorem listens_subscribe {event : SignalEvent} {events : List SignalEvent}
    (hevent : event ∈ events) (a : Audience κ) :
    (a.step (.subscribe k events o)).Listens o k event :=
  Sources.exists_mem_subscribeTo hevent

/-- Through a row of events nothing is given back that a listener holds by then. -/
def Keeps (o : κ) : List (Event κ) → Audience κ → Prop
  | [], _ => True
  | e :: es, a => (∀ sub ∈ a.held o, e ≠ .unsubscribe sub) ∧ Keeps o es (a.step e)

theorem keeps_append {es es' : List (Event κ)} :
    Keeps o (es ++ es') a ↔ Keeps o es a ∧ Keeps o es' (a.run es) := by
  induction es generalizing a with
  | nil => simp [Keeps, run]
  | cons e es ih =>
      rw [List.cons_append, Keeps, Keeps, ih, and_assoc]
      rfl

/-- What every event keeps that takes nothing from a listener is kept by rows of them. -/
theorem run_induction {P : Audience κ → Prop} {es : List (Event κ)} (hes : Keeps o es a)
    (hstep : ∀ (a : Audience κ) (e : Event κ), (∀ sub ∈ a.held o, e ≠ .unsubscribe sub) →
      P a → P (a.step e)) (ha : P a) : P (a.run es) := by
  induction es generalizing a with
  | nil => exact ha
  | cons e es ih => exact ih hes.2 (hstep a e hes.1 ha)

/-! ## Before the snapshot -/

/-- What has come through a channel agrees with the signals: it is about things that the listener
listens to, and to store it once more would change nothing. -/
structure Agrees (o : κ) (a : Audience κ) : Prop where
  handed : a.Handed o
  listens : ∀ k, ∀ u ∈ a.updates o k, a.Listens o k u.event
  agrees : ∀ k, (a.updates o k).foldl Reading.apply (a.reading k) = a.reading k

omit [DecidableEq κ] in
theorem agrees_new (o : κ) : ({} : Audience κ).Agrees o where
  handed := handed_new o
  listens := fun _ _ hu => absurd hu List.not_mem_nil
  agrees := fun _ => rfl

/-- **What an event does to a signal and to a listener of it**: nothing, or it changes the signal,
and then the listener has news of the change exactly if it listens to such. -/
theorem step_cases (e : Event κ) (k : SignalKind) (o : κ) (a : Audience κ) :
    ((a.step e).reading k = a.reading k ∧ (a.step e).updates o k = a.updates o k) ∨
      ∃ u : Update k.State, (a.step e).reading k = (a.reading k).apply u ∧
        ((a.Listens o k u.event ∧
            ∃ n, 0 < n ∧ (a.step e).updates o k = a.updates o k ++ List.replicate n u) ∨
          (¬ a.Listens o k u.event ∧ (a.step e).updates o k = a.updates o k)) := by
  by_cases hquiet : ∀ u : SignalUpdate, u.kind = k → e ≠ .write u
  · exact .inl ⟨reading_step_of_quiet hquiet, updates_step_of_quiet hquiet⟩
  obtain ⟨u, rfl, rfl⟩ : ∃ u : SignalUpdate, u.kind = k ∧ e = .write u := by
    simpa using hquiet
  have hcount := count_write_pos_iff (o := o) u a
  rw [updates_write, reading_write]
  by_cases hn : 0 < (a.sources.write u).2.count o
  · exact .inr ⟨u.update, rfl, .inl ⟨(hcount.mp hn).2, _, hn, rfl⟩⟩
  · rw [Nat.eq_zero_of_not_pos hn, List.replicate_zero, List.append_nil]
    by_cases hl : a.Listens o u.kind u.update.event
    · have hunchanged : (a.reading u.kind).apply u.update = a.reading u.kind :=
        not_not.mp fun hne => hn (hcount.mpr ⟨hne, hl⟩)
      exact .inl ⟨hunchanged, rfl⟩
    · exact .inr ⟨u.update, rfl, .inr ⟨hl, rfl⟩⟩

/-- **Before the snapshot.**  Every event keeps a channel in agreement with the signals, if it
takes nothing from the listener. -/
theorem Agrees.step (ha : a.Agrees o) {e : Event κ} (he : ∀ sub ∈ a.held o, e ≠ .unsubscribe sub) :
    (a.step e).Agrees o := by
  refine ⟨ha.handed.step e, fun k v hv => ?_, fun k => ?_⟩
  · have hold : v ∈ a.updates o k → (a.step e).Listens o k v.event :=
      fun hv => (ha.listens k v hv).step ha.handed he
    rcases step_cases e k o a with ⟨-, hsame⟩ | ⟨u, -, ⟨hl, n, -, hmore⟩ | ⟨-, hsame⟩⟩
    · exact hold (hsame ▸ hv)
    · rcases List.mem_append.mp (hmore ▸ hv) with hv | hv
      · exact hold hv
      · obtain rfl := List.eq_of_mem_replicate hv
        exact hl.step ha.handed he
    · exact hold (hsame ▸ hv)
  · have hold := ha.agrees k
    rcases step_cases e k o a with
      ⟨hquiet, hsame⟩ | ⟨u, hwritten, ⟨-, n, hn, hmore⟩ | ⟨hdeaf, hsame⟩⟩
    · rw [hquiet, hsame, hold]
    · -- the news of the change come last, so what it replaced no longer matters
      rw [hmore, hwritten, List.foldl_append, Reading.foldl_replicate_apply hn,
        Reading.foldl_apply_apply, hold]
    · -- the channel has no news of this field, so the change goes past all of it
      have hother : ∀ v ∈ a.updates o k, v.event ≠ u.event := fun v hv hev =>
        hdeaf (hev ▸ ha.listens k v hv)
      rw [hsame, hwritten, Reading.foldl_apply_comm hother, hold]

/-! ## After the snapshot -/

/-- A snapshot together with the channel is what a signal shows, and the listener listens to all of
the signal. -/
structure Follows (o : κ) (k : SignalKind) (snapshot : Snapshot) (a : Audience κ) : Prop where
  handed : a.Handed o
  listens : ∀ event, a.Listens o k event
  follows : (a.updates o k).foldl Reading.apply (snapshot.get k) = a.reading k

/-- **After the snapshot.**  Every event keeps a snapshot with the channel up to date, if it takes
nothing from the listener. -/
theorem Follows.step {snapshot : Snapshot} (ha : a.Follows o k snapshot) {e : Event κ}
    (he : ∀ sub ∈ a.held o, e ≠ .unsubscribe sub) : (a.step e).Follows o k snapshot := by
  refine ⟨ha.handed.step e, fun event => (ha.listens event).step ha.handed he, ?_⟩
  rcases step_cases e k o a with
    ⟨hquiet, hsame⟩ | ⟨u, hwritten, ⟨-, n, hn, hmore⟩ | ⟨hdeaf, -⟩⟩
  · rw [hquiet, hsame, ha.follows]
  · rw [hmore, hwritten, List.foldl_append, Reading.foldl_replicate_apply hn, ha.follows]
  · exact absurd (ha.listens u.event) hdeaf

omit [DecidableEq κ] in
/-- A snapshot that is taken while the channel agrees with the signals is a good one to start
with. -/
theorem Agrees.follows (ha : a.Agrees o) (hl : ∀ event, a.Listens o k event) :
    a.Follows o k a.sources.snapshot := by
  refine ⟨ha.handed, hl, ?_⟩
  rw [get_snapshot]
  exact ha.agrees k

/-- Who has registered for an event listens to it, if nothing was given back since. -/
theorem listens_run {event : SignalEvent} {events : List SignalEvent} {es : List (Event κ)}
    (hes : Keeps o es a) (hh : a.Handed o) (hevent : event ∈ events)
    (hmem : .subscribe k events o ∈ es) : (a.run es).Listens o k event := by
  obtain ⟨before, after, rfl⟩ := List.append_of_mem hmem
  obtain ⟨hbefore, -, hafter⟩ := keeps_append.mp hes
  have hhanded : (a.run before).Handed o :=
    run_induction hbefore (fun a e _ (ha : a.Handed o) => ha.step e) hh
  have hrun : a.run (before ++ .subscribe k events o :: after) =
      ((a.run before).step (.subscribe k events o)).run after := by
    rw [run, List.foldl_append, List.foldl_cons]
    rfl
  rw [hrun]
  refine (run_induction (P := fun a => a.Handed o ∧ a.Listens o k event) hafter ?_
    ⟨hhanded.step _, listens_subscribe hevent _⟩).2
  rintro a e he ⟨hh, hl⟩
  exact ⟨hh.step e, hl.step hh he⟩

/-- **Subscribing first misses nothing.**  Take any row of events, and a listener that is not given
up by any of them; other listeners may come and go, and anything may be written at any time.  The
listener takes a snapshot in between, and by then it has registered for both events of a signal.
All that has come through its channel, that from before the snapshot included, stored in order into
the snapshot gives what the signal shows in the end. -/
theorem subscribing_first_misses_nothing {early late : List (Event κ)}
    (hkept : Keeps o (early ++ late) {})
    (hearly : ∀ event, ∃ events, event ∈ events ∧ .subscribe k events o ∈ early) :
    (((run (early ++ late) {}).channel o).foldl Snapshot.hear (run early {}).sources.snapshot).get k
      = (run (early ++ late) {}).sources.snapshot.get k := by
  obtain ⟨hbefore, hafter⟩ := keeps_append.mp hkept
  have hagrees : (run early {}).Agrees o :=
    run_induction hbefore (fun a e he (ha : a.Agrees o) => ha.step he) (agrees_new o)
  have hlistens : ∀ event, (run early {}).Listens o k event := by
    intro event
    obtain ⟨events, hevent, hmem⟩ := hearly event
    exact listens_run hbefore (handed_new o) hevent hmem
  have hfollows : ((run early {}).run late).Follows o k (run early {}).sources.snapshot :=
    run_induction hafter
      (fun a e he (ha : a.Follows o k (run early {}).sources.snapshot) => ha.step he)
      (hagrees.follows hlistens)
  have hrun : run (early ++ late) {} = (run early {} : Audience κ).run late := List.foldl_append
  rw [hrun, Snapshot.get_foldl_hear, get_snapshot k ((run early {}).run late)]
  exact hfollows.follows

/-- Between subscribing and looking the display comes on and goes off again, and another listener
comes and goes.  The first of the news puts the old state back in the place of the new one, as if
the display were on; when all are in, the listener is right again. -/
theorem subscribing_first_misses_nothing_of_flicker :
    let early : List (Event Nat) :=
      [.write ⟨.display, .valid true⟩,
       .subscribe .battery SignalEvent.all 0,
       .subscribe .display SignalEvent.all 0,
       .subscribe .display [.stateChanged] 1,
       .write ⟨.display, .state .on⟩,
       .unsubscribe ⟨.display, 3⟩,
       .write ⟨.display, .state .off⟩]
    let late : List (Event Nat) :=
      [.write ⟨.charger, .state .on⟩, .write ⟨.display, .state .dim⟩]
    let snapshot := (run early {}).sources.snapshot
    let heard := (run (early ++ late) {}).channel 0
    heard =
        [.signal ⟨.display, .state .on⟩, .signal ⟨.display, .state .off⟩,
          .signal ⟨.display, .state .dim⟩] ∧
      snapshot.get .display = ⟨true, .off⟩ ∧
      ((heard.take 1).foldl Snapshot.hear snapshot).get .display = ⟨true, .on⟩ ∧
      (heard.foldl Snapshot.hear snapshot).get .display =
        (run (early ++ late) {}).sources.snapshot.get .display := by
  intro early late snapshot heard
  have hkept : Keeps 0 (early ++ late) {} := by
    refine ⟨?_, ?_, ?_, ?_, ?_, ?_, ?_, ?_, ?_, trivial⟩ <;> rintro sub hsub ⟨⟩
    exact absurd hsub (by decide)
  have hearly (event : SignalEvent) :
      ∃ events, event ∈ events ∧ .subscribe .display events 0 ∈ early :=
    ⟨SignalEvent.all, by cases event <;> decide, by simp [early]⟩
  exact ⟨rfl, rfl, rfl, subscribing_first_misses_nothing hkept hearly⟩

end Audience

end ModemWatch
