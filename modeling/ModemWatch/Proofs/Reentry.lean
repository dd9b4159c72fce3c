import Mathlib.Data.List.Induction
import ModemWatch.Device.Signal

/-!
# Handlers that come and go while handlers run

A handler that runs may register further handlers on the signal that called it, and it may remove
any, itself and those whose turn is still to come included.  None of that reaches the dispatch that
is under way.  Whom a write calls is settled when the write begins; what the handlers change shows
in the next one.

All that ever happens to a registry is one row of changes, some made from outside and some by
handlers that run.  Of this row the registry keeps what was subscribed and not removed since; the
numbers are those of the subscriptions in the row.

* `Registry.Standing` — a subscription of a row that nothing behind it removes;
* `Registry.mem_handlers_iff`, `Registry.rising_foldl` — who is registered after a row of changes,
  and in which order;
* `Signal.dispatch_eq` — a dispatch, whatever the handlers do;
* `Signal.history`, `Signal.registry_after` — the changes of a whole run, in one row;
* `Signal.dispatch_calls_registered` — whom the writes of a run call.
-/

namespace ModemWatch

namespace Registry

variable {κ : Type}

/-! ## A row of changes -/

/-- The change registers a handler. -/
def Change.isSubscribe : Change κ → Bool
  | .subscribe .. => true
  | .unsubscribe _ => false

/-- The number of subscriptions in a row of changes. -/
def subscriptions (log : List (Change κ)) : Nat := log.countP Change.isSubscribe

/-- A handler that a row of changes registered, under the number of its subscription in the row, and
that nothing behind it removed. -/
def Standing (log : List (Change κ)) (h : Handler κ) : Prop :=
  ∃ before since, log = before ++ .subscribe h.event h.owner :: since ∧
    h.id = subscriptions before + 1 ∧ .unsubscribe h.id ∉ since

/-- A registered handler was removed after it had been registered. -/
def Removed (log : List (Change κ)) (id : HandlerId) : Prop :=
  ∃ before since, log = before ++ .unsubscribe id :: since ∧ id ≤ subscriptions before

variable {log more : List (Change κ)} {h : Handler κ}

theorem subscriptions_append (log more : List (Change κ)) :
    subscriptions (log ++ more) = subscriptions log + subscriptions more :=
  List.countP_append

/-- The next number after a row of changes. -/
theorem nextId_foldl (log : List (Change κ)) :
    (log.foldl change {}).nextId = subscriptions log + 1 := by
  induction log using List.reverseRecOn with
  | nil => rfl
  | append_singleton log c ih =>
      rw [List.foldl_append, List.foldl_cons, List.foldl_nil, subscriptions_append]
      cases c with
      | subscribe event owner => exact congrArg (· + 1) ih
      | unsubscribe id => exact ih

/-- Who stands when one more change comes. -/
theorem standing_concat {c : Change κ} :
    Standing (log ++ [c]) h ↔
      Standing log h ∧ c ≠ .unsubscribe h.id ∨
        c = .subscribe h.event h.owner ∧ h.id = subscriptions log + 1 := by
  constructor
  · intro hstands
    obtain ⟨before, since, hlog, hid, hkept⟩ := hstands
    rcases List.eq_nil_or_concat since with rfl | ⟨since, last, rfl⟩
    · obtain ⟨rfl, hc⟩ := List.append_inj' hlog rfl
      exact .inr ⟨List.singleton_inj.mp hc, hid⟩
    · have hsplit : log ++ [c] = (before ++ .subscribe h.event h.owner :: since) ++ [last] := by
        simpa using hlog
      obtain ⟨rfl, hc⟩ := List.append_inj' hsplit rfl
      obtain rfl := List.singleton_inj.mp hc
      refine .inl ⟨⟨before, since, rfl, hid, fun hm => hkept (by simp [hm])⟩, ?_⟩
      intro hc
      exact hkept (by simp [hc])
  · intro hcases
    rcases hcases with ⟨⟨before, since, hlog, hid, hkept⟩, hc⟩ | ⟨hc, hid⟩
    · refine ⟨before, since ++ [c], by simp [hlog], hid, ?_⟩
      intro hm
      rcases List.mem_append.mp hm with hm | hm
      · exact hkept hm
      · exact hc (List.mem_singleton.mp hm).symm
    · exact ⟨log, [], by rw [hc], hid, List.not_mem_nil⟩

/-- **Who is registered**: whoever a row of changes registered and did not remove since. -/
theorem mem_handlers_iff (log : List (Change κ)) (h : Handler κ) :
    h ∈ (log.foldl change {}).handlers ↔ Standing log h := by
  induction log using List.reverseRecOn with
  | nil =>
      simp [Standing]
  | append_singleton log c ih =>
      rw [List.foldl_append, List.foldl_cons, List.foldl_nil, standing_concat, ← ih]
      cases c with
      | subscribe event owner =>
          obtain ⟨id, e, o⟩ := h
          simp only [change, handlers_subscribe, List.mem_append, List.mem_singleton, nextId_foldl]
          grind
      | unsubscribe id =>
          simp only [change, mem_unsubscribe]
          grind

/-- The handlers stand in the order in which they registered, and each has a number of its own. -/
theorem rising_foldl (log : List (Change κ)) :
    ((log.foldl change {}).handlers.map (fun h => h.id)).Pairwise (fun a b => a < b) := by
  induction log using List.reverseRecOn with
  | nil => exact List.Pairwise.nil
  | append_singleton log c ih =>
      rw [List.foldl_append, List.foldl_cons, List.foldl_nil]
      cases c with
      | unsubscribe id => exact ih.sublist (List.filter_sublist.map _)
      | subscribe event owner =>
          rw [change, handlers_subscribe, List.map_append, List.pairwise_append]
          refine ⟨ih, List.pairwise_singleton _ _, ?_⟩
          intro a ha b hb
          obtain ⟨x, hx, rfl⟩ := List.mem_map.mp ha
          obtain rfl := List.mem_singleton.mp hb
          -- a handler has the number of a subscription in the row, and that comes before the next
          obtain ⟨before, since, hlog, hid, -⟩ := (mem_handlers_iff log x).mp hx
          rw [nextId_foldl, hid, hlog, subscriptions_append, subscriptions, subscriptions,
            List.countP_cons_of_pos rfl]
          exact Nat.succ_lt_succ (by omega)

/-- A handler that was removed does not stand any more. -/
theorem Removed.ne_of_standing {id : HandlerId} (hr : Removed log id) (hs : Standing log h) :
    h.id ≠ id := by
  intro heq
  obtain ⟨before, since, hlog, hid, hkept⟩ := hs
  obtain ⟨before', since', hlog', hle⟩ := hr
  -- the removal names a number given out before it, so it would be behind the subscription
  rw [hlog] at hlog'
  rcases List.append_eq_append_iff.mp hlog' with ⟨mid, hmid, hrest⟩ | ⟨mid, hmid, -⟩
  · rcases mid with - | ⟨c, mid⟩
    · cases hrest
    · rw [List.cons_append, List.cons.injEq] at hrest
      exact hkept (by rw [hrest.2, heq]; simp)
  · have hlate : id ≤ subscriptions before := by
      rw [hmid, subscriptions_append]
      exact Nat.le_add_right_of_le hle
    rw [← heq, hid] at hlate
    exact Nat.not_succ_le_self _ hlate

end Registry

namespace Signal

variable {σ κ : Type} [DecidableEq σ]

/-- What handlers that run do to the registry of their signal. -/
abbrev Reaction (σ κ : Type) := κ → Update σ → Signal σ κ → List (Registry.Change κ)

/-- The changes that handlers make, one handler after the other. -/
def changesOf (react : Reaction σ κ) (u : Update σ) :
    List κ → Signal σ κ → List (Registry.Change κ)
  | [], _ => []
  | owner :: owners, s =>
    let log := react owner u s
    log ++ changesOf react u owners { s with registry := log.foldl Registry.change s.registry }

/-- The handlers that a write calls. -/
def callees (u : Update σ) (s : Signal σ κ) : List (Handler κ) :=
  if s.reading.apply u = s.reading then [] else s.registry.registered u.event

omit [DecidableEq σ] in
/-- Handlers that run see the reading as it is, and leave it. -/
theorem foldl_call (react : Reaction σ κ) (u : Update σ) (owners : List κ) (s : Signal σ κ)
    (calls : List (Call σ κ)) :
    owners.foldl (call react u) (s, calls) =
      ({ s with registry := (changesOf react u owners s).foldl Registry.change s.registry },
        calls ++ owners.map (fun owner => ⟨owner, u, s.reading⟩)) := by
  induction owners generalizing s calls with
  | nil => simp [changesOf]
  | cons owner owners ih =>
      rw [List.foldl_cons, call, ih, changesOf, List.foldl_append, List.map_cons,
        List.append_assoc]
      rfl

theorem write_eq (u : Update σ) (s : Signal σ κ) :
    s.write u = ({ s with reading := s.reading.apply u },
      (s.callees u).map (fun h => h.owner)) := by
  unfold write callees
  by_cases hsame : s.reading.apply u = s.reading
  · rw [if_pos hsame, if_pos hsame, hsame]
    rfl
  · rw [if_neg hsame, if_neg hsame]

/-- **A dispatch calls those who were registered when it began**, whatever they do. -/
theorem dispatch_eq (react : Reaction σ κ) (u : Update σ) (s : Signal σ κ) :
    s.dispatch react u =
      ({ reading := s.reading.apply u
         registry := (changesOf react u (s.write u).2 (s.write u).1).foldl Registry.change
          s.registry },
        (s.callees u).map (fun h => ⟨h.owner, u, s.reading.apply u⟩)) := by
  have hrun := foldl_call react u (s.write u).2 (s.write u).1 []
  rw [write_registry, write_reading, List.nil_append] at hrun
  refine hrun.trans ?_
  rw [write_eq, List.map_map]
  rfl

/-- Something that is done to a signal from outside. -/
inductive Deed (σ κ : Type) where
  | subscribe (event : SignalEvent) (owner : κ)
  | unsubscribe (id : HandlerId)
  /-- A write, and what the handlers that it calls do. -/
  | write (u : Update σ) (react : Reaction σ κ)

/-- The signal after a deed. -/
def deed (s : Signal σ κ) : Deed σ κ → Signal σ κ
  | .subscribe event owner => (s.subscribe event owner).2
  | .unsubscribe id => s.unsubscribe id
  | .write u react => (s.dispatch react u).1

/-- The signal after a row of deeds. -/
def after (deeds : List (Deed σ κ)) (s : Signal σ κ) : Signal σ κ := deeds.foldl deed s

/-- The changes of the registry that come with a deed. -/
def changes (s : Signal σ κ) : Deed σ κ → List (Registry.Change κ)
  | .subscribe event owner => [.subscribe event owner]
  | .unsubscribe id => [.unsubscribe id]
  | .write u react => changesOf react u (s.write u).2 (s.write u).1

/-- All changes of the registry along a row of deeds, those of handlers included. -/
def history : List (Deed σ κ) → Signal σ κ → List (Registry.Change κ)
  | [], _ => []
  | d :: deeds, s => s.changes d ++ history deeds (s.deed d)

theorem registry_deed (s : Signal σ κ) (d : Deed σ κ) :
    (s.deed d).registry = (s.changes d).foldl Registry.change s.registry := by
  cases d with
  | subscribe event owner => rfl
  | unsubscribe id => rfl
  | write u react => rw [deed, dispatch_eq, changes]

/-- **The registry is what the changes of all deeds have made of it.** -/
theorem registry_after (deeds : List (Deed σ κ)) (s : Signal σ κ) :
    (s.after deeds).registry = (history deeds s).foldl Registry.change s.registry := by
  induction deeds generalizing s with
  | nil => rfl
  | cons d deeds ih =>
      rw [history, List.foldl_append, ← registry_deed]
      exact ih (s.deed d)

/-- A handler that is registered before a row of deeds and not removed along it is registered after
it. -/
theorem mem_after {h : Handler κ} {deeds : List (Deed σ κ)} {s : Signal σ κ}
    (hh : h ∈ s.registry.handlers) (hkept : .unsubscribe h.id ∉ history deeds s) :
    h ∈ (s.after deeds).registry.handlers := by
  rw [registry_after]
  generalize history deeds s = log at hkept
  generalize s.registry = r at hh
  induction log generalizing r with
  | nil => exact hh
  | cons c log ih =>
      rw [List.mem_cons, not_or] at hkept
      refine ih hkept.2 _ ?_
      cases c with
      | subscribe event owner => exact List.mem_append_left _ hh
      | unsubscribe id => exact Registry.mem_unsubscribe.mpr ⟨hh, fun heq => hkept.1 (by rw [heq])⟩

theorem mem_callees {h : Handler κ} {u : Update σ} {s : Signal σ κ} :
    h ∈ s.callees u ↔ s.reading.apply u ≠ s.reading ∧ h ∈ s.registry.handlers ∧
      h.event = u.event := by
  unfold callees
  split
  · next hsame => simp [hsame]
  · next hnews => simp [hnews, Registry.registered]

/-- **Whom the writes of a run call.**  Take a new signal and any row of subscriptions, removals and
writes, where the handlers that a write calls may register and remove handlers in turn.  In the end
those are registered who were and have not been removed since, in the order of their numbers, and a
number is that of a subscription among all of them, so none is given out twice.

A write that does not change the reading does nothing.  Any other write stores the new reading and
calls those who are registered for its event when it begins, in their order and once each; each
finds the update and the new reading, whatever the handlers do.  Who has been removed before is not
among them.  Who is registered while the handlers run is not either, and is called by the later
writes of its event that change the reading, the next one first, until it is removed. -/
theorem dispatch_calls_registered (state : σ) (deeds : List (Deed σ κ)) :
    let s : Signal σ κ := (new state).after deeds
    let log := history deeds (new state)
    (∀ h, h ∈ s.registry.handlers ↔ Registry.Standing log h) ∧
    (s.registry.handlers.map (fun h => h.id)).Pairwise (fun a b => a < b) ∧
    (∀ event owner, (s.subscribe event owner).1 = Registry.subscriptions log + 1) ∧
    ∀ (u : Update σ) (react : Reaction σ κ),
      (s.reading.apply u = s.reading → s.dispatch react u = (s, [])) ∧
      (s.reading.apply u ≠ s.reading →
        (s.dispatch react u).1.reading = s.reading.apply u ∧
        s.callees u = s.registry.registered u.event ∧
        (s.dispatch react u).2 =
          (s.callees u).map (fun h => ⟨h.owner, u, s.reading.apply u⟩)) ∧
      (∀ id, Registry.Removed log id → ∀ h ∈ s.callees u, h.id ≠ id) ∧
      ∀ h ∈ (s.dispatch react u).1.registry.handlers, h ∉ s.registry.handlers →
        h ∉ s.callees u ∧
        ∀ (more : List (Deed σ κ)) (v : Update σ), v.event = h.event →
          let s' := (s.dispatch react u).1.after more
          s'.reading.apply v ≠ s'.reading →
          .unsubscribe h.id ∉ history more (s.dispatch react u).1 → h ∈ s'.callees v := by
  intro s log
  have hregistry : s.registry = log.foldl Registry.change {} := registry_after deeds (new state)
  have hstanding : ∀ h, h ∈ s.registry.handlers ↔ Registry.Standing log h := by
    intro h
    rw [hregistry]
    exact Registry.mem_handlers_iff log h
  refine ⟨hstanding, ?_, ?_, fun u react => ⟨?_, ?_, ?_, ?_⟩⟩
  · rw [hregistry]
    exact Registry.rising_foldl log
  · intro event owner
    refine Eq.trans ?_ (Registry.nextId_foldl log)
    rw [← hregistry]
    rfl
  · intro hsame
    rw [dispatch, write_of_unchanged hsame]
    rfl
  · intro hnews
    rw [dispatch_eq, callees, if_neg hnews]
    exact ⟨rfl, rfl, rfl⟩
  · intro id hremoved h hcalled
    exact hremoved.ne_of_standing ((hstanding h).mp (mem_callees.mp hcalled).2.1)
  · intro h hnew hold
    refine ⟨fun hcalled => hold (mem_callees.mp hcalled).2.1, ?_⟩
    intro more v hevent s' hnews hkept
    exact mem_callees.mpr ⟨hnews, mem_after hnew hkept, hevent.symm⟩

/-- Called for the first time, the first of two handlers removes both and registers a third. -/
def quits : Reaction Bool String := fun owner _ _ =>
  if owner = "first" then
    [.unsubscribe 2, .unsubscribe 1, .subscribe .stateChanged "third"]
  else []

/-- Two handlers wait for a change of the state, and one for a change of the validity. -/
def threeHandlers : List (Deed Bool String) :=
  [.subscribe .stateChanged "first", .subscribe .stateChanged "second",
    .subscribe .validChanged "other"]

/-- The second handler is called all the same, and the third one is not, until the next change; by
then the other two are gone. -/
theorem dispatch_calls_registered_of_quitter :
    let s : Signal Bool String := (new false).after threeHandlers
    let s' := (s.dispatch quits (.state true)).1
    s.dispatch quits (.state false) = (s, []) ∧
    (s.dispatch quits (.state true)).2.map (fun call => (call.owner, call.seen)) =
      [("first", ⟨false, true⟩), ("second", ⟨false, true⟩)] ∧
    (⟨4, .stateChanged, "third"⟩ : Handler String) ∈ s'.callees (.state false) ∧
    ∀ h ∈ s'.callees (.state false), h.id ≠ 2 := by
  intro s s'
  obtain ⟨-, -, -, hwrites⟩ := dispatch_calls_registered false threeHandlers
  obtain ⟨hsame, hcalls, -, hlater⟩ := hwrites (.state true) quits
  obtain ⟨-, -, hcalled⟩ := hcalls (by decide)
  refine ⟨(hwrites (.state false) quits).1 rfl, ?_, ?_, ?_⟩
  · rw [hcalled]
    rfl
  · exact (hlater ⟨4, .stateChanged, "third"⟩ (by decide) (by decide)).2 [] (.state false) rfl
      (by decide) List.not_mem_nil
  · obtain ⟨-, -, -, hagain⟩ :=
      dispatch_calls_registered false (threeHandlers ++ [.write (.state true) quits])
    refine (hagain (.state false) quits).2.2.1 2 ?_
    exact ⟨history threeHandlers (new false), [.unsubscribe 1, .subscribe .stateChanged "third"],
      rfl, by decide⟩

end Signal

end ModemWatch
