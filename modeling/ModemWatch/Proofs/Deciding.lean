import Mathlib.Data.List.Nodup
import ModemWatch.Session.Tracker

/-!
# What a tracker records

A tracker wants a value sent only when it differs from the last one that the same source of
decisions recorded, and it records the value at the same moment.  So after any step the record of a
class is the last value that the step wanted sent, or still the old record if it wanted none sent.
The two sources of decisions keep separate records; a step of one never touches the record of the
other.

* `DecisionSet.get_revise` — the record of a class after a list of values, by what was news;
* `Tracker.Recorded` — records and wishes of a step agree; `Tracker.recorded_handle` — they do for
  every message;
* `Tracker.Current` — the record of the signals is what the rules say of the signals as last heard
  of; `Tracker.Current.handle` — so it stays;
* `Tracker.cls_mem_of_handle` — a step sends values of the tracker's own classes only.
-/

namespace ModemWatch

section Latest

variable {α β : Type}

/-- The last element of a list that has a property. -/
def latest (p : α → Bool) (l : List α) : Option α := l.reverse.find? p

@[simp] theorem latest_nil (p : α → Bool) : latest p [] = none := rfl

theorem latest_append (p : α → Bool) (l m : List α) :
    latest p (l ++ m) = (latest p m).or (latest p l) := by
  simp [latest, List.find?_append]

theorem latest_cons (p : α → Bool) (x : α) (l : List α) :
    latest p (x :: l) = (latest p l).or (if p x then some x else none) := by
  rw [← List.singleton_append, latest_append]
  cases h : p x <;> simp [latest, h]

theorem latest_map (f : α → β) (p : β → Bool) (l : List α) :
    latest p (l.map f) = (latest (fun x => p (f x)) l).map f := by
  simp only [latest, ← List.map_reverse, List.find?_map]
  rfl

theorem latest_eq_none_iff {p : α → Bool} {l : List α} :
    latest p l = none ↔ ∀ x ∈ l, p x = false := by
  simp [latest]

theorem prop_of_latest {p : α → Bool} {l : List α} {x : α} (h : latest p l = some x) :
    p x = true :=
  List.find?_some h

end Latest

namespace DecisionSet

variable {d : DecisionSet} {c : RequestClass} {value : Bool}

theorem revise_cons_of_same (h : d.get c = some value) (rest : List (RequestClass × Bool)) :
    revise ((c, value) :: rest) d = revise rest d := by
  have hset : d.set c (some value) = d := by rw [← h, ByClass.set_get_self]
  simp [revise, update, h, hset]

theorem revise_cons_of_news (h : d.get c ≠ some value) (rest : List (RequestClass × Bool)) :
    revise ((c, value) :: rest) d =
      ((revise rest (d.set c (some value))).1,
        (c, value) :: (revise rest (d.set c (some value))).2) := by
  simp [revise, update, h]

/-- **News and records agree.**  The record of a class is the last news of it, or the old record if
there were none. -/
theorem get_revise (values : List (RequestClass × Bool)) (d : DecisionSet) (c : RequestClass) :
    (revise values d).1.get c =
      ((latest (fun v => v.1 == c) (revise values d).2).map (fun v => v.2)).or (d.get c) := by
  induction values generalizing d with
  | nil => rfl
  | cons v rest ih =>
      obtain ⟨e, value⟩ := v
      by_cases hnews : d.get e = some value
      · rw [revise_cons_of_same hnews, ih]
      · rw [revise_cons_of_news hnews, ih, latest_cons, ByClass.get_set]
        by_cases hc : c = e
        · subst hc
          cases latest (fun v => v.1 == c) (revise rest (d.set c (some value))).2 <;> simp
        · rw [if_neg hc, if_neg (by simpa using Ne.symm hc), Option.or_none]

/-- What is on record after the assumptions of some rules was there before, or is what one of the
rules assumes. -/
theorem get_of_assumed {α : Type} {cls : α → RequestClass} {initial : α → Option Bool}
    {rules : List α}
    (h : (rules.foldl (fun d r => match initial r with
      | none => d
      | some value => d.assume (cls r) value) d).get c = some value) :
    d.get c = some value ∨ ∃ r ∈ rules, cls r = c ∧ initial r = some value := by
  induction rules generalizing d with
  | nil => exact .inl h
  | cons r rules ih =>
      rcases ih h with hd | ⟨q, hq, hassumed⟩
      · cases hr : initial r with
        | none =>
            simp only [hr] at hd
            exact .inl hd
        | some assumed =>
            simp only [hr, assume, ByClass.get_set] at hd
            by_cases hc : c = cls r
            · rw [if_pos hc] at hd
              exact .inr ⟨r, List.mem_cons_self, hc.symm, hr.trans hd⟩
            · rw [if_neg hc] at hd
              exact .inl hd
      · exact .inr ⟨q, List.mem_cons_of_mem _ hq, hassumed⟩

end DecisionSet

/-- The value that an action sends. -/
def Action.attempt? : Action → Option Attempt
  | .attempt a => some a
  | .push _ | .unwatch _ => none

/-- The values that a list of actions sends, in order. -/
def Action.sends (actions : List Action) : List Attempt := actions.filterMap Action.attempt?

/-- The last value of a class that a list of actions sends. -/
def Action.lastSend (c : RequestClass) (actions : List Action) : Option Attempt :=
  latest (fun a => a.cls == c) (Action.sends actions)

theorem Action.sends_attempts (o : Origin) (news : List (RequestClass × Bool)) (ms : Millis) :
    Action.sends (Action.attempts o news ++ [.push ms]) =
      news.map (fun v => ⟨o, v.1, v.2⟩) := by
  simp [Action.sends, Action.attempts, Action.attempt?, List.filterMap_map, Function.comp_def]

theorem Action.lastSend_attempts (o : Origin) (news : List (RequestClass × Bool)) (ms : Millis)
    (c : RequestClass) :
    Action.lastSend c (Action.attempts o news ++ [.push ms]) =
      (latest (fun v => v.1 == c) news).map (fun v => ⟨o, v.1, v.2⟩) := by
  rw [Action.lastSend, Action.sends_attempts, latest_map]

/-- What a snapshot becomes by a message. -/
def Snapshot.hear (s : Snapshot) (m : Message) : Snapshot :=
  match m with
  | .signal u => s.apply u
  | .completed .. | .screenChanged | .watchFailed _ => s

/-- A profile draws one decision from polling for each class. -/
theorem Profile.pollClasses_nodup (v : Variant) :
    (v.profile.pollRules.map (fun q => q.cls)).Nodup := by
  cases v <;> decide

namespace Tracker

/-- The last value that a source of decisions recorded for a class. -/
def decision (o : Origin) (c : RequestClass) (t : Tracker) : Option Bool :=
  match o with
  | .signals => t.decisions.get c
  | .polling => t.bridge.bind (fun b => b.decisions.get c)

/-- After a step the record of a class is what the step last sent for it, under the name of the
source that sent it; if it sent nothing, both records are what they were. -/
structure Recorded (t : Tracker) (step : Tracker × List Action) : Prop where
  variant : step.1.variant = t.variant
  intervals : step.1.intervals = t.intervals
  sent : ∀ c a, Action.lastSend c step.2 = some a → step.1.decision a.origin c = some a.value
  unsent : ∀ c, Action.lastSend c step.2 = none → ∀ o, step.1.decision o c = t.decision o c

variable {t : Tracker}

/-- A step without wishes and without new decisions. -/
theorem recorded_of_idle {step : Tracker × List Action} (hv : step.1.variant = t.variant)
    (hi : step.1.intervals = t.intervals) (hd : ∀ o c, step.1.decision o c = t.decision o c)
    (hs : Action.sends step.2 = []) : t.Recorded step where
  variant := hv
  intervals := hi
  sent c a ha := by simp [Action.lastSend, hs] at ha
  unsent c _ o := hd o c

theorem recorded_evaluate (changed : Option SignalKind) (t : Tracker) :
    t.Recorded (t.evaluate changed) := by
  refine ⟨rfl, rfl, ?_, ?_⟩
  · intro c a ha
    simp only [evaluate, Action.lastSend_attempts] at ha
    obtain ⟨v, hv, rfl⟩ := Option.map_eq_some_iff.mp ha
    simp only [evaluate, decision, DecisionSet.get_revise, hv, Option.map_some, Option.some_or]
  · intro c hc o
    simp only [evaluate, Action.lastSend_attempts, Option.map_eq_none_iff] at hc
    cases o with
    | signals => simp [evaluate, decision, DecisionSet.get_revise, hc]
    | polling => rfl

theorem recorded_observe (u : SignalUpdate) (t : Tracker) : t.Recorded (t.observe u) := by
  have h := recorded_evaluate (some u.kind) { t with snapshot := t.snapshot.apply u }
  refine ⟨h.variant, h.intervals, h.sent, ?_⟩
  intro c hc o
  exact (h.unsent c hc o).trans (by cases o <;> rfl)

/-- While the bridge is alive, a look at the poll sources is a pass over its rules. -/
theorem poll_of_live {bridge : Bridge} (hb : t.bridge = some bridge)
    (hlive : bridge.isAlive = true) (sample : PollSample) :
    t.poll sample =
      ({ t with bridge := some (bridge.revise t.profile.pollRules sample).1 },
        Action.attempts .polling (bridge.revise t.profile.pollRules sample).2
          ++ [.push (sample.cellInfoInterval t.intervals)]) := by
  simp [poll, hb, hlive]

/-- Without a live bridge nobody looks at the poll sources. -/
theorem poll_of_dead (h : t.isPolling = false) (sample : PollSample) :
    t.poll sample = (t, []) := by
  cases hb : t.bridge with
  | none => simp [poll, hb]
  | some bridge =>
      have hdead : bridge.isAlive = false := by simpa [isPolling, hb] using h
      simp [poll, hb, hdead]

theorem isPolling_iff : t.isPolling = true ↔ ∃ bridge, t.bridge = some bridge ∧ bridge.isAlive := by
  simp [isPolling, Option.any_eq_true]

theorem recorded_poll (sample : PollSample) (t : Tracker) : t.Recorded (t.poll sample) := by
  cases hlive : t.isPolling with
  | false =>
      rw [poll_of_dead hlive]
      exact recorded_of_idle rfl rfl (fun _ _ => rfl) rfl
  | true =>
      obtain ⟨bridge, hb, halive⟩ := isPolling_iff.mp hlive
      rw [poll_of_live hb halive]
      refine ⟨rfl, rfl, ?_, ?_⟩
      · intro c a ha
        rw [Action.lastSend_attempts] at ha
        obtain ⟨v, hv, rfl⟩ := Option.map_eq_some_iff.mp ha
        simp only [Bridge.revise] at hv
        simp [decision, Bridge.revise, DecisionSet.get_revise, hv]
      · intro c hc o
        rw [Action.lastSend_attempts, Option.map_eq_none_iff] at hc
        simp only [Bridge.revise] at hc
        cases o with
        | signals => rfl
        | polling => simp [decision, Bridge.revise, DecisionSet.get_revise, hc, hb]

theorem decision_stopPolling (o : Origin) (c : RequestClass) (t : Tracker) :
    t.stopPolling.1.decision o c = t.decision o c := by
  unfold stopPolling
  split
  · rfl
  · next bridge hb =>
      split
      · rfl
      · cases o <;> simp [decision, hb]

theorem recorded_stopPolling (t : Tracker) : t.Recorded t.stopPolling := by
  have hd : ∀ o c, t.stopPolling.1.decision o c = t.decision o c :=
    fun o c => decision_stopPolling o c t
  unfold stopPolling at hd ⊢
  cases hb : t.bridge with
  | none => exact recorded_of_idle rfl rfl (fun _ _ => rfl) rfl
  | some bridge =>
      cases hw : bridge.watch with
      | none => simp only [hw]; exact recorded_of_idle rfl rfl (fun _ _ => rfl) rfl
      | some watch =>
          simp only [hb, hw] at hd ⊢
          exact recorded_of_idle rfl rfl hd rfl

/-- **Records and wishes agree**, whatever message a tracker takes in. -/
theorem recorded_handle (sample : PollSample) (m : Message) (t : Tracker) :
    t.Recorded (t.handle sample m) := by
  cases m with
  | signal u => exact recorded_observe u t
  | completed c ticket a => exact recorded_of_idle rfl rfl (fun _ _ => rfl) rfl
  | screenChanged => exact recorded_poll sample t
  | watchFailed reason => exact recorded_stopPolling t

/-- What a tracker remembers of the signals changes only by news of them. -/
theorem snapshot_handle (sample : PollSample) (m : Message) (t : Tracker) :
    (t.handle sample m).1.snapshot = t.snapshot.hear m := by
  cases m with
  | signal u => rfl
  | completed c ticket a => rfl
  | screenChanged =>
      simp only [handle, poll]
      split
      · rfl
      · split <;> rfl
  | watchFailed reason =>
      simp only [handle, stopPolling]
      split
      · rfl
      · split <;> rfl

/-- The signals' record is what the rules say of the signals as last heard of, and there is no
record of polling for a class that no poll rule names. -/
structure Current (t : Tracker) : Prop where
  computed : ∀ r ∈ t.profile.rules, t.decisions.get r.cls = some (r.compute t.snapshot)
  unpolled : ∀ c, c ∉ t.profile.pollRules.map (fun r => r.cls) → t.decision .polling c = none

/-- The values of a pass name each class once. -/
theorem nodup_affected (changed : Option SignalKind) (t : Tracker) (s : Snapshot) :
    (((t.affected changed).map (fun r => (r.cls, r.compute s))).map (fun v => v.1)).Nodup := by
  have hall : (t.profile.rules.map (fun r => r.cls)).Nodup := Profile.classes_nodup t.variant
  rw [List.map_map]
  cases changed with
  | none => exact hall
  | some kind => exact ((List.filter_sublist (l := t.profile.rules)).map _).nodup hall

/-- A pass brings every rule that it looks at up to date. -/
theorem get_evaluate_of_mem {changed : Option SignalKind} {r : DecisionRule}
    (hr : r ∈ t.affected changed) :
    (t.evaluate changed).1.decisions.get r.cls = some (r.compute t.snapshot) := by
  refine DecisionSet.get_revise_of_mem (nodup_affected changed t t.snapshot) ?_ t.decisions
  exact List.mem_map.mpr ⟨r, hr, rfl⟩

/-- Two rules of a profile for one class are the same rule. -/
theorem rule_eq_of_cls {r q : DecisionRule} (hr : r ∈ t.profile.rules) (hq : q ∈ t.profile.rules)
    (h : r.cls = q.cls) : r = q := by
  have hall : (t.profile.rules.map (fun r => r.cls)).Nodup := Profile.classes_nodup t.variant
  exact List.inj_on_of_nodup_map hall hr hq h

/-- A pass leaves a rule alone that it does not look at. -/
theorem get_evaluate_of_notMem {changed : Option SignalKind} {r : DecisionRule}
    (hr : r ∈ t.profile.rules) (hn : r ∉ t.affected changed) :
    (t.evaluate changed).1.decisions.get r.cls = t.decisions.get r.cls := by
  refine DecisionSet.get_revise_of_notMem ?_ t.decisions
  intro hm
  simp only [List.mem_map, Prod.exists, exists_and_right, exists_eq_right, Prod.mk.injEq] at hm
  obtain ⟨_, q, hq, hcls, -⟩ := hm
  have hq' : q ∈ t.profile.rules := by
    cases changed with
    | none => exact hq
    | some kind => exact (List.mem_filter.mp hq).1
  exact hn (rule_eq_of_cls hr hq' hcls.symm ▸ hq)

theorem Current.start (variant : Variant) (intervals : Intervals) (snapshot : Snapshot) :
    (Tracker.start variant intervals snapshot).1.Current :=
  ⟨fun _ hr => get_evaluate_of_mem hr, fun _ _ => rfl⟩

theorem Current.observe (h : t.Current) (u : SignalUpdate) : (t.observe u).1.Current := by
  refine ⟨fun r hr => ?_, h.unpolled⟩
  by_cases hd : r.dependsOn u.kind = true
  · exact get_evaluate_of_mem (t := { t with snapshot := t.snapshot.apply u })
      (List.mem_filter.mpr ⟨hr, hd⟩)
  · -- a rule that was left alone does not see the change
    have hn : r ∉ ({ t with snapshot := t.snapshot.apply u } : Tracker).affected (some u.kind) :=
      fun hm => hd (List.mem_filter.mp hm).2
    refine (get_evaluate_of_notMem (t := { t with snapshot := t.snapshot.apply u }) hr hn).trans ?_
    refine (h.computed r hr).trans (congrArg some ?_)
    exact (Profile.compute_apply hr (by simpa using hd) t.snapshot).symm

/-- The values of a look at the poll sources name each class once. -/
theorem nodup_pollValues (v : Variant) (sample : PollSample) :
    ((Bridge.values v.profile.pollRules sample).map (fun x => x.1)).Nodup := by
  rw [Bridge.values, List.map_map]
  exact Profile.pollClasses_nodup v

/-- A look at the poll sources brings every poll rule up to date. -/
theorem decision_poll (h : t.isPolling = true) {q : PollRule} (hq : q ∈ t.profile.pollRules)
    (sample : PollSample) :
    (t.poll sample).1.decision .polling q.cls = some (q.compute sample) := by
  obtain ⟨bridge, hb, halive⟩ := isPolling_iff.mp h
  rw [poll_of_live hb halive]
  exact DecisionSet.get_revise_of_mem (nodup_pollValues t.variant sample)
    (List.mem_map.mpr ⟨q, hq, rfl⟩) bridge.decisions

/-- What a bridge finds out is about the classes of its rules. -/
theorem get_revise_of_unpolled {rules : List PollRule} {c : RequestClass}
    (hc : c ∉ rules.map (fun r => r.cls)) (sample : PollSample) (b : Bridge) :
    (b.revise rules sample).1.decisions.get c = b.decisions.get c := by
  refine DecisionSet.get_revise_of_notMem ?_ b.decisions
  simpa [Bridge.values] using hc

theorem Current.poll (h : t.Current) (sample : PollSample) : (t.poll sample).1.Current := by
  unfold Tracker.poll
  split
  · exact h
  · next bridge hb =>
      split
      · refine ⟨h.computed, fun c hc => ?_⟩
        have hold := h.unpolled c hc
        simp only [decision, hb, Option.bind_some] at hold
        exact (get_revise_of_unpolled hc sample bridge).trans hold
      · exact h

theorem Current.stopPolling (h : t.Current) : t.stopPolling.1.Current := by
  have hd := fun c => decision_stopPolling .polling c t
  unfold Tracker.stopPolling at hd ⊢
  split
  · exact h
  · next bridge hb =>
      split
      · exact h
      · next watch hw =>
          simp only [hb, hw] at hd
          exact ⟨h.computed, fun c hc => (hd c).trans (h.unpolled c hc)⟩

/-- **The signals' record stays current**, whatever message a tracker takes in. -/
theorem Current.handle (h : t.Current) (sample : PollSample) (m : Message) :
    (t.handle sample m).1.Current := by
  cases m with
  | signal u => exact h.observe u
  | completed c ticket a => exact h
  | screenChanged => exact h.poll sample
  | watchFailed reason => exact h.stopPolling

end Tracker

/-! ## Whose classes are sent -/

/-- Only one variant has rules for a class. -/
theorem Profile.variant_eq_of_classes {v w : Variant} {c : RequestClass}
    (hv : c ∈ v.profile.classes) (hw : c ∈ w.profile.classes) : v = w := by
  cases v <;> cases w <;> first | rfl | (revert hv hw; cases c <;> decide)

/-- Where a bridge has a rule for a class the signals have one, and both assume the same. -/
theorem Profile.exists_rule_of_pollRule {v : Variant} {q : PollRule}
    (hq : q ∈ v.profile.pollRules) :
    ∃ r ∈ v.profile.rules, r.cls = q.cls ∧ r.initial = q.initial := by
  cases v with
  | deviceState =>
      rcases List.mem_cons.mp hq with rfl | hq
      · exact ⟨_, List.mem_cons_self, rfl, rfl⟩
      · obtain rfl := List.mem_singleton.mp hq
        exact ⟨_, List.mem_cons_of_mem _ List.mem_cons_self, rfl, rfl⟩
  | indicationFilter => exact absurd hq List.not_mem_nil

theorem DecisionSet.news_sublist (values : List (RequestClass × Bool)) (d : DecisionSet) :
    (revise values d).2.Sublist values := by
  induction values generalizing d with
  | nil => exact List.Sublist.slnil
  | cons v rest ih =>
      obtain ⟨c, value⟩ := v
      by_cases hnews : d.get c = some value
      · rw [revise_cons_of_same hnews]
        exact (ih d).cons _
      · rw [revise_cons_of_news hnews]
        exact (ih _).cons_cons _

namespace Tracker

variable {t : Tracker}

/-- A pass sends values of the tracker's own classes. -/
theorem cls_mem_of_evaluate {changed : Option SignalKind} {a : Attempt}
    (ha : a ∈ Action.sends (t.evaluate changed).2) : a.cls ∈ t.profile.classes := by
  simp only [evaluate, Action.sends_attempts] at ha
  obtain ⟨v, hv, rfl⟩ := List.mem_map.mp ha
  have hvalue := (DecisionSet.news_sublist _ _).mem hv
  obtain ⟨r, hr, rfl⟩ := List.mem_map.mp hvalue
  refine List.mem_map_of_mem ?_
  cases changed with
  | none => exact hr
  | some kind => exact (List.mem_filter.mp hr).1

/-- A look at the poll sources sends values of such classes too. -/
theorem cls_mem_of_poll {sample : PollSample} {a : Attempt}
    (ha : a ∈ Action.sends (t.poll sample).2) : a.cls ∈ t.profile.classes := by
  cases hlive : t.isPolling with
  | false =>
      rw [poll_of_dead hlive] at ha
      exact absurd ha List.not_mem_nil
  | true =>
      obtain ⟨bridge, hb, halive⟩ := isPolling_iff.mp hlive
      rw [poll_of_live hb halive] at ha
      simp only [Action.sends_attempts] at ha
      obtain ⟨value, hvalue, rfl⟩ := List.mem_map.mp ha
      obtain ⟨q, hq, rfl⟩ := List.mem_map.mp ((DecisionSet.news_sublist _ _).mem hvalue)
      obtain ⟨r, hr, hcls, -⟩ := Profile.exists_rule_of_pollRule hq
      exact List.mem_map.mpr ⟨r, hr, hcls⟩

theorem cls_mem_of_handle {sample : PollSample} {m : Message} {a : Attempt}
    (ha : a ∈ Action.sends (t.handle sample m).2) : a.cls ∈ t.profile.classes := by
  cases m with
  | signal u => exact cls_mem_of_evaluate (t := { t with snapshot := t.snapshot.apply u }) ha
  | screenChanged => exact cls_mem_of_poll ha
  | completed c ticket b => exact absurd ha List.not_mem_nil
  | watchFailed reason =>
      simp only [handle, stopPolling] at ha
      split at ha
      · exact absurd ha List.not_mem_nil
      · split at ha <;> exact absurd ha List.not_mem_nil

end Tracker

end ModemWatch
