import ModemWatch.Proofs.Faithful
import ModemWatch.Proofs.Selective

/-!
# Every change is sent, and nothing else

What a tracker wants sent for a class can be told from what it has on record and what the rule says
now: the new value, if it is a change.  Over a row of values that makes the changes among them, the
first being compared with what the modem was taken to hold.

A pass sends for one source of decisions only, in the order of its rules.

* `changes` — the values of a sequence that differ from their predecessor;
* `DecisionSet.news_of_mem` — the news of one class in a pass;
* `Tracker.sent_handle`, `Tracker.polled_handle` — what one message makes a tracker send;
* `Tracker.inOrder_handle` — in which order.
-/

namespace ModemWatch

/-! ## Changes -/

section Changes

variable {α : Type} [DecidableEq α]

/-- The values that differ from their predecessor; the first is compared with a given one. -/
def changes : Option α → List α → List α
  | _, [] => []
  | previous, x :: rest =>
    if previous = some x then changes (some x) rest else x :: changes (some x) rest

theorem changes_cons (previous : Option α) (x : α) (rest : List α) :
    changes previous (x :: rest) = changes previous [x] ++ changes (some x) rest := by
  by_cases h : previous = some x <;> simp [changes, h]

/-- A value that was there before is no change. -/
theorem changes_cons_same (x : α) (rest : List α) :
    changes (some x) (x :: rest) = changes (some x) rest :=
  if_pos rfl

/-- Changes can be looked for piece by piece, if each piece begins with the last value before it. -/
theorem changes_append_scanl {σ υ : Type} (f : σ → α) (g : σ → υ → σ) (s : σ) (us : List υ)
    (previous : Option α) :
    changes previous [f s] ++ changes (some (f s)) ((List.scanl g s us).map f) =
      changes previous ((List.scanl g s us).map f) := by
  cases us with
  | nil => rw [List.scanl_nil, List.map_singleton, changes_cons_same, changes, List.append_nil]
  | cons u us => rw [List.scanl_cons, List.map_cons, changes_cons_same, ← changes_cons]

end Changes

/-- The values that one source of decisions sends for a class, in order. -/
def Attempt.values (o : Origin) (c : RequestClass) (attempts : List Attempt) : List Bool :=
  (attempts.filter (fun a => a.origin == o && a.cls == c)).map (fun a => a.value)

theorem Attempt.values_append (o : Origin) (c : RequestClass) (as bs : List Attempt) :
    values o c (as ++ bs) = values o c as ++ values o c bs := by
  simp [values]

/-- What a pass of one source sends is nothing that the other sends. -/
theorem Attempt.values_attempts (o o' : Origin) (c : RequestClass)
    (news : List (RequestClass × Bool)) (ms : Millis) :
    values o c (Action.sends (Action.attempts o' news ++ [.push ms])) =
      if o = o' then (news.filter (fun v => v.1 == c)).map (fun v => v.2) else [] := by
  rw [Action.sends_attempts]
  by_cases ho : o = o'
  · subst ho
    simp [values, List.filter_map, Function.comp_def]
  · have hne : (o' == o) = false := by simpa using Ne.symm ho
    simp [values, List.filter_map, Function.comp_def, hne, ho]

namespace DecisionSet

/-- A class that a list does not name has no news. -/
theorem news_of_notMem {values : List (RequestClass × Bool)} {c : RequestClass}
    (h : c ∉ values.map (fun v => v.1)) (d : DecisionSet) :
    (revise values d).2.filter (fun v => v.1 == c) = [] := by
  rw [List.filter_eq_nil_iff]
  intro v hv hc
  exact h (List.mem_map.mpr ⟨v, (news_sublist values d).mem hv, beq_iff_eq.mp hc⟩)

/-- **The news of a class** that a list names once: its value, if it is a change. -/
theorem news_of_mem {values : List (RequestClass × Bool)} {c : RequestClass} {value : Bool}
    (hn : (values.map (fun v => v.1)).Nodup) (h : (c, value) ∈ values) (d : DecisionSet) :
    ((revise values d).2.filter (fun v => v.1 == c)).map (fun v => v.2) =
      changes (d.get c) [value] := by
  induction values generalizing d with
  | nil => exact absurd h List.not_mem_nil
  | cons v rest ih =>
      obtain ⟨e, other⟩ := v
      obtain ⟨he, hn⟩ := List.nodup_cons.mp hn
      rcases List.mem_cons.mp h with heq | hrest
      · -- nothing after this value is about the class
        cases heq
        by_cases hnews : d.get c = some value
        · rw [revise_cons_of_same hnews, news_of_notMem he, hnews, changes_cons_same]
          rfl
        · simp only [revise_cons_of_news hnews, List.filter_cons, beq_self_eq_true, if_true,
            news_of_notMem he, changes, if_neg hnews]
          rfl
      · have hc : c ≠ e := by
          rintro rfl
          exact he (List.mem_map.mpr ⟨_, hrest, rfl⟩)
        by_cases hnews : d.get e = some other
        · rw [revise_cons_of_same hnews]
          exact ih hn hrest d
        · have hskip : (e == c) = false := by simpa using Ne.symm hc
          simp only [revise_cons_of_news hnews, List.filter_cons, hskip, Bool.false_eq_true,
            if_false]
          rw [ih hn hrest, ByClass.get_set_ne _ _ hc]

section Assumed

variable {α : Type} {cls : α → RequestClass} {initial : α → Option Bool} {rules : List α}

/-- What rules assume about other classes does not matter to a class. -/
theorem get_assumed_of_notMem {c : RequestClass} (h : c ∉ rules.map cls) (d : DecisionSet) :
    (rules.foldl (fun d r => match initial r with
      | none => d
      | some value => d.assume (cls r) value) d).get c = d.get c := by
  induction rules generalizing d with
  | nil => rfl
  | cons q rules ih =>
      simp only [List.map_cons, List.mem_cons, not_or] at h
      rw [List.foldl_cons, ih h.2]
      cases initial q with
      | none => rfl
      | some value => exact ByClass.get_set_ne _ _ h.1

/-- On record at first is what the rules assume. -/
theorem get_assumed (hn : (rules.map cls).Nodup) {r : α} (hr : r ∈ rules) {d : DecisionSet}
    (hd : d.get (cls r) = none) :
    (rules.foldl (fun d r => match initial r with
      | none => d
      | some value => d.assume (cls r) value) d).get (cls r) = initial r := by
  induction rules generalizing d with
  | nil => exact absurd hr List.not_mem_nil
  | cons q rules ih =>
      obtain ⟨hq, hn⟩ := List.nodup_cons.mp hn
      rw [List.foldl_cons]
      rcases List.mem_cons.mp hr with rfl | hr
      · rw [get_assumed_of_notMem hq]
        cases initial r with
        | none => exact hd
        | some value => exact ByClass.get_set_self ..
      · refine ih hn hr ?_
        have hne : cls r ≠ cls q := fun heq => hq (List.mem_map.mpr ⟨r, hr, heq⟩)
        cases initial q with
        | none => exact hd
        | some value => exact (ByClass.get_set_ne _ _ hne).trans hd

end Assumed

end DecisionSet

/-! ## What one message makes a tracker send -/

/-- The news of a signal that a message brings. -/
def Message.news? : Message → Option SignalUpdate
  | .signal u => some u
  | .completed .. | .screenChanged | .watchFailed _ => none

namespace Tracker

variable {t : Tracker} {r : DecisionRule} {q : PollRule}

/-- A full pass sends what a rule says if it is a change. -/
theorem sent_evaluate (hr : r ∈ t.profile.rules) :
    Attempt.values .signals r.cls (Action.sends (t.evaluate none).2) =
      changes (t.decision .signals r.cls) [r.compute t.snapshot] := by
  have hnews := DecisionSet.news_of_mem (nodup_affected none t t.snapshot)
    (List.mem_map.mpr ⟨r, hr, rfl⟩) t.decisions
  rw [evaluate, Attempt.values_attempts, if_pos rfl]
  exact hnews

/-- On record at first is what a rule takes the modem to hold. -/
theorem decision_new {variant : Variant} (intervals : Intervals)
    (hr : r ∈ variant.profile.rules) (snapshot : Snapshot) :
    (new variant intervals snapshot).decision .signals r.cls = r.initial :=
  DecisionSet.get_assumed (Profile.classes_nodup variant) hr (ByClass.get_const ..)

theorem decision_bridged (hq : q ∈ t.profile.pollRules) (watch : WatchId) :
    (t.bridged watch).decision .polling q.cls = q.initial :=
  DecisionSet.get_assumed (Profile.pollClasses_nodup t.variant) hq (ByClass.get_const ..)

/-- A pass over the signals sends nothing on behalf of polling. -/
theorem polled_evaluate (changed : Option SignalKind) (t : Tracker) (c : RequestClass) :
    Attempt.values .polling c (Action.sends (t.evaluate changed).2) = [] := by
  rw [evaluate, Attempt.values_attempts, if_neg (by decide)]

/-- A look at the poll sources sends what a poll rule says if it is a change. -/
theorem polled_poll (h : t.isPolling = true) (hq : q ∈ t.profile.pollRules)
    (sample : PollSample) :
    Attempt.values .polling q.cls (Action.sends (t.poll sample).2) =
      changes (t.decision .polling q.cls) [q.compute sample] := by
  obtain ⟨bridge, hb, halive⟩ := isPolling_iff.mp h
  have hnews := DecisionSet.news_of_mem (nodup_pollValues t.variant sample)
    (List.mem_map.mpr ⟨q, hq, rfl⟩) bridge.decisions
  have hold : t.decision .polling q.cls = bridge.decisions.get q.cls := by simp [decision, hb]
  rw [poll_of_live hb halive, Attempt.values_attempts, if_pos rfl, hold]
  exact hnews

/-- A look at the poll sources sends nothing on behalf of the signals. -/
theorem sent_poll (sample : PollSample) (t : Tracker) (c : RequestClass) :
    Attempt.values .signals c (Action.sends (t.poll sample).2) = [] := by
  cases h : t.isPolling with
  | false => rw [poll_of_dead h]; rfl
  | true =>
      obtain ⟨bridge, hb, halive⟩ := isPolling_iff.mp h
      rw [poll_of_live hb halive, Attempt.values_attempts, if_neg (by decide)]

/-- Letting go of the watch sends nothing. -/
theorem sends_stopPolling (t : Tracker) : Action.sends t.stopPolling.2 = [] := by
  unfold stopPolling
  split
  · rfl
  · split <;> rfl

theorem isPolling_poll (sample : PollSample) (t : Tracker) :
    (t.poll sample).1.isPolling = t.isPolling := by
  cases h : t.isPolling with
  | false => rw [poll_of_dead h]; exact h
  | true =>
      obtain ⟨bridge, hb, halive⟩ := isPolling_iff.mp h
      rw [poll_of_live hb halive]
      exact halive

theorem isPolling_stopPolling (t : Tracker) : t.stopPolling.1.isPolling = false := by
  unfold stopPolling
  split
  · next hb => simp [isPolling, hb]
  · next bridge hb =>
      split
      · next hw => simp [isPolling, hb, Bridge.isAlive, hw]
      · rfl

/-- **What a message makes a tracker send on behalf of the signals**: what a rule says, if there is
news of a signal and it changes what the rule says. -/
theorem sent_handle (h : t.Current) (hr : r ∈ t.profile.rules) (sample : PollSample)
    (m : Message) :
    Attempt.values .signals r.cls (Action.sends (t.handle sample m).2) =
      changes (some (r.compute t.snapshot))
        (m.news?.toList.map (fun u => r.compute (t.snapshot.apply u))) := by
  cases m with
  | signal u =>
      rw [← h.computed r hr, handle, ← evaluate_none_eq_observe h]
      exact sent_evaluate (t := { t with snapshot := t.snapshot.apply u }) hr
  | completed => rfl
  | screenChanged => exact sent_poll sample t r.cls
  | watchFailed => simp [handle, sends_stopPolling, Attempt.values, Message.news?, changes]

/-- **What a message makes a tracker send on behalf of polling**: what a poll rule says, if the
bridge is alive, the message is about its sources and it changes what the rule says. -/
theorem polled_handle (hq : q ∈ t.profile.pollRules) (sample : PollSample) (m : Message) :
    Attempt.values .polling q.cls (Action.sends (t.handle sample m).2) =
      match m with
      | .screenChanged =>
        if t.isPolling then changes (t.decision .polling q.cls) [q.compute sample] else []
      | .signal _ | .completed .. | .watchFailed _ => [] := by
  cases m with
  | signal u => exact polled_evaluate ..
  | completed => rfl
  | watchFailed => simp [handle, sends_stopPolling, Attempt.values]
  | screenChanged =>
      cases h : t.isPolling with
      | false => rw [handle, poll_of_dead h]; rfl
      | true => exact polled_poll h hq sample

end Tracker

/-! ## The order in which values are sent -/

/-- The classes that a source of decisions has rules for, in the order of the rules. -/
def Profile.table (p : Profile) : Origin → List RequestClass
  | .signals => p.classes
  | .polling => p.pollRules.map (fun q => q.cls)

/-- Values of one source of decisions, in the order of its rules and one for each at most. -/
def InOrder (p : Profile) (attempts : List Attempt) : Prop :=
  ∃ o, (∀ a ∈ attempts, a.origin = o) ∧ (attempts.map (fun a => a.cls)).Sublist (p.table o)

theorem inOrder_nil (p : Profile) : InOrder p [] :=
  ⟨.signals, by simp, List.nil_sublist _⟩

/-- A pass over rules sends in the order of the rules. -/
theorem inOrder_attempts {p : Profile} {o : Origin} {values : List (RequestClass × Bool)}
    (h : (values.map (fun v => v.1)).Sublist (p.table o)) (d : DecisionSet) (ms : Millis) :
    InOrder p (Action.sends
      (Action.attempts o (DecisionSet.revise values d).2 ++ [.push ms])) := by
  rw [Action.sends_attempts]
  refine ⟨o, ?_, ?_⟩
  · intro a ha
    obtain ⟨v, -, rfl⟩ := List.mem_map.mp ha
    rfl
  · rw [List.map_map]
    exact ((DecisionSet.news_sublist values d).map (fun v => v.1)).trans h

namespace Tracker

variable {t : Tracker}

theorem inOrder_evaluate (changed : Option SignalKind) (t : Tracker) :
    InOrder t.profile (Action.sends (t.evaluate changed).2) := by
  refine inOrder_attempts ?_ t.decisions _
  rw [List.map_map]
  cases changed with
  | none => exact List.Sublist.refl _
  | some kind => exact (List.filter_sublist (l := t.profile.rules)).map _

theorem inOrder_poll (sample : PollSample) (t : Tracker) :
    InOrder t.profile (Action.sends (t.poll sample).2) := by
  cases h : t.isPolling with
  | false => rw [poll_of_dead h]; exact inOrder_nil _
  | true =>
      obtain ⟨bridge, hb, halive⟩ := isPolling_iff.mp h
      rw [poll_of_live hb halive]
      refine inOrder_attempts ?_ bridge.decisions _
      rw [Bridge.values, List.map_map]
      exact List.Sublist.refl _

/-- **A message makes a tracker send in order.** -/
theorem inOrder_handle (sample : PollSample) (m : Message) (t : Tracker) :
    InOrder t.profile (Action.sends (t.handle sample m).2) := by
  cases m with
  | signal u => exact inOrder_evaluate _ { t with snapshot := t.snapshot.apply u }
  | completed => exact inOrder_nil _
  | screenChanged => exact inOrder_poll sample t
  | watchFailed => rw [handle, sends_stopPolling]; exact inOrder_nil _

end Tracker

end ModemWatch
