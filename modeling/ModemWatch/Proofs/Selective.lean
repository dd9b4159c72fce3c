import ModemWatch.Proofs.Visits

/-!
# Looking at all rules

When a signal changes, a session only looks at the rules that list the signal.  It could as well
look at all of them: a rule that does not list the signal has the value that it had before, the
value is on record, and what is on record is no news.  So both sessions want the same things at
every message, and whatever the radio makes of it, they stay the same.

* `DecisionSet.revise_filter` — values on record can be left out;
* `Tracker.handleFully_eq` — both ways take in a message alike, while decisions are current;
* `Session.live_handleFully` — both sessions live alike, and their decisions are always current.
-/

namespace ModemWatch

/-- **Values that are on record can be left out** of a list that names each class once. -/
theorem DecisionSet.revise_filter {α : Type} {f : α → RequestClass × Bool} {p : α → Bool}
    {l : List α} {d : DecisionSet} (hn : (l.map (fun x => (f x).1)).Nodup)
    (hold : ∀ x ∈ l, p x = false → d.get (f x).1 = some (f x).2) :
    revise ((l.filter p).map f) d = revise (l.map f) d := by
  induction l generalizing d with
  | nil => rfl
  | cons x l ih =>
      obtain ⟨hx, hn⟩ := List.nodup_cons.mp hn
      have hrest : ∀ y ∈ l, p y = false → d.get (f y).1 = some (f y).2 :=
        fun y hy => hold y (List.mem_cons_of_mem _ hy)
      by_cases hnews : d.get (f x).1 = some (f x).2
      · rw [List.map_cons, revise_cons_of_same hnews, ← ih hn hrest]
        cases hp : p x with
        | false => rw [List.filter_cons_of_neg (by simp [hp])]
        | true =>
            rw [List.filter_cons_of_pos hp, List.map_cons, revise_cons_of_same hnews]
      · -- what is news is not left out
        have hp : p x = true := by
          by_contra hp
          exact hnews (hold x List.mem_cons_self (by simpa using hp))
        have hafter : ∀ y ∈ l, p y = false →
            (d.set (f x).1 (some (f x).2)).get (f y).1 = some (f y).2 := by
          intro y hy hpy
          have hne : (f y).1 ≠ (f x).1 := fun heq =>
            hx (List.mem_map.mpr ⟨y, hy, heq⟩)
          rw [ByClass.get_set_ne _ _ hne]
          exact hrest y hy hpy
        rw [List.filter_cons_of_pos hp, List.map_cons, List.map_cons, revise_cons_of_news hnews,
          revise_cons_of_news hnews, ih hn hafter]

namespace Tracker

/-- Takes in a message and looks at all rules when a signal changes. -/
def handleFully : Manner
  | _, .signal u, t => ({ t with snapshot := t.snapshot.apply u } : Tracker).evaluate none
  | sample, m, t => t.handle sample m

variable {t : Tracker}

/-- Looking at all rules finds no more news than looking at those that list the signal. -/
theorem evaluate_none_eq_observe (h : t.Current) (u : SignalUpdate) :
    ({ t with snapshot := t.snapshot.apply u } : Tracker).evaluate none = t.observe u := by
  have hn : (t.profile.rules.map (fun r => r.cls)).Nodup := Profile.classes_nodup t.variant
  have hold : ∀ r ∈ t.profile.rules, r.dependsOn u.kind = false →
      t.decisions.get r.cls = some (r.compute (t.snapshot.apply u)) := by
    intro r hr hd
    rw [Profile.compute_apply hr hd]
    exact h.computed r hr
  have hrevise := DecisionSet.revise_filter
    (f := fun r : DecisionRule => (r.cls, r.compute (t.snapshot.apply u)))
    (p := fun r => r.dependsOn u.kind) hn hold
  simp only [observe, evaluate, affected]
  exact congrArg (fun x : DecisionSet × List (RequestClass × Bool) =>
    (({ t with snapshot := t.snapshot.apply u, decisions := x.1 } : Tracker),
      Action.attempts .signals x.2 ++
        [.push ((t.snapshot.apply u).cellInfoInterval t.intervals)])) hrevise.symm

/-- **Both ways take in a message alike**, while decisions are current. -/
theorem handleFully_eq (h : t.Current) (sample : PollSample) (m : Message) :
    handleFully sample m t = t.handle sample m := by
  cases m with
  | signal u => exact evaluate_none_eq_observe h u
  | completed | screenChanged | watchFailed => rfl

end Tracker

namespace Session

variable {s : Session}

theorem handleIn_handleFully (h : s.tracker.Current) (id : SessionId) (m : Message)
    (p : Platform) : s.handleIn Tracker.handleFully id m p = s.handle id m p := by
  rw [← handleIn_handle]
  unfold handleIn
  cases m with
  | signal u => simp only [Tracker.handleFully_eq h]
  | completed | screenChanged | watchFailed => rfl

/-- Two sessions that differ in how they look at rules go through the same. -/
theorem goThrough_handleFully (h : s.tracker.Current) (id : SessionId) (arrivals : List Arrival)
    (p : Platform) :
    s.goThrough Tracker.handleFully id arrivals p = s.goThrough Tracker.handle id arrivals p := by
  induction arrivals generalizing s p with
  | nil => rfl
  | cons a arrivals ih =>
      have hrest := ih (current_handle id (a.meanwhile p) h a.message)
      simp only [goThrough, handleIn_handleFully h, handleIn_handle, wishesIn,
        Tracker.handleFully_eq h, hrest]

/-- **Looking at all rules makes no difference.**  Take a session of any variant, from its start on
any platform, and whatever arrives at it: messages of all kinds, between which anything may become
of the platform.  If it looked at all rules whenever a signal changes, it would want the same things
at every message, leave the platform the same and be in the same state.  And whatever the radio made
of its requests, the session remembers the signals as the messages told them, and the decision on
record for each of its rules is the one that the rule draws from them. -/
theorem live_handleFully (id : SessionId) (variant : Variant) (intervals : Intervals)
    (watchPath : Option String) (p : Platform) (arrivals : List Arrival) :
    live Tracker.handleFully id variant intervals watchPath p arrivals =
      live Tracker.handle id variant intervals watchPath p arrivals ∧
    let s := (live Tracker.handle id variant intervals watchPath p arrivals).2.1
    s.tracker.snapshot =
      (arrivals.map (fun a => a.message)).foldl Snapshot.hear p.sources.snapshot ∧
    ∀ r ∈ variant.profile.rules,
      s.tracker.decisions.get r.cls = some (r.compute s.tracker.snapshot) := by
  have hcourse : Course id _ _ := .start variant intervals watchPath p
  have hstarted := Session.started id ⟨variant, intervals, watchPath⟩ p
  refine ⟨goThrough_handleFully hcourse.kept.current id arrivals _, ?_, ?_⟩
  · rw [← hstarted.snapshot]
    exact snapshot_goThrough hstarted.closed id arrivals _
  · intro r hr
    refine (course_goThrough hcourse arrivals _).kept.current.computed r ?_
    rw [Tracker.profile, (same_goThrough ..).variant, hstarted.variant]
    exact hr

/-- The battery runs low, which no rule lists, the queue to the modem closes and the display comes
on. -/
theorem live_handleFully_low_battery :
    let p : Platform := { transport := { slot := "slot1", interface := .v15 } }
    let arrivals : List Arrival :=
      [⟨fun p => p, .signal ⟨.battery, .state .low⟩⟩,
       ⟨fun p => { p with transport := p.transport.close }, .signal ⟨.display, .valid true⟩⟩,
       ⟨fun p => p, .signal ⟨.display, .state .on⟩⟩]
    live Tracker.handleFully 0 .deviceState {} none p arrivals =
        live Tracker.handle 0 .deviceState {} none p arrivals ∧
      (live Tracker.handle 0 .deviceState {} none p arrivals).2.1.tracker.decisions.get
        .lowDataExpected = some false := by
  intro p arrivals
  obtain ⟨hsame, hsnapshot, hcurrent⟩ := live_handleFully 0 .deviceState {} none p arrivals
  obtain ⟨r, hr, hcls, hcompute⟩ : ∃ r ∈ Variant.deviceState.profile.rules,
      r.cls = .lowDataExpected ∧ r.compute = Snapshot.lowDataExpected :=
    ⟨_, List.mem_cons_self, rfl, rfl⟩
  have hlow := hcurrent r hr
  rw [hcls, hsnapshot, hcompute] at hlow
  exact ⟨hsame, hlow.trans (by decide)⟩

end Session

end ModemWatch
