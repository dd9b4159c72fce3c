import Mathlib.Data.List.Destutter
import ModemWatch.Proofs.Replaying

/-!
# The tracking list is a set

Settings list the variants to track in any order, and a variant may stand in the list more than
once.  What runs is each of them once, in the order of the variants: the list sorted, and without
the repetitions that sorting brings together.

The order matters more than it seems.  Sessions start in it and work in it, so it decides which
request has which number, how the requests of a report are ordered, and which intervals apply for a
moment while the sessions work one after the other.  A replay sees its settings only through their
monitors and through the verdict on them (`Replay.start_congr`), and both are the same for every
list of the same variants.

* `Settings.tracked_eq_sorted` — the tracked variants, from the list;
* `Settings.monitors_eq_iff` — the monitors tell exactly which variants are listed;
* `Replay.start_congr` — what a replay knows of its settings;
* `Settings.tracking_is_a_set` — the monitors and the replays of two lists.
-/

namespace ModemWatch

/-- The place of a variant in the order of the variants. -/
def Variant.rank : Variant → Nat
  | .deviceState => 0
  | .indicationFilter => 1

theorem Variant.rank_inj {v w : Variant} : v.rank = w.rank ↔ v = w := by
  cases v <;> cases w <;> decide

/-- Variants in their order, where the same one may stand next to itself. -/
def Variant.inOrder (v w : Variant) : Bool := v.rank ≤ w.rank

/-- The variants of a list, sorted, and none of them twice in a row. -/
def Variant.sorted (l : List Variant) : List Variant :=
  (l.mergeSort Variant.inOrder).destutter (· ≠ ·)

instance : Std.Antisymm (fun v w : Variant => v.inOrder w = true) where
  antisymm v w hvw hwv := by
    rw [Variant.inOrder, decide_eq_true_eq] at hvw hwv
    exact Variant.rank_inj.mp (by omega)

namespace Settings

variable (s : Settings)

/-! ## The tracked variants -/

/-- The tracked variants stand in their order. -/
theorem rising_tracked : s.tracked.Pairwise (fun v w => v.rank < w.rank) :=
  List.Pairwise.filter _ (by decide)

/-- **What is tracked** is the list sorted, without repetitions. -/
theorem tracked_eq_sorted : s.tracked = Variant.sorted s.devmon.tracking := by
  have hsorted : (s.devmon.tracking.mergeSort Variant.inOrder).Pairwise
      (fun v w => v.inOrder w = true) := by
    refine List.pairwise_mergeSort ?_ ?_ _
    · intro u v w huv hvw
      rw [Variant.inOrder, decide_eq_true_eq] at huv hvw ⊢
      omega
    · intro v w
      rw [Bool.or_eq_true, Variant.inOrder, Variant.inOrder, decide_eq_true_eq, decide_eq_true_eq]
      omega
  -- in a sorted list all repetitions stand side by side
  have hdedup : Variant.sorted s.devmon.tracking =
      (s.devmon.tracking.mergeSort Variant.inOrder).dedup := hsorted.destutter_eq_dedup
  rw [hdedup]
  have hperm : s.tracked.Perm (s.devmon.tracking.mergeSort Variant.inOrder).dedup := by
    refine (List.perm_ext_iff_of_nodup s.nodup_tracked (List.nodup_dedup _)).mpr ?_
    intro v
    rw [List.mem_dedup, List.mem_mergeSort, mem_tracked]
  refine hperm.eq_of_pairwise ?_ ?_ (hsorted.sublist (List.dedup_sublist _))
  · intro v w _ _ hvw hwv
    exact Std.Antisymm.antisymm (r := fun v w : Variant => v.inOrder w = true) v w hvw hwv
  · refine s.rising_tracked.imp ?_
    intro v w hlt
    exact decide_eq_true (Nat.le_of_lt hlt)

/-- Lists of the same variants are tracked alike. -/
theorem tracked_congr {l l' : List Variant} (h : ∀ v, v ∈ l ↔ v ∈ l') :
    (s.withTracking l).tracked = (s.withTracking l').tracked := by
  refine List.filter_congr ?_
  intro v _
  exact Bool.eq_iff_iff.mpr (by simpa [withTracking] using h v)

/-- **The monitors tell which variants are listed**, and nothing else of the list. -/
theorem monitors_eq_iff {l l' : List Variant} :
    (s.withTracking l).monitors = (s.withTracking l').monitors ↔ ∀ v, v ∈ l ↔ v ∈ l' := by
  constructor
  · intro h v
    have htracked := congrArg (List.map fun m => m.variant) h
    rw [variants_monitors, variants_monitors] at htracked
    calc v ∈ l ↔ v ∈ (s.withTracking l).tracked := (mem_tracked (s := s.withTracking l)).symm
      _ ↔ v ∈ (s.withTracking l').tracked := by rw [htracked]
      _ ↔ v ∈ l' := mem_tracked (s := s.withTracking l')
  · intro h
    exact congrArg (List.map fun v => (⟨v, s.intervals, s.watchPath⟩ : Monitor))
      (s.tracked_congr h)

end Settings

/-! ## Replays -/

/-- The same scenario with other variants to track. -/
def Scenario.withTracking (l : List Variant) (s : Scenario) : Scenario :=
  { s with settings := s.settings.withTracking l }

namespace Replay

/-- **What a replay knows of its settings** is the verdict on them and their monitors. -/
theorem start_congr {s s' : Scenario} (hslot : s.slot = s'.slot)
    (hinterface : s.interface = s'.interface) (hinitial : s.initial = s'.initial)
    (hverdict : s.settings.validate = s'.settings.validate)
    (hmonitors : (s.settings.withScreenStatePath screenPath).monitors =
      (s'.settings.withScreenStatePath screenPath).monitors) :
    start s = start s' := by
  unfold start
  rw [hslot, hinterface, hinitial, hverdict, hmonitors]

theorem run_congr {s s' : Scenario} (hstart : start s = start s') (hsteps : s.steps = s'.steps) :
    run s = run s' := by
  unfold run
  rw [hstart, hsteps]

theorem start_withTracking {l l' : List Variant} (h : ∀ v, v ∈ l ↔ v ∈ l') (s : Scenario) :
    start (s.withTracking l) = start (s.withTracking l') :=
  start_congr rfl rfl rfl rfl
    ((s.settings.withScreenStatePath screenPath).monitors_eq_iff.mpr h)

end Replay

/-- **The tracking list is a set.**  Take any settings and any two lists of variants.  The monitors
built for the first list are in the order of the variants, and there is exactly one for each variant
in the list: they are the list sorted, without repetitions.  The monitors for the two lists are the
same exactly if the lists contain the same variants.

If they do, then no replay tells the lists apart, whatever its scenario: it starts alike, it fails
with the same failure or it succeeds, and the reports are the same, with all numbers of requests,
all intervals and all in the same order. -/
theorem Settings.tracking_is_a_set (s : Settings) (l l' : List Variant) :
    let variants := (s.withTracking l).monitors.map (fun m => m.variant)
    variants = Variant.sorted l ∧
    variants.Pairwise (fun v w => v.rank < w.rank) ∧
    (∀ v, variants.count v = if v ∈ l then 1 else 0) ∧
    ((s.withTracking l).monitors = (s.withTracking l').monitors ↔ ∀ v, v ∈ l ↔ v ∈ l') ∧
    ((∀ v, v ∈ l ↔ v ∈ l') → ∀ scenario : Scenario,
      Replay.start (scenario.withTracking l) = Replay.start (scenario.withTracking l') ∧
      Replay.run (scenario.withTracking l) = Replay.run (scenario.withTracking l')) := by
  intro variants
  have hvariants : variants = (s.withTracking l).tracked := variants_monitors _
  rw [hvariants]
  refine ⟨tracked_eq_sorted _, rising_tracked _, ?_, s.monitors_eq_iff, ?_⟩
  · intro v
    rw [List.Nodup.count (nodup_tracked _)]
    exact if_congr mem_tracked rfl rfl
  · intro h scenario
    have hstart := Replay.start_withTracking h scenario
    exact ⟨hstart, Replay.run_congr hstart rfl⟩

/-- A device with an indication filter that is used once and switched off. -/
def Replay.errand : Scenario where
  interface := .v15
  initial := { charger := some .on }
  steps := [.display (some true) (some .on), .shutdown]

/-- Listed backwards, or in order and once more: there are two monitors either way, and the errand
makes the same requests with the same numbers. -/
theorem Settings.tracking_is_a_set_of_repeated :
    let backwards := [Variant.indicationFilter, .deviceState]
    let repeated := [Variant.deviceState, .indicationFilter, .deviceState]
    Variant.sorted backwards = [.deviceState, .indicationFilter] ∧
    (({} : Settings).withTracking backwards).monitors =
      (({} : Settings).withTracking repeated).monitors ∧
    ∃ reports, Replay.run (Replay.errand.withTracking backwards) = .ok reports ∧
      Replay.run (Replay.errand.withTracking repeated) = .ok reports ∧
      reports.map (fun report => report.requests.map (fun r => r.serial)) =
        [[1, 2], [3], []] := by
  intro backwards repeated
  have hsame : ∀ v, v ∈ backwards ↔ v ∈ repeated := by
    intro v
    cases v <;> decide
  obtain ⟨hvariants, -, -, hmonitors, hruns⟩ :=
    Settings.tracking_is_a_set {} backwards repeated
  have hserials : (Replay.run (Replay.errand.withTracking backwards)).toOption.map (fun reports =>
      reports.map (fun report => report.requests.map (fun r => r.serial))) =
        some [[1, 2], [3], []] := by
    decide +kernel
  obtain ⟨reports, hsome, hserials⟩ := Option.map_eq_some_iff.mp hserials
  have hrun : Replay.run (Replay.errand.withTracking backwards) = .ok reports := by
    cases h : Replay.run (Replay.errand.withTracking backwards) with
    | error e => rw [h] at hsome; cases hsome
    | ok reports => rw [h] at hsome; exact congrArg Except.ok (Option.some.inj hsome)
  have hlisted : (({} : Settings).withTracking backwards).monitors.map (fun m => m.variant) =
      [.deviceState, .indicationFilter] := by
    decide
  refine ⟨hvariants.symm.trans hlisted, hmonitors.mpr hsame, reports, hrun, ?_, hserials⟩
  exact (hruns hsame Replay.errand).2.symm.trans hrun

end ModemWatch
