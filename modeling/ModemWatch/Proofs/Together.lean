import ModemWatch.Proofs.Beside

/-!
# Replaying variants together

A scenario that tracks both variants says what each of them does alone.  Leave one variant out of
it, and with it the answers to requests of that variant; give every other answer to the request in
the same place, which has another number now.  The session of the variant that is left in does the same
after each step, and it sends the same requests.  So the reports of the whole are those of its parts
put together: each lists the requests of one variant and then those of the other.

* `Scenario.directed`, `Scenario.alone` — the steps of a scenario, and a scenario, for one variant;
* `Replay.beside_start`, `Replay.after_alone` — with both variants, and with one of them;
* `Report.Grouped` — first the requests of one variant, then those of the other;
* `Replay.run_together` — a run of both variants is made up of runs of one.
-/

namespace ModemWatch

namespace Scenario

/-- The steps of a scenario for one variant. -/
def directed (v : Variant) (steps : List Step) (s : Scenario) : List (Option Step) :=
  match Replay.start s with
  | .error _ => []
  | .ok r => Replay.directedAll v 1 steps (r.report 0 "start" none).2

/-- Which reports of a scenario there are for one variant: the first one, and one for each step that
is not left out. -/
def kept (v : Variant) (s : Scenario) : List Bool :=
  true :: (s.directed v s.steps).map Option.isSome

/-- A scenario with one variant only. -/
def alone (v : Variant) (s : Scenario) : Scenario :=
  { s with
    settings := s.settings.withTracking [v]
    steps := (s.directed v s.steps).reduceOption }

end Scenario

/-! ## Starting -/

/-- The monitor of a variant in a replay. -/
def Scenario.monitor (s : Scenario) (v : Variant) : Monitor :=
  ⟨v, s.settings.intervals, (s.settings.withScreenStatePath Replay.screenPath).watchPath⟩

namespace Host

variable {h : Host}

/-- Before anything starts, only what the device shows is set up. -/
theorem unmoved_setUp (h : Host) (i : InitialState) :
    (h.setUp i).platform.transport = h.platform.transport ∧
      (h.setUp i).platform.notifier = h.platform.notifier := by
  have hone : ∀ (h : Host) (k : SignalKind) (valid : Option Bool) (state : Option k.State),
      (h.setSignal k valid state).platform.transport = h.platform.transport ∧
        (h.setSignal k valid state).platform.notifier = h.platform.notifier := by
    intro h k valid state
    unfold setSignal
    cases valid <;> cases state <;> simp only [platform_signal, and_self]
  have hpower : ∀ (h : Host) (power : PowerState),
      (h.setPower power).platform.transport = h.platform.transport ∧
        (h.setPower power).platform.notifier = h.platform.notifier := fun _ _ => ⟨rfl, rfl⟩
  simp only [setUp, setInitial, hpower, hone]
  exact ⟨rfl, rfl⟩

theorem idle_startAll (hidle : h.Idle) (monitors : List Monitor) : (h.startAll monitors).Idle := by
  induction monitors generalizing h with
  | nil => exact hidle
  | cons m monitors ih =>
      refine ih (h := h.start m) fun s hs => ?_
      rcases List.mem_append.mp hs with hs | hs
      · exact hidle s hs
      · rw [List.mem_singleton.mp hs]
        exact (Session.started h.sessions.length m h.platform).queue

theorem InOrder.startAll {taken : List Outgoing} (ho : h.InOrder taken) (monitors : List Monitor) :
    (h.startAll monitors).InOrder taken := by
  rw [startAll_eq_run]
  refine ho.run fun hmem => ?_
  obtain ⟨m, -, heq⟩ := List.mem_map.mp hmem
  cases heq

end Host

namespace Replay

variable {s : Scenario} {r r₀ : Replay} {v : Variant}

/-- The device as it is before any session starts. -/
def device (s : Scenario) : Host := (Host.new s.slot s.interface).setUp s.initial

theorem inOrder_device (s : Scenario) : (device s).InOrder [] :=
  (Host.inOrder_new s.slot s.interface).silently (Host.silently_setUp _ _)

theorem variants_device (s : Scenario) : (device s).variants = [] :=
  (Host.silently_setUp _ _).variants_eq

theorem sessions_device (s : Scenario) : (device s).sessions = [] :=
  List.map_eq_nil_iff.mp (variants_device s)

/-- A replay starts one session for each tracked variant. -/
theorem start_eq (hstart : start s = .ok r) :
    r = { host := (device s).startAll (s.settings.tracked.map s.monitor) } :=
  (start_eq_ok.mp hstart).2

/-- Alone, a variant starts as well. -/
theorem start_alone (hstart : start s = .ok r) (v : Variant) :
    start (s.alone v) = .ok { host := (device s).startAll [s.monitor v] } := by
  have hmonitors : ((s.alone v).settings.withScreenStatePath screenPath).monitors =
      [s.monitor v] := by cases v <;> rfl
  have hvalid : (s.alone v).settings.validate = s.settings.validate := rfl
  rw [start_eq_ok, hvalid, hmonitors]
  exact ⟨(start_eq_ok.mp hstart).1, rfl⟩

theorem tracked_of_both (hboth : ∀ v, v ∈ s.settings.devmon.tracking) :
    s.settings.tracked = [.deviceState, .indicationFilter] := by
  rw [Settings.tracked, List.filter_eq_self.mpr]
  · rfl
  · exact fun v _ => List.contains_iff_mem.mpr (hboth v)

theorem variants_started (variants : List Variant) (s : Scenario) :
    ((device s).startAll (variants.map s.monitor)).variants = variants := by
  rw [Host.variants_startAll, variants_device, List.nil_append, List.map_map]
  exact List.map_id _

/-- Once the sessions have started, nobody has anything to do. -/
theorem rested_start (variants : List Variant) (s : Scenario) :
    Rested variants (({ host := (device s).startAll (variants.map s.monitor) } : Replay).report 0
      "start" none).2 :=
  rested_report _ _ _ ((inOrder_device s).startAll _) (variants_started variants s)

theorem rested_of_both (hboth : ∀ v, v ∈ s.settings.devmon.tracking) (hstart : start s = .ok r) :
    Rested [.deviceState, .indicationFilter] (r.report 0 "start" none).2 := by
  rw [start_eq hstart, tracked_of_both hboth]
  exact rested_start _ s

/-- **Both start alike**, each variant among others and alone. -/
theorem exists_twin_start (v : Variant) (s : Scenario) :
    ∃ j, Host.Twin v j [] []
      ((device s).startAll ([.deviceState, .indicationFilter].map s.monitor))
      ((device s).startAll [s.monitor v]) := by
  obtain ⟨htransport, hnotifier⟩ := Host.unmoved_setUp (Host.new s.slot s.interface) s.initial
  have hnone : (device s).sessions.length = 0 := by rw [sessions_device]; rfl
  have hwatchable : (device s).platform.notifier.failNext = none := by
    rw [device, hnotifier]
    rfl
  have hfresh : (device s).platform.transport = { slot := s.slot, interface := s.interface } :=
    htransport
  have hawaits : Host.Awaits v (device s) (device s) := by
    refine ⟨inOrder_device s, rfl, rfl, hwatchable, ?_, rfl, ?_⟩
    · rw [hfresh]
    · rw [Transport.ledger, hfresh]
      rfl
  -- the device state starts first: it has no company yet, and the indication filter has
  cases v with
  | deviceState =>
      have hstart := hawaits.start (m := s.monitor .deviceState) (inOrder_device s) hnone hwatchable
        hfresh rfl
      have hother : (s.monitor .indicationFilter).variant ≠ .deviceState := by
        simp [Scenario.monitor]
      exact ⟨_, hstart.start_other ((inOrder_device s).step (.start _)) hother⟩
  | indicationFilter =>
      have hother : (s.monitor .deviceState).variant ≠ .indicationFilter := by
        simp [Scenario.monitor]
      exact ⟨_, (hawaits.start_other hother).start (m := s.monitor .indicationFilter)
        (inOrder_device s) hnone hwatchable hfresh rfl⟩

end Replay

/-! ## The whole and its parts -/

/-- The requests of a report are those of one variant and then those of the other. -/
def Report.Grouped (report : Report) : Prop :=
  report.requests = Variant.deviceState.part report.requests ++
    Variant.indicationFilter.part report.requests

theorem grouped_of_parts {l : List Outgoing} {parts : List (List Outgoing)}
    (hl : l = parts.flatten) (hmine : List.Forall₂ (fun (v : Variant) part =>
      ∀ o ∈ part, v.owns o = true) [.deviceState, .indicationFilter] parts) :
    l = Variant.deviceState.part l ++ Variant.indicationFilter.part l := by
  obtain _ | ⟨hfirst, _ | ⟨hsecond, _ | _⟩⟩ := hmine
  rename_i first second
  have hds : Variant.deviceState.part l = first := by
    rw [hl, List.flatten_cons, List.flatten_singleton, Variant.part_append,
      Variant.part_of_owned hfirst, Variant.part_of_other (by decide) hsecond, List.append_nil]
  have hif : Variant.indicationFilter.part l = second := by
    rw [hl, List.flatten_cons, List.flatten_singleton, Variant.part_append,
      Variant.part_of_other (by decide) hfirst, Variant.part_of_owned hsecond, List.nil_append]
  rw [hds, hif, hl, List.flatten_cons, List.flatten_singleton]

namespace Replay

variable {s : Scenario} {v : Variant} {r r' r₁ last : Replay} {number : Nat} {step : Step}
  {steps : List Step} {report : Report} {reports : List Report}

theorem Rested.grouped (hr : Rested [.deviceState, .indicationFilter] r)
    (happly : r.apply number step = .ok (report, r₁)) : report.Grouped := by
  obtain ⟨answered, h, hstep, rfl, -⟩ := exists_of_apply happly
  have hsilent := silently_perform hstep
  obtain ⟨parts, hparts, hmine⟩ := Host.exists_queued_settle h
  rw [hsilent.queued_eq, hr.taken, List.nil_append] at hparts
  rw [hsilent.variants_eq, hr.variants] at hmine
  exact grouped_of_parts hparts hmine

theorem Rested.grouped_follow (hr : Rested [.deviceState, .indicationFilter] r)
    (hfollow : Replay.follow number steps r = .ok (reports, last)) :
    ∀ report ∈ reports, report.Grouped := by
  induction steps generalizing number r reports with
  | nil =>
      obtain ⟨rfl, -⟩ := Prod.mk.inj (Except.ok.inj hfollow)
      exact fun report hmem => absurd hmem List.not_mem_nil
  | cons step steps ih =>
      obtain ⟨report, r₁, rest, happly, hrest, rfl⟩ := follow_cons_eq_ok.mp hfollow
      intro report' hmem
      rcases List.mem_cons.mp hmem with rfl | hmem
      · exact hr.grouped happly
      · exact ih (hr.apply happly) hrest report' hmem

/-- The sessions start one after the other, and so their requests come. -/
theorem grouped_start (s : Scenario) {first : Replay} (hfirst : first.host =
    (device s).startAll ([.deviceState, .indicationFilter].map s.monitor)) :
    (first.report 0 "start" none).1.Grouped := by
  have hidle : (device s).Idle := by
    intro t ht
    rw [sessions_device] at ht
    exact absurd ht List.not_mem_nil
  have hqueued : (device s).platform.transport.queued = [] :=
    (Host.silently_setUp _ _).queued_eq
  obtain ⟨parts, hparts, hmine⟩ := Host.exists_queued_startAll
    ([.deviceState, .indicationFilter].map s.monitor) (device s)
  have hsettled : first.host.settle = first.host := by
    rw [hfirst]
    exact Host.settle_of_idle (Host.idle_startAll hidle _)
  rw [← hfirst, hqueued, List.nil_append] at hparts
  rw [List.forall₂_map_left_iff] at hmine
  rw [Report.Grouped, requests_report, hsettled]
  exact grouped_of_parts hparts hmine

/-- **The first reports**, with both variants and with one of them. -/
theorem beside_start (hboth : ∀ v, v ∈ s.settings.devmon.tracking) {first : Replay}
    (hstart : start s = .ok first) (v : Variant) :
    ∃ first', start (s.alone v) = .ok first' ∧
      Rested [v] (first'.report 0 "start" none).2 ∧
      Beside v (first.report 0 "start" none).2 (first'.report 0 "start" none).2 ∧
      (first'.report 0 "start" none).1.asked =
        (v.part (first.report 0 "start" none).1.requests).map (fun o => o.request) := by
  obtain rfl := start_eq hstart
  obtain ⟨j, ht⟩ := exists_twin_start v s
  have hrested' := rested_start [v] s
  have horder := (inOrder_device s).startAll ([.deviceState, .indicationFilter].map s.monitor)
  have horder' := (inOrder_device s).startAll [s.monitor v]
  refine ⟨_, start_alone hstart v, hrested', ?_⟩
  rw [tracked_of_both hboth]
  refine beside_report 0 "start" none _ ht horder horder' (ht.only ?_)
    (Host.length_of_variants (variants_started [v] s)) 0 "start" none
  rw [variants_started]
  decide

/-- What becomes of the first steps does not depend on those that follow. -/
theorem take_directedAll (hfollow : follow number steps r = .ok (reports, last)) (v : Variant)
    (more : List Step) :
    (directedAll v number (steps ++ more) r).take steps.length = directedAll v number steps r := by
  induction steps generalizing number r reports with
  | nil => rfl
  | cons step steps ih =>
      obtain ⟨report, r₁, rest, happly, hrest, -⟩ := follow_cons_eq_ok.mp hfollow
      simp only [List.cons_append, directedAll, happly, List.length_cons, List.take_succ_cons,
        ih hrest]

theorem take_directed (hafter : after s steps = .ok (reports, r)) (v : Variant)
    (more : List Step) :
    (s.directed v (steps ++ more)).take steps.length = s.directed v steps := by
  obtain ⟨first, rest, hstart, hfollow, -⟩ := after_eq_ok.mp hafter
  simp only [Scenario.directed, hstart]
  exact take_directedAll hfollow v more

/-- **What some steps come to with both variants, and with one of them.** -/
theorem after_alone (hboth : ∀ v, v ∈ s.settings.devmon.tracking)
    (hafter : after s steps = .ok (reports, r)) (v : Variant) :
    ∃ reports' r', after (s.alone v) (s.directed v steps).reduceOption = .ok (reports', r') ∧
      Beside v r r' ∧ Rested [v] r' ∧
      spread (true :: (s.directed v steps).map Option.isSome) (reports'.map Report.asked) =
        reports.map (fun report => (v.part report.requests).map (fun o => o.request)) := by
  obtain ⟨first, rest, hstart, hfollow, rfl⟩ := after_eq_ok.mp hafter
  obtain ⟨first', hstart', hrested', hbeside, hasked⟩ := beside_start hboth hstart v
  obtain ⟨rest', r', hfollow', hlast, hspread⟩ :=
    hbeside.follow (rested_of_both hboth hstart) (by decide) hrested' hfollow 1
  have hdirected : s.directed v steps = directedAll v 1 steps (first.report 0 "start" none).2 := by
    rw [Scenario.directed, hstart]
  rw [hdirected]
  refine ⟨_, r', after_eq_ok.mpr ⟨first', rest', hstart', hfollow', rfl⟩, hlast,
    hrested'.follow hfollow', ?_⟩
  simp only [List.map_cons, spread, List.headD_cons, List.tail_cons, hspread, hasked]

theorem grouped_after (hboth : ∀ v, v ∈ s.settings.devmon.tracking)
    (hafter : after s steps = .ok (reports, r)) : ∀ report ∈ reports, report.Grouped := by
  obtain ⟨first, rest, hstart, hfollow, rfl⟩ := after_eq_ok.mp hafter
  have hwhole := start_eq hstart
  rw [tracked_of_both hboth] at hwhole
  intro report hmem
  rcases List.mem_cons.mp hmem with rfl | hmem
  · exact grouped_start s (congrArg Replay.host hwhole)
  · exact (rested_of_both hboth hstart).grouped_follow hfollow report hmem

/-- Every request that is answered is of one variant. -/
theorem existsUnique_owner (hboth : ∀ v, v ∈ s.settings.devmon.tracking)
    (hafter : after s steps = .ok (reports, r)) {serial : Option Serial} {n : Serial} {q : Request}
    (htarget : r.target serial = .ok (n, q)) : ∃! v : Variant, v.owns ⟨n, q⟩ = true := by
  obtain ⟨o, ho, rfl, rfl⟩ := mem_of_target htarget
  rw [sent_after hafter] at ho
  obtain ⟨report, hreport, ho⟩ := List.mem_flatMap.mp ho
  rw [grouped_after hboth hafter report hreport] at ho
  obtain ⟨v, hv⟩ : ∃ v : Variant, v.owns o = true := by
    rcases List.mem_append.mp ho with ho | ho
    · exact ⟨_, (List.mem_filter.mp ho).2⟩
    · exact ⟨_, (List.mem_filter.mp ho).2⟩
  exact ⟨v, hv, fun w hw => Variant.eq_of_owns hw hv⟩

/-- An answer is kept for one variant. -/
theorem existsUnique_directed (hboth : ∀ v, v ∈ s.settings.devmon.tracking)
    (hafter : after s steps = .ok (reports, r)) {serial : Option Serial} {reply : Reply}
    (happly : r.apply number (.respond serial reply) = .ok (report, r₁)) :
    ∃! v, (r.directed v (.respond serial reply)).isSome = true := by
  obtain ⟨answered, h, hstep, -, -⟩ := exists_of_apply happly
  obtain ⟨n, q, htarget, -⟩ := perform_respond hstep
  have hkept : ∀ v, (r.directed v (.respond serial reply)).isSome = v.owns ⟨n, q⟩ := by
    intro v
    simp only [directed, htarget]
    cases v.owns ⟨n, q⟩ <;> rfl
  simp only [hkept]
  exact existsUnique_owner hboth hafter htarget

/-- With the requests of every report grouped, the whole is put together from its parts. -/
theorem asked_of_grouped (hall : ∀ report ∈ reports, report.Grouped) :
    reports.map Report.asked = List.zipWith (· ++ ·)
      (reports.map fun report =>
        (Variant.deviceState.part report.requests).map (fun o => o.request))
      (reports.map fun report =>
        (Variant.indicationFilter.part report.requests).map (fun o => o.request)) := by
  rw [List.zipWith_map, List.zipWith_self]
  refine List.map_congr_left fun report hreport => ?_
  rw [← List.map_append, ← hall report hreport]
  rfl

/-- **What the twins have in common.** -/
theorem Beside.exists_sessions (hb : Beside v r r') (hr' : Rested [v] r') :
    ∃ t ∈ r.host.sessions, ∃ t', r'.host.sessions = [t'] ∧ t.tracker.variant = v ∧
      (∀ o c, t'.tracker.decision o c = t.tracker.decision o c) ∧
      t'.tracker.isPolling = t.tracker.isPolling ∧
      (∀ c, t'.dispatcher.supported.get c = t.dispatcher.supported.get c) ∧
      (∀ c, (t'.dispatcher.pending.get c).isSome = (t.dispatcher.pending.get c).isSome) ∧
      t'.closed = t.closed := by
  obtain ⟨j, ht⟩ := hb
  obtain ⟨t, t', hget, hget', hlike, hx⟩ := ht.session
  refine ⟨t, List.mem_of_getElem? hget, t', ?_, hlike.variant, fun o c => ?_, hlike.isPolling,
    fun c => by rw [hx.supported], fun c => by rw [hx.inFlight, Option.isSome_map], hlike.closed⟩
  · obtain ⟨u, hu⟩ := List.length_eq_one_iff.mp (Host.length_of_variants hr'.variants)
    rw [hu] at hget' ⊢
    rw [Option.some.inj hget']
  · rw [← Tracker.decision_unnumbered, hlike.tracker, Tracker.decision_unnumbered]

/-- **A run of both variants is made up of runs of one.**  Run a scenario that tracks both variants,
and run it with either of them alone, where answers go to the requests in the same places and those
to the other variant are left out.  If the whole runs through, then so do the parts, and each report
of the whole has the requests that the same reports of the parts have, first those of the device
state and then those of the indication filter.  Every answer is kept in one of the parts.  Whenever
the steps so far have been taken, a session has drawn the same decisions in the whole as it has
alone, polls or does not, takes the same classes to be supported and waits for answers to requests
of the same classes. -/
theorem run_together {s : Scenario} {reports : List Report}
    (hboth : ∀ v, v ∈ s.settings.devmon.tracking) (hrun : run s = .ok reports) :
    (∃ states filters, run (s.alone .deviceState) = .ok states ∧
      run (s.alone .indicationFilter) = .ok filters ∧
      reports.map Report.asked = List.zipWith (· ++ ·)
        (spread (s.kept .deviceState) (states.map Report.asked))
        (spread (s.kept .indicationFilter) (filters.map Report.asked))) ∧
    (∀ pre serial reply post, s.steps = pre ++ .respond serial reply :: post → ∃ r,
      after s pre = .ok (reports.take (pre.length + 1), r) ∧
      ∃! v, (r.directed v (.respond serial reply)).isSome = true) ∧
    ∀ v pre post, s.steps = pre ++ post → ∃ r reports' r',
      after s pre = .ok (reports.take (pre.length + 1), r) ∧
      after (s.alone v) ((s.directed v s.steps).take pre.length).reduceOption = .ok (reports', r') ∧
      ∃ t ∈ r.host.sessions, ∃ t', r'.host.sessions = [t'] ∧ t.tracker.variant = v ∧
        (∀ o c, t'.tracker.decision o c = t.tracker.decision o c) ∧
        t'.tracker.isPolling = t.tracker.isPolling ∧
        (∀ c, t'.dispatcher.supported.get c = t.dispatcher.supported.get c) ∧
        (∀ c, (t'.dispatcher.pending.get c).isSome = (t.dispatcher.pending.get c).isSome) ∧
        t'.closed = t.closed := by
  refine ⟨?_, ?_, ?_⟩
  · obtain ⟨r, hafter⟩ := run_eq_ok.mp hrun
    obtain ⟨states, rs, hstates, -, -, hspread⟩ := after_alone hboth hafter .deviceState
    obtain ⟨filters, rf, hfilters, -, -, hspread'⟩ := after_alone hboth hafter .indicationFilter
    refine ⟨states, filters, run_eq_ok.mpr ⟨rs, hstates⟩, run_eq_ok.mpr ⟨rf, hfilters⟩, ?_⟩
    rw [Scenario.kept, Scenario.kept, hspread, hspread']
    exact asked_of_grouped (grouped_after hboth hafter)
  · intro pre serial reply post hsteps
    obtain ⟨r, hafter⟩ := exists_after_of_run hrun hsteps
    obtain ⟨last, hall⟩ := run_eq_ok.mp hrun
    rw [hsteps] at hall
    obtain ⟨first, r₁, rest, hpre, hrest, -⟩ := after_append hall
    obtain ⟨-, rfl⟩ := Prod.mk.inj (Except.ok.inj (hpre.symm.trans hafter))
    obtain ⟨report, r₂, -, happly, -, -⟩ := follow_cons_eq_ok.mp hrest
    exact ⟨r₁, hafter, existsUnique_directed hboth hafter happly⟩
  · intro v pre post hsteps
    obtain ⟨r, hafter⟩ := exists_after_of_run hrun hsteps
    obtain ⟨reports', r', hafter', hbeside, hrested', -⟩ := after_alone hboth hafter v
    rw [hsteps, take_directed hafter]
    exact ⟨r, reports', r', hafter, hafter', hbeside.exists_sessions hrested'⟩

/-- A device that is used and taken off its charger, while the modem refuses one request and accepts
another. -/
def morning : Scenario where
  interface := .v15
  settings := { devmon := { tracking := [.indicationFilter, .deviceState] } }
  initial := { charger := some .on }
  steps := [.display (some true) (some .on), .respond none .notSupported,
    .charger none (some .off), .respond (some 1) .ok, .screen true, .shutdown]

/-- That morning is made up of one for the device state and one for the indication filter; each has
one of the two answers, and requests of both go out. -/
theorem run_together_morning :
    ∃ reports states filters, run morning = .ok reports ∧
      run (morning.alone .deviceState) = .ok states ∧
      run (morning.alone .indicationFilter) = .ok filters ∧
      reports.map (fun report => report.requests.length) = [2, 1, 0, 1, 0, 0, 0] ∧
      reports.map Report.asked = List.zipWith (· ++ ·)
        (spread [true, true, false, true, true, true, true] (states.map Report.asked))
        (spread [true, true, true, true, false, true, true] (filters.map Report.asked)) := by
  have hlengths : (run morning).toOption.map (fun reports =>
      reports.map (fun report => report.requests.length)) = some [2, 1, 0, 1, 0, 0, 0] := by
    decide +kernel
  obtain ⟨reports, hsome, hlengths⟩ := Option.map_eq_some_iff.mp hlengths
  have hrun : run morning = .ok reports := by
    cases h : run morning with
    | error e => rw [h] at hsome; cases hsome
    | ok reports => rw [h] at hsome; exact congrArg Except.ok (Option.some.inj hsome)
  have hboth : ∀ v, v ∈ morning.settings.devmon.tracking := by
    intro v
    cases v <;> decide
  obtain ⟨⟨states, filters, hstates, hfilters, hasked⟩, -⟩ := run_together hboth hrun
  have hkept : morning.kept .deviceState = [true, true, false, true, true, true, true] := by
    decide +kernel
  have hkept' : morning.kept .indicationFilter = [true, true, true, true, false, true, true] := by
    decide +kernel
  rw [hkept, hkept'] at hasked
  exact ⟨reports, states, filters, hrun, hstates, hfilters, hlengths, hasked⟩

end Replay

end ModemWatch
