import ModemWatch.Proofs.Visits

/-!
# Two sources of decisions that do not meet

The signals and polling run through one session, one dispatcher and the same request classes, and
nothing reconciles them.  What a session knows falls into two *parts* accordingly: what it remembers
of the signals with the decisions drawn from them, and its poll bridge.  Every message is about one
of the two, or about neither, as the answers of the radio are.

A message that is not about a part leaves the part as it is, and one that is about it is taken in as
if there were nothing else.  So either part goes on by its own messages alone, in whatever order
those of the other part and the answers come between.

* `Tracker.part` — what a tracker knows on behalf of one source of decisions;
* `Tracker.part_attend`, `Tracker.attend_part` — the two sorts of messages;
* `Session.part_goThrough` — a part after any run, told from the messages about it;
* `Session.sources_apart` — the run and its two projections.
-/

namespace ModemWatch

/-- The source of decisions that a message is about. -/
def Message.about : Message → Option Origin
  | .signal _ => some .signals
  | .screenChanged | .watchFailed _ => some .polling
  | .completed .. => none

/-- What a source of decisions sees when it looks at the poll sources; the signals never look. -/
def Origin.sees : Origin → PollSample → PollSample
  | .signals, _ => ⟨false, .unknown⟩
  | .polling, sample => sample

namespace Tracker

/-- What a tracker knows on behalf of one source of decisions. -/
def part (o : Origin) (t : Tracker) : Tracker :=
  match o with
  | .signals => { t with bridge := none }
  | .polling => { t with snapshot := {}, decisions := .empty }

/-- Takes in a message, unless the session is closed. -/
def attend (closed : Bool) (sample : PollSample) (m : Message) (t : Tracker) :
    Tracker × List Action :=
  if closed then (t, []) else t.handle sample m

variable {o : Origin} {m : Message}

/-- A message about one part is taken in as if there were nothing else. -/
theorem handle_part (h : m.about = some o) (sample : PollSample) (t : Tracker) :
    (t.part o).handle (o.sees sample) m =
      ((t.handle sample m).1.part o, (t.handle sample m).2) := by
  cases m with
  | completed => cases h
  | signal u =>
      obtain rfl : Origin.signals = o := Option.some.inj h
      rfl
  | screenChanged =>
      obtain rfl : Origin.polling = o := Option.some.inj h
      cases hlive : t.isPolling with
      | false => rw [handle, handle, poll_of_dead hlive, poll_of_dead (t := t.part .polling) hlive]
      | true =>
          obtain ⟨bridge, hb, halive⟩ := isPolling_iff.mp hlive
          rw [handle, handle, poll_of_live hb halive,
            poll_of_live (t := t.part .polling) hb halive]
          rfl
  | watchFailed reason =>
      obtain rfl : Origin.polling = o := Option.some.inj h
      simp only [handle, stopPolling, part]
      split
      · rfl
      · split <;> rfl

/-- A message that is not about a part leaves it as it is. -/
theorem part_handle (h : m.about ≠ some o) (sample : PollSample) (t : Tracker) :
    (t.handle sample m).1.part o = t.part o := by
  cases m with
  | completed => rfl
  | signal u =>
      cases o with
      | signals => exact absurd rfl h
      | polling => rfl
  | screenChanged =>
      cases o with
      | polling => exact absurd rfl h
      | signals =>
          cases hlive : t.isPolling with
          | false => rw [handle, poll_of_dead hlive]
          | true =>
              obtain ⟨bridge, hb, halive⟩ := isPolling_iff.mp hlive
              rw [handle, poll_of_live hb halive]
              rfl
  | watchFailed reason =>
      cases o with
      | polling => exact absurd rfl h
      | signals =>
          simp only [handle, stopPolling]
          split
          · rfl
          · split <;> rfl

theorem attend_part (h : m.about = some o) (closed : Bool) (sample : PollSample) (t : Tracker) :
    (t.part o).attend closed (o.sees sample) m =
      ((t.attend closed sample m).1.part o, (t.attend closed sample m).2) := by
  cases closed with
  | true => rfl
  | false => exact handle_part h sample t

theorem part_attend (h : m.about ≠ some o) (closed : Bool) (sample : PollSample) (t : Tracker) :
    (t.attend closed sample m).1.part o = t.part o := by
  cases closed with
  | true => rfl
  | false => exact part_handle h sample t

/-- Takes in some news, one after the other, each with what is seen of the poll sources; tells what
was wanted done about each. -/
def attendAll (closed : Bool) : List (Message × PollSample) → Tracker → List (List Action) × Tracker
  | [], t => ([], t)
  | n :: news, t =>
    let step := t.attend closed n.2 n.1
    let rest := attendAll closed news step.1
    (step.2 :: rest.1, rest.2)

end Tracker

/-- What a session finds at a visit: the message and what the poll sources show. -/
def Visit.news (v : Visit) : Message × PollSample := (v.message, v.found.sample)

/-- The visits whose message is about one source of decisions. -/
def visitsAbout (o : Origin) (log : List Visit) : List Visit :=
  log.filter (fun v => v.message.about == some o)

/-- The news of one source of decisions, as far as it looks at them. -/
def newsAbout (o : Origin) (log : List Visit) : List (Message × PollSample) :=
  (visitsAbout o log).map (fun v => (v.message, o.sees v.found.sample))

/-- The news of the signals are told by the messages alone. -/
theorem newsAbout_signals (log : List Visit) :
    newsAbout .signals log =
      ((log.map (fun v => v.message)).filter (fun m => m.about == some .signals)).map
        (fun m => (m, ⟨false, .unknown⟩)) := by
  simp [newsAbout, visitsAbout, Origin.sees, List.filter_map, Function.comp_def]

/-- The news of polling are the messages about it, each with what the poll sources showed. -/
theorem newsAbout_polling (log : List Visit) :
    newsAbout .polling log =
      (log.map Visit.news).filter (fun n => n.1.about == some .polling) := by
  rw [List.filter_map]
  rfl

/-- Who hears the messages of a log about the signals only hears the same news of the signals. -/
theorem newsAbout_of_only_signals {log log' : List Visit}
    (honly : log'.map (fun v => v.message) =
      (log.map (fun v => v.message)).filter (fun m => m.about == some .signals)) :
    newsAbout .signals log' = newsAbout .signals log := by
  rw [newsAbout_signals, newsAbout_signals, honly, List.filter_filter]
  simp only [Bool.and_self]

/-- Who hears the messages of a log about polling only, and finds the poll sources showing the same,
hears the same news of polling. -/
theorem newsAbout_of_only_polling {log log' : List Visit}
    (honly : log'.map Visit.news =
      (log.map Visit.news).filter (fun n => n.1.about == some .polling)) :
    newsAbout .polling log' = newsAbout .polling log := by
  rw [newsAbout_polling, newsAbout_polling, honly, List.filter_filter]
  simp only [Bool.and_self]

theorem visitsAbout_cons_of_about {o : Origin} {v : Visit} (h : v.message.about = some o)
    (log : List Visit) : visitsAbout o (v :: log) = v :: visitsAbout o log :=
  List.filter_cons_of_pos (by simp [h])

theorem visitsAbout_cons_of_not {o : Origin} {v : Visit} (h : v.message.about ≠ some o)
    (log : List Visit) : visitsAbout o (v :: log) = visitsAbout o log :=
  List.filter_cons_of_neg (by simp [h])

namespace Session

variable {s s' : Session}

theorem tracker_attend (id : SessionId) (m : Message) (s : Session) (p : Platform) :
    (s.handle id m p).1.tracker = (s.tracker.attend s.closed p.sample m).1 := by
  cases h : s.closed with
  | true => rw [handle_closed h]; rfl
  | false => exact tracker_handle id p h m

theorem wishes_attend (m : Message) (s : Session) (p : Platform) :
    s.wishes m p = (s.tracker.attend s.closed p.sample m).2 := by
  cases h : s.closed <;> simp [wishes, Tracker.attend, h]

/-- **A part after a run** is what the news about it make of the part, and what is wanted done about
them does not depend on anything else either. -/
theorem part_goThrough (o : Origin) (id : SessionId) (arrivals : List Arrival) (s : Session)
    (p : Platform) :
    let run := s.goThrough Tracker.handle id arrivals p
    ((visitsAbout o run.1).map (fun v => v.wishes), run.2.1.tracker.part o) =
      (s.tracker.part o).attendAll s.closed (newsAbout o run.1) := by
  induction arrivals generalizing s p with
  | nil => rfl
  | cons a arrivals ih =>
      have hrest := ih (s.handle id a.message (a.meanwhile p)).1
        (s.handle id a.message (a.meanwhile p)).2
      simp only [tracker_attend, (same_handle id a.message s (a.meanwhile p)).closed] at hrest
      rw [goThrough_cons]
      by_cases hm : a.message.about = some o
      · -- the part takes the message in
        have hfirst := Tracker.attend_part hm s.closed (a.meanwhile p).sample s.tracker
        simp only [newsAbout, visitsAbout_cons_of_about (v := ⟨a.message, _, _, _⟩) hm,
          List.map_cons, Tracker.attendAll, hfirst, wishes_attend]
        exact congrArg (fun r : List (List Action) × Tracker => (_ :: r.1, r.2)) hrest
      · -- the part stays as it is
        rw [Tracker.part_attend hm] at hrest
        simp only [newsAbout, visitsAbout_cons_of_not (v := ⟨a.message, _, _, _⟩) hm]
        exact hrest

/-- Two sessions that agree in one part, and hear the same news about it, agree in it afterwards and
want the same done about these news. -/
theorem part_congr {o : Origin} (hclosed : s'.closed = s.closed)
    (hpart : s'.tracker.part o = s.tracker.part o) {id id' : SessionId} {p p' : Platform}
    {arrivals arrivals' : List Arrival}
    (hnews : newsAbout o (s'.goThrough Tracker.handle id' arrivals' p').1 =
      newsAbout o (s.goThrough Tracker.handle id arrivals p).1) :
    let run := s.goThrough Tracker.handle id arrivals p
    let run' := s'.goThrough Tracker.handle id' arrivals' p'
    (visitsAbout o run'.1).map (fun v => v.wishes) =
        (visitsAbout o run.1).map (fun v => v.wishes) ∧
      run'.2.1.tracker.part o = run.2.1.tracker.part o := by
  have hrun := part_goThrough o id arrivals s p
  have hrun' := part_goThrough o id' arrivals' s' p'
  simp only [hclosed, hpart, hnews] at hrun'
  exact Prod.ext_iff.mp (hrun'.trans hrun.symm)

/-- A log that consists of what another log has about one source of decisions has nothing else. -/
theorem visitsAbout_of_only {o : Origin} {log log' : List Visit}
    (honly : log'.map (fun v => v.message) =
      (log.map (fun v => v.message)).filter (fun m => m.about == some o)) :
    visitsAbout o log' = log' := by
  rw [visitsAbout, List.filter_eq_self]
  intro v hv
  have hm : v.message ∈ log'.map (fun v => v.message) := List.mem_map_of_mem hv
  rw [honly] at hm
  exact (List.mem_filter.mp hm).2

/-- **The two sources of decisions do not meet.**  Take any session and whatever arrives at it, in
whatever order news of signals, reports of the watch and answers of the radio come.

What the session remembers of the signals and the decisions that it draws from them are those of a
session that hears the news of signals only.  Its poll bridge has the decisions of one that hears the
reports of the watch only, as long as the poll sources show the same whenever one comes, and it is
alive exactly if that one is.  The two sessions may start with another platform, and each needs to
agree with the first only in the part that it is about; so a session without a bridge remembers and
decides the same of the signals.

What either source of decisions wants done about a message is not changed by the other one either:
it wants the same values sent, in the same order, and the same intervals pushed. -/
theorem sources_apart (id : SessionId) (s : Session) (p : Platform) (arrivals : List Arrival) :
    let run := s.goThrough Tracker.handle id arrivals p
    (∀ (id' : SessionId) (s' : Session) (p' : Platform) (arrivals' : List Arrival),
      s'.closed = s.closed → s'.tracker.part .signals = s.tracker.part .signals →
      arrivals'.map (fun a => a.message) =
        (arrivals.map (fun a => a.message)).filter (fun m => m.about == some .signals) →
      let run' := s'.goThrough Tracker.handle id' arrivals' p'
      run'.2.1.tracker.snapshot = run.2.1.tracker.snapshot ∧
      run'.2.1.tracker.decisions = run.2.1.tracker.decisions ∧
      run'.1.map (fun v => v.wishes) =
        (visitsAbout .signals run.1).map (fun v => v.wishes)) ∧
    ∀ (id' : SessionId) (s' : Session) (p' : Platform) (arrivals' : List Arrival),
      s'.closed = s.closed → s'.tracker.part .polling = s.tracker.part .polling →
      (s'.goThrough Tracker.handle id' arrivals' p').1.map Visit.news =
        (run.1.map Visit.news).filter (fun n => n.1.about == some .polling) →
      let run' := s'.goThrough Tracker.handle id' arrivals' p'
      (∀ c, run'.2.1.tracker.decision .polling c = run.2.1.tracker.decision .polling c) ∧
      run'.2.1.tracker.isPolling = run.2.1.tracker.isPolling ∧
      run'.1.map (fun v => v.wishes) =
        (visitsAbout .polling run.1).map (fun v => v.wishes) := by
  intro run
  refine ⟨fun id' s' p' arrivals' hclosed hpart honly => ?_,
    fun id' s' p' arrivals' hclosed hpart honly => ?_⟩
  · have hmessages : (s'.goThrough Tracker.handle id' arrivals' p').1.map (fun v => v.message) =
        (run.1.map (fun v => v.message)).filter (fun m => m.about == some .signals) := by
      rw [messages_goThrough, messages_goThrough]
      exact honly
    obtain ⟨hwishes, hsame⟩ := part_congr hclosed hpart (newsAbout_of_only_signals hmessages)
    rw [visitsAbout_of_only hmessages] at hwishes
    have hsnapshot := congrArg Tracker.snapshot hsame
    have hdecisions := congrArg Tracker.decisions hsame
    exact ⟨hsnapshot, hdecisions, hwishes⟩
  · have hmessages : (s'.goThrough Tracker.handle id' arrivals' p').1.map (fun v => v.message) =
        (run.1.map (fun v => v.message)).filter (fun m => m.about == some .polling) := by
      have hfst := congrArg (List.map Prod.fst) honly
      simpa [List.filter_map, Function.comp_def, Visit.news] using hfst
    obtain ⟨hwishes, hsame⟩ := part_congr hclosed hpart (newsAbout_of_only_polling honly)
    rw [visitsAbout_of_only hmessages] at hwishes
    have hbridge : (s'.goThrough Tracker.handle id' arrivals' p').2.1.tracker.bridge =
        run.2.1.tracker.bridge := by
      have h := congrArg Tracker.bridge hsame
      exact h
    refine ⟨fun c => ?_, ?_, hwishes⟩
    · simp only [Tracker.decision, hbridge]
    · simp only [Tracker.isPolling, hbridge]

/-- The display comes on while the battery charges, the radio refuses a class and then the watch
breaks.  At the end the signals know of no charger, polling does. -/
theorem sources_apart_unreconciled :
    let p : Platform := { transport := { slot := "slot1", interface := .v15 } }
    let start := Session.start 0 .deviceState {} (some "screen_on") p
    let showing (power : PowerState) (p : Platform) : Platform :=
      { p with screen := .missing, power := power }
    let news : Arrival := ⟨fun p => p, .signal ⟨.display, .valid true⟩⟩
    let refusal : Arrival := ⟨fun p => p, .completed .lowDataExpected 1
      (.answered .sendDeviceState .requestNotSupported)⟩
    let look : Arrival := ⟨showing .charging, .screenChanged⟩
    let broken : Arrival := ⟨showing .charging, .watchFailed "gone"⟩
    let late : Arrival := ⟨showing .discharging, .screenChanged⟩
    let run := start.1.goThrough Tracker.handle 0 [look, news, refusal, broken, late] start.2
    let signals := start.1.goThrough Tracker.handle 0 [news] start.2
    let polling := start.1.goThrough Tracker.handle 0 [look, broken, late] start.2
    run.2.1.tracker.decisions.get .chargingState = some false ∧
      run.2.1.tracker.decision .polling .chargingState = some true ∧
      signals.2.1.tracker.decisions = run.2.1.tracker.decisions ∧
      polling.2.1.tracker.decision .polling .chargingState =
        run.2.1.tracker.decision .polling .chargingState ∧
      polling.2.1.tracker.isPolling = run.2.1.tracker.isPolling := by
  intro p start showing news refusal look broken late run signals polling
  refine ⟨by decide, by decide, ?_⟩
  -- the projections agree with the run whatever the session was at first
  clear_value start
  have hparts := sources_apart 0 start.1 start.2 [look, news, refusal, broken, late]
  have hsignals := hparts.1 0 start.1 start.2 [news] rfl rfl rfl
  have hpolling := hparts.2 0 start.1 start.2 [look, broken, late] rfl rfl rfl
  exact ⟨hsignals.2.1, hpolling.1 .chargingState, hpolling.2.1⟩

end Session

end ModemWatch
