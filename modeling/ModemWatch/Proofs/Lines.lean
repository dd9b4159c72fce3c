import ModemWatch.Proofs.Sending
import ModemWatch.Proofs.Shares

/-!
# Sessions and their radios

A session is given its radio, and radios differ: one takes requests that another refuses, one is
closed early, answers come soon, late, twice or never, and say what they like.  None of this reaches
what a session decides.  The values that it tries to send, the intervals that it pushes and all that
it remembers follow from what it hears of the signals and of the screen state file.

A *line* is a session on any radio, with a record of what it tried to send and what it pushed.  What
it shows of itself, its *conduct*, goes on by the messages alone (`Line.conduct_run`).

* `Line.start`, `Line.handle`, `Line.run` — a session on a radio;
* `Line.Is` — on the transport of a platform that is a session of the platform (`Line.is_live`);
* `Tracker.unnumbered` — a tracker with the number of its watch left out, which nothing depends on;
* `Line.independent_of_radio` — two sessions that hear the same news behave alike.
-/

namespace ModemWatch

/-! ## What the number of a watch is good for -/

namespace Tracker

/-- A tracker with the number of its watch left out. -/
def unnumbered (t : Tracker) : Tracker :=
  { t with bridge := t.bridge.map (fun b => { b with watch := b.watch.map (fun _ => 0) }) }

variable {t t' : Tracker}

theorem snapshot_unnumbered (t : Tracker) : t.unnumbered.snapshot = t.snapshot := rfl

theorem decision_unnumbered (o : Origin) (c : RequestClass) (t : Tracker) :
    t.unnumbered.decision o c = t.decision o c := by
  cases o with
  | signals => rfl
  | polling => cases hb : t.bridge <;> simp [unnumbered, decision, hb]

theorem isPolling_unnumbered (t : Tracker) : t.unnumbered.isPolling = t.isPolling := by
  cases hb : t.bridge with
  | none => simp [unnumbered, isPolling, hb]
  | some b => cases hw : b.watch <;> simp [unnumbered, isPolling, Bridge.isAlive, hb, hw]

theorem unnumbered_bridged (v w : WatchId) (t : Tracker) :
    (t.bridged v).unnumbered = (t.bridged w).unnumbered := rfl

/-- **A tracker takes in a message the same way whatever the number of its watch**: what it knows
afterwards, what it wants sent and what it pushes are the same. -/
theorem handle_unnumbered (sample : PollSample) (m : Message) (t : Tracker) :
    (t.unnumbered.handle sample m).1.unnumbered = (t.handle sample m).1.unnumbered ∧
      Action.sends (t.unnumbered.handle sample m).2 = Action.sends (t.handle sample m).2 ∧
      Action.pushes (t.unnumbered.handle sample m).2 = Action.pushes (t.handle sample m).2 := by
  have htwice : ∀ t : Tracker, t.unnumbered.unnumbered = t.unnumbered := by
    intro t
    cases hb : t.bridge with
    | none => simp [unnumbered, hb]
    | some b => cases hw : b.watch <;> simp [unnumbered, hb, hw]
  cases m with
  | signal u =>
      refine ⟨?_, rfl, rfl⟩
      have hcommute : (t.unnumbered.observe u).1 = (t.observe u).1.unnumbered := rfl
      rw [handle, handle, hcommute, htwice]
  | completed c ticket a => exact ⟨htwice t, rfl, rfl⟩
  | screenChanged =>
      cases hb : t.bridge with
      | none => simp [handle, poll, unnumbered, hb]
      | some b =>
          cases hw : b.watch <;>
            simp [handle, poll, unnumbered, hb, hw, Bridge.isAlive, Bridge.revise, profile]
  | watchFailed reason =>
      cases hb : t.bridge with
      | none => simp [handle, stopPolling, unnumbered, hb]
      | some b =>
          cases hw : b.watch with
          | none => simp [handle, stopPolling, unnumbered, hb, hw]
          | some w =>
              refine ⟨by simp [handle, stopPolling, unnumbered, hb, hw], ?_⟩
              simp only [handle, stopPolling, unnumbered, hb, hw, Option.map_some]
              exact ⟨rfl, rfl⟩

/-- Trackers that differ in the number of their watch only take in a message alike. -/
theorem handle_alike (h : t.unnumbered = t'.unnumbered) (sample : PollSample) (m : Message) :
    (t.handle sample m).1.unnumbered = (t'.handle sample m).1.unnumbered ∧
      Action.sends (t.handle sample m).2 = Action.sends (t'.handle sample m).2 ∧
      Action.pushes (t.handle sample m).2 = Action.pushes (t'.handle sample m).2 := by
  obtain ⟨htracker, hsends, hpushes⟩ := handle_unnumbered sample m t
  obtain ⟨htracker', hsends', hpushes'⟩ := handle_unnumbered sample m t'
  rw [← htracker, ← htracker', ← hsends, ← hsends', ← hpushes, ← hpushes', h]
  exact ⟨rfl, rfl, rfl⟩

end Tracker

/-! ## Lines -/

/-- A session on a radio of any kind, with a record of what it tried to send and what it pushed. -/
structure Line (τ : Type) where
  tracker : Tracker
  dispatcher : Dispatcher := {}
  radio : τ
  /-- The values that the dispatcher was told to send, oldest first. -/
  attempts : List (RequestClass × Bool) := []
  /-- The intervals that were pushed, oldest first. -/
  pushes : List Millis := []

namespace Line

variable {τ : Type} [Radio τ Callback]

/-- Does one thing that a session wants done; watches do not matter here. -/
def act (id : SessionId) (l : Line τ) : Action → Line τ
  | .attempt a =>
    let (_, d, radio) := l.dispatcher.send id a.cls a.value l.radio
    { l with dispatcher := d, radio := radio, attempts := l.attempts ++ [(a.cls, a.value)] }
  | .push ms => { l with pushes := l.pushes ++ [ms] }
  | .unwatch _ => l

/-- Carries out what the tracker wants done. -/
def perform (id : SessionId) (l : Line τ) (step : Tracker × List Action) : Line τ :=
  step.2.foldl (act id) { l with tracker := step.1 }

/-- Handles one message. -/
def handle (id : SessionId) (sample : PollSample) (m : Message) (l : Line τ) : Line τ :=
  match m with
  | .completed c ticket a => { l with dispatcher := (l.dispatcher.complete c ticket a).2 }
  | m => l.perform id (l.tracker.handle sample m)

/-- Starts a session; `watch` is the watch on the screen state file, if there is one. -/
def start (id : SessionId) (m : Monitor) (snapshot : Snapshot) (watch : Option WatchId)
    (sample : PollSample) (radio : τ) : Line τ :=
  let fresh : Line τ := { tracker := .new m.variant m.intervals snapshot, radio := radio }
  let l := fresh.perform id (Tracker.start m.variant m.intervals snapshot)
  match watch with
  | none => l
  | some w => l.perform id ((l.tracker.bridged w).poll sample)

/-- What a session on a radio meets with. -/
inductive Event (τ : Type) where
  /-- It handles a message, while the poll sources show a sample. -/
  | hears (sample : PollSample) (m : Message)
  /-- Something becomes of the radio. -/
  | radio (f : τ → τ)

/-- The message of an event with the sample, unless it is the radio's business. -/
def Event.news? : Event τ → Option (PollSample × Message)
  | .hears _ (.completed ..) | .radio _ => none
  | .hears sample m => some (sample, m)

/-- The line after an event. -/
def next (id : SessionId) (l : Line τ) : Event τ → Line τ
  | .hears sample m => l.handle id sample m
  | .radio f => { l with radio := f l.radio }

/-- The line after a row of events. -/
def run (id : SessionId) (events : List (Event τ)) (l : Line τ) : Line τ := events.foldl (next id) l

end Line

/-- What a session shows of itself: what it knows, what it tried to send and what it pushed. -/
structure Conduct where
  tracker : Tracker
  attempts : List (RequestClass × Bool) := []
  pushes : List Millis := []

namespace Conduct

/-- A step of the tracker goes on record. -/
def take (c : Conduct) (step : Tracker × List Action) : Conduct where
  tracker := step.1
  attempts := c.attempts ++ (Action.sends step.2).map (fun a => (a.cls, a.value))
  pushes := c.pushes ++ Action.pushes step.2

/-- A message is taken in, while the poll sources show a sample. -/
def hear (c : Conduct) (news : PollSample × Message) : Conduct :=
  c.take (c.tracker.handle news.1 news.2)

/-- Two conducts are the same, but perhaps for the number of a watch. -/
structure Alike (c c' : Conduct) : Prop where
  tracker : c.tracker.unnumbered = c'.tracker.unnumbered
  attempts : c.attempts = c'.attempts
  pushes : c.pushes = c'.pushes

variable {c c' : Conduct}

theorem Alike.hear (h : c.Alike c') (news : PollSample × Message) :
    (c.hear news).Alike (c'.hear news) := by
  obtain ⟨htracker, hsends, hpushes⟩ := Tracker.handle_alike h.tracker news.1 news.2
  exact ⟨htracker, by simp only [Conduct.hear, take, h.attempts, hsends],
    by simp only [Conduct.hear, take, h.pushes, hpushes]⟩

theorem Alike.hearAll (h : c.Alike c') (news : List (PollSample × Message)) :
    (news.foldl Conduct.hear c).Alike (news.foldl Conduct.hear c') := by
  induction news generalizing c c' with
  | nil => exact h
  | cons n news ih => exact ih (h.hear n)

/-- The conduct of a session that starts. -/
def start (m : Monitor) (snapshot : Snapshot) (watch : Option WatchId) (sample : PollSample) :
    Conduct :=
  let first := take { tracker := .new m.variant m.intervals snapshot }
    (Tracker.start m.variant m.intervals snapshot)
  match watch with
  | none => first
  | some w => first.take ((first.tracker.bridged w).poll sample)

theorem alike_start (m : Monitor) (snapshot : Snapshot) {watch watch' : Option WatchId}
    (hwatch : watch.isSome = watch'.isSome) (sample : PollSample) :
    (start m snapshot watch sample).Alike (start m snapshot watch' sample) := by
  cases watch with
  | none =>
      obtain rfl : watch' = none := by simpa using hwatch.symm
      exact ⟨rfl, rfl, rfl⟩
  | some w =>
      obtain ⟨w', rfl⟩ : ∃ w', watch' = some w' := Option.isSome_iff_exists.mp hwatch.symm
      -- the first look is that of a bridge with a watch of some number
      obtain ⟨htracker, hsends, hpushes⟩ := Tracker.handle_alike
        (Tracker.unnumbered_bridged w w' (Tracker.start m.variant m.intervals snapshot).1)
        sample .screenChanged
      exact ⟨htracker, congrArg (fun sends : List Attempt =>
        (take { tracker := .new m.variant m.intervals snapshot }
          (Tracker.start m.variant m.intervals snapshot)).attempts ++
        sends.map (fun a => (a.cls, a.value))) hsends,
        congrArg ((take { tracker := .new m.variant m.intervals snapshot }
          (Tracker.start m.variant m.intervals snapshot)).pushes ++ ·) hpushes⟩

end Conduct

namespace Line

variable {τ σ : Type} [Radio τ Callback] [Radio σ Callback]

/-- What a line shows of itself. -/
def conduct (l : Line τ) : Conduct := ⟨l.tracker, l.attempts, l.pushes⟩

theorem conduct_perform (id : SessionId) (l : Line τ) (step : Tracker × List Action) :
    (l.perform id step).conduct = l.conduct.take step := by
  have hacts : ∀ (actions : List Action) (l : Line τ), (actions.foldl (act id) l).conduct =
      ⟨l.tracker, l.attempts ++ (Action.sends actions).map (fun a => (a.cls, a.value)),
        l.pushes ++ Action.pushes actions⟩ := by
    intro actions
    induction actions with
    | nil => intro l; simp [conduct, Action.sends, Action.pushes]
    | cons a actions ih =>
        intro l
        rw [List.foldl_cons, ih]
        cases a with
        | attempt a => exact congrArg (Conduct.mk _ · _) (List.append_assoc ..)
        | push ms => exact congrArg (Conduct.mk _ _ ·) (List.append_assoc ..)
        | unwatch w => rfl
  exact hacts step.2 { l with tracker := step.1 }

theorem conduct_start (id : SessionId) (m : Monitor) (snapshot : Snapshot) (watch : Option WatchId)
    (sample : PollSample) (radio : τ) :
    (start id m snapshot watch sample radio).conduct = .start m snapshot watch sample := by
  unfold start Conduct.start
  cases watch with
  | none => exact conduct_perform ..
  | some w =>
      simp only [conduct_perform]
      have htracker := congrArg Conduct.tracker (conduct_perform id
        ({ tracker := .new m.variant m.intervals snapshot, radio := radio } : Line τ)
        (Tracker.start m.variant m.intervals snapshot))
      rw [show ∀ l : Line τ, l.conduct.tracker = l.tracker from fun _ => rfl] at htracker
      rw [htracker]
      rfl

/-- Answers of the radio leave no trace in the conduct. -/
theorem conduct_next (id : SessionId) (l : Line τ) (e : Event τ) :
    (l.next id e).conduct = e.news?.elim l.conduct l.conduct.hear := by
  cases e with
  | radio f => rfl
  | hears sample m =>
      cases m with
      | completed c ticket a => rfl
      | signal | screenChanged | watchFailed => exact conduct_perform ..

/-- **The conduct of a session goes on by the news that it hears.** -/
theorem conduct_run (id : SessionId) (events : List (Event τ)) (l : Line τ) :
    (l.run id events).conduct = (events.filterMap Event.news?).foldl Conduct.hear l.conduct := by
  induction events generalizing l with
  | nil => rfl
  | cons e events ih =>
      refine (ih (l.next id e)).trans ?_
      rw [conduct_next]
      cases he : e.news? with
      | none => rw [List.filterMap_cons_none he]; rfl
      | some n => rw [List.filterMap_cons_some he]; rfl

end Line

/-! ## Sessions are lines -/

/-- The intervals that were pushed in some turns, in order. -/
def pushedIn (log : List Turn) : List Millis := log.flatMap (fun turn => Action.pushes turn.actions)

/-- The watch on the screen state file that a session of a monitor gets when it starts. -/
def Monitor.watchIn (id : SessionId) (n : Notifier SessionId) (m : Monitor) : Option WatchId :=
  m.watchPath.bind (fun path => (n.watch path id).1.toOption)

namespace Line

/-- What a session meets with in a visit: whatever became of its transport, and a message. -/
def eventsOf (v : Visit) : List (Event (Transport Callback)) :=
  [.radio (fun _ => v.found.transport), .hears v.found.sample v.message]

/-- A line on a transport is a session that has some turns behind it. -/
structure Is (l : Line (Transport Callback)) (turns : List Turn) (s : Session)
    (t : Transport Callback) : Prop where
  tracker : l.tracker = s.tracker
  dispatcher : l.dispatcher = s.dispatcher
  radio : l.radio = t
  attempts : l.attempts = (sentIn turns).map (fun a => (a.cls, a.value))
  pushes : l.pushes = pushedIn turns

variable {l : Line (Transport Callback)} {turns : List Turn} {s : Session} {p : Platform}

theorem perform_eq (id : SessionId) (l : Line (Transport Callback))
    (step : Tracker × List Action) :
    l.perform id step =
      { tracker := step.1
        dispatcher := (Dispatcher.sendAll id (Action.sends step.2) (l.dispatcher, l.radio)).1
        radio := (Dispatcher.sendAll id (Action.sends step.2) (l.dispatcher, l.radio)).2
        attempts := l.attempts ++ (Action.sends step.2).map (fun a => (a.cls, a.value))
        pushes := l.pushes ++ Action.pushes step.2 } := by
  have hacts : ∀ (actions : List Action) (l : Line (Transport Callback)),
      actions.foldl (act id) l =
        { tracker := l.tracker
          dispatcher := (Dispatcher.sendAll id (Action.sends actions) (l.dispatcher, l.radio)).1
          radio := (Dispatcher.sendAll id (Action.sends actions) (l.dispatcher, l.radio)).2
          attempts := l.attempts ++ (Action.sends actions).map (fun a => (a.cls, a.value))
          pushes := l.pushes ++ Action.pushes actions } := by
    intro actions
    induction actions with
    | nil => intro l; simp [Dispatcher.sendAll, Action.sends, Action.pushes]
    | cons a actions ih =>
        intro l
        rw [List.foldl_cons, ih]
        cases a with
        | attempt a => exact congrArg (Line.mk _ _ _ · _) (List.append_assoc ..)
        | push ms => exact congrArg (Line.mk _ _ _ _ ·) (List.append_assoc ..)
        | unwatch w => rfl
  exact hacts step.2 { l with tracker := step.1 }

theorem Is.perform (h : l.Is turns s p.transport) (id : SessionId)
    (step : Tracker × List Action) :
    (l.perform id step).Is
      (turns ++ [⟨step.2, p.transport, (s.perform id step p).2.transport⟩])
      (s.perform id step p).1 (s.perform id step p).2.transport := by
  rw [perform_eq, Session.perform_eq, h.dispatcher, h.radio]
  exact ⟨rfl, rfl, rfl, by simp [h.attempts, sentIn], by simp [h.pushes, pushedIn]⟩

/-- **A session handles a message as its line does.** -/
theorem Is.handle (h : l.Is turns s p.transport) (hopen : s.closed = false) (id : SessionId)
    (m : Message) :
    (l.handle id p.sample m).Is
      (turns ++ [⟨s.wishes m p, p.transport, (s.handle id m p).2.transport⟩])
      (s.handle id m p).1 (s.handle id m p).2.transport := by
  rw [Session.wishes_of_open hopen]
  cases m with
  | completed c ticket a =>
      have hhandle : s.handle id (.completed c ticket a) p =
          ({ s with dispatcher := (s.dispatcher.complete c ticket a).2 }, p) := by
        simp [Session.handle, hopen]
      rw [hhandle]
      refine ⟨h.tracker, ?_, h.radio, ?_, ?_⟩
      · simp only [Line.handle, h.dispatcher]
      · simp [Line.handle, h.attempts, sentIn, Action.sends]
      · simp [Line.handle, h.pushes, pushedIn, Action.pushes]
  | signal | screenChanged | watchFailed =>
      simp only [Session.handle, hopen, ← h.tracker]
      exact h.perform id _

/-- A session that has seen the signals but done nothing yet is a line without a past. -/
theorem is_fresh (id : SessionId) (m : Monitor) (p : Platform) :
    Is { tracker := .new m.variant m.intervals p.sources.snapshot, radio := p.transport } []
      { tracker := .new m.variant m.intervals p.sources.snapshot
        subscriptions := (p.sources.subscribeAll id m.variant.profile.signals).1 } p.transport :=
  ⟨rfl, rfl, rfl, rfl, rfl⟩

/-- **A session starts as its line does.** -/
theorem is_start (id : SessionId) (m : Monitor) (p : Platform) :
    (start id m p.sources.snapshot (m.watchIn id p.notifier) p.sample p.transport).Is
      (Session.startTurns id m.variant m.intervals m.watchPath p)
      (Session.start id m.variant m.intervals m.watchPath p).1
      (Session.start id m.variant m.intervals m.watchPath p).2.transport := by
  -- the first pass, over the signals
  obtain ⟨l, hl⟩ : ∃ l : Line (Transport Callback), l = perform id
      { tracker := .new m.variant m.intervals p.sources.snapshot, radio := p.transport }
      (Tracker.start m.variant m.intervals p.sources.snapshot) := ⟨_, rfl⟩
  have hfirst : l.Is (Session.startTurns id m.variant m.intervals none p)
      (Session.start id m.variant m.intervals none p).1
      (Session.start id m.variant m.intervals none p).2.transport := by
    rw [hl, startTurns_none, Session.start_none]
    exact Is.perform (p := { p with
      sources := (p.sources.subscribeAll id m.variant.profile.signals).2 })
      (is_fresh id m p) id _
  obtain ⟨hnotifier, hsample⟩ := Session.polled_of_start_none id m.variant m.intervals p
  have hstart : start id m p.sources.snapshot (m.watchIn id p.notifier) p.sample p.transport =
      match m.watchIn id p.notifier with
      | none => l
      | some w => l.perform id ((l.tracker.bridged w).poll p.sample) := by
    rw [hl]
    rfl
  rw [hstart]
  cases hpath : m.watchPath with
  | none =>
      simp only [Monitor.watchIn, hpath, Option.bind_none]
      exact hfirst
  | some path =>
      rw [startTurns_some, Session.start_some, ← hsample]
      simp only [Monitor.watchIn, hpath, Option.bind_some, ← hnotifier]
      generalize Session.start id m.variant m.intervals none p = first at hfirst
      cases hw : (first.2.notifier.watch path id).1 with
      | error failure =>
          rw [Session.startPolling_of_error id _ hw, firstLook_of_error hw]
          refine ⟨hfirst.tracker, hfirst.dispatcher, hfirst.radio, ?_, ?_⟩
          · exact hfirst.attempts.trans (by simp [sentIn, Action.sends])
          · exact hfirst.pushes.trans (by simp [pushedIn, Action.pushes])
      | ok watch =>
          rw [Session.startPolling_of_ok id _ hw, firstLook_of_ok hw]
          simp only [Except.toOption, hfirst.tracker]
          exact Is.perform (s := { first.1 with tracker := first.1.tracker.bridged watch })
            (p := { first.2 with notifier := (first.2.notifier.watch path id).2 })
            (l := { l with tracker := first.1.tracker.bridged watch })
            ⟨rfl, hfirst.dispatcher, hfirst.radio, hfirst.attempts, hfirst.pushes⟩ id _

theorem Is.goThrough (h : l.Is turns s p.transport) (hopen : s.closed = false) (id : SessionId)
    (arrivals : List Arrival) :
    let run := s.goThrough Tracker.handle id arrivals p
    (l.run id (run.1.flatMap eventsOf)).Is (turns ++ run.1.map Visit.turn) run.2.1
      run.2.2.transport := by
  induction arrivals generalizing l turns s p with
  | nil => simpa [Session.goThrough, run] using h
  | cons a arrivals ih =>
      have hnow : ({ l with radio := (a.meanwhile p).transport } : Line (Transport Callback)).Is
          turns s (a.meanwhile p).transport :=
        ⟨h.tracker, h.dispatcher, rfl, h.attempts, h.pushes⟩
      have hrest := ih (hnow.handle hopen id a.message) ((Session.same_handle ..).closed.trans hopen)
      simp only [List.append_assoc] at hrest
      rw [Session.goThrough_cons]
      exact hrest

/-- **A session lives as its line does**, whatever arrives at it. -/
theorem is_live (id : SessionId) (m : Monitor) (p : Platform) (arrivals : List Arrival) :
    let run := Session.live Tracker.handle id m.variant m.intervals m.watchPath p arrivals
    ((start id m p.sources.snapshot (m.watchIn id p.notifier) p.sample p.transport).run id
        (run.1.flatMap eventsOf)).Is
      (Session.startTurns id m.variant m.intervals m.watchPath p ++ run.1.map Visit.turn)
      run.2.1 run.2.2.transport :=
  (is_start id m p).goThrough (Session.started id m p).closed id arrivals

/-- **What a session decides does not depend on its radio.**  Take two sessions with the same
parameters that saw the same signals and the same poll sources when they started, and that both got
a watch or both got none.  Whatever their radios are, let them hear the same news, messages of
signals, of the screen state file and of broken watches, each while the poll sources show the same.
In between anything may become of the radios, and any answers may arrive, at one session and not at
the other.  Then both remember the same signals and the same decisions of either source, poll or do
not, tried to send the same values of the same classes in the same order, and pushed the same
intervals.

The session of a platform is such a session: from its start on and whatever arrives at it, it is a
line on its transport, which hears of every message that was handled. -/
theorem independent_of_radio {τ σ : Type} [Radio τ Callback] [Radio σ Callback]
    (id id' : SessionId) (m : Monitor) (snapshot : Snapshot) {watch watch' : Option WatchId}
    (hwatch : watch.isSome = watch'.isSome) (sample : PollSample) (radio : τ) (radio' : σ)
    {events : List (Event τ)} {events' : List (Event σ)}
    (hnews : events.filterMap Event.news? = events'.filterMap Event.news?) :
    let l := (start id m snapshot watch sample radio).run id events
    let l' := (start id' m snapshot watch' sample radio').run id' events'
    (l.tracker.snapshot = l'.tracker.snapshot ∧
      (∀ o c, l.tracker.decision o c = l'.tracker.decision o c) ∧
      l.tracker.isPolling = l'.tracker.isPolling ∧
      l.attempts = l'.attempts ∧
      l.pushes = l'.pushes) ∧
    ∀ (p : Platform) (arrivals : List Arrival),
      let run := Session.live Tracker.handle id m.variant m.intervals m.watchPath p arrivals
      ((start id m p.sources.snapshot (m.watchIn id p.notifier) p.sample p.transport).run id
          (run.1.flatMap eventsOf)).Is
        (Session.startTurns id m.variant m.intervals m.watchPath p ++ run.1.map Visit.turn)
        run.2.1 run.2.2.transport := by
  intro l l'
  have hconduct : l.conduct = (events.filterMap Event.news?).foldl Conduct.hear
      (.start m snapshot watch sample) := by rw [conduct_run, conduct_start]
  have hconduct' : l'.conduct = (events.filterMap Event.news?).foldl Conduct.hear
      (.start m snapshot watch' sample) := by rw [conduct_run, conduct_start, hnews]
  have halike : l.conduct.Alike l'.conduct := by
    rw [hconduct, hconduct']
    exact (Conduct.alike_start m snapshot hwatch sample).hearAll _
  have htracker : l.tracker.unnumbered = l'.tracker.unnumbered := halike.tracker
  refine ⟨⟨?_, fun o c => ?_, ?_, halike.attempts, halike.pushes⟩, is_live id m⟩
  · rw [← Tracker.snapshot_unnumbered, htracker, Tracker.snapshot_unnumbered]
  · rw [← Tracker.decision_unnumbered, htracker, Tracker.decision_unnumbered]
  · rw [← Tracker.isPolling_unnumbered, htracker, Tracker.isPolling_unnumbered]

/-- A radio that refuses the first request with "request not supported", and one that is closed
while the display comes on. -/
theorem independent_of_radio_display :
    let m : Monitor := ⟨.deviceState, {}, some "screen_on"⟩
    let radio : Transport Callback := { slot := "slot1", interface := .v15 }
    let dark : PollSample := ⟨false, .unknown⟩
    let lit : PollSample := ⟨true, .charging⟩
    let news : Event (Transport Callback) := .hears dark (.signal ⟨.display, .valid true⟩)
    let refusal : Event (Transport Callback) := .hears dark (.completed .lowDataExpected 1
      (.answered .sendDeviceState .requestNotSupported))
    let look : Event (Transport Callback) := .hears lit .screenChanged
    let l := (start 0 m {} (some 1) dark radio).run 0 [refusal, news, look]
    let l' := (start 0 m {} (some 4) dark radio).run 0 [news, .radio Transport.close, look]
    l.dispatcher.supported ≠ l'.dispatcher.supported ∧ l.radio.queued ≠ l'.radio.queued ∧
      l.attempts = l'.attempts ∧ l.pushes = l'.pushes := by
  intro m radio dark lit news refusal look l l'
  have hwatch : (some 1 : Option WatchId).isSome = (some 4 : Option WatchId).isSome := rfl
  have hnews : [refusal, news, look].filterMap Event.news? =
      [news, .radio Transport.close, look].filterMap Event.news? := rfl
  have h := (independent_of_radio 0 0 m {} hwatch dark radio radio hnews).1
  exact ⟨by decide, by decide, h.2.2.2⟩

end Line

end ModemWatch
