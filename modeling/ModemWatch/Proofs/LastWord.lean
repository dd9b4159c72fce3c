import ModemWatch.Proofs.Performing

/-!
# Who had the last word

Two sources of decisions write to the modem through one dispatcher, and neither looks at what the
other recorded.  Nothing reconciles them: a value that a source holds back because it sent it before
may have been overwritten by the other source since.  All the same the last value written to a class
is always one that its writer still stands by.

A *course* is a session from its start on, with a log of its turns.  A turn is what the session
wanted done and the transport that it found and left.  Between two turns anything may happen to the
platform, and any message may come next, so the courses of a session include all that it can go
through on any host.

Main statements:

* `Wrote.turn` — in every turn the last value sent for a class is what its writer records;
* `Delivered.turn` — it is the last request of its class, if the class is supported and the queue
  was open;
* `Course.last_word` — both together, for every rule of an open session: where the two sources agree
  the modem was last told what they agree on.
-/

namespace ModemWatch

/-- What a session wanted done at one time, and the transport that it found and left. -/
structure Turn where
  actions : List Action
  found : Transport Callback
  left : Transport Callback

namespace Turn

/-- The requests that the session queued. -/
def requests (turn : Turn) : List Request :=
  (turn.left.queued.drop turn.found.queued.length).map (fun o => o.request)

/-- The values that the session sent, each with its turn. -/
def attempts (turn : Turn) : List (Turn × Attempt) :=
  (Action.sends turn.actions).map (fun a => (turn, a))

/-- What was sent in the turn was sent to the transport that it found. -/
def SentBy (turn : Turn) (id : SessionId) (d : Dispatcher) : Prop :=
  turn.left = (Dispatcher.sendAll id (Action.sends turn.actions) (d, turn.found)).2

end Turn

/-- The last value of a class that was sent, with its turn. -/
def lastAttempt (c : RequestClass) (log : List Turn) : Option (Turn × Attempt) :=
  latest (fun x => x.2.cls == c) (log.flatMap Turn.attempts)

/-- The last request of a class that was queued. -/
def lastRequest (c : RequestClass) (log : List Turn) : Option Request :=
  latest (fun q => q.cls? == some c) (log.flatMap Turn.requests)

namespace Session

/-- What a session wants done about a message. -/
def wishes (m : Message) (s : Session) (p : Platform) : List Action :=
  if s.closed then [] else (s.tracker.handle p.sample m).2

/-- An open session wants done what its tracker wants. -/
theorem wishes_of_open {s : Session} (h : s.closed = false) (m : Message) (p : Platform) :
    s.wishes m p = (s.tracker.handle p.sample m).2 := by
  simp [wishes, h]

/-- What a session wants done when it sets up its poll bridge. -/
def firstLook (id : SessionId) (path : String) (s : Session) (p : Platform) : List Action :=
  match (Bridge.new s.tracker.profile.pollRules).start path id p.notifier with
  | (.error _, _, _) => []
  | (.ok (), bridge, _) => (({ s.tracker with bridge := some bridge } : Tracker).poll p.sample).2

/-- The turns of a start: one for the signals, and one for the poll bridge if there is a path. -/
def startTurns (id : SessionId) (variant : Variant) (intervals : Intervals)
    (watchPath : Option String) (p : Platform) : List Turn :=
  let (s, p') := Session.start id variant intervals none p
  ⟨(Tracker.start variant intervals p.sources.snapshot).2, p.transport, p'.transport⟩ ::
    (watchPath.map (fun path =>
      (⟨s.firstLook id path p', p'.transport, (s.startPolling id path p').2.transport⟩ :
        Turn))).toList

/-- The turns of a session that handles messages, one after the other. -/
def turnsOf (id : SessionId) : List Message → Session → Platform → List Turn
  | [], _, _ => []
  | m :: messages, s, p =>
    ⟨s.wishes m p, p.transport, (s.handle id m p).2.transport⟩ ::
      turnsOf id messages (s.handle id m p).1 (s.handle id m p).2

end Session

/-- A session that was started and then took any number of turns. -/
inductive Course (id : SessionId) : List Turn → Session → Prop
  | start (variant : Variant) (intervals : Intervals) (watchPath : Option String) (p : Platform) :
      Course id (Session.startTurns id variant intervals watchPath p)
        (Session.start id variant intervals watchPath p).1
  /-- Messages come and go while the session waits. -/
  | wait {log : List Turn} {s : Session} (queue : List Message) :
      Course id log s → Course id log { s with queue := queue }
  | handle {log : List Turn} {s : Session} (m : Message) (p : Platform) :
      Course id log s →
        Course id (log ++ [⟨s.wishes m p, p.transport, (s.handle id m p).2.transport⟩])
          (s.handle id m p).1

/-- Handling what waits goes on with a course, a turn for each message. -/
theorem Course.handleAll {id : SessionId} {log : List Turn} {s : Session} (h : Course id log s)
    (messages : List Message) (p : Platform) :
    Course id (log ++ Session.turnsOf id messages s p) (s.handleAll id messages p).1 := by
  induction messages generalizing log s p with
  | nil => exact (List.append_nil log).symm ▸ h
  | cons m messages ih =>
      have hrest := ih (h.handle m p) (s.handle id m p).2
      rw [List.append_assoc] at hrest
      exact hrest

/-! ## What a turn adds to the log -/

theorem lastAttempt_nil (c : RequestClass) : lastAttempt c [] = none := rfl

theorem lastAttempt_snoc (c : RequestClass) (log : List Turn) (turn : Turn) :
    lastAttempt c (log ++ [turn]) =
      ((Action.lastSend c turn.actions).map (fun a => (turn, a))).or (lastAttempt c log) := by
  rw [lastAttempt, List.flatMap_append, List.flatMap_singleton, latest_append, Turn.attempts,
    latest_map]
  rfl

/-- What is sent in a turn comes out as far as it is supported, if the queue is open. -/
theorem Turn.SentBy.requests {turn : Turn} {id : SessionId} {d : Dispatcher}
    (h : turn.SentBy id d) :
    turn.requests =
      if turn.found.closed then []
      else ((Action.sends turn.actions).filter (fun a => d.supported.get a.cls)).map
        (fun a => a.cls.build a.value turn.found.interface) := by
  rw [Turn.requests, List.map_drop, h, Dispatcher.requests_sendAll, List.drop_left' (by simp)]

theorem lastRequest_snoc (c : RequestClass) (log : List Turn) (turn : Turn) :
    lastRequest c (log ++ [turn]) =
      (latest (fun q => q.cls? == some c) turn.requests).or (lastRequest c log) := by
  rw [lastRequest, List.flatMap_append, List.flatMap_singleton, latest_append]
  rfl

/-- The last element with a property is not missed by a filter that lets the property pass. -/
theorem latest_filter {α : Type} {p q : α → Bool} (h : ∀ x, p x = true → q x = true)
    (l : List α) : latest p (l.filter q) = latest p l := by
  rw [latest, ← List.filter_reverse, List.find?_filter]
  congr 1
  funext x
  cases hp : p x with
  | true => simp [h x hp]
  | false => simp

/-- A turn's last request of a supported class carries the value that was sent last. -/
theorem Turn.SentBy.lastRequest {turn : Turn} {id : SessionId} {d : Dispatcher}
    (h : turn.SentBy id d) {c : RequestClass} (hs : d.supported.get c = true)
    (hopen : turn.found.closed = false) :
    latest (fun q => q.cls? == some c) turn.requests =
      (Action.lastSend c turn.actions).map
        (fun a => a.cls.build a.value turn.found.interface) := by
  have hpass : ∀ a : Attempt, (a.cls == c) = true → d.supported.get a.cls = true := by
    intro a ha
    rw [beq_iff_eq.mp ha, hs]
  rw [h.requests, if_neg (by simp [hopen]), latest_map, Action.lastSend, ← latest_filter hpass]
  congr 2
  funext a
  simp only [Request.cls?_build, Option.some_beq_some]

/-- A turn in which nothing of a class is sent queues no request of it. -/
theorem Turn.SentBy.lastRequest_of_unsent {turn : Turn} {id : SessionId} {d : Dispatcher}
    (h : turn.SentBy id d) {c : RequestClass} (hn : Action.lastSend c turn.actions = none) :
    latest (fun q => q.cls? == some c) turn.requests = none := by
  rw [latest_eq_none_iff]
  intro q hq
  rw [h.requests] at hq
  split at hq
  · exact absurd hq List.not_mem_nil
  · obtain ⟨a, ha, rfl⟩ := List.mem_map.mp hq
    have hne := latest_eq_none_iff.mp hn a (List.mem_filter.mp ha).1
    simpa using hne

/-! ## The last value written -/

/-- What was last sent for a class is what its writer records.  As long as nothing was sent, all
that may be recorded is what the rule takes the modem to hold. -/
structure Wrote (log : List Turn) (t : Tracker) : Prop where
  sent : ∀ c turn a, lastAttempt c log = some (turn, a) → t.decision a.origin c = some a.value
  unsent : ∀ c, lastAttempt c log = none → ∀ o value, t.decision o c = some value →
    ∃ r ∈ t.profile.rules, r.cls = c ∧ r.initial = some value

/-- What was last sent for a class is its last request, if the class is supported and the queue was
open. -/
def Delivered (log : List Turn) (supported : Capabilities) : Prop :=
  ∀ c turn a, lastAttempt c log = some (turn, a) → supported.get c = true →
    turn.found.closed = false →
      lastRequest c log = some (c.build a.value turn.found.interface)

/-- **The writer of the last value stands by it.** -/
theorem Wrote.turn {log : List Turn} {t t' : Tracker} {turn : Turn} (h : Wrote log t)
    (hr : t.Recorded (t', turn.actions)) : Wrote (log ++ [turn]) t' := by
  have hprofile : t'.profile = t.profile := congrArg Variant.profile hr.variant
  constructor
  · intro c turn' a ha
    rw [lastAttempt_snoc] at ha
    cases hlast : Action.lastSend c turn.actions with
    | some b =>
        rw [hlast, Option.map_some, Option.some_or] at ha
        cases ha
        exact hr.sent c a hlast
    | none =>
        rw [hlast, Option.map_none, Option.none_or] at ha
        exact (hr.unsent c hlast a.origin).trans (h.sent c turn' a ha)
  · intro c hc o value hv
    rw [lastAttempt_snoc, Option.or_eq_none_iff, Option.map_eq_none_iff] at hc
    rw [hprofile]
    exact h.unsent c hc.2 o value ((hr.unsent c hc.1 o).symm.trans hv)

/-- **The last value is delivered.** -/
theorem Delivered.turn {log : List Turn} {turn : Turn} {d : Dispatcher}
    (h : Delivered log d.supported) (id : SessionId) (ht : turn.SentBy id d) :
    Delivered (log ++ [turn]) d.supported := by
  intro c turn' a ha hs hopen
  rw [lastAttempt_snoc] at ha
  rw [lastRequest_snoc]
  cases hlast : Action.lastSend c turn.actions with
  | some b =>
      rw [hlast, Option.map_some, Option.some_or] at ha
      cases ha
      have hcls : a.cls = c := by simpa using prop_of_latest hlast
      rw [ht.lastRequest hs hopen, hlast, Option.map_some, Option.some_or, hcls]
  | none =>
      rw [hlast, Option.map_none, Option.none_or] at ha
      rw [ht.lastRequest_of_unsent hlast, Option.none_or]
      exact h c turn' a ha hs hopen

/-- Losing the support of a class takes nothing back. -/
theorem Delivered.mono {log : List Turn} {s s' : Capabilities} (h : Delivered log s)
    (hs : ∀ c, s'.get c = true → s.get c = true) : Delivered log s' :=
  fun c turn a ha hc => h c turn a ha (hs c hc)

/-! ## Courses -/

/-- An open session whose log and state agree. -/
structure Kept (log : List Turn) (s : Session) : Prop where
  opened : s.closed = false
  current : s.tracker.Current
  wrote : Wrote log s.tracker
  delivered : Delivered log s.dispatcher.supported

/-- A tracker that has not looked at anything records what its rules assume. -/
theorem wrote_new (variant : Variant) (intervals : Intervals) (snapshot : Snapshot) :
    Wrote [] (Tracker.new variant intervals snapshot) := by
  constructor
  · intro c turn a ha
    rw [lastAttempt_nil] at ha
    exact absurd ha (Option.some_ne_none _).symm
  · intro c _ o value hv
    cases o with
    | polling => cases hv
    | signals =>
        refine (DecisionSet.get_of_assumed hv).resolve_left ?_
        simp [DecisionSet.empty, ByClass.get_const]

theorem delivered_nil (supported : Capabilities) : Delivered [] supported := by
  intro c turn a ha
  rw [lastAttempt_nil] at ha
  exact absurd ha (Option.some_ne_none _).symm

/-- One turn that carries out what the tracker wants. -/
theorem Kept.perform {log : List Turn} {id : SessionId} {s : Session} {p p' : Platform}
    {step : Tracker × List Action} (hopened : s.closed = false) (hw : Wrote log s.tracker)
    (hd : Delivered log s.dispatcher.supported) (hr : s.tracker.Recorded step)
    (hc : step.1.Current) (hp : p'.transport = p.transport) :
    Kept (log ++ [⟨step.2, p.transport, (s.perform id step p').2.transport⟩])
      (s.perform id step p').1 := by
  rw [Session.perform_eq, hp]
  refine ⟨hopened, hc, hw.turn hr, ?_⟩
  rw [Dispatcher.supported_sendAll]
  exact hd.turn (d := s.dispatcher) id rfl

theorem firstLook_of_error {id : SessionId} {path : String} {s : Session} {p : Platform}
    {failure : Failure} (h : (p.notifier.watch path id).1 = .error failure) :
    s.firstLook id path p = [] := by
  simp [Session.firstLook, Bridge.start_of_error h]

theorem firstLook_of_ok {id : SessionId} {path : String} {s : Session} {p : Platform}
    {watch : WatchId} (h : (p.notifier.watch path id).1 = .ok watch) :
    s.firstLook id path p = ((s.tracker.bridged watch).poll p.sample).2 := by
  simp only [Session.firstLook, Bridge.start_of_ok h]
  rfl

theorem Wrote.bridged {log : List Turn} {t : Tracker} (h : Wrote log t) (hb : t.bridge = none)
    (watch : WatchId) : Wrote log (t.bridged watch) := by
  constructor
  · intro c turn a ha
    have hold := h.sent c turn a ha
    cases ho : a.origin with
    | signals => rw [ho] at hold; exact hold
    | polling => simp [ho, Tracker.decision, hb] at hold
  · intro c hc o value hv
    cases o with
    | signals => exact h.unsent c hc .signals value hv
    | polling =>
        obtain ⟨q, hq, rfl, hassumed⟩ := Tracker.exists_of_bridged hv
        obtain ⟨r, hr, hcls, hinitial⟩ := Profile.exists_rule_of_pollRule hq
        exact ⟨r, hr, hcls, hinitial.trans hassumed⟩

theorem current_bridged {t : Tracker} (h : t.Current) (watch : WatchId) :
    (t.bridged watch).Current := by
  refine ⟨h.computed, ?_⟩
  intro c hc
  rw [Option.eq_none_iff_forall_ne_some]
  intro value hv
  obtain ⟨q, hq, hcls, -⟩ := Tracker.exists_of_bridged hv
  exact hc (List.mem_map.mpr ⟨q, hq, hcls⟩)

theorem kept_start (id : SessionId) (variant : Variant) (intervals : Intervals) (p : Platform) :
    Kept (Session.startTurns id variant intervals none p)
      (Session.start id variant intervals none p).1 ∧
    (Session.start id variant intervals none p).1.tracker.bridge = none := by
  refine ⟨?_, by rw [Session.start_none]; rfl⟩
  simp only [Session.startTurns, Session.start_none, Option.map_none, Option.toList_none]
  rw [← List.nil_append [_]]
  exact Kept.perform rfl (wrote_new variant intervals p.sources.snapshot) (delivered_nil _)
    (Tracker.recorded_evaluate none _)
    (Tracker.Current.start variant intervals p.sources.snapshot) rfl

theorem Kept.startPolling {log : List Turn} {id : SessionId} {s : Session} (h : Kept log s)
    (hb : s.tracker.bridge = none) (path : String) (p : Platform) :
    Kept (log ++ [⟨s.firstLook id path p, p.transport, (s.startPolling id path p).2.transport⟩])
      (s.startPolling id path p).1 := by
  cases hw : (p.notifier.watch path id).1 with
  | error failure =>
      rw [Session.startPolling_of_error id p hw, firstLook_of_error hw]
      refine ⟨h.opened, h.current, h.wrote.turn ?_, h.delivered.turn id ?_⟩
      · exact Tracker.recorded_of_idle rfl rfl (fun _ _ => rfl) rfl
      · rfl
  | ok watch =>
      rw [Session.startPolling_of_ok id p hw, firstLook_of_ok hw]
      exact Kept.perform h.opened (h.wrote.bridged hb watch) h.delivered
        (Tracker.recorded_poll p.sample _)
        ((current_bridged h.current watch).poll p.sample) rfl

theorem startTurns_none (id : SessionId) (variant : Variant) (intervals : Intervals)
    (p : Platform) :
    Session.startTurns id variant intervals none p =
      [⟨(Tracker.start variant intervals p.sources.snapshot).2, p.transport,
        (Session.start id variant intervals none p).2.transport⟩] := rfl

theorem startTurns_some (id : SessionId) (variant : Variant) (intervals : Intervals)
    (path : String) (p : Platform) :
    Session.startTurns id variant intervals (some path) p =
      Session.startTurns id variant intervals none p ++
        [⟨(Session.start id variant intervals none p).1.firstLook id path
            (Session.start id variant intervals none p).2,
          (Session.start id variant intervals none p).2.transport,
          (Session.start id variant intervals (some path) p).2.transport⟩] := rfl

theorem Kept.handle {log : List Turn} {id : SessionId} {s : Session} (h : Kept log s)
    (m : Message) (p : Platform) :
    Kept (log ++ [⟨s.wishes m p, p.transport, (s.handle id m p).2.transport⟩])
      (s.handle id m p).1 := by
  rw [Session.wishes_of_open h.opened]
  have hrec := Tracker.recorded_handle p.sample m s.tracker
  have hcur := h.current.handle p.sample m
  rw [Session.handle_of_open id p h.opened]
  refine ⟨h.opened, hcur, h.wrote.turn hrec, ?_⟩
  let turn : Turn := ⟨(s.tracker.handle p.sample m).2, p.transport,
    (Dispatcher.sendAll id (Action.sends (s.tracker.handle p.sample m).2)
      (s.dispatcher, p.transport)).2⟩
  have hsent : turn.SentBy id s.dispatcher := rfl
  have hd := h.delivered.turn id hsent
  refine hd.mono fun c hc => ?_
  rw [← Dispatcher.supported_sendAll id (Action.sends (s.tracker.handle p.sample m).2)
    s.dispatcher p.transport]
  exact Dispatcher.supported_of_hear hc

/-- The log and the state of a session agree in all that a session can go through. -/
theorem Course.kept {id : SessionId} {log : List Turn} {s : Session} (h : Course id log s) :
    Kept log s := by
  induction h with
  | start variant intervals watchPath p =>
      obtain ⟨hkept, hbridge⟩ := kept_start id variant intervals p
      cases watchPath with
      | none => exact hkept
      | some path =>
          rw [startTurns_some, Session.start_some]
          exact hkept.startPolling hbridge path _
  | wait queue _ ih => exact ⟨ih.opened, ih.current, ih.wrote, ih.delivered⟩
  | handle m p _ ih => exact ih.handle m p

/-- The two sources do not contradict each other about a class: they record the same, or there is
no bridge, or the bridge has no rule for the class. -/
def Tracker.Agrees (t : Tracker) (c : RequestClass) : Prop :=
  t.decision .signals c = t.decision .polling c ∨ t.bridge = none ∨
    c ∉ t.profile.pollRules.map (fun r => r.cls)

/-- A record that nobody contradicts is the signals' record. -/
theorem Tracker.Agrees.decision {t : Tracker} {c : RequestClass} (h : t.Agrees c)
    (hc : t.Current) {o : Origin} {value : Bool} (hv : t.decision o c = some value) :
    t.decision .signals c = some value := by
  cases o with
  | signals => exact hv
  | polling =>
      rcases h with h | h | h
      · exact h.trans hv
      · simp [Tracker.decision, h] at hv
      · rw [hc.unpolled c h] at hv
        cases hv

/-- **The last word.**  Take any open session, however it came to its state, and a rule of its
profile.  What was last sent for the rule's class is what the source that sent it records now.  If
the sources agree about the class, it is what the signals' rules make of the signals, too; and if
the class is supported and the queue was open, it is what the last request of the class carries.  If
nothing was ever sent, both sources record what the modem was taken to hold. -/
theorem Course.last_word {id : SessionId} {log : List Turn} {s : Session} (h : Course id log s)
    {r : DecisionRule} (hr : r ∈ s.tracker.profile.rules) :
    s.closed = false ∧
    s.tracker.decision .signals r.cls = some (r.compute s.tracker.snapshot) ∧
    match lastAttempt r.cls log with
    | some (turn, a) =>
      s.tracker.decision a.origin r.cls = some a.value ∧
      (s.tracker.Agrees r.cls → s.tracker.decision .signals r.cls = some a.value) ∧
      (s.dispatcher.supported.get r.cls = true → turn.found.closed = false →
        lastRequest r.cls log = some (r.cls.build a.value turn.found.interface))
    | none =>
      ∃ value, r.initial = some value ∧ s.tracker.decision .signals r.cls = some value ∧
        ∀ other, s.tracker.decision .polling r.cls = some other → other = value := by
  have hkept := h.kept
  have hsignals : s.tracker.decision .signals r.cls = some (r.compute s.tracker.snapshot) :=
    hkept.current.computed r hr
  refine ⟨hkept.opened, hsignals, ?_⟩
  cases hlast : lastAttempt r.cls log with
  | some last =>
      obtain ⟨turn, a⟩ := last
      have hsent := hkept.wrote.sent r.cls turn a hlast
      exact ⟨hsent, fun hagree => hagree.decision hkept.current hsent,
        hkept.delivered r.cls turn a hlast⟩
  | none =>
      have hinitial : ∀ o value, s.tracker.decision o r.cls = some value →
          r.initial = some value := by
        intro o value hv
        obtain ⟨q, hq, hcls, hinit⟩ := hkept.wrote.unsent r.cls hlast o value hv
        rwa [← Tracker.rule_eq_of_cls hq hr hcls]
      refine ⟨r.compute s.tracker.snapshot, hinitial .signals _ hsignals, hsignals, ?_⟩
      intro other hother
      exact Option.some.inj ((hinitial .polling _ hother).symm.trans (hinitial .signals _ hsignals))

/-- A device is plugged in and the signals tell of it, but polling finds that it is on battery again
and overrules them; the request is delivered, the display comes on and the watch breaks.  The modem
was last told what polling said, although the bridge will not look again. -/
theorem Course.last_word_of_override :
    let p : Platform := {
      transport := { slot := "slot1", interface := .v15 }
      power := .charging }
    let started := Session.start 0 .deviceState {} (some "screen_on") p
    let unplugged := { started.2 with power := .discharging }
    let messages : List Message :=
      [.signal ⟨.charger, .valid true⟩, .signal ⟨.charger, .state .on⟩, .screenChanged,
        .completed .chargingState 6 (.ok RequestClass.chargingState.expectedResponse),
        .signal ⟨.display, .state .on⟩, .watchFailed "gone"]
    let s := (started.1.handleAll 0 messages unplugged).1
    let log := Session.startTurns 0 .deviceState {} (some "screen_on") p ++
      Session.turnsOf 0 messages started.1 unplugged
    Course 0 log s ∧
      (lastAttempt .chargingState log).map (fun x => x.2) =
        some ⟨.polling, .chargingState, false⟩ ∧
      s.tracker.isPolling = false ∧
      s.tracker.decision .signals .chargingState = some true ∧
      s.tracker.decision .polling .chargingState = some false ∧
      lastRequest .chargingState log = some (RequestClass.chargingState.build false .v15) := by
  intro p started unplugged messages s log
  have hcourse : Course 0 log s :=
    (Course.start .deviceState {} (some "screen_on") p).handleAll messages unplugged
  have hword : ∀ {log : List Turn} {s : Session}, Course 0 log s →
      s.tracker.variant = .deviceState → s.dispatcher.supported.get .chargingState = true →
      (lastAttempt .chargingState log).map
          (fun x => (x.2, x.1.found.closed, x.1.found.interface)) =
        some (⟨.polling, .chargingState, false⟩, false, .v15) →
      s.tracker.decision .polling .chargingState = some false ∧
        lastRequest .chargingState log =
          some (RequestClass.chargingState.build false .v15) := by
    intro log s hcourse hvariant hsupported hlast
    obtain ⟨r, hr, hcls⟩ : ∃ r ∈ s.tracker.profile.rules, r.cls = .chargingState := by
      rw [Tracker.profile, hvariant]
      exact ⟨_, List.mem_cons_of_mem _ List.mem_cons_self, rfl⟩
    obtain ⟨⟨turn, a⟩, hturn, hfound⟩ := Option.map_eq_some_iff.mp hlast
    injection hfound with ha hfound
    injection hfound with hopen hinterface
    have hword := (hcourse.last_word hr).2.2
    rw [hcls, hturn] at hword
    obtain rfl : a = _ := ha
    have hrequest := hword.2.2 hsupported hopen
    rw [hinterface] at hrequest
    exact ⟨hword.1, hrequest⟩
  obtain ⟨hpolling, hrequest⟩ := hword hcourse (by decide +kernel) (by decide +kernel)
    (by decide +kernel)
  exact ⟨hcourse, by decide +kernel, by decide +kernel, by decide +kernel, hpolling, hrequest⟩

end ModemWatch
