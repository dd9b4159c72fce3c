import ModemWatch.Proofs.Changes

/-!
# What a session sends

What a session sends can be told without looking at what it keeps on record.  Take a rule and the
values that it has had, one for each snapshot that the session had of the signals, from the first
one on.  The values that the session sent on behalf of the signals are the changes among them.  The
same goes for a rule of the poll bridge and the samples that it took.

So it does not matter what the radio made of the values, what was refused or taken away, or what the
other source of decisions sent in the meantime.

* `Session.sent_goThrough`, `Session.polled_goThrough` — what the messages that arrive make a
  session send;
* `Session.sent_startTurns`, `Session.polled_startTurns` — what its start makes it send;
* `Dispatcher.Calls` — calls of `Dispatcher.send` in a row, `Dealing` — a turn of a session with the
  calls that it makes;
* `Session.orderly_dealings` — these calls pass what the session wants sent, in order, and nothing
  else changes its dispatcher and the transport;
* `Session.sent_iff_changed` — all of it, whatever a session goes through.
-/

namespace ModemWatch

/-- The values that were sent in some turns, in order. -/
def sentIn (log : List Turn) : List Attempt := log.flatMap (fun turn => Action.sends turn.actions)

theorem sentIn_cons (turn : Turn) (log : List Turn) :
    sentIn (turn :: log) = Action.sends turn.actions ++ sentIn log := rfl

theorem sentIn_singleton (turn : Turn) : sentIn [turn] = Action.sends turn.actions :=
  List.append_nil _

theorem sentIn_append (log more : List Turn) : sentIn (log ++ more) = sentIn log ++ sentIn more :=
  List.flatMap_append

/-- The samples that a live bridge takes in some visits: one whenever the screen state file changes,
until the watch breaks. -/
def looks : List Visit → List PollSample
  | [] => []
  | v :: log =>
    match v.message with
    | .screenChanged => v.found.sample :: looks log
    | .watchFailed _ => []
    | .signal _ | .completed .. => looks log

/-- The news of signals that arrive, in order. -/
def newsOf (arrivals : List Arrival) : List SignalUpdate :=
  arrivals.filterMap (fun a => a.message.news?)

namespace Session

/-- The samples that the bridge of a session takes: one at its start, if there is a bridge, and then
one at every look. -/
def samples (id : SessionId) (watchPath : Option String) (p : Platform) (log : List Visit) :
    List PollSample :=
  match watchPath with
  | none => []
  | some path =>
    match (p.notifier.watch path id).1 with
    | .error _ => []
    | .ok _ => p.sample :: looks log

variable {s : Session} {r : DecisionRule} {q : PollRule}

/-- **What a session sends on behalf of the signals** are the changes of what its rules say. -/
theorem sent_goThrough (h : s.closed = false) (hc : s.tracker.Current)
    (hr : r ∈ s.tracker.profile.rules) (id : SessionId) (arrivals : List Arrival) (p : Platform) :
    Attempt.values .signals r.cls
        (sentIn ((s.goThrough Tracker.handle id arrivals p).1.map Visit.turn)) =
      changes (some (r.compute s.tracker.snapshot))
        ((List.scanl Snapshot.apply s.tracker.snapshot (newsOf arrivals)).map r.compute) := by
  induction arrivals generalizing s p with
  | nil => simp [goThrough, sentIn, newsOf, Attempt.values, changes]
  | cons a arrivals ih =>
      have hopen := (same_handle id a.message s (a.meanwhile p)).closed.trans h
      have hprofile := profile_handle id a.message s (a.meanwhile p)
      have htracker := tracker_handle id (a.meanwhile p) h a.message
      have hfirst := Tracker.sent_handle hc hr (a.meanwhile p).sample a.message
      have hrest := ih hopen (current_handle id (a.meanwhile p) hc a.message)
        (by rw [hprofile]; exact hr) (s.handle id a.message (a.meanwhile p)).2
      -- the values of this message come first; those of the others go on from what it tells
      rw [htracker, Tracker.snapshot_handle] at hrest
      rw [goThrough_cons, List.map_cons, sentIn_cons, Attempt.values_append, hrest, Visit.turn,
        wishes_of_open h, hfirst]
      cases hm : a.message with
      | signal u =>
          have hnews : newsOf (a :: arrivals) = u :: newsOf arrivals :=
            List.filterMap_cons_some (by rw [hm]; rfl)
          rw [hnews, List.scanl_cons, List.map_cons, changes_cons_same]
          exact changes_append_scanl ..
      | completed | screenChanged | watchFailed =>
          have hnone : newsOf (a :: arrivals) = newsOf arrivals :=
            List.filterMap_cons_none (by rw [hm]; rfl)
          rw [hnone]
          rfl

/-- **What a session sends on behalf of polling** are the changes of what its poll rules say of the
samples that it takes. -/
theorem polled_goThrough (h : s.closed = false) (hq : q ∈ s.tracker.profile.pollRules)
    (id : SessionId) (arrivals : List Arrival) (p : Platform) :
    Attempt.values .polling q.cls
        (sentIn ((s.goThrough Tracker.handle id arrivals p).1.map Visit.turn)) =
      changes (s.tracker.decision .polling q.cls)
        ((if s.tracker.isPolling then looks (s.goThrough Tracker.handle id arrivals p).1
          else []).map q.compute) := by
  induction arrivals generalizing s p with
  | nil => simp [goThrough, sentIn, looks, Attempt.values, changes]
  | cons a arrivals ih =>
      have hopen := (same_handle id a.message s (a.meanwhile p)).closed.trans h
      have hprofile := profile_handle id a.message s (a.meanwhile p)
      have htracker := tracker_handle id (a.meanwhile p) h a.message
      have hfirst := Tracker.polled_handle hq (a.meanwhile p).sample a.message
      have hrest := ih hopen (by rw [hprofile]; exact hq)
        (s.handle id a.message (a.meanwhile p)).2
      rw [goThrough_cons, List.map_cons, sentIn_cons, Attempt.values_append, hrest, Visit.turn,
        wishes_of_open h, hfirst, htracker]
      cases hm : a.message with
      | signal u => rfl
      | completed c ticket completion => rfl
      | watchFailed reason =>
          -- nothing is sampled once the watch broke
          simp [Tracker.handle, Tracker.isPolling_stopPolling, looks, changes]
      | screenChanged =>
          cases hlive : s.tracker.isPolling with
          | false => simp [Tracker.handle, Tracker.poll_of_dead hlive, hlive, changes]
          | true =>
              simp only [Tracker.handle, Tracker.isPolling_poll, hlive, if_true,
                Tracker.decision_poll hlive hq, looks, List.map_cons]
              exact (changes_cons ..).symm

/-- A first look at the poll sources sends nothing on behalf of the signals. -/
theorem sent_firstLook (id : SessionId) (path : String) (s : Session) (p : Platform)
    (c : RequestClass) : Attempt.values .signals c (Action.sends (s.firstLook id path p)) = [] := by
  cases hw : (p.notifier.watch path id).1 with
  | error failure => rw [firstLook_of_error hw]; rfl
  | ok watch => rw [firstLook_of_ok hw]; exact Tracker.sent_poll ..

/-- The first pass of a session leaves the watches and the poll sources alone. -/
theorem polled_of_start_none (id : SessionId) (variant : Variant) (intervals : Intervals)
    (p : Platform) :
    (Session.start id variant intervals none p).2.notifier = p.notifier ∧
      (Session.start id variant intervals none p).2.sample = p.sample := by
  have hnone : Action.unwatches (Tracker.start variant intervals p.sources.snapshot).2 = [] :=
    Action.unwatches_attempts ..
  rw [start_none, perform_eq, hnone]
  exact ⟨rfl, rfl⟩

/-- At its start a session sends on behalf of the signals what a rule says, if it differs from what
the modem is taken to hold. -/
theorem sent_startTurns {variant : Variant} (hr : r ∈ variant.profile.rules) (id : SessionId)
    (intervals : Intervals) (watchPath : Option String) (p : Platform) :
    Attempt.values .signals r.cls (sentIn (startTurns id variant intervals watchPath p)) =
      changes r.initial [r.compute p.sources.snapshot] := by
  have hnone : Attempt.values .signals r.cls (sentIn (startTurns id variant intervals none p)) =
      changes r.initial [r.compute p.sources.snapshot] := by
    rw [← Tracker.decision_new intervals hr p.sources.snapshot, startTurns_none, sentIn_singleton]
    exact Tracker.sent_evaluate (t := Tracker.new variant intervals p.sources.snapshot) hr
  cases watchPath with
  | none => exact hnone
  | some path =>
      rw [startTurns_some, sentIn_append, Attempt.values_append, hnone, sentIn_singleton,
        sent_firstLook, List.append_nil]

/-- **A first look** sends on behalf of polling what a poll rule says of the first sample, if it
differs from what the modem is taken to hold; and if there is a bridge, it goes on from there. -/
theorem polled_startPolling (hb : s.tracker.bridge = none) (hq : q ∈ s.tracker.profile.pollRules)
    (id : SessionId) (path : String) (p : Platform) (log : List Visit) :
    Attempt.values .polling q.cls (Action.sends (s.firstLook id path p)) ++
        changes ((s.startPolling id path p).1.tracker.decision .polling q.cls)
          ((if (s.startPolling id path p).1.tracker.isPolling then looks log else []).map
            q.compute) =
      changes q.initial ((samples id (some path) p log).map q.compute) := by
  cases hw : (p.notifier.watch path id).1 with
  | error failure =>
      have hdead : s.tracker.isPolling = false := by simp [Tracker.isPolling, hb]
      rw [startPolling_of_error id p hw, firstLook_of_error hw, hdead, samples, hw]
      rfl
  | ok watch =>
      have hlive : (s.tracker.bridged watch).isPolling = true := rfl
      have hfirst := Tracker.polled_poll hlive hq p.sample
      rw [Tracker.decision_bridged hq] at hfirst
      rw [startPolling_of_ok id p hw, perform_eq, firstLook_of_ok hw, hfirst, samples, hw,
        List.map_cons]
      simp only [Tracker.isPolling_poll, hlive, if_true, Tracker.decision_poll hlive hq]
      exact (changes_cons ..).symm

/-- A session goes on sending on behalf of polling from where its start ends. -/
theorem polled_startTurns {variant : Variant} (hq : q ∈ variant.profile.pollRules)
    (id : SessionId) (intervals : Intervals) (watchPath : Option String) (p : Platform)
    (log : List Visit) :
    Attempt.values .polling q.cls (sentIn (startTurns id variant intervals watchPath p)) ++
        changes
          ((Session.start id variant intervals watchPath p).1.tracker.decision .polling q.cls)
          ((if (Session.start id variant intervals watchPath p).1.tracker.isPolling then looks log
            else []).map q.compute) =
      changes q.initial ((samples id watchPath p log).map q.compute) := by
  have hbridge := (kept_start id variant intervals p).2
  have hnone : Attempt.values .polling q.cls (sentIn (startTurns id variant intervals none p)) =
      [] := by
    rw [startTurns_none, sentIn_singleton]
    exact Tracker.polled_evaluate none _ q.cls
  cases watchPath with
  | none =>
      have hdead : (Session.start id variant intervals none p).1.tracker.isPolling = false := by
        simp [Tracker.isPolling, hbridge]
      rw [hnone, hdead]
      rfl
  | some path =>
      obtain ⟨hnotifier, hsample⟩ := polled_of_start_none id variant intervals p
      have hvariant := (started id ⟨variant, intervals, none⟩ p).variant
      have hlook := polled_startPolling hbridge
        (by rw [Tracker.profile, hvariant]; exact hq) id path
        (Session.start id variant intervals none p).2 log
      have hsamples : samples id (some path) (Session.start id variant intervals none p).2 log =
          samples id (some path) p log := by simp only [samples, hnotifier, hsample]
      rw [hsamples] at hlook
      rw [startTurns_some, sentIn_append, Attempt.values_append, hnone, List.nil_append,
        sentIn_singleton, start_some]
      exact hlook

end Session

/-! ## Calls of the dispatcher -/

namespace Dispatcher

/-- A call of `Dispatcher.send`: the value that is passed, and what comes of it. -/
structure Call where
  attempt : Attempt
  result : Submission

/-- Calls of `Dispatcher.send` in a row, each on the dispatcher and the transport that the one
before it left. -/
inductive Calls (id : SessionId) :
    List Call → Dispatcher × Transport Callback → Dispatcher × Transport Callback → Prop
  | nil (run : Dispatcher × Transport Callback) : Calls id [] run run
  | cons {calls : List Call} {run last : Dispatcher × Transport Callback} (a : Attempt) :
      Calls id calls (run.1.send id a.cls a.value run.2).2 last →
        Calls id (⟨a, (run.1.send id a.cls a.value run.2).1⟩ :: calls) run last

/-- The calls that send some values, one after the other. -/
def callsOf (id : SessionId) : List Attempt → Dispatcher × Transport Callback → List Call
  | [], _ => []
  | a :: values, run =>
    let (result, run) := run.1.send id a.cls a.value run.2
    ⟨a, result⟩ :: callsOf id values run

theorem attempts_callsOf (id : SessionId) (values : List Attempt)
    (run : Dispatcher × Transport Callback) :
    (callsOf id values run).map Call.attempt = values := by
  induction values generalizing run with
  | nil => rfl
  | cons a values ih => exact congrArg (a :: ·) (ih _)

/-- Values that are sent one after the other are sent by such calls. -/
theorem calls_callsOf (id : SessionId) (values : List Attempt)
    (run : Dispatcher × Transport Callback) :
    Calls id (callsOf id values run) run (sendAll id values run) := by
  induction values generalizing run with
  | nil => exact .nil run
  | cons a values ih => exact .cons a (ih _)

end Dispatcher

/-! ## Dealings -/

/-- A session's turn with its dispatcher before and after it; the turns of a start are not about a
message. -/
structure Dealing where
  turn : Turn
  before : Dispatcher
  message : Option Message
  after : Dispatcher

namespace Dealing

/-- The dispatcher once it knows of the message. -/
def heard (dealing : Dealing) : Dispatcher :=
  dealing.message.elim dealing.before (fun m => dealing.before.hear m)

/-- The calls of `Dispatcher.send` that the session made, on its own dispatcher and the transport
that it found. -/
def calls (id : SessionId) (dealing : Dealing) : List Dispatcher.Call :=
  Dispatcher.callsOf id (Action.sends dealing.turn.actions) (dealing.heard, dealing.turn.found)

/-- The dispatcher and the transport after the turn are what these calls made of them, and the calls
were for one source of decisions, in the order of its rules. -/
structure Orderly (id : SessionId) (p : Profile) (dealing : Dealing) : Prop where
  inOrder : InOrder p ((dealing.calls id).map Dispatcher.Call.attempt)
  made : Dispatcher.Calls id (dealing.calls id) (dealing.heard, dealing.turn.found)
    (dealing.after, dealing.turn.left)

end Dealing

/-- The values that were passed to `Dispatcher.send`, in order. -/
def attemptsIn (id : SessionId) (record : List Dealing) : List Attempt :=
  (record.flatMap (Dealing.calls id)).map Dispatcher.Call.attempt

/-- A session passes to its dispatcher what it wants sent. -/
theorem attemptsIn_eq (id : SessionId) (record : List Dealing) :
    attemptsIn id record = sentIn (record.map Dealing.turn) := by
  induction record with
  | nil => rfl
  | cons dealing record ih =>
      rw [List.map_cons, sentIn_cons, ← ih, attemptsIn, List.flatMap_cons, List.map_append,
        Dealing.calls, Dispatcher.attempts_callsOf]
      rfl

/-- What brings a dispatcher, once it knows of the message, and the transport to where they are
after the turn is sending the values in order. -/
theorem Dealing.orderly_of {id : SessionId} {profile : Profile} {dealing : Dealing}
    (hin : InOrder profile (Action.sends dealing.turn.actions))
    (hmade : (dealing.after, dealing.turn.left) =
      Dispatcher.sendAll id (Action.sends dealing.turn.actions)
        (dealing.heard, dealing.turn.found)) :
    dealing.Orderly id profile where
  inOrder := by rwa [Dealing.calls, Dispatcher.attempts_callsOf]
  made := by
    rw [hmade]
    exact Dispatcher.calls_callsOf ..

namespace Session

/-- The dealings of a start: one for the signals, and one for the poll bridge if there is a path. -/
def startDealings (id : SessionId) (variant : Variant) (intervals : Intervals)
    (watchPath : Option String) (p : Platform) : List Dealing :=
  let (s, p') := Session.start id variant intervals none p
  ⟨⟨(Tracker.start variant intervals p.sources.snapshot).2, p.transport, p'.transport⟩,
      {}, none, s.dispatcher⟩ ::
    (watchPath.map (fun path =>
      let (s', p'') := s.startPolling id path p'
      (⟨⟨s.firstLook id path p', p'.transport, p''.transport⟩, s.dispatcher, none,
        s'.dispatcher⟩ : Dealing))).toList

/-- The dealings of a session with the messages that arrive, one for each. -/
def dealings (id : SessionId) : List Arrival → Session → Platform → List Dealing
  | [], _, _ => []
  | a :: arrivals, s, p =>
    let found := a.meanwhile p
    let (s', left) := s.handle id a.message found
    ⟨⟨s.wishes a.message found, found.transport, left.transport⟩, s.dispatcher, some a.message,
      s'.dispatcher⟩ :: dealings id arrivals s' left

/-- The dealings of a session from its start on. -/
def record (id : SessionId) (variant : Variant) (intervals : Intervals) (watchPath : Option String)
    (p : Platform) (arrivals : List Arrival) : List Dealing :=
  let (s, p') := Session.start id variant intervals watchPath p
  startDealings id variant intervals watchPath p ++ s.dealings id arrivals p'

/-- What a session carries out leaves its dispatcher and the transport as the values make them. -/
theorem perform_sends (id : SessionId) (s : Session) (step : Tracker × List Action)
    (p : Platform) :
    ((s.perform id step p).1.dispatcher, (s.perform id step p).2.transport) =
      Dispatcher.sendAll id (Action.sends step.2) (s.dispatcher, p.transport) := by
  rw [perform_eq]

theorem startPolling_sends (id : SessionId) (path : String) (s : Session) (p : Platform) :
    ((s.startPolling id path p).1.dispatcher, (s.startPolling id path p).2.transport) =
      Dispatcher.sendAll id (Action.sends (s.firstLook id path p)) (s.dispatcher, p.transport) := by
  cases hw : (p.notifier.watch path id).1 with
  | error failure =>
      rw [firstLook_of_error hw, startPolling_of_error id p hw]
      rfl
  | ok watch =>
      rw [firstLook_of_ok hw, startPolling_of_ok id p hw]
      exact perform_sends ..

theorem inOrder_firstLook (id : SessionId) (path : String) (s : Session) (p : Platform) :
    InOrder s.tracker.profile (Action.sends (s.firstLook id path p)) := by
  cases hw : (p.notifier.watch path id).1 with
  | error failure => rw [firstLook_of_error hw]; exact inOrder_nil _
  | ok watch =>
      rw [firstLook_of_ok hw]
      exact Tracker.inOrder_poll p.sample (s.tracker.bridged watch)

/-- An answer is heard and makes a session send nothing; about any other message there is nothing
for the dispatcher to hear. -/
theorem handle_sends {s : Session} (h : s.closed = false) (id : SessionId) (m : Message)
    (p : Platform) :
    ((s.handle id m p).1.dispatcher, (s.handle id m p).2.transport) =
      Dispatcher.sendAll id (Action.sends (s.wishes m p)) (s.dispatcher.hear m, p.transport) := by
  rw [handle_of_open id p h, wishes_of_open h]
  cases m <;> rfl

/-- **The dealings of a start are orderly**: they begin with a new dispatcher and end with the one
that the session has then. -/
theorem orderly_startDealings (id : SessionId) (variant : Variant) (intervals : Intervals)
    (watchPath : Option String) (p : Platform) :
    (startDealings id variant intervals watchPath p).map Dealing.turn =
        startTurns id variant intervals watchPath p ∧
      (startDealings id variant intervals watchPath p).map Dealing.before ++
          [(Session.start id variant intervals watchPath p).1.dispatcher] =
        {} :: (startDealings id variant intervals watchPath p).map Dealing.after ∧
      ∀ dealing ∈ startDealings id variant intervals watchPath p,
        dealing.Orderly id variant.profile := by
  have hfirst : (⟨⟨(Tracker.start variant intervals p.sources.snapshot).2, p.transport,
      (Session.start id variant intervals none p).2.transport⟩, {}, none,
      (Session.start id variant intervals none p).1.dispatcher⟩ : Dealing).Orderly id
        variant.profile := by
    refine Dealing.orderly_of (Tracker.inOrder_evaluate none
      (Tracker.new variant intervals p.sources.snapshot)) ?_
    rw [start_none]
    exact perform_sends ..
  cases watchPath with
  | none => exact ⟨rfl, rfl, List.forall_mem_singleton.mpr hfirst⟩
  | some path =>
      refine ⟨rfl, rfl, List.forall_mem_cons.mpr ⟨hfirst, List.forall_mem_singleton.mpr ?_⟩⟩
      have hvariant := (started id ⟨variant, intervals, none⟩ p).variant
      have hprofile : (Session.start id variant intervals none p).1.tracker.profile =
          variant.profile := congrArg Variant.profile hvariant
      rw [← hprofile]
      exact Dealing.orderly_of (inOrder_firstLook ..) (startPolling_sends ..)

/-- **The dealings of an open session are orderly**, and each begins with the dispatcher that the
one before it left. -/
theorem orderly_dealings {s : Session} (h : s.closed = false) (id : SessionId)
    (arrivals : List Arrival) (p : Platform) :
    (s.dealings id arrivals p).map Dealing.turn =
        (s.goThrough Tracker.handle id arrivals p).1.map Visit.turn ∧
      (s.dealings id arrivals p).map Dealing.before ++
          [(s.goThrough Tracker.handle id arrivals p).2.1.dispatcher] =
        s.dispatcher :: (s.dealings id arrivals p).map Dealing.after ∧
      ∀ dealing ∈ s.dealings id arrivals p, dealing.Orderly id s.tracker.profile := by
  induction arrivals generalizing s p with
  | nil => exact ⟨rfl, rfl, List.forall_mem_nil _⟩
  | cons a arrivals ih =>
      have hopen := (same_handle id a.message s (a.meanwhile p)).closed.trans h
      have hthis : (⟨⟨s.wishes a.message (a.meanwhile p), (a.meanwhile p).transport,
          (s.handle id a.message (a.meanwhile p)).2.transport⟩, s.dispatcher, some a.message,
          (s.handle id a.message (a.meanwhile p)).1.dispatcher⟩ : Dealing).Orderly id
            s.tracker.profile := by
        refine Dealing.orderly_of ?_ (handle_sends h ..)
        rw [wishes_of_open h]
        exact Tracker.inOrder_handle ..
      obtain ⟨hturns, hchain, hrest⟩ := ih hopen (s.handle id a.message (a.meanwhile p)).2
      rw [profile_handle] at hrest
      rw [goThrough_cons]
      exact ⟨congrArg (_ :: ·) hturns, congrArg (s.dispatcher :: ·) hchain,
        List.forall_mem_cons.mpr ⟨hthis, hrest⟩⟩

/-- **A value is sent exactly when it is a change.**  Take a session of any variant, from its start
on any platform, and whatever arrives at it, with the record of its dealings.

The record has a dealing for each turn of the session, those of the start and one for every message.
It begins with a new dispatcher, goes on each time with the dispatcher that was left, and ends with
the one that the session has then.  In each dealing the dispatcher and the transport become what the
recorded calls of `Dispatcher.send` make of them, and these calls pass values of one source of
decisions in the order of its rules.

For a rule, the values that were passed on behalf of the signals are the changes in what the rule
says of the signals, of the first snapshot and then of the snapshot after every news; the first is
compared with what the rule takes the modem to hold, and always passed if it takes it to hold
nothing.  For a poll rule, the values that were passed on behalf of polling are the changes in what
the rule says of the samples that the bridge took.

No answer, no refusal and no closed queue shows in these equations, and neither source of decisions
shows in the equation for the other. -/
theorem sent_iff_changed (id : SessionId) (variant : Variant) (intervals : Intervals)
    (watchPath : Option String) (p : Platform) (arrivals : List Arrival) :
    let run := live Tracker.handle id variant intervals watchPath p arrivals
    let turns := startTurns id variant intervals watchPath p ++ run.1.map Visit.turn
    let record := record id variant intervals watchPath p arrivals
    Course id turns run.2.1 ∧
    run.1.map (fun v => v.message) = arrivals.map (fun a => a.message) ∧
    record.map Dealing.turn = turns ∧
    record.map Dealing.before ++ [run.2.1.dispatcher] = {} :: record.map Dealing.after ∧
    (∀ dealing ∈ record, dealing.Orderly id variant.profile) ∧
    (∀ r ∈ variant.profile.rules,
      Attempt.values .signals r.cls (attemptsIn id record) =
        changes r.initial
          ((List.scanl Snapshot.apply p.sources.snapshot (newsOf arrivals)).map r.compute)) ∧
    ∀ q ∈ variant.profile.pollRules,
      Attempt.values .polling q.cls (attemptsIn id record) =
        changes q.initial ((samples id watchPath p run.1).map q.compute) := by
  intro run turns record
  have hstart : Course id _ _ := .start variant intervals watchPath p
  have hcourse : Course id turns run.2.1 := course_goThrough hstart arrivals _
  have hstarted := started id ⟨variant, intervals, watchPath⟩ p
  have hprofile : (Session.start id variant intervals watchPath p).1.tracker.profile =
      variant.profile := congrArg Variant.profile hstarted.variant
  have hrecord : record = startDealings id variant intervals watchPath p ++
      (Session.start id variant intervals watchPath p).1.dealings id arrivals
        (Session.start id variant intervals watchPath p).2 := rfl
  obtain ⟨hstartTurns, hstartChain, hstartCalls⟩ :=
    orderly_startDealings id variant intervals watchPath p
  obtain ⟨hrestTurns, hrestChain, hrestCalls⟩ := orderly_dealings hstarted.closed id arrivals
    (Session.start id variant intervals watchPath p).2
  have hturns : record.map Dealing.turn = turns := by
    rw [hrecord, List.map_append, hstartTurns, hrestTurns]
    rfl
  have hchain : record.map Dealing.before ++ [run.2.1.dispatcher] =
      {} :: record.map Dealing.after := by
    rw [hrecord, List.map_append, List.map_append, List.append_assoc, ← List.cons_append,
      ← hstartChain, List.append_assoc]
    exact congrArg _ hrestChain
  rw [hprofile] at hrestCalls
  refine ⟨hcourse, messages_goThrough .., hturns, hchain,
    List.forall_mem_append.mpr ⟨hstartCalls, hrestCalls⟩, fun r hr => ?_, fun q hq => ?_⟩
  · have hrest := sent_goThrough hstarted.closed hstart.kept.current (by rw [hprofile]; exact hr)
      id arrivals (Session.start id variant intervals watchPath p).2
    rw [hstarted.snapshot] at hrest
    rw [attemptsIn_eq, hturns, sentIn_append, Attempt.values_append,
      sent_startTurns hr id intervals watchPath p]
    exact (congrArg _ hrest).trans (changes_append_scanl ..)
  · have hrest := polled_goThrough hstarted.closed (by rw [hprofile]; exact hq) id arrivals
      (Session.start id variant intervals watchPath p).2
    rw [attemptsIn_eq, hturns, sentIn_append, Attempt.values_append]
    exact (congrArg _ hrest).trans (polled_startTurns hq id intervals watchPath p run.1)

/-- A device is unplugged after its display came on, and then its watch breaks.  The first request
is answered with "not supported" in between, and the values of its class are passed on all the
same. -/
theorem sent_iff_changed_evening :
    let p : Platform := {
      transport := { slot := "slot1", interface := .v15 }
      power := .charging }
    let arrivals : List Arrival :=
      [⟨fun p => p, .signal ⟨.display, .valid true⟩⟩,
       ⟨fun p => p, .completed .lowDataExpected 1
          { status := .ok, error := .requestNotSupported,
            response := some RequestClass.lowDataExpected.expectedResponse }⟩,
       ⟨fun p => p, .signal ⟨.display, .state .on⟩⟩,
       ⟨fun p => { p with power := .discharging }, .screenChanged⟩,
       ⟨fun p => p, .watchFailed "gone"⟩,
       ⟨fun p => { p with power := .charging }, .screenChanged⟩]
    let record := record 0 .deviceState {} (some "screen_on") p arrivals
    Attempt.values .signals .lowDataExpected (attemptsIn 0 record) = [true, false] ∧
      Attempt.values .polling .chargingState (attemptsIn 0 record) = [true, false] := by
  intro p arrivals record
  have h := sent_iff_changed 0 .deviceState {} (some "screen_on") p arrivals
  exact ⟨(h.2.2.2.2.2.1 _ List.mem_cons_self).trans (by decide),
    (h.2.2.2.2.2.2 _ (List.mem_cons_of_mem _ List.mem_cons_self)).trans (by decide)⟩

end Session

end ModemWatch
