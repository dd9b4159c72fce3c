import ModemWatch.Proofs.LastWord
import ModemWatch.Proofs.Ledger

/-!
# Sessions that follow the signals alone

Without a poll bridge the signals are all that moves a session: every other message leaves its
tracker as it is and makes it want nothing.  Where all sessions are of that kind, no two of the same
variant, and none has ended, no two of them ever write to the same class.  So the last request of a
class in the ledger is that of the one session that may send it, and carries what that session
decided — unless the class has been refused.

* `Host.Steady` — such a host; `Host.Faithful` — the ledger tells what the sessions decided;
* `Host.Blamed` — a class that is not supported has been refused, and so has one whose refusal is
  still in a queue;
* `Host.Mailed` — what most happenings do: they post letters and leave the rest.
-/

namespace ModemWatch

/-! ## Trackers without a bridge -/

namespace Tracker

variable {t : Tracker}

/-- Without a bridge only the signals move a tracker. -/
theorem handle_of_unpolled (hb : t.bridge = none) (sample : PollSample) (m : Message) :
    t.handle sample m =
      match m with
      | .signal u => t.observe u
      | .completed .. | .screenChanged | .watchFailed _ => (t, []) := by
  cases m <;> simp [handle, poll, stopPolling, hb]

theorem bridge_handle (hb : t.bridge = none) (sample : PollSample) (m : Message) :
    (t.handle sample m).1.bridge = none := by
  rw [handle_of_unpolled hb]
  cases m <;> exact hb

end Tracker

theorem Action.lastSend_eq_none {actions : List Action} {c : RequestClass}
    (h : ∀ a ∈ Action.sends actions, a.cls ≠ c) : Action.lastSend c actions = none :=
  latest_eq_none_iff.mpr fun a ha => by simpa using h a ha

/-! ## What the modem was told -/

/-- Of a rule's class the last request carries the decision; without a request the decision is what
the modem is taken to hold. -/
def Stands (i : Interface) (requests : List Request) (r : DecisionRule)
    (decision : Option Bool) : Prop :=
  match latest (fun q => q.cls? == some r.cls) requests with
  | some q => ∃ value, decision = some value ∧ q = r.cls.build value i
  | none => ∀ value, decision = some value → r.initial = some value

section Turns

variable {i : Interface} {requests : List Request} {r : DecisionRule} {turn : Turn}
  {id : SessionId} {d : Dispatcher}

/-- A turn that is carried out keeps the modem told. -/
theorem Stands.after {t t' : Tracker} (h : Stands i requests r (t.decision .signals r.cls))
    (hsent : turn.SentBy id d) (hopen : turn.found.closed = false)
    (hi : turn.found.interface = i) (hs : d.supported.get r.cls = true)
    (hrec : t.Recorded (t', turn.actions)) (hb : t'.bridge = none) :
    Stands i (requests ++ turn.requests) r (t'.decision .signals r.cls) := by
  unfold Stands
  rw [latest_append]
  cases hlast : Action.lastSend r.cls turn.actions with
  | some a =>
      have hcls : a.cls = r.cls := by simpa using prop_of_latest hlast
      have hwriter := hrec.sent r.cls a hlast
      have hsignals : t'.decision .signals r.cls = some a.value := by
        cases ho : a.origin with
        | signals => rw [ho] at hwriter; exact hwriter
        | polling => simp [ho, Tracker.decision, hb] at hwriter
      rw [hsent.lastRequest hs hopen, hlast, Option.map_some, Option.some_or]
      exact ⟨a.value, hsignals, by rw [hi, hcls]⟩
  | none =>
      have hsame := hrec.unsent r.cls hlast .signals
      simp only at hsame
      rw [hsent.lastRequest_of_unsent hlast, Option.none_or, hsame]
      exact h

/-- A turn that sends nothing of the class changes nothing about it. -/
theorem Stands.other {decision : Option Bool} (h : Stands i requests r decision)
    (hsent : turn.SentBy id d) (hn : Action.lastSend r.cls turn.actions = none) :
    Stands i (requests ++ turn.requests) r decision := by
  unfold Stands
  rw [latest_append, hsent.lastRequest_of_unsent hn, Option.none_or]
  exact h

/-- The requests of a turn stand at the end of the ledger. -/
theorem Turn.SentBy.ledger (h : turn.SentBy id d) (taken : List Outgoing) :
    (turn.left.ledger taken).map (fun o => o.request) =
      (turn.found.ledger taken).map (fun o => o.request) ++ turn.requests := by
  have hall := Dispatcher.requests_sendAll id (Action.sends turn.actions) d turn.found
  rw [Transport.ledger, Transport.ledger, List.map_append, List.map_append, List.append_assoc,
    h.requests, h, hall]

end Turns

/-! ## Hosts -/

/-- An open session without a poll bridge. -/
structure Session.Steady (intervals : Intervals) (s : Session) : Prop where
  opened : s.closed = false
  unpolled : s.tracker.bridge = none
  current : s.tracker.Current
  intervals : s.tracker.intervals = intervals

theorem Session.Steady.handle {intervals : Intervals} {s : Session} (h : s.Steady intervals)
    (id : SessionId) (m : Message) (p : Platform) : (s.handle id m p).1.Steady intervals := by
  have hsame := same_handle id m s p
  refine ⟨hsame.closed.trans h.opened, ?_, ?_, hsame.intervals.trans h.intervals⟩
  · rw [handle_of_open id p h.opened]
    exact Tracker.bridge_handle h.unpolled ..
  · rw [handle_of_open id p h.opened]
    exact h.current.handle ..

namespace Host

/-- All sessions are open and without a poll bridge, no two are of one variant, and the queue to the
modem is open. -/
structure Steady (intervals : Intervals) (i : Interface) (h : Host) : Prop where
  sessions : ∀ (j : SessionId) (s : Session), h.sessions[j]? = some s → s.Steady intervals
  distinct : ∀ (j k : SessionId) (s s' : Session), h.sessions[j]? = some s →
    h.sessions[k]? = some s' → s.tracker.variant = s'.tracker.variant → j = k
  flowing : h.platform.transport.closed = false
  interface : h.platform.transport.interface = i

/-- The ledger tells what the sessions decided, and nothing else. -/
structure Faithful (i : Interface) (taken : List Outgoing) (h : Host) : Prop where
  told : ∀ (j : SessionId) (s : Session), h.sessions[j]? = some s →
    ∀ r ∈ s.tracker.profile.rules, s.dispatcher.supported.get r.cls = true →
      Stands i ((h.platform.transport.ledger taken).map (fun o => o.request)) r
        (s.tracker.decision .signals r.cls)
  sourced : ∀ q ∈ (h.platform.transport.ledger taken).map (fun o => o.request),
    ∃ (j : SessionId) (s : Session), h.sessions[j]? = some s ∧
      ∃ c ∈ s.tracker.profile.classes, q.cls? = some c

/-- An answer that is no refusal, or that refuses a class among those listed. -/
def Blames (refused : RequestClass → Prop) (m : Message) : Prop :=
  ∀ c ticket a, m = .completed c ticket a → a.outcome c = .notSupported → refused c

/-- A class that is not supported, or whose refusal waits in a queue, has been refused. -/
structure Blamed (refused : RequestClass → Prop) (h : Host) : Prop where
  lost : ∀ (j : SessionId) (s : Session), h.sessions[j]? = some s →
    ∀ c, s.dispatcher.supported.get c = false → refused c
  losing : ∀ (j : SessionId) (s : Session), h.sessions[j]? = some s →
    ∀ m ∈ s.queue, Blames refused m

/-- Letters were posted, and nothing else happened to the sessions, the queue to the modem or the
requested intervals. -/
structure Mailed (h h' : Host) (letters : SessionId → List Message) : Prop where
  sessions : ∀ j : SessionId,
    h'.sessions[j]? = (h.sessions[j]?).map (Session.receiveAll (letters j))
  queued : h'.platform.transport.queued = h.platform.transport.queued
  closed : h'.platform.transport.closed = h.platform.transport.closed
  interface : h'.platform.transport.interface = h.platform.transport.interface
  intervals : h'.platform.slot.intervals = h.platform.slot.intervals

section Mailed

variable {h h' : Host} {letters : SessionId → List Message} {intervals : Intervals}
  {i : Interface} {taken : List Outgoing} {refused : RequestClass → Prop}

/-- Letters were posted if all else that is new about the platform is known not to matter. -/
theorem Mailed.of_platform {p : Platform} (hp : h'.platform = p)
    (hsessions : ∀ j : SessionId,
      h'.sessions[j]? = (h.sessions[j]?).map (Session.receiveAll (letters j)))
    (hqueued : p.transport.queued = h.platform.transport.queued)
    (hclosed : p.transport.closed = h.platform.transport.closed)
    (hinterface : p.transport.interface = h.platform.transport.interface)
    (hintervals : p.slot.intervals = h.platform.slot.intervals) : h.Mailed h' letters := by
  subst hp
  exact ⟨hsessions, hqueued, hclosed, hinterface, hintervals⟩

theorem Mailed.exists_of_some (hm : h.Mailed h' letters) {j : SessionId} {s' : Session}
    (hs' : h'.sessions[j]? = some s') :
    ∃ s, h.sessions[j]? = some s ∧ s' = s.receiveAll (letters j) := by
  rw [hm.sessions] at hs'
  obtain ⟨s, hs, rfl⟩ := Option.map_eq_some_iff.mp hs'
  exact ⟨s, hs, rfl⟩

theorem Mailed.some_of_some (hm : h.Mailed h' letters) {j : SessionId} {s : Session}
    (hs : h.sessions[j]? = some s) : h'.sessions[j]? = some (s.receiveAll (letters j)) := by
  rw [hm.sessions, hs, Option.map_some]

theorem Mailed.ledger (hm : h.Mailed h' letters) (taken : List Outgoing) :
    h'.platform.transport.ledger taken = h.platform.transport.ledger taken := by
  rw [Transport.ledger, Transport.ledger, hm.queued]

theorem Steady.mailed (hs : h.Steady intervals i) (hm : h.Mailed h' letters) :
    h'.Steady intervals i := by
  refine ⟨?_, ?_, hm.closed.trans hs.flowing, hm.interface.trans hs.interface⟩
  · intro j s' hs'
    obtain ⟨s, hget, rfl⟩ := hm.exists_of_some hs'
    have hold := hs.sessions j s hget
    have hsame := Session.same_receiveAll (letters j) s
    refine ⟨hsame.closed.trans hold.opened, ?_, ?_, hsame.intervals.trans hold.intervals⟩
    · rw [Session.tracker_receiveAll]
      exact hold.unpolled
    · rw [Session.tracker_receiveAll]
      exact hold.current
  · intro j k s₁' s₂' hs₁ hs₂ hv
    obtain ⟨s₁, hget₁, rfl⟩ := hm.exists_of_some hs₁
    obtain ⟨s₂, hget₂, rfl⟩ := hm.exists_of_some hs₂
    rw [Session.tracker_receiveAll, Session.tracker_receiveAll] at hv
    exact hs.distinct j k s₁ s₂ hget₁ hget₂ hv

theorem Faithful.mailed (hf : h.Faithful i taken) (hm : h.Mailed h' letters) :
    h'.Faithful i taken := by
  constructor
  · intro j s' hs'
    obtain ⟨s, hget, rfl⟩ := hm.exists_of_some hs'
    rw [Session.tracker_receiveAll, Session.dispatcher_receiveAll, hm.ledger]
    exact hf.told j s hget
  · intro q hq
    rw [hm.ledger] at hq
    obtain ⟨j, s, hget, c, hc, hcls⟩ := hf.sourced q hq
    refine ⟨j, _, hm.some_of_some hget, c, ?_, hcls⟩
    rw [Session.tracker_receiveAll]
    exact hc

theorem Blamed.mailed (hb : h.Blamed refused) (hm : h.Mailed h' letters)
    (hletters : ∀ j, ∀ m ∈ letters j, Blames refused m) : h'.Blamed refused := by
  constructor
  · intro j s' hs'
    obtain ⟨s, hget, rfl⟩ := hm.exists_of_some hs'
    rw [Session.dispatcher_receiveAll]
    exact hb.lost j s hget
  · intro j s' hs' m hmem
    obtain ⟨s, hget, rfl⟩ := hm.exists_of_some hs'
    unfold Session.receiveAll at hmem
    split at hmem
    · exact hb.losing j s hget m hmem
    · rcases List.mem_append.mp hmem with hmem | hmem
      · exact hb.losing j s hget m hmem
      · exact hletters j m hmem

/-- More classes may have been refused. -/
theorem Blamed.mono {refused' : RequestClass → Prop} (hb : h.Blamed refused)
    (hle : ∀ c, refused c → refused' c) : h.Blamed refused' :=
  ⟨fun j s hs c hc => hle c (hb.lost j s hs c hc),
    fun j s hs m hm c ticket a he ho => hle c (hb.losing j s hs m hm c ticket a he ho)⟩

end Mailed

/-! ## Handling a message -/

section Processing

variable {h : Host} {intervals : Intervals} {i : Interface} {taken : List Outgoing}
  {refused : RequestClass → Prop}

theorem Steady.processOne (hs : h.Steady intervals i) (id : SessionId) :
    (h.processOne id).Steady intervals i := by
  rcases processOne_cases h id with heq | ⟨s, m, rest, hget, hq, heq⟩
  · rw [heq]
    exact hs
  have hold := hs.sessions id s hget
  have hvariant := (Session.same_handle id m s h.platform).variant
  rw [heq]
  refine ⟨?_, ?_, ?_, ?_⟩
  · intro j s' hs'
    rcases getElem?_set_cases hs' with ⟨rfl, rfl⟩ | ⟨-, hs'⟩
    · have hnew := hold.handle j m h.platform
      exact ⟨hnew.opened, hnew.unpolled, hnew.current, hnew.intervals⟩
    · exact hs.sessions j s' hs'
  · intro j k s₁ s₂ hs₁ hs₂ hv
    -- the session that handled the message is of the variant that it was of before
    rcases getElem?_set_cases hs₁ with ⟨rfl, rfl⟩ | ⟨-, hget₁⟩ <;>
      rcases getElem?_set_cases hs₂ with ⟨rfl, rfl⟩ | ⟨-, hget₂⟩
    · rfl
    · exact hs.distinct j k s s₂ hget hget₂ (hvariant.symm.trans hv)
    · exact hs.distinct j k s₁ s hget₁ hget (hv.trans hvariant)
    · exact hs.distinct j k s₁ s₂ hget₁ hget₂ hv
  · rw [Session.handle_of_open id _ hold.opened]
    exact (Dispatcher.closed_sendAll ..).trans hs.flowing
  · rw [Session.handle_of_open id _ hold.opened]
    exact (Dispatcher.interface_sendAll ..).trans hs.interface

/-- **A handled message keeps the ledger faithful.** -/
theorem Faithful.processOne (hf : h.Faithful i taken) (hs : h.Steady intervals i)
    (id : SessionId) : (h.processOne id).Faithful i taken := by
  rcases processOne_cases h id with heq | ⟨s, m, rest, hget, hq, heq⟩
  · rw [heq]
    exact hf
  have hold := hs.sessions id s hget
  let turn : Turn := ⟨(s.tracker.handle h.platform.sample m).2, h.platform.transport,
    (s.handle id m h.platform).2.transport⟩
  have hsent : turn.SentBy id s.dispatcher := by
    simp only [turn, Turn.SentBy, Session.handle_of_open id _ hold.opened]
  have hrec := Tracker.recorded_handle h.platform.sample m s.tracker
  have hvariant := (Session.same_handle id m s h.platform).variant
  have hledger := hsent.ledger taken
  rw [heq]
  constructor
  · intro j s' hs' r hr hsupported
    rw [hledger]
    rcases getElem?_set_cases hs' with ⟨rfl, rfl⟩ | ⟨hj, hs'⟩
    · rw [Tracker.profile, hvariant] at hr
      have hbefore : s.dispatcher.supported.get r.cls = true := by
        rw [Session.handle_of_open j _ hold.opened] at hsupported
        rw [← Dispatcher.supported_sendAll j
          (Action.sends (s.tracker.handle h.platform.sample m).2) s.dispatcher
          h.platform.transport]
        exact Dispatcher.supported_of_hear hsupported
      have htracker : (s.handle j m h.platform).1.tracker =
          (s.tracker.handle h.platform.sample m).1 := by
        rw [Session.handle_of_open j _ hold.opened]
      rw [htracker]
      exact (hf.told j s hget r hr hbefore).after hsent hs.flowing hs.interface hbefore hrec
        (Tracker.bridge_handle hold.unpolled ..)
    · refine (hf.told j s' hs' r hr hsupported).other hsent ?_
      -- the class of another session's rule is none that this session sends
      refine Action.lastSend_eq_none fun a ha hcls => hj ?_
      have hmine := Tracker.cls_mem_of_handle ha
      have htheirs : a.cls ∈ s'.tracker.profile.classes := by
        rw [hcls]
        exact List.mem_map_of_mem hr
      exact hs.distinct j id s' s hs' hget (Profile.variant_eq_of_classes htheirs hmine)
  · intro q hq
    rw [hledger] at hq
    have hlt : id < h.sessions.length := (List.getElem?_eq_some_iff.mp hget).1
    have hnew : (h.sessions.set id { (s.handle id m h.platform).1 with queue := rest })[id]? =
        some { (s.handle id m h.platform).1 with queue := rest } := List.getElem?_set_self hlt
    have hprofile : ({ (s.handle id m h.platform).1 with queue := rest } :
        Session).tracker.profile = s.tracker.profile := congrArg Variant.profile hvariant
    rcases List.mem_append.mp hq with hq | hq
    · obtain ⟨j, s₁, hs₁, c, hc, hcls⟩ := hf.sourced q hq
      by_cases hj : id = j
      · subst hj
        obtain rfl : s = s₁ := Option.some.inj (hget.symm.trans hs₁)
        exact ⟨id, _, hnew, c, by rw [hprofile]; exact hc, hcls⟩
      · exact ⟨j, s₁, by rw [List.getElem?_set_ne hj]; exact hs₁, c, hc, hcls⟩
    · rw [hsent.requests] at hq
      split at hq
      · exact absurd hq List.not_mem_nil
      · obtain ⟨a, ha, rfl⟩ := List.mem_map.mp hq
        refine ⟨id, _, hnew, a.cls, ?_, Request.cls?_build ..⟩
        rw [hprofile]
        exact Tracker.cls_mem_of_handle (List.mem_filter.mp ha).1

/-- Only a refusal takes the support of a class away. -/
theorem lost_of_hear {m : Message} {c : RequestClass} {d : Dispatcher}
    (hb : Blames refused m) (hbefore : d.supported.get c = false → refused c)
    (h : (d.hear m).supported.get c = false) : refused c := by
  rcases Dispatcher.supported_hear_eq_false_iff.mp h with h | ⟨p, a, -, hm, ha⟩
  · exact hbefore h
  · exact hb c p.ticket a hm (Completion.outcome_eq_notSupported_iff.mpr ha)

theorem Blamed.processOne (hb : h.Blamed refused) (hs : h.Steady intervals i)
    (id : SessionId) : (h.processOne id).Blamed refused := by
  rcases processOne_cases h id with heq | ⟨s, m, rest, hget, hq, heq⟩
  · rw [heq]
    exact hb
  have hold := hs.sessions id s hget
  have hm : Blames refused m := hb.losing id s hget m (by rw [hq]; exact List.mem_cons_self)
  rw [heq]
  constructor
  · intro j s' hs' c hc
    rcases getElem?_set_cases hs' with ⟨rfl, rfl⟩ | ⟨-, hs'⟩
    · rw [Session.handle_of_open j _ hold.opened] at hc
      refine lost_of_hear hm (fun hlost => ?_) hc
      rw [Dispatcher.supported_sendAll] at hlost
      exact hb.lost j s hget c hlost
    · exact hb.lost j s' hs' c hc
  · intro j s' hs' m' hm'
    rcases getElem?_set_cases hs' with ⟨rfl, rfl⟩ | ⟨-, hs'⟩
    · exact hb.losing j s hget m' (by rw [hq]; exact List.mem_cons_of_mem _ hm')
    · exact hb.losing j s' hs' m' hm'

end Processing

/-! ## Starting a session -/

section Starting

variable {h : Host} {intervals : Intervals} {i : Interface} {taken : List Outgoing}
  {refused : RequestClass → Prop} {m : Monitor}

/-- A session that starts on a host, spelled out. -/
theorem start_of_unpolled (hm : m.watchPath = none) :
    h.start m =
      ⟨(({ tracker := Tracker.new m.variant m.intervals h.platform.sources.snapshot
           subscriptions := (h.platform.sources.subscribeAll h.sessions.length
             m.variant.profile.signals).1 } : Session).perform h.sessions.length
          (Tracker.start m.variant m.intervals h.platform.sources.snapshot)
          { h.platform with sources := (h.platform.sources.subscribeAll h.sessions.length
              m.variant.profile.signals).2 }).2,
        h.sessions ++
          [(({ tracker := Tracker.new m.variant m.intervals h.platform.sources.snapshot
               subscriptions := (h.platform.sources.subscribeAll h.sessions.length
                 m.variant.profile.signals).1 } : Session).perform h.sessions.length
              (Tracker.start m.variant m.intervals h.platform.sources.snapshot)
              { h.platform with sources := (h.platform.sources.subscribeAll h.sessions.length
                  m.variant.profile.signals).2 }).1]⟩ := by
  rw [← Session.start_none]
  unfold start
  rw [hm]

theorem Steady.start (hs : h.Steady intervals i) (hm : m.watchPath = none)
    (hi : m.intervals = intervals)
    (hfresh : ∀ (j : SessionId) (s : Session), h.sessions[j]? = some s →
      s.tracker.variant ≠ m.variant) : (h.start m).Steady intervals i := by
  have hcurrent := Tracker.Current.start m.variant m.intervals h.platform.sources.snapshot
  rw [start_of_unpolled hm, Session.perform_eq]
  refine ⟨?_, ?_, ?_, ?_⟩
  · intro j s hget
    rcases getElem?_concat_cases hget with ⟨-, hget⟩ | ⟨-, rfl⟩
    · exact hs.sessions j s hget
    · exact ⟨rfl, rfl, hcurrent, hi⟩
  · intro j k s₁ s₂ hs₁ hs₂ hv
    rcases getElem?_concat_cases hs₁ with ⟨-, hget₁⟩ | ⟨hj, rfl⟩ <;>
      rcases getElem?_concat_cases hs₂ with ⟨-, hget₂⟩ | ⟨hk, rfl⟩
    · exact hs.distinct j k s₁ s₂ hget₁ hget₂ hv
    · exact absurd hv (hfresh j s₁ hget₁)
    · exact absurd hv.symm (hfresh k s₂ hget₂)
    · exact hj.trans hk.symm
  · exact (Dispatcher.closed_sendAll ..).trans hs.flowing
  · exact (Dispatcher.interface_sendAll ..).trans hs.interface

/-- **A start keeps the ledger faithful**, if no session of the variant is there yet. -/
theorem Faithful.start (hf : h.Faithful i taken) (hs : h.Steady intervals i)
    (hm : m.watchPath = none)
    (hfresh : ∀ (j : SessionId) (s : Session), h.sessions[j]? = some s →
      s.tracker.variant ≠ m.variant) : (h.start m).Faithful i taken := by
  let fresh := Tracker.new m.variant m.intervals h.platform.sources.snapshot
  let first := Tracker.start m.variant m.intervals h.platform.sources.snapshot
  let turn : Turn := ⟨first.2, h.platform.transport,
    (Dispatcher.sendAll h.sessions.length (Action.sends first.2) ({}, h.platform.transport)).2⟩
  have hsent : turn.SentBy h.sessions.length {} := rfl
  have hrec : fresh.Recorded first := Tracker.recorded_evaluate none fresh
  have hsends : ∀ a ∈ Action.sends first.2, a.cls ∈ m.variant.profile.classes :=
    fun a ha => Tracker.cls_mem_of_evaluate (t := fresh) ha
  have hledger := hsent.ledger taken
  rw [start_of_unpolled hm, Session.perform_eq]
  constructor
  · intro j s hget r hr hsupported
    refine Eq.mpr (congrArg (fun l => Stands i l r _) hledger) ?_
    rcases getElem?_concat_cases hget with ⟨-, hget⟩ | ⟨-, rfl⟩
    · refine (hf.told j s hget r hr hsupported).other hsent ?_
      refine Action.lastSend_eq_none fun a ha hcls => hfresh j s hget ?_
      have htheirs : a.cls ∈ s.tracker.profile.classes := by
        rw [hcls]
        exact List.mem_map_of_mem hr
      exact Profile.variant_eq_of_classes htheirs (hsends a ha)
    · -- nobody has sent anything of the new session's classes yet
      have hr' : r ∈ m.variant.profile.rules := hr
      have hnone : latest (fun q => q.cls? == some r.cls)
          ((h.platform.transport.ledger taken).map (fun o => o.request)) = none := by
        rw [latest_eq_none_iff]
        intro q hq
        obtain ⟨j', s', hget', c, hc, hcls⟩ := hf.sourced q hq
        have hne : c ≠ r.cls := by
          rintro rfl
          exact hfresh j' s' hget'
            (Profile.variant_eq_of_classes hc (List.mem_map_of_mem hr'))
        simpa [hcls] using hne
      have hbase : Stands i ((h.platform.transport.ledger taken).map (fun o => o.request)) r
          (fresh.decision .signals r.cls) := by
        unfold Stands
        rw [hnone]
        intro value hv
        obtain ⟨q, hq, hcls, hinit⟩ := (wrote_new m.variant m.intervals
          h.platform.sources.snapshot).unsent r.cls rfl .signals value hv
        rwa [← Tracker.rule_eq_of_cls (t := fresh) hq hr' hcls]
      exact hbase.after hsent hs.flowing hs.interface (ByClass.get_const true r.cls) hrec rfl
  · intro q hq
    replace hq := Eq.mp (congrArg (fun l => q ∈ l) hledger) hq
    rcases List.mem_append.mp hq with hq | hq
    · obtain ⟨j, s, hget, c, hc, hcls⟩ := hf.sourced q hq
      have hlt : j < h.sessions.length := (List.getElem?_eq_some_iff.mp hget).1
      exact ⟨j, s, by rw [List.getElem?_append_left hlt]; exact hget, c, hc, hcls⟩
    · rw [hsent.requests] at hq
      split at hq
      · exact absurd hq List.not_mem_nil
      · obtain ⟨a, ha, rfl⟩ := List.mem_map.mp hq
        exact ⟨h.sessions.length, _, List.getElem?_concat_length, a.cls,
          hsends a (List.mem_filter.mp ha).1, Request.cls?_build ..⟩

theorem Blamed.start (hb : h.Blamed refused) (hm : m.watchPath = none) :
    (h.start m).Blamed refused := by
  rw [start_of_unpolled hm, Session.perform_eq]
  constructor
  · intro j s hget c hc
    rcases getElem?_concat_cases hget with ⟨-, hget⟩ | ⟨-, rfl⟩
    · exact hb.lost j s hget c hc
    · rw [Dispatcher.supported_sendAll] at hc
      have hfull : Capabilities.full.get c = true := ByClass.get_const true c
      rw [hc] at hfull
      cases hfull
  · intro j s hget m' hm'
    rcases getElem?_concat_cases hget with ⟨-, hget⟩ | ⟨-, rfl⟩
    · exact hb.losing j s hget m' hm'
    · exact absurd hm' List.not_mem_nil

end Starting

end Host

end ModemWatch
