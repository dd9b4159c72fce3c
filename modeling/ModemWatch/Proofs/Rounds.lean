import ModemWatch.Proofs.Pace
import ModemWatch.Proofs.Resting

/-!
# Rounds of work

After a step the sessions of a replay work in rounds.  In a round each session takes messages out of
its queue until the queue is empty, one session after the other, and the rounds go on until one in
which nobody had anything to do.

That this comes to an end does not show in the loops.  Handling a message sends and drops requests,
pushes intervals and lets go of watches, and any of it could put a message into a queue.  None does:
the queues are the same before and after a message is handled.  So a session handles what waited for
it when its turn began and nothing else, the first round handles all there is, and if that was
anything, the second round finds that nothing is left.

* `Host.waiting_handle` — handling a message leaves all queues as they are;
* `Host.Drains`, `Host.Turns`, `Host.Rounds` — the three loops, as they run;
* `Host.drains_iff`, `Host.turns_iff`, `Host.rounds_iff` — what each of them comes to;
* `Replay.settles_after_every_step` — so replays settle, and nothing waits between two steps.
-/

namespace ModemWatch

namespace Host

variable {h h' : Host} {id j : SessionId} {ms : List Message}

/-! ## One message -/

/-- **Handling a message puts nothing into any queue.** -/
theorem waiting_handle (id : SessionId) (m : Message) (j : SessionId) (h : Host) :
    (h.handle id m).waiting j = h.waiting j := by
  unfold waiting
  rw [handle, getElem?_withSession]
  by_cases hj : j = id
  · rw [if_pos hj]
    cases h.sessions[j]? with
    | none => rfl
    | some s => exact Session.queue_handle id m s h.platform
  · rw [if_neg hj]

/-- A session that works empties its queue and touches no other. -/
theorem waiting_process (id j : SessionId) (h : Host) :
    (h.process id).2.waiting j = if j = id then [] else h.waiting j := by
  unfold waiting
  rw [process, getElem?_withSession]
  by_cases hj : j = id
  · rw [if_pos hj, if_pos hj]
    cases h.sessions[j]? with
    | none => rfl
    | some s => exact Session.queue_process id s h.platform
  · rw [if_neg hj, if_neg hj]

/-! ## The three loops -/

/-- A session takes messages out of its queue and handles them until there are none; `ms` are the
messages that it handled, in order. -/
inductive Drains (id : SessionId) : Host → List Message → Host → Prop
  | nothing {h : Host} (hnone : h.waiting id = []) : Drains id h [] h
  | message {h h' : Host} {m : Message} {rest ms : List Message}
      (holdest : h.waiting id = m :: rest) (hrest : Drains id (h.processOne id) ms h') :
      Drains id h (m :: ms) h'

/-- The listed sessions do so, one after the other; `ns` says how many messages each handled. -/
inductive Turns : List SessionId → Host → List Nat → Host → Prop
  | nobody (h : Host) : Turns [] h [] h
  | next {id : SessionId} {ids : List SessionId} {h h₁ h₂ : Host} {ms : List Message}
      {ns : List Nat} (hfirst : Drains id h ms h₁) (hrest : Turns ids h₁ ns h₂) :
      Turns (id :: ids) h (ms.length :: ns) h₂

/-- All sessions take their turns, again and again until no turn handled any message; `n` is the
number of rounds, the last one included. -/
inductive Rounds : Host → Nat → Host → Prop
  | last {h h' : Host} {ns : List Nat} (hturns : Turns (List.range h.sessions.length) h ns h')
      (hnothing : total ns = 0) : Rounds h 1 h'
  | again {h h₁ h' : Host} {ns : List Nat} {n : Nat}
      (hturns : Turns (List.range h.sessions.length) h ns h₁) (hsomething : total ns ≠ 0)
      (hrest : Rounds h₁ n h') : Rounds h (n + 1) h'

/-- **A session handles what waited for it when its turn began**, in order and nothing else. -/
theorem drains_iff : Drains id h ms h' ↔ ms = h.waiting id ∧ h' = (h.process id).2 := by
  rw [process_eq_workOff]
  constructor
  · intro hdrains
    induction hdrains with
    | nothing hnone => rw [hnone]; exact ⟨rfl, rfl⟩
    | message holdest _ ih =>
        rw [waiting_processOne, holdest, List.tail_cons] at ih
        rw [holdest]
        exact ⟨congrArg _ ih.1, ih.2⟩
  · rintro ⟨rfl, rfl⟩
    -- each message that is handled leaves one less
    generalize hw : h.waiting id = ms
    induction ms generalizing h with
    | nil => exact .nothing hw
    | cons m ms ih =>
        have hrest : (h.processOne id).waiting id = ms := by
          rw [waiting_processOne, hw, List.tail_cons]
        exact .message hw (ih hrest)

theorem turns_iff {ids : List SessionId} {ns : List Nat} :
    Turns ids h ns h' ↔ ns = (processEach ids h).1 ∧ h' = (processEach ids h).2 := by
  induction ids generalizing h ns with
  | nil =>
      constructor
      · intro hturns
        cases hturns
        exact ⟨rfl, rfl⟩
      · rintro ⟨rfl, rfl⟩
        exact .nobody _
  | cons id ids ih =>
      have hcount : (h.process id).1 = (h.waiting id).length := (length_waiting id h).symm
      constructor
      · intro hturns
        cases hturns with
        | next hfirst hrest =>
            obtain ⟨rfl, rfl⟩ := drains_iff.mp hfirst
            obtain ⟨rfl, rfl⟩ := ih.mp hrest
            exact ⟨congrArg (· :: _) hcount.symm, rfl⟩
      · rintro ⟨rfl, rfl⟩
        simp only [processEach, hcount]
        exact .next (drains_iff.mpr ⟨rfl, rfl⟩) (ih.mpr ⟨rfl, rfl⟩)

/-- **In a round everybody handles what waited when the round began.** -/
theorem counts_processEach {ids : List SessionId} (hids : ids.Nodup) (h : Host) :
    (processEach ids h).1 = ids.map h.queued := by
  induction ids generalizing h with
  | nil => rfl
  | cons id ids ih =>
      obtain ⟨hid, hrest⟩ := List.nodup_cons.mp hids
      have hsame : ids.map (h.process id).2.queued = ids.map h.queued := by
        refine List.map_congr_left fun j hj => ?_
        have hne : j ≠ id := fun heq => hid (heq ▸ hj)
        rw [← length_waiting, ← length_waiting, waiting_process, if_neg hne]
      exact congrArg (h.queued id :: ·) ((ih hrest (h.process id).2).trans hsame)

theorem counts_processAll (h : Host) :
    h.processAll.1 = h.sessions.map (fun s => s.queue.length) := by
  rw [processAll, counts_processEach List.nodup_range]
  refine List.ext_getElem (by simp) fun j hj hj' => ?_
  have hlt : j < h.sessions.length := by simpa using hj
  simp [queued, hlt]

/-- What a round handles is what waited. -/
theorem total_processAll (h : Host) : total h.processAll.1 = h.totalQueued := by
  rw [counts_processAll, totalQueued]

theorem totalQueued_of_idle (hidle : h.Idle) : h.totalQueued = 0 := by
  have hnone : ∀ ss : List Session, (∀ s ∈ ss, s.queue = []) →
      total (ss.map (fun s => s.queue.length)) = 0 := by
    intro ss
    induction ss with
    | nil => exact fun _ => rfl
    | cons s ss ih =>
        intro hempty
        have hs : s.queue.length = 0 := by rw [hempty s List.mem_cons_self]; rfl
        rw [List.map_cons, hs]
        exact ih fun t ht => hempty t (List.mem_cons_of_mem _ ht)
  exact hnone h.sessions hidle

/-- After one round a host has settled. -/
theorem turns_all_iff {ns : List Nat} :
    Turns (List.range h.sessions.length) h ns h' ↔ ns = h.processAll.1 ∧ h' = h.settle := by
  rw [turns_iff, settle_eq_processAll]
  rfl

/-- **The loop ends after two rounds**, or after one if nothing waited, and then the host has
settled. -/
theorem rounds_iff {n : Nat} :
    Rounds h n h' ↔ n = (if h.totalQueued = 0 then 1 else 2) ∧ h' = h.settle := by
  constructor
  · intro hrounds
    induction hrounds with
    | last hturns hnothing =>
        obtain ⟨rfl, rfl⟩ := turns_all_iff.mp hturns
        rw [total_processAll] at hnothing
        exact ⟨(if_pos hnothing).symm, rfl⟩
    | again hturns hsomething _ ih =>
        obtain ⟨rfl, rfl⟩ := turns_all_iff.mp hturns
        rw [total_processAll] at hsomething
        -- nothing waits any more, so the next round is the last
        rw [totalQueued_of_idle (idle_settle _), if_pos rfl, settle_of_idle (idle_settle _)] at ih
        rw [if_neg hsomething]
        exact ⟨congrArg (· + 1) ih.1, ih.2⟩
  · rintro ⟨rfl, rfl⟩
    by_cases hnothing : h.totalQueued = 0
    · rw [if_pos hnothing]
      exact .last (turns_all_iff.mpr ⟨rfl, rfl⟩) ((total_processAll h).trans hnothing)
    · have hsecond : Rounds h.settle 1 h.settle :=
        .last (turns_all_iff.mpr ⟨rfl, (settle_of_idle (idle_settle h)).symm⟩)
          ((total_processAll _).trans (totalQueued_of_idle (idle_settle h)))
      rw [if_neg hnothing]
      exact .again (turns_all_iff.mpr ⟨rfl, rfl⟩) (by rwa [total_processAll]) hsecond

/-- How a host settles, whatever waits on it. -/
structure Settles (h : Host) : Prop where
  /-- Handling a message puts nothing into any queue, neither the session's own nor another's. -/
  posts : ∀ id m j, (h.handle id m).waiting j = h.waiting j
  /-- A session's loop ends, having handled what waited for the session at first. -/
  drains : ∀ id ms h', Drains id h ms h' ↔ ms = h.waiting id ∧ h' = (h.process id).2
  counts : ∀ id, (h.process id).1 = (h.waiting id).length
  /-- The loop over all sessions ends, after two rounds at most. -/
  rounds : ∀ n h', Rounds h n h' ↔ n = (if h.totalQueued = 0 then 1 else 2) ∧ h' = h.settle
  idle : h.settle.Idle

theorem settles (h : Host) : h.Settles where
  posts id m j := waiting_handle id m j h
  drains _ _ _ := drains_iff
  counts id := (length_waiting id h).symm
  rounds _ _ := rounds_iff
  idle := idle_settle h

end Host

namespace Replay

/-- **A replay settles after every step.**  Whatever sessions there are and whatever waits for them,
handling a message posts none, each session handles what waits for it when its turn begins, and the
loop over all sessions ends after two rounds at most with all queues empty.

So between two steps of a replay no message waits for any session and no request waits to be sent.
Another report would report nothing and change nothing: the last one told all that came of its
step. -/
theorem settles_after_every_step :
    (∀ h : Host, h.Settles) ∧
    ∀ (s : Scenario) (steps : List Step) (reports : List Report) (r : Replay),
      after s steps = .ok (reports, r) →
        r.host.Idle ∧ r.host.platform.transport.queued = [] ∧
        ∀ number action answered,
          r.report number action answered = (⟨number, action, [], [], answered⟩, r) :=
  ⟨Host.settles, fun _ _ _ _ h =>
    ⟨(quiet_after h).idle, (quiet_after h).queued, report_of_quiet (quiet_after h)⟩⟩

/-- A device that is tracked by two sessions, both of which observe the display. -/
def observedTwice : Scenario where
  interface := .v15
  settings := ({} : Settings).withTracking [.deviceState, .indicationFilter]

/-- The display comes on and both sessions hear of it.  Once it goes off again two messages wait,
and it takes two rounds until the sessions have settled. -/
theorem settles_after_every_step_of_display :
    ∃ reports r, after observedTwice [.display (some true) (some .on)] = .ok (reports, r) ∧
      reports.map (fun report => report.requests.length) = [2, 2] ∧
      r.host.Idle ∧ r.host.platform.transport.queued = [] ∧
      (r.host.signal ⟨.display, .state .off⟩).totalQueued = 2 ∧
      Host.Rounds (r.host.signal ⟨.display, .state .off⟩) 2
        (r.host.signal ⟨.display, .state .off⟩).settle := by
  have hrun : (after observedTwice [.display (some true) (some .on)]).map (fun x =>
      (x.1.map (fun report => report.requests.length),
        (x.2.host.signal ⟨.display, .state .off⟩).totalQueued)) = .ok ([2, 2], 2) := by
    decide +kernel
  obtain ⟨hsettles, hbetween⟩ := settles_after_every_step
  cases hafter : after observedTwice [.display (some true) (some .on)] with
  | error e => rw [hafter] at hrun; cases hrun
  | ok x =>
      obtain ⟨reports, r⟩ := x
      rw [hafter] at hrun
      obtain ⟨hlengths, hqueued⟩ := Prod.mk.inj (Except.ok.inj hrun)
      obtain ⟨hidle, hsent, -⟩ := hbetween _ _ reports r hafter
      refine ⟨reports, r, rfl, hlengths, hidle, hsent, hqueued, ?_⟩
      exact ((hsettles _).rounds _ _).mpr ⟨by rw [hqueued]; rfl, rfl⟩

end Replay

end ModemWatch
