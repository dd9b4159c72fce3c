import Mathlib.Data.List.Induction
import ModemWatch.Proofs.LastWord
import ModemWatch.Proofs.Mirror

/-!
# Moves

A happening goes through the queues, and everything on the host has one platform in common.  A
*move* is free of both: a session may also be handed a message that never stood in its queue, the
radio may give up on what waits in any order, and between any two moves all that sessions share
besides the signals may be exchanged for something else, be it another transport or another battery.

Whatever the move, a session takes part in it in one of three ways.  It receives messages, it
handles one, or it ends.

* `Host.move`, `Host.travel` — one move, and a row of them;
* `Host.heard` — the message that a session handles in a move;
* `Host.exists_moved`, `Host.moved_or_started` — the three ways, and where sessions come from;
* `Host.forall_sessions` — what sessions have at their start and keep, all sessions have.
-/

namespace ModemWatch

/-- Something that changes a host. -/
inductive Move where
  | happen (e : Happening)
  /-- The radio gives up on everything that waits, in an order of its own. -/
  | failAll (status : TxStatus) (order : List Callback → List Callback)
      (perm : ∀ l, (order l).Perm l)
  /-- A session is handed a message that did not come through its queue. -/
  | hand (id : SessionId) (m : Message)
  /-- What sessions share besides the signals is exchanged. -/
  | exchange (f : Platform → Platform) (signals : ∀ p, (f p).sources = p.sources)

namespace Host

/-- The host after a move. -/
def move (h : Host) : Move → Host
  | .happen e => h.step e
  | .failAll status order _ =>
    ({ h with platform := { h.platform with
        transport := h.platform.transport.failAll.2 } } : Host).answer (.failed status)
      (order h.platform.transport.failAll.1)
  | .hand id m => h.handle id m
  | .exchange f _ => { h with platform := f h.platform }

/-- The host after a row of moves. -/
def travel (es : List Move) (h : Host) : Host := es.foldl move h

theorem travel_append (es fs : List Move) (h : Host) :
    h.travel (es ++ fs) = (h.travel es).travel fs :=
  List.foldl_append

theorem travel_concat (es : List Move) (e : Move) (h : Host) :
    h.travel (es ++ [e]) = (h.travel es).move e :=
  travel_append es [e] h

/-- The message that a session handles in a move. -/
def heard (j : SessionId) (h : Host) : Move → Option Message
  | .happen (.processOne id) =>
    if id = j then (h.sessions[j]?).bind (fun s => s.queue.head?) else none
  | .hand id m => if id = j then some m else none
  | .happen _ | .failAll .. | .exchange .. => none

/-- One session at most handles a message in a move. -/
theorem eq_of_heard {h : Host} {e : Move} {j k : SessionId} {m m' : Message}
    (hj : h.heard j e = some m) (hk : h.heard k e = some m') : k = j := by
  cases e with
  | failAll | exchange => cases hj
  | hand id m =>
      simp only [heard, Option.ite_none_right_eq_some] at hj hk
      exact hk.1.symm.trans hj.1
  | happen e =>
      cases e with
      | processOne id =>
          simp only [heard, Option.ite_none_right_eq_some] at hj hk
          exact hk.1.symm.trans hj.1
      | _ => cases hj

/-- The three ways in which a session takes part in a move. -/
inductive Moved (h : Host) (e : Move) (j : SessionId) (s : Session) : Session → Prop
  /-- It receives messages, perhaps none. -/
  | receives (ms : List Message) : h.heard j e = none → Moved h e j s (s.receiveAll ms)
  /-- It handles a message, which alone decides what becomes of the platform. -/
  | handles {m : Message} (queue : List Message) : h.heard j e = some m →
      (h.move e).platform = (s.handle j m h.platform).2 →
      Moved h e j s { (s.handle j m h.platform).1 with queue := queue }
  | ends : h.heard j e = none → Moved h e j s (s.shutdown j h.platform).1

variable {h : Host} {j : SessionId} {s : Session}

/-- A session that a move leaves as it is. -/
theorem Moved.of_same {e : Move} (hheard : h.heard j e = none) : h.Moved e j s s := by
  have hreceives : h.Moved e j s (s.receiveAll []) := .receives [] hheard
  rwa [Session.receiveAll_nil] at hreceives

/-- A session that is handed a message handles it. -/
theorem moved_hand (hs : h.sessions[j]? = some s) (id : SessionId) (m : Message) :
    ∃ s', (h.handle id m).sessions[j]? = some s' ∧ h.Moved (.hand id m) j s s' := by
  rw [Host.handle, getElem?_withSession]
  by_cases hj : j = id
  · subst hj
    have hplatform : (h.move (.hand j m)).platform = (s.handle j m h.platform).2 := by
      rw [move, Host.handle, withSession_of_some hs]
    refine ⟨(s.handle j m h.platform).1, by rw [if_pos rfl, hs, Option.map_some], ?_⟩
    exact .handles (s.handle j m h.platform).1.queue (if_pos rfl) hplatform
  · exact ⟨s, by rw [if_neg hj, hs], .of_same (if_neg (Ne.symm hj))⟩

/-- A session handles its oldest message, if there is one. -/
theorem moved_processOne (hs : h.sessions[j]? = some s) (id : SessionId) :
    ∃ s', (h.processOne id).sessions[j]? = some s' ∧
      h.Moved (.happen (.processOne id)) j s s' := by
  rw [Host.processOne, getElem?_withSession]
  by_cases hj : j = id
  · subst hj
    have hheard : h.heard j (.happen (.processOne j)) = s.queue.head? := by
      simp [heard, hs]
    have hplatform : (h.move (.happen (.processOne j))).platform =
        (s.processOne j h.platform).2 := by
      rw [move, step, Host.processOne, withSession_of_some hs]
    refine ⟨(s.processOne j h.platform).1, by rw [if_pos rfl, hs, Option.map_some], ?_⟩
    cases hq : s.queue with
    | nil =>
        have hone : s.processOne j h.platform = (s, h.platform) := by
          simp [Session.processOne, hq]
        rw [hone]
        exact .of_same (by rw [hheard, hq]; rfl)
    | cons m rest =>
        rw [Session.processOne_of_cons hq] at hplatform ⊢
        exact .handles rest (by rw [hheard, hq]; rfl) hplatform
  · exact ⟨s, by rw [if_neg hj, hs], .of_same (if_neg (Ne.symm hj))⟩

theorem moved_shutdown (hs : h.sessions[j]? = some s) (id : SessionId) :
    ∃ s', (h.shutdown id).sessions[j]? = some s' ∧
      h.Moved (.happen (.shutdown id)) j s s' := by
  rw [Host.shutdown, getElem?_withSession]
  by_cases hj : j = id
  · subst hj
    exact ⟨_, by rw [if_pos rfl, hs, Option.map_some], .ends rfl⟩
  · exact ⟨s, by rw [if_neg hj, hs], .of_same rfl⟩

/-- **A session receives, handles or ends**, whatever the move. -/
theorem exists_moved (hs : h.sessions[j]? = some s) (e : Move) :
    ∃ s', (h.move e).sessions[j]? = some s' ∧ h.Moved e j s s' := by
  cases e with
  | happen e =>
      cases e with
      | signal u => exact ⟨_, by rw [move, step, sessions_signal, hs]; rfl, .receives _ rfl⟩
      | respond n a => exact ⟨_, by rw [move, step, sessions_respond, hs]; rfl, .receives _ rfl⟩
      | failAll status => exact ⟨_, by rw [move, step, sessions_failAll, hs]; rfl, .receives _ rfl⟩
      | emit event => exact ⟨_, by rw [move, step, sessions_emit, hs]; rfl, .receives _ rfl⟩
      | start m =>
          have hlt : j < h.sessions.length := (List.getElem?_eq_some_iff.mp hs).1
          exact ⟨s, (List.getElem?_append_left hlt).trans hs, .of_same rfl⟩
      | processOne id => exact moved_processOne hs id
      | shutdown id => exact moved_shutdown hs id
      | closeOutgoing | failNextWatch | writeScreen | setPower | takeOutgoing | collectSlot =>
          exact ⟨s, hs, .of_same rfl⟩
  | failAll status order perm =>
      have hmail : (h.move (.failAll status order perm)).sessions[j]? = some (s.receiveAll
          (lettersTo j ((order h.platform.transport.failAll.1).map
            (fun k => (k.session, k.message (.failed status)))))) := by
        rw [move, answer_eq_deliver, getElem?_deliver, hs]
        rfl
      exact ⟨_, hmail, .receives _ rfl⟩
  | hand id m => exact moved_hand hs id m
  | exchange f signals => exact ⟨s, hs, .of_same rfl⟩

/-- **A session was there before the move or starts in it.** -/
theorem moved_or_started {e : Move} {s' : Session} (hs' : (h.move e).sessions[j]? = some s') :
    (∃ s, h.sessions[j]? = some s ∧ h.Moved e j s s') ∨
      ∃ m : Monitor, s' = (Session.start j m.variant m.intervals m.watchPath h.platform).1 ∧
        h.sessions[j]? = none := by
  cases hs : h.sessions[j]? with
  | some s =>
      obtain ⟨s'', hs'', hmoved⟩ := exists_moved hs e
      obtain rfl : s' = s'' := Option.some.inj (hs'.symm.trans hs'')
      exact .inl ⟨s, rfl, hmoved⟩
  | none =>
      -- only a start brings a session into a place where there was none
      cases e with
      | happen e =>
          cases e with
          | start m =>
              rcases getElem?_concat_cases hs' with ⟨-, hold⟩ | ⟨rfl, rfl⟩
              · rw [hs] at hold
                cases hold
              · exact .inr ⟨m, rfl, rfl⟩
          | signal u => rw [move, step, sessions_signal, hs] at hs'; cases hs'
          | respond n a => rw [move, step, sessions_respond, hs] at hs'; cases hs'
          | failAll status => rw [move, step, sessions_failAll, hs] at hs'; cases hs'
          | emit event => rw [move, step, sessions_emit, hs] at hs'; cases hs'
          | processOne id =>
              rw [move, step, Host.processOne, getElem?_withSession, hs] at hs'
              split at hs' <;> cases hs'
          | shutdown id =>
              rw [move, step, Host.shutdown, getElem?_withSession, hs] at hs'
              split at hs' <;> cases hs'
          | closeOutgoing | failNextWatch | writeScreen | setPower | takeOutgoing | collectSlot =>
              exact absurd (hs.symm.trans hs') (Option.some_ne_none _).symm
      | failAll status order perm =>
          rw [move, answer_eq_deliver, getElem?_deliver, hs] at hs'
          cases hs'
      | hand id m =>
          rw [move, Host.handle, getElem?_withSession, hs] at hs'
          split at hs' <;> cases hs'
      | exchange f signals => exact absurd (hs.symm.trans hs') (Option.some_ne_none _).symm

/-- **What sessions have at their start and keep, all sessions have.** -/
theorem forall_sessions {P : Session → Prop}
    (hstart : ∀ id variant intervals watchPath p,
      P (Session.start id variant intervals watchPath p).1)
    (hwait : ∀ s queue, P s → P { s with queue := queue })
    (hhandle : ∀ id m s p, P s → P (s.handle id m p).1)
    (hshutdown : ∀ id s p, P s → P (s.shutdown id p).1)
    (slot : String) (interface : Interface) (es : List Move)
    (hs : ((new slot interface).travel es).sessions[j]? = some s) : P s := by
  induction es using List.reverseRecOn generalizing s with
  | nil => simp [travel, new] at hs
  | append_singleton es e ih =>
      rw [travel_concat] at hs
      rcases moved_or_started hs with ⟨s₀, hs₀, hmoved⟩ | ⟨m, rfl, -⟩
      · have hold := ih hs₀
        cases hmoved with
        | receives ms _ =>
            unfold Session.receiveAll
            split
            · exact hold
            · exact hwait s₀ _ hold
        | handles queue _ _ => exact hwait _ queue (hhandle _ _ _ _ hold)
        | ends _ => exact hshutdown _ _ _ hold
      · exact hstart ..

end Host

end ModemWatch
