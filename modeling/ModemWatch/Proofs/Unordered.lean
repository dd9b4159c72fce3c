import ModemWatch.Proofs.Completing
import ModemWatch.Proofs.Order

/-!
# Giving up in any order

When the radio gives up on everything that waits, the order in which the answers go out is not
specified.  It does not matter: an answer ends the request that it is for and looks at nothing else,
so the same answers in another order leave a session where they would have left it anyway, and no
session can tell what another was answered first.

* `Dispatcher.complete_comm` — two answers of one kind may change places;
* `Session.process_answers_perm` — a session that handles answers in any order;
* `Host.settle_failIn` — the host is the same for every order once the sessions have handled what
  waits;
* `Replay.runsInAnyOrder_iff` — a replay in which every give-up picks its own order reports what the
  replay reports that answers the oldest requests first.
-/

namespace ModemWatch

theorem ByClass.set_comm {α : Type} (t : ByClass α) {c e : RequestClass} (h : e ≠ c) (a b : α) :
    (t.set c a).set e b = (t.set e b).set c a := by
  cases c <;> cases e <;> first | rfl | exact absurd rfl h

namespace Dispatcher

variable {d : Dispatcher} {c e : RequestClass} {t u : Ticket}

/-- Answers end requests and never make one. -/
theorem Expects.of_complete {a : Completion} (h : (d.complete c t a).2.Expects e u) :
    d.Expects e u := by
  rw [complete_eq] at h
  split at h
  · by_cases he : e = c
    · simp [Expects, he] at h
    · simpa [Expects, he] using h
  · exact h

theorem complete_of_not_expects (h : ¬d.Expects c t) (a : Completion) :
    (d.complete c t a).2 = d := by
  rw [complete_eq, if_neg h]

theorem complete_of_expects (h : d.Expects c t) (a : Completion) :
    (d.complete c t a).2 =
      { d with
        pending := d.pending.set c none
        supported := if a.Revokes c then d.supported.set c false else d.supported } := by
  rw [complete_eq, if_pos h]

/-- **Answers commute.**  Two answers that say the same end their requests in either order. -/
theorem complete_comm (d : Dispatcher) (c e : RequestClass) (t u : Ticket) (a : Completion) :
    ((d.complete c t a).2.complete e u a).2 = ((d.complete e u a).2.complete c t a).2 := by
  by_cases ht : d.Expects c t
  · by_cases hu : d.Expects e u
    · by_cases he : e = c
      · -- of the tickets for one class only one is in flight
        subst he
        obtain rfl : t = u := Option.some.inj (ht.symm.trans hu)
        rfl
      · have hfirst : (d.complete c t a).2.Expects e u := by
          rwa [Expects, pending_complete_ne he]
        have hlast : (d.complete e u a).2.Expects c t := by
          rwa [Expects, pending_complete_ne (Ne.symm he)]
        rw [complete_of_expects hfirst, complete_of_expects hlast, complete_of_expects ht,
          complete_of_expects hu, ByClass.set_comm d.pending he]
        congr 1
        split <;> split <;> simp only [ByClass.set_comm d.supported he]
    · rw [complete_of_not_expects hu, complete_of_not_expects (mt Expects.of_complete hu)]
  · rw [complete_of_not_expects ht, complete_of_not_expects (mt Expects.of_complete ht)]

end Dispatcher

namespace Session

/-- A session takes in answers that say the same in any order. -/
theorem handleAll_answers_perm (id : SessionId) {ks ls : List Callback} (h : ks.Perm ls)
    (a : Completion) (s : Session) (p : Platform) :
    s.handleAll id (ks.map (fun k => k.message a)) p =
      s.handleAll id (ls.map (fun k => k.message a)) p := by
  rw [handleAll, handleAll, List.foldl_map, List.foldl_map]
  refine h.foldl_eq' (fun k _ l _ run => ?_) (s, p)
  cases hclosed : run.1.closed with
  | true => simp only [handle_closed hclosed]
  | false => simp [handle, Callback.message, hclosed, Dispatcher.complete_comm]

/-- What waited before the answers is handled before them, so their order does not matter. -/
theorem process_answers_perm (id : SessionId) {ks ls : List Callback} (h : ks.Perm ls)
    (a : Completion) (s : Session) :
    (s.receiveAll (ks.map (fun k => k.message a))).process id =
      (s.receiveAll (ls.map (fun k => k.message a))).process id := by
  funext p
  cases hclosed : s.closed with
  | true => simp [receiveAll, hclosed]
  | false =>
      simp only [process, receiveAll, hclosed, Bool.false_eq_true, if_false]
      rw [handleAll, handleAll, List.foldl_append, List.foldl_append]
      exact handleAll_answers_perm id h a _ _

end Session

namespace Host

variable {h g : Host}

/-- **Turns in a row depend on what the turns do only.**  If the sessions that take turns make the
same of every platform, and all others are the same, it comes to the same. -/
theorem processEach_congr {ids : List SessionId} (hids : ids.Nodup)
    (hp : h.platform = g.platform)
    (hturns : ∀ j ∈ ids, (h.sessions[j]?).map (Session.process j) =
      (g.sessions[j]?).map (Session.process j))
    (hothers : ∀ j ∉ ids, h.sessions[j]? = g.sessions[j]?) :
    (processEach ids h).2 = (processEach ids g).2 := by
  induction ids generalizing h g with
  | nil => exact eq_of_parts hp (List.ext_getElem? fun j => hothers j List.not_mem_nil)
  | cons id ids ih =>
      obtain ⟨hid, hids⟩ := List.nodup_cons.mp hids
      have hturn := hturns id List.mem_cons_self
      -- the first turn leaves the same platform and the same session
      have hfirst : (h.process id).2.platform = (g.process id).2.platform ∧
          (h.process id).2.sessions[id]? = (g.process id).2.sessions[id]? := by
        rw [process, process, getElem?_withSession, getElem?_withSession, if_pos rfl, if_pos rfl]
        cases hs : h.sessions[id]? with
        | none =>
            rw [hs, Option.map_none, eq_comm, Option.map_eq_none_iff] at hturn
            rw [withSession_of_none hs, withSession_of_none hturn, hturn]
            exact ⟨hp, rfl⟩
        | some s =>
            rw [hs, Option.map_some, eq_comm, Option.map_eq_some_iff] at hturn
            obtain ⟨s', hs', hsame⟩ := hturn
            rw [withSession_of_some hs, withSession_of_some hs', hs', Option.map_some,
              Option.map_some, hp, hsame]
            exact ⟨rfl, rfl⟩
      have hleft : ∀ (h : Host) j, j ≠ id →
          (h.withSession id (Session.process id)).sessions[j]? = h.sessions[j]? :=
        fun h j hj => getElem?_withSession.trans (if_neg hj)
      refine ih hids hfirst.1 (fun j hj => ?_) (fun j hj => ?_)
      · have hne : j ≠ id := fun heq => hid (heq ▸ hj)
        rw [hleft h j hne, hleft g j hne]
        exact hturns j (List.mem_cons_of_mem _ hj)
      · by_cases hne : j = id
        · rw [hne]
          exact hfirst.2
        · rw [hleft h j hne, hleft g j hne]
          exact hothers j (by simp [hne, hj])

/-- Answers that say the same may be posted in any order. -/
theorem settle_answer_perm {ks ls : List Callback} (hperm : ks.Perm ls) (a : Completion)
    (h : Host) : (h.answer a ks).settle = (h.answer a ls).settle := by
  have hlength : ∀ ks : List Callback, (h.answer a ks).sessions.length = h.sessions.length :=
    fun ks => by rw [answer_eq_deliver, length_deliver]
  rw [settle_eq_processAll, settle_eq_processAll, processAll, processAll, hlength, hlength]
  refine processEach_congr List.nodup_range ?_ (fun j _ => ?_) (fun j hj => ?_)
  · rw [answer_eq_deliver, answer_eq_deliver, platform_deliver, platform_deliver]
  · rw [answer_eq_deliver, answer_eq_deliver, getElem?_deliver, getElem?_deliver,
      lettersTo_answers, lettersTo_answers, Option.map_map, Option.map_map]
    congr 1
    funext s
    exact Session.process_answers_perm j (hperm.filter _) a s
  · -- there is no such session
    have hout : ∀ ks : List Callback, (h.answer a ks).sessions[j]? = none := fun ks =>
      List.getElem?_eq_none (by rw [hlength]; simpa using hj)
    rw [hout, hout]

/-- The radio gives up on everything that waits, in the order of the listed callbacks. -/
def failIn (callbacks : List Callback) (status : TxStatus) (h : Host) : Host :=
  ({ h with platform := { h.platform with transport := h.platform.transport.failAll.2 } } : Host)
    |>.answer (.failed status) callbacks

/-- **The order of giving up does not matter.**  Whatever the order in which the radio answers all
that waits, once the sessions have handled their messages the host is the one after answering the
oldest requests first. -/
theorem settle_failIn {callbacks : List Callback} {h : Host}
    (hperm : callbacks.Perm h.platform.transport.failAll.1) (status : TxStatus) :
    (h.failIn callbacks status).settle = (h.failAll status).2.settle :=
  settle_answer_perm hperm ..

end Host

namespace Replay

/-- A step lets something happen on the device, and a give-up picks its own order. -/
inductive Performs (r : Replay) : Step → Option Serial × Host → Prop
  | perform {step : Step} {result : Option Serial × Host} :
      r.perform step = .ok result → Performs r step result
  | giveUp (status : TxStatus) {callbacks : List Callback} :
      callbacks.Perm r.host.platform.transport.failAll.1 →
        Performs r (.failAll status) (none, r.host.failIn callbacks status)

/-- Steps are taken one after the other, the first with the given number, and every give-up picks
its own order. -/
inductive RunsInAnyOrder : Nat → List Step → Replay → Except NoAnswer (List Report) → Prop
  | nil (number : Nat) (r : Replay) : RunsInAnyOrder number [] r (.ok [])
  | refused {number : Nat} {step : Step} {steps : List Step} {r : Replay} {e : NoAnswer} :
      r.perform step = .error e → RunsInAnyOrder number (step :: steps) r (.error e)
  | cons {number : Nat} {step : Step} {steps : List Step} {r : Replay} {answered : Option Serial}
      {h : Host} {reports : Except NoAnswer (List Report)} :
      r.Performs step (answered, h) →
        RunsInAnyOrder (number + 1) steps
          (({ r with host := h } : Replay).report number step.action answered).2 reports →
        RunsInAnyOrder number (step :: steps) r (reports.map
          ((({ r with host := h } : Replay).report number step.action answered).1 :: ·))

/-- What a step reports and leaves does not depend on the order of a give-up. -/
theorem apply_of_performs {r : Replay} {step : Step} {answered : Option Serial} {h : Host}
    (hstep : r.Performs step (answered, h)) (number : Nat) :
    r.apply number step =
      .ok (({ r with host := h } : Replay).report number step.action answered) := by
  cases hstep with
  | perform hstep => simp only [apply, hstep]
  | giveUp status hperm =>
      simp only [apply, perform, report, Host.settle_failIn hperm]

/-- A step is taken, and then the others, whatever the order of a give-up. -/
theorem applyAll_of_performs {r : Replay} {step : Step} {answered : Option Serial} {h : Host}
    (hstep : r.Performs step (answered, h)) (number : Nat) (steps : List Step) :
    applyAll number (step :: steps) r =
      (applyAll (number + 1) steps
          (({ r with host := h } : Replay).report number step.action answered).2).map
        ((({ r with host := h } : Replay).report number step.action answered).1 :: ·) := by
  rw [applyAll, apply_of_performs hstep]
  simp only
  split <;> simp_all [Except.map]

/-- **What a replay reports does not depend on the order of its give-ups.** -/
theorem runsInAnyOrder_iff {number : Nat} {steps : List Step} {r : Replay}
    {reports : Except NoAnswer (List Report)} :
    RunsInAnyOrder number steps r reports ↔ applyAll number steps r = reports := by
  constructor
  · intro hrun
    induction hrun with
    | nil => rfl
    | refused hstep => simp only [applyAll, apply, hstep]
    | cons hstep _ ih => rw [applyAll_of_performs hstep, ih]
  · rintro rfl
    induction steps generalizing number r with
    | nil => exact .nil ..
    | cons step steps ih =>
        cases hstep : r.perform step with
        | error e =>
            simp only [applyAll, apply, hstep]
            exact .refused hstep
        | ok result =>
            rw [applyAll_of_performs (.perform hstep)]
            exact .cons (.perform hstep) ih

end Replay

end ModemWatch
