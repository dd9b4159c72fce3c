import Mathlib.Data.List.Basic
import Mathlib.Data.List.Induction
import ModemWatch.Proofs.Waiting

/-!
# What becomes of submissions

Whatever is done with a transport, in whatever order, every submission meets one fate.  It is
*refused* at once, if the queue was closed before; otherwise it is *pending* until the first call
that concerns it, and by that call it is *completed* or *cancelled*, once and for all.  This can be
read off the calls alone (`Transport.filings`), without a look at the transport.

The transport keeps much less: a table of what is pending, where entries come and go.  Here it is
shown to agree at every moment with what the calls say.  Each call does to the table and to the
callbacks exactly what it means for the submissions (`Transport.Kept.call`), so the agreement holds
along every row of calls.

* `Transport.Call.fate` — what becomes of a submission, by the calls that follow;
* `Transport.filings_append` — calls that follow settle what is pending, and nothing else;
* `Transport.Kept` — the transport agrees with the calls; `Transport.kept_calls` — it does so always;
* `Transport.every_submission_has_one_fate` — what can be seen of a transport.
-/

namespace ModemWatch

/-- What has become of a submission. -/
inductive Fate where
  /-- The queue was closed; the submission got no number back. -/
  | refused
  | pending
  | cancelled
  /-- The callback was called, with this. -/
  | completed (a : Completion)
  deriving DecidableEq, Repr

/-- What the callback of a submission was called with. -/
def Fate.answer? : Fate → Option Completion
  | .completed a => some a
  | .refused | .pending | .cancelled => none

namespace Transport

variable {κ : Type}

/-- Something that is done with a transport. -/
inductive Call (κ : Type) where
  | submit (r : Request) (k : κ)
  | respond (n : Serial) (a : Completion)
  /-- Everything that waits is given up; the callbacks are called in some order. -/
  | failAll (status : TxStatus) (order : List κ → List κ) (perm : ∀ l, (order l).Perm l)
  | cancel (n : Serial)
  | close

namespace Call

/-- What a call makes of the submission that is pending under a number, if it concerns it. -/
def settles (n : Serial) : Call κ → Option Fate
  | .respond m a => if m = n then some (.completed a) else none
  | .failAll status _ _ => some (.completed (.failed status))
  | .cancel m => if m = n then some .cancelled else none
  | .submit .. | .close => none

/-- What a call tells the callback that waits under a number, if it does. -/
def tells (c : Call κ) (p : Serial × κ) : Option (κ × Completion) :=
  ((c.settles p.1).bind Fate.answer?).map (fun a => (p.2, a))

/-- The call closes the queue. -/
def closes : Call κ → Bool
  | .close => true
  | .submit .. | .respond .. | .failAll .. | .cancel _ => false

/-- What becomes of an accepted submission: the first of the later calls that concerns it decides. -/
def fate (n : Serial) (later : List (Call κ)) : Fate :=
  (later.findSome? (settles n)).getD .pending

/-- A call settles a submission by cancelling or by completing it. -/
theorem settles_ne {n : Serial} {c : Call κ} {f : Fate} (h : c.settles n = some f) :
    f ≠ .pending ∧ f ≠ .refused := by
  cases c with
  | submit | close => cases h
  | failAll => cases h; exact ⟨Fate.noConfusion, Fate.noConfusion⟩
  | respond | cancel =>
      obtain ⟨-, hf⟩ := Option.ite_none_right_eq_some.mp h
      cases hf
      exact ⟨Fate.noConfusion, Fate.noConfusion⟩

/-- What was accepted is never refused later. -/
theorem fate_ne_refused (n : Serial) (later : List (Call κ)) : fate n later ≠ .refused := by
  unfold fate
  cases h : later.findSome? (settles n) with
  | none => exact Fate.noConfusion
  | some f =>
      obtain ⟨c, -, hc⟩ := List.exists_of_findSome?_eq_some h
      exact (settles_ne hc).2

theorem fate_singleton (n : Serial) (c : Call κ) : fate n [c] = (c.settles n).getD .pending := by
  cases h : c.settles n <;> simp [fate, h]

/-- Later calls decide what earlier ones left pending. -/
theorem fate_append (n : Serial) (calls later : List (Call κ)) :
    fate n (calls ++ later) =
      if fate n calls = .pending then fate n later else fate n calls := by
  unfold fate
  rw [List.findSome?_append]
  cases h : calls.findSome? (settles n) with
  | none => rfl
  | some f =>
      obtain ⟨c, -, hc⟩ := List.exists_of_findSome?_eq_some h
      exact (if_neg (settles_ne hc).1).symm

end Call

/-- A submission: its number, what was submitted, and what has become of it. -/
structure Filing (κ : Type) where
  number : Serial
  request : Request
  callback : κ
  fate : Fate

namespace Filing

/-- The submission still waits for its answer. -/
def isPending (e : Filing κ) : Bool := e.fate == .pending

/-- The submission was not refused. -/
def accepted (e : Filing κ) : Bool := e.fate != .refused

/-- The request that an accepted submission puts on its way. -/
def outgoing (e : Filing κ) : Outgoing := ⟨e.number, e.request⟩

/-- What a pending submission leaves in the table. -/
def entry (e : Filing κ) : Serial × κ := (e.number, e.callback)

/-- The callback that was called for the submission, and with what. -/
def told (e : Filing κ) : Option (κ × Completion) := e.fate.answer?.map (fun a => (e.callback, a))

/-- The submission after some later calls. -/
def after (later : List (Call κ)) (e : Filing κ) : Filing κ :=
  { e with fate := if e.fate = .pending then Call.fate e.number later else e.fate }

variable {e : Filing κ}

theorem isPending_iff : e.isPending = true ↔ e.fate = .pending := beq_iff_eq

/-- What is settled stays as it is. -/
theorem after_of_settled (h : e.fate ≠ .pending) (later : List (Call κ)) : e.after later = e := by
  rw [after, if_neg h]

/-- What a call does not settle stays as it is. -/
theorem after_of_settles_none {c : Call κ} (h : c.settles e.number = none) : e.after [c] = e := by
  by_cases he : e.fate = .pending
  · rw [after, if_pos he, Call.fate_singleton, h, Option.getD_none, ← he]
  · exact after_of_settled he [c]

/-- A pending submission stays so through a call that does not settle it. -/
theorem isPending_after (c : Call κ) (e : Filing κ) :
    (e.after [c]).isPending = (e.isPending && (c.settles e.number).isNone) := by
  by_cases he : e.fate = .pending
  · cases hc : c.settles e.number with
    | none => simp [isPending, after, he, Call.fate_singleton, hc]
    | some f => simp [isPending, after, he, Call.fate_singleton, hc, (Call.settles_ne hc).1]
  · rw [after_of_settled he]
    simp [isPending, he]

theorem accepted_after (later : List (Call κ)) (e : Filing κ) :
    (e.after later).accepted = e.accepted := by
  by_cases he : e.fate = .pending
  · simp [accepted, after, he, bne_iff_ne.mpr (Call.fate_ne_refused e.number later)]
  · rw [after_of_settled he]

/-- The callback of a submission that a call completes is called then. -/
theorem told_after (c : Call κ) (e : Filing κ) :
    (e.after [c]).told = e.told.or (if e.isPending then c.tells e.entry else none) := by
  by_cases he : e.fate = .pending
  · cases hc : c.settles e.number <;>
      simp [told, isPending, after, entry, he, Call.fate_singleton, Call.tells, hc, Fate.answer?]
  · rw [after_of_settled he, isPending, if_neg (by simpa using he), Option.or_none]

end Filing

/-- The submissions among some calls, with what has become of them by the last.  All of them are
numbered in order, from `next` on; `closed` says whether the queue is closed at first. -/
def filings (closed : Bool) (next : Serial) : List (Call κ) → List (Filing κ)
  | [] => []
  | .submit r k :: calls =>
    ⟨next, r, k, if closed then .refused else Call.fate next calls⟩ ::
      filings closed (next + 1) calls
  | .close :: calls => filings true next calls
  | .respond .. :: calls | .failAll .. :: calls | .cancel _ :: calls => filings closed next calls

/-- Submissions are numbered one after the other. -/
theorem numbers_filings (closed : Bool) (next : Serial) (calls : List (Call κ)) :
    (filings closed next calls).map (fun e => e.number) =
      List.range' next (filings closed next calls).length := by
  induction calls generalizing closed next with
  | nil => rfl
  | cons c calls ih =>
      cases c with
      | submit r k => exact congrArg (next :: ·) (ih closed (next + 1))
      | close => exact ih true next
      | respond | failAll | cancel => exact ih closed next

/-- **Later calls settle what is pending**, and nothing else; and they bring submissions of their
own. -/
theorem filings_append (closed : Bool) (next : Serial) (calls later : List (Call κ)) :
    filings closed next (calls ++ later) =
      (filings closed next calls).map (Filing.after later) ++
        filings (closed || calls.any Call.closes) (next + (filings closed next calls).length)
          later := by
  induction calls generalizing closed next with
  | nil => simp [filings]
  | cons c calls ih =>
      cases c with
      | close => simpa [filings, Call.closes] using ih true next
      | respond | failAll | cancel => exact ih closed next
      | submit r k =>
          have hfirst : (if closed then Fate.refused else Call.fate next (calls ++ later)) =
              (Filing.after later
                ⟨next, r, k, if closed then .refused else Call.fate next calls⟩).fate := by
            cases closed with
            | true => rfl
            | false => exact Call.fate_append next calls later
          have hnext : next + 1 + (filings closed (next + 1) calls).length =
              next + ((filings closed (next + 1) calls).length + 1) := by
            rw [Nat.add_assoc, Nat.add_comm 1]
          have hrest := ih closed (next + 1)
          rw [hnext] at hrest
          rw [List.cons_append, filings, hfirst, hrest]
          rfl

/-! ## Calls on a transport -/

/-- One call: the callbacks that are called, with what, and the transport after it. -/
def call (t : Transport κ) : Call κ → List (κ × Completion) × Transport κ
  | .submit r k => ([], (t.submit r k).2)
  | .respond n a => ((t.respond n).1.toList.map (fun k => (k, a)), (t.respond n).2)
  | .failAll status order _ =>
    ((order t.failAll.1).map (fun k => (k, .failed status)), t.failAll.2)
  | .cancel n => ([], t.cancel n)
  | .close => ([], t.close)

/-- Calls, one after the other. -/
def calls : List (Call κ) → Transport κ → List (κ × Completion) × Transport κ
  | [], t => ([], t)
  | c :: cs, t =>
    let first := t.call c
    let rest := calls cs first.2
    (first.1 ++ rest.1, rest.2)

theorem calls_concat (cs : List (Call κ)) (c : Call κ) (t : Transport κ) :
    calls (cs ++ [c]) t =
      ((calls cs t).1 ++ ((calls cs t).2.call c).1, ((calls cs t).2.call c).2) := by
  induction cs generalizing t with
  | nil => simp [calls]
  | cons d cs ih => simp [calls, ih, List.append_assoc]

/-- What a call does to the numbers and to the queue is what its submission does, if it is one. -/
theorem queue_call (t : Transport κ) (c : Call κ) :
    let new := filings t.closed t.nextSerial [c]
    (t.call c).2.closed = (t.closed || c.closes) ∧
      (t.call c).2.nextSerial = t.nextSerial + new.length ∧
      (t.call c).2.queued = t.queued ++ (new.filter Filing.accepted).map Filing.outgoing := by
  cases c with
  | submit r k =>
      cases hc : t.closed with
      | true =>
          rw [call, submit_of_closed hc]
          exact ⟨hc, rfl, (List.append_nil _).symm⟩
      | false =>
          rw [call, submit_of_open hc]
          exact ⟨hc, rfl, rfl⟩
  | close => exact ⟨(Bool.or_true _).symm, rfl, (List.append_nil _).symm⟩
  | respond | failAll | cancel =>
      exact ⟨(Bool.or_false _).symm, rfl, (List.append_nil _).symm⟩

theorem isNone_ite_some (n m : Serial) (f : Fate) :
    (if n = m then some f else none).isNone = (m != n) := by
  by_cases h : n = m
  · simp [h]
  · simp [h, Ne.symm h]

/-- **The table loses what a call settles**, and gets what it submits. -/
theorem pending_call (t : Transport κ) (c : Call κ) :
    (t.call c).2.pending =
      t.pending.filter (fun p => (c.settles p.1).isNone) ++
        ((filings t.closed t.nextSerial [c]).filter Filing.isPending).map Filing.entry := by
  have hall : t.pending.filter (fun _ => true) = t.pending := List.filter_eq_self.mpr fun _ _ => rfl
  cases c with
  | submit r k =>
      refine Eq.trans ?_ (congrArg (· ++ _) hall.symm)
      cases hc : t.closed with
      | true => rw [call, submit_of_closed hc]; exact (List.append_nil _).symm
      | false => rw [call, submit_of_open hc]; rfl
  | close => exact hall.symm.trans (List.append_nil _).symm
  | respond n | cancel n =>
      refine Eq.trans ?_ (List.append_nil _).symm
      exact List.filter_congr fun p _ => (isNone_ite_some n p.1 _).symm
  | failAll =>
      refine Eq.trans ?_ (List.append_nil _).symm
      exact (List.filter_eq_nil_iff.mpr fun p _ => Bool.false_ne_true).symm

/-- **The callbacks called are those of what a call completes.** -/
theorem Numbered.called_call {t : Transport κ} (h : t.Numbered) (c : Call κ) :
    (t.call c).1.Perm (t.pending.filterMap c.tells) := by
  cases c with
  | submit | close => exact .of_eq (List.filterMap_eq_nil_iff.mpr fun _ _ => rfl).symm
  | cancel n =>
      refine .of_eq (List.filterMap_eq_nil_iff.mpr fun p _ => ?_).symm
      by_cases hp : n = p.1 <;> simp [Call.tells, Call.settles, hp, Fate.answer?]
  | respond n a =>
      -- no number stands in the table twice, so the first entry found is the only one
      refine .of_eq ?_
      rw [call, respond, h.toList_callback?, List.map_map, ← List.filterMap_eq_map,
        List.filterMap_filter]
      refine List.filterMap_congr fun p _ => ?_
      by_cases hp : p.1 = n
      · simp [Call.tells, Call.settles, hp, Fate.answer?]
      · simp [Call.tells, Call.settles, hp, Ne.symm hp]
  | failAll status order perm =>
      have htells : t.pending.filterMap (Call.tells (.failAll status order perm)) =
          t.failAll.1.map (fun k => (k, .failed status)) := by
        rw [failAll, List.map_map, ← List.filterMap_eq_map]
        rfl
      rw [htells]
      exact (perm _).map _

/-! ## The transport and the calls -/

/-- The transport, and the callbacks called so far, agree with the calls. -/
structure Kept (cs : List (Call κ)) (called : List (κ × Completion)) (t : Transport κ) : Prop where
  closed : t.closed = cs.any Call.closes
  next : t.nextSerial = 1 + (filings false 1 cs).length
  /-- The table has the pending submissions. -/
  pending : t.pending = ((filings false 1 cs).filter Filing.isPending).map Filing.entry
  /-- The queue has the accepted submissions. -/
  queued : t.queued = ((filings false 1 cs).filter Filing.accepted).map Filing.outgoing
  /-- The callbacks called are those of the completed submissions. -/
  called : called.Perm ((filings false 1 cs).filterMap Filing.told)

theorem kept_new (slot : String) (interface : Interface) :
    Kept [] [] ({ slot := slot, interface := interface } : Transport κ) :=
  ⟨rfl, rfl, rfl, rfl, .nil⟩

variable {cs : List (Call κ)} {called : List (κ × Completion)} {t : Transport κ}

/-- No two submissions have a number in common. -/
theorem filings_nodup (closed : Bool) (next : Serial) (cs : List (Call κ)) :
    ((filings closed next cs).map (fun e => e.number)).Nodup := by
  rw [numbers_filings]
  exact List.nodup_range'

theorem Kept.numbered (h : Kept cs called t) : t.Numbered := by
  have hnumbers := numbers_filings false 1 cs
  refine ⟨?_, fun p hp => ?_⟩
  · rw [h.pending, List.map_map]
    exact (List.filter_sublist.map _).nodup (filings_nodup false 1 cs)
  · rw [h.pending] at hp
    obtain ⟨e, he, rfl⟩ := List.mem_map.mp hp
    have hmem : e.number ∈ (filings false 1 cs).map (fun e => e.number) :=
      List.mem_map_of_mem (List.mem_filter.mp he).1
    rw [hnumbers, List.mem_range'_1] at hmem
    rw [h.next]
    exact hmem.2

/-- The table keeps what a call does not settle. -/
theorem pending_after (c : Call κ) (filed : List (Filing κ)) :
    ((filed.map (Filing.after [c])).filter Filing.isPending).map Filing.entry =
      ((filed.filter Filing.isPending).map Filing.entry).filter
        (fun p => (c.settles p.1).isNone) := by
  have hentry : Filing.entry ∘ Filing.after [c] = Filing.entry (κ := κ) := rfl
  rw [List.filter_map, List.filter_map, List.map_map, hentry, List.filter_filter]
  refine congrArg _ (List.filter_congr fun e _ => ?_)
  exact (Filing.isPending_after c e).trans (Bool.and_comm ..)

/-- The queue keeps all that was accepted. -/
theorem queued_after (c : Call κ) (filed : List (Filing κ)) :
    ((filed.map (Filing.after [c])).filter Filing.accepted).map Filing.outgoing =
      (filed.filter Filing.accepted).map Filing.outgoing := by
  have houtgoing : Filing.outgoing ∘ Filing.after [c] = Filing.outgoing (κ := κ) := rfl
  rw [List.filter_map, List.map_map, houtgoing]
  exact congrArg _ (List.filter_congr fun e _ => Filing.accepted_after [c] e)

/-- A call adds the callbacks of what it completes to those called before. -/
theorem called_after (c : Call κ) (filed : List (Filing κ)) :
    ((filed.map (Filing.after [c])).filterMap Filing.told).Perm
      (filed.filterMap Filing.told ++
        ((filed.filter Filing.isPending).map Filing.entry).filterMap c.tells) := by
  induction filed with
  | nil => exact .nil
  | cons e filed ih =>
      have htold := Filing.told_after c e
      rw [List.map_cons]
      by_cases he : e.isPending = true
      · -- the callback may be called now, and was not called before
        have hbefore : e.told = none := by
          rw [Filing.told, Filing.isPending_iff.mp he]
          rfl
        rw [hbefore, Option.none_or, if_pos he] at htold
        rw [List.filter_cons_of_pos he, List.map_cons, List.filterMap_cons_none hbefore]
        cases hc : c.tells e.entry with
        | none =>
            rw [List.filterMap_cons_none (htold.trans hc), List.filterMap_cons_none hc]
            exact ih
        | some x =>
            rw [List.filterMap_cons_some (htold.trans hc), List.filterMap_cons_some hc]
            exact (ih.cons x).trans List.perm_middle.symm
      · rw [if_neg he, Option.or_none] at htold
        rw [List.filter_cons_of_neg he]
        cases hbefore : e.told with
        | none =>
            rw [List.filterMap_cons_none (htold.trans hbefore), List.filterMap_cons_none hbefore]
            exact ih
        | some x =>
            rw [List.filterMap_cons_some (htold.trans hbefore), List.filterMap_cons_some hbefore]
            exact ih.cons x

/-- No callback is called for a submission when it is made. -/
theorem told_filings_singleton (closed : Bool) (next : Serial) (c : Call κ) :
    (filings closed next [c]).filterMap Filing.told = [] := by
  cases c with
  | submit => cases closed <;> rfl
  | respond | failAll | cancel | close => rfl

/-- **Every call keeps the transport in agreement** with the calls. -/
theorem Kept.call (h : Kept cs called t) (c : Call κ) :
    Kept (cs ++ [c]) (called ++ (t.call c).1) (t.call c).2 := by
  obtain ⟨hclosed, hnext, hqueued⟩ := queue_call t c
  have hpending := pending_call t c
  have hcalled := h.numbered.called_call c
  -- what the calls say is what they said before, settled further, and the new submission
  have happend := filings_append false 1 cs [c]
  rw [Bool.false_or, ← h.closed, ← h.next] at happend
  refine ⟨?_, ?_, ?_, ?_, ?_⟩
  · rw [hclosed, h.closed, List.any_append]
    simp
  · rw [hnext, h.next, happend, List.length_append, List.length_map, h.next, Nat.add_assoc]
  · rw [hpending, happend, List.filter_append, List.map_append, pending_after, h.pending]
  · rw [hqueued, happend, List.filter_append, List.map_append, queued_after, h.queued]
  · rw [happend, List.filterMap_append, told_filings_singleton, List.append_nil]
    rw [h.pending] at hcalled
    exact (h.called.append hcalled).trans (called_after c _).symm

/-- **The transport agrees with the calls**, whatever they are. -/
theorem kept_calls (slot : String) (interface : Interface) (cs : List (Call κ)) :
    Kept cs (calls cs { slot := slot, interface := interface }).1
      (calls cs { slot := slot, interface := interface }).2 := by
  induction cs using List.reverseRecOn with
  | nil => exact kept_new slot interface
  | append_singleton cs c ih =>
      rw [calls_concat]
      exact ih.call c

/-! ## What can be seen -/

/-- Of a list without two elements of the same key those with the key of an element are the
element. -/
theorem filter_key {α β : Type} [DecidableEq β] {key : α → β} {l : List α}
    (h : (l.map key).Nodup) {a : α} (ha : a ∈ l) : l.filter (fun x => key x == key a) = [a] := by
  induction l with
  | nil => cases ha
  | cons x l ih =>
      obtain ⟨hx, hl⟩ := List.nodup_cons.mp h
      rcases List.mem_cons.mp ha with rfl | hmem
      · have hrest : l.filter (fun x => key x == key a) = [] := by
          rw [List.filter_eq_nil_iff]
          intro y hy hkey
          exact hx (List.mem_map.mpr ⟨y, hy, beq_iff_eq.mp hkey⟩)
        rw [List.filter_cons_of_pos (p := fun x => key x == key a) (beq_self_eq_true _), hrest]
      · have hne : (key x == key a) = false :=
          beq_false_of_ne fun heq => hx (heq ▸ List.mem_map_of_mem hmem)
        rw [List.filter_cons_of_neg (by simp [hne]), ih hl hmem]

/-- Nothing is forgotten where nothing waits. -/
theorem Numbered.forget_of_not_pending (h : t.Numbered) {n : Serial}
    (hn : t.isPending n = false) : t.forget n = t := by
  have htable : t.pending.filter (fun p => p.1 != n) = t.pending := by
    rw [List.filter_eq_self]
    intro p hp
    rw [bne_iff_ne]
    rintro rfl
    rw [isPending, h.callback?_eq_some_iff.mpr hp] at hn
    cases hn
  rw [Transport.forget, htable]

/-- What a submission comes to depends on nothing but whether the queue is closed. -/
theorem submit_fst (t : Transport κ) (r : Request) (k : κ) :
    (t.submit r k).1 = if t.closed then none else some t.nextSerial := by
  unfold submit
  split <;> rfl

namespace Kept

theorem isPending_iff (h : Kept cs called t) {n : Serial} :
    t.isPending n = true ↔ ∃ e ∈ filings false 1 cs, e.number = n ∧ e.fate = .pending := by
  rw [Transport.isPending_iff]
  simp only [h.numbered.callback?_eq_some_iff, h.pending, List.mem_map, List.mem_filter,
    Filing.isPending_iff, Filing.entry, Prod.mk.injEq]
  constructor
  · rintro ⟨k, e, ⟨he, hfate⟩, hn, -⟩
    exact ⟨e, he, hn, hfate⟩
  · rintro ⟨e, he, hn, hfate⟩
    exact ⟨e.callback, e, ⟨he, hfate⟩, hn, rfl⟩

/-- An answer is passed to the submission that is pending under the number. -/
theorem told_respond (h : Kept cs called t) (n : Serial) (a : Completion) :
    (t.call (.respond n a)).1 =
      ((filings false 1 cs).filter (fun e => e.number == n && e.isPending)).map
        (fun e => (e.callback, a)) := by
  rw [Transport.call, respond, h.numbered.toList_callback?, h.pending, List.filter_map,
    List.filter_filter, List.map_map, List.map_map]
  rfl

/-- The pending submissions are given up together. -/
theorem callbacks_failAll (h : Kept cs called t) :
    t.failAll.1 = ((filings false 1 cs).filter Filing.isPending).map (fun e => e.callback) := by
  rw [failAll, h.pending, List.map_map]
  rfl

/-- The numbers on the queue increase. -/
theorem pairwise_queued (h : Kept cs called t) :
    (t.queued.map (fun o => o.serial)).Pairwise (· < ·) := by
  have hsub : (t.queued.map (fun o => o.serial)).Sublist
      ((filings false 1 cs).map (fun e => e.number)) := by
    rw [h.queued, List.map_map]
    exact List.filter_sublist.map _
  rw [numbers_filings] at hsub
  exact List.Pairwise.sublist hsub List.pairwise_lt_range'

/-- The callback of a submission is called with what the submission was completed with. -/
theorem told_eq (h : Kept cs called t) {e : Filing κ} (he : e ∈ filings false 1 cs)
    {mine : κ → Bool}
    (hmine : ∀ e' ∈ filings false 1 cs, mine e'.callback = true ↔ e'.number = e.number) :
    (called.filter (fun x => mine x.1)).map (fun x => x.2) = e.fate.answer?.toList := by
  have hone : (filings false 1 cs).filter (fun e' => mine e'.callback) = [e] := by
    rw [← filter_key (filings_nodup false 1 cs) he]
    refine List.filter_congr fun e' he' => ?_
    rw [Bool.eq_iff_iff, beq_iff_eq]
    exact hmine e' he'
  have hmove : ((filings false 1 cs).filterMap Filing.told).filter (fun x => mine x.1) =
      ((filings false 1 cs).filter (fun e' => mine e'.callback)).filterMap Filing.told := by
    rw [List.filter_filterMap, List.filterMap_filter]
    refine List.filterMap_congr fun e' _ => ?_
    cases hfate : e'.fate.answer? <;> simp [Filing.told, hfate, Option.filter]
  have hcalled := h.called.filter (fun x => mine x.1)
  rw [hmove, hone] at hcalled
  cases hfate : e.fate.answer? with
  | none =>
      rw [List.filterMap_cons_none (by rw [Filing.told, hfate]; rfl)] at hcalled
      rw [hcalled.eq_nil]
      rfl
  | some a =>
      rw [List.filterMap_cons_some (b := (e.callback, a)) (by rw [Filing.told, hfate]; rfl)]
        at hcalled
      rw [List.perm_singleton.mp hcalled]
      rfl

end Kept

/-- **Every submission has one fate.**  Whatever is done with a new transport, in whatever order,
whatever numbers it is about, and however often, at every moment each submission is refused, pending,
cancelled or completed, as the calls say; and so it looks.

* The `k`-th submission has the number `k`, whether or not others were refused.  One that is made
  next comes to this number, or to nothing if the queue is closed, and then it is refused.
* What is settled stays so, whatever follows.
* What waits under a number is a submission that is pending, and there is no other.  An answer finds
  somebody exactly if the submission with its number is pending, and is passed to the callback of this
  submission, unchanged.
* Giving up completes exactly the pending submissions, and counts them; nothing waits afterwards.
* Cancelling what is not pending changes nothing.
* The queue has the requests of the accepted submissions, unchanged, under increasing numbers.
* The callbacks that were called are those of the completed submissions, each called once, with what
  its submission was completed with.  So a callback that only one submission has was called once if
  the submission is completed, and never otherwise. -/
theorem every_submission_has_one_fate (slot : String) (interface : Interface)
    (cs : List (Call κ)) :
    let run := calls cs ({ slot := slot, interface := interface } : Transport κ)
    let t := run.2
    let filed := filings false 1 cs
    filed.map (fun e => e.number) = List.range' 1 filed.length ∧
    (∀ r k, (t.submit r k).1 = (if cs.any Call.closes then none else some (filed.length + 1)) ∧
      filings false 1 (cs ++ [.submit r k]) = filed ++ [⟨filed.length + 1, r, k,
        if (t.submit r k).1 = none then .refused else .pending⟩]) ∧
    (∀ later, ∀ e ∈ filed, e.fate ≠ .pending → e ∈ filings false 1 (cs ++ later)) ∧
    (∀ n, t.isPending n = true ↔ ∃ e ∈ filed, e.number = n ∧ e.fate = .pending) ∧
    (∀ n a, (t.respond n).1.isSome = t.isPending n ∧ (t.call (.respond n a)).1 =
      (filed.filter (fun e => e.number == n && e.isPending)).map (fun e => (e.callback, a))) ∧
    (∀ status order perm,
      (t.call (.failAll status order perm)).1.Perm
        ((filed.filter Filing.isPending).map (fun e => (e.callback, .failed status))) ∧
      t.failAll.1.length = filed.countP Filing.isPending ∧
      ∀ n, t.failAll.2.isPending n = false) ∧
    (∀ n, t.isPending n = false → t.cancel n = t) ∧
    t.queued = (filed.filter Filing.accepted).map Filing.outgoing ∧
    (t.queued.map (fun o => o.serial)).Pairwise (· < ·) ∧
    run.1.Perm (filed.filterMap Filing.told) ∧
    (∀ e ∈ filed, ∀ mine : κ → Bool,
      (∀ e' ∈ filed, mine e'.callback = true ↔ e'.number = e.number) →
      (run.1.filter (fun x => mine x.1)).map (fun x => x.2) = e.fate.answer?.toList) := by
  intro run t filed
  have hkept : Kept cs run.1 t := kept_calls slot interface cs
  have hnext : t.nextSerial = filed.length + 1 := hkept.next.trans (Nat.add_comm ..)
  refine ⟨numbers_filings false 1 cs, fun r k => ?_, fun later e he hfate => ?_,
    fun n => hkept.isPending_iff, fun n a => ⟨rfl, hkept.told_respond n a⟩,
    fun status order perm => ⟨?_, ?_, fun n => rfl⟩,
    fun n hn => hkept.numbered.forget_of_not_pending hn, hkept.queued, hkept.pairwise_queued,
    hkept.called, fun e he mine hmine => hkept.told_eq he hmine⟩
  · have hsubmit : (t.submit r k).1 =
        if cs.any Call.closes then none else some (filed.length + 1) := by
      rw [submit_fst, hkept.closed, hnext]
    refine ⟨hsubmit, ?_⟩
    have hsame : filed.map (Filing.after [.submit r k]) = filed :=
      List.map_id'' (fun e => Filing.after_of_settles_none rfl) filed
    rw [filings_append, hsubmit]
    refine congrArg₂ (· ++ ·) hsame ?_
    rw [Bool.false_or, Nat.add_comm 1]
    cases cs.any Call.closes <;> rfl
  · rw [filings_append]
    refine List.mem_append_left _ (List.mem_map.mpr ⟨e, he, ?_⟩)
    exact Filing.after_of_settled hfate later
  · have hcallbacks := congrArg (List.map (fun k => (k, Completion.failed status)))
      hkept.callbacks_failAll
    rw [List.map_map] at hcallbacks
    exact ((perm t.failAll.1).map _).trans (.of_eq hcallbacks)
  · rw [hkept.callbacks_failAll, List.length_map, ← List.countP_eq_length_filter]

/-- Four submissions: the first is answered twice, the second is dropped and then answered, the third
is given up, and the fourth comes too late.  Each callback is called once or not at all. -/
theorem every_submission_has_one_fate_of_four :
    let answer := Completion.ok .sendDeviceState
    let r := RequestClass.chargingState.build true .v15
    let cs : List (Call Nat) := [.submit r 7, .cancel 9, .submit r 8, .respond 1 answer,
      .cancel 2, .submit r 9, .respond 1 answer, .respond 2 answer, .close, .submit r 10,
      .failAll .timeout List.reverse List.reverse_perm]
    let run := calls cs { slot := "slot1", interface := .v15 }
    let first : Filing Nat := ⟨1, r, 7, .completed answer⟩
    let second : Filing Nat := ⟨2, r, 8, .cancelled⟩
    let third : Filing Nat := ⟨3, r, 9, .completed (.failed .timeout)⟩
    let fourth : Filing Nat := ⟨4, r, 10, .refused⟩
    filings false 1 cs = [first, second, third, fourth] ∧
      (∀ later, second ∈ filings false 1 (cs ++ later)) ∧
      run.2.cancel 2 = run.2 ∧
      run.2.queued = [⟨1, r⟩, ⟨2, r⟩, ⟨3, r⟩] ∧
      (run.1.filter (fun x => x.1 == 7)).map (fun x => x.2) = [answer] ∧
      (run.1.filter (fun x => x.1 == 8)).map (fun x => x.2) = [] := by
  intro answer r cs run first second third fourth
  have hfilings : filings false 1 cs = [first, second, third, fourth] := rfl
  obtain ⟨-, -, hstays, -, -, -, hcancel, hqueued, -, -, hcalled⟩ :=
    every_submission_has_one_fate "slot1" .v15 cs
  rw [hfilings] at hstays hqueued hcalled
  refine ⟨hfilings, fun later => hstays later second ?_ Fate.noConfusion, hcancel 2 rfl, hqueued,
    hcalled first ?_ (fun k => k == 7) ?_, hcalled second ?_ (fun k => k == 8) ?_⟩
  · simp
  · simp
  · simp [first, second, third, fourth]
  · simp
  · simp [first, second, third, fourth]

end Transport

end ModemWatch
