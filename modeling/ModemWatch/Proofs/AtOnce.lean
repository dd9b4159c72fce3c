import Mathlib.Data.List.Perm.Subperm
import ModemWatch.Proofs.Completing
import ModemWatch.Proofs.Supersession

/-!
# Radios that answer at once

A radio may answer a request at any moment, and the first such moment comes before the submission of
the request has returned.  Then the dispatcher does not know yet that the request is in flight, and
yet the answer is not lost: it does not go to the dispatcher but into a queue, and it comes out of
the queue between two steps of the dispatcher, when the request has long been noted.

Little is asked of the radio.  It calls no callback of a request that it refused, it calls no
callback twice, and it calls none that it was not given.  When it calls one is its own affair: while
a request is submitted, this one or another, while one is cancelled, or in between.  Real radios
promise more, such as numbers that are fresh and silence after a cancellation; none of this is
needed to know which answers count.

* `Books`, `Books.Kept` — the callbacks of a radio, and what it promises about them;
* `Overheard.kept`, `Hasty.kept` — a transport keeps the promise, and so does a radio that answers
  at once;
* `Exchange.Step`, `Exchange.Trace` — a dispatcher with such a radio and a queue between them;
* `Exchange.Noted`, `Exchange.Booked` — what the dispatcher has noted and what the radio has called
  agree with what happened;
* `Exchange.no_answer_is_lost` — which answers count, for every such radio.
-/

namespace ModemWatch

/-! ## The callbacks of a radio -/

/-- What there is to know about the callbacks that a radio was given: which it has called and with
what, oldest first, and which it may still call. -/
structure Books (τ : Type) where
  called : τ → List (Callback × Completion)
  held : τ → List Callback

namespace Books

variable {τ : Type} {b : Books τ} {radio radio₁ radio₂ : τ}

/-- All callbacks that a radio was given and has not given up, called or not. -/
def known (b : Books τ) (radio : τ) : List Callback :=
  (b.called radio).map (fun k => k.1) ++ b.held radio

/-- From one state to another a radio is given some callbacks.  It calls some, of those that it held
or was given, each of them once at most, and may give up others. -/
def Spends (b : Books τ) (given : List Callback) (radio radio' : τ) : Prop :=
  ∃ calls, b.called radio' = b.called radio ++ calls ∧
    (calls.map (fun k => k.1) ++ b.held radio').Subperm (b.held radio ++ given)

/-- **What a radio promises about callbacks.**  That of a request which it refused is never called,
that of any other request once at most, perhaps even before the submission returns. -/
structure Kept [Radio τ Callback] (b : Books τ) : Prop where
  submitted : ∀ {request : Request} {k : Callback} {radio : τ} {serial : Serial} {radio' : τ},
    Radio.submit request k radio = (some serial, radio') → b.Spends [k] radio radio'
  refused : ∀ {request : Request} {k : Callback} {radio radio' : τ},
    Radio.submit request k radio = (none, radio') → b.Spends [] radio radio'
  cancelled : ∀ (serial : Serial) (radio : τ), b.Spends [] radio (Radio.cancel serial radio)

theorem Spends.refl (b : Books τ) (radio : τ) : b.Spends [] radio radio :=
  ⟨[], (List.append_nil _).symm, by simpa using List.Subperm.refl _⟩

theorem Spends.trans {given₁ given₂ : List Callback} (h₁ : b.Spends given₁ radio radio₁)
    (h₂ : b.Spends given₂ radio₁ radio₂) : b.Spends (given₁ ++ given₂) radio radio₂ := by
  obtain ⟨calls₁, hcalled₁, hspent₁⟩ := h₁
  obtain ⟨calls₂, hcalled₂, hspent₂⟩ := h₂
  refine ⟨calls₁ ++ calls₂, by rw [hcalled₂, hcalled₁, List.append_assoc], ?_⟩
  have hfirst := (List.subperm_append_right given₂).mpr hspent₁
  have hsecond := (List.subperm_append_left (calls₁.map (fun k => k.1))).mpr hspent₂
  rw [List.append_assoc] at hfirst
  rw [List.map_append, List.append_assoc, ← List.append_assoc (b.held radio)]
  exact hsecond.trans hfirst

/-- A radio knows of no callback but those that it knew of or was given. -/
theorem Spends.known {given : List Callback} (h : b.Spends given radio radio₁) :
    (b.known radio₁).Subperm (b.known radio ++ given) := by
  obtain ⟨calls, hcalled, hspent⟩ := h
  rw [Books.known, Books.known, hcalled, List.map_append, List.append_assoc, List.append_assoc]
  exact (List.subperm_append_left _).mpr hspent

variable [Radio τ Callback]

/-- Dropping the request of a class gives the radio nothing. -/
theorem Kept.cancel (hb : b.Kept) (c : RequestClass) (d : Dispatcher) (radio : τ) :
    b.Spends [] radio (d.cancel c radio).2 := by
  unfold Dispatcher.cancel
  split
  · exact Spends.refl b radio
  · exact hb.cancelled _ radio

theorem Kept.cancelAll (hb : b.Kept) (cs : List RequestClass) (d : Dispatcher) (radio : τ) :
    b.Spends [] radio (Dispatcher.cancelAll cs d radio).2 := by
  induction cs generalizing d radio with
  | nil => exact Spends.refl b radio
  | cons c cs ih => exact (hb.cancel c d radio).trans (ih _ _)

end Books

/-! ## Radios that keep their promise -/

/-- A transport, with a note of what its callbacks were called with. -/
structure Overheard where
  transport : Transport Callback
  called : List (Callback × Completion) := []

namespace Overheard

instance : Radio Overheard Callback where
  interface r := r.transport.interface
  submit request k r :=
    ((r.transport.submit request k).1, { r with transport := (r.transport.submit request k).2 })
  cancel serial r := { r with transport := r.transport.cancel serial }

/-- It may still call what waits for an answer. -/
def books : Books Overheard := ⟨called, fun r => r.transport.pending.map (fun p => p.2)⟩

/-- **A transport keeps its promise.** -/
theorem kept : books.Kept where
  submitted {request k radio serial radio'} h := by
    cases hc : radio.transport.closed with
    | true => simp [Radio.submit, Transport.submit_of_closed hc] at h
    | false =>
        simp only [Radio.submit, Transport.submit_of_open hc, Prod.mk.injEq] at h
        obtain ⟨-, rfl⟩ := h
        exact ⟨[], (List.append_nil _).symm, by simpa [books] using List.Subperm.refl _⟩
  refused {request k radio radio'} h := by
    cases hc : radio.transport.closed with
    | true =>
        simp only [Radio.submit, Transport.submit_of_closed hc, Prod.mk.injEq] at h
        obtain ⟨-, rfl⟩ := h
        exact ⟨[], (List.append_nil _).symm, by simpa [books] using List.Subperm.refl _⟩
    | false => simp [Radio.submit, Transport.submit_of_open hc] at h
  cancelled serial radio := by
    refine ⟨[], (List.append_nil _).symm, ?_⟩
    simpa [books, Radio.cancel, Transport.cancel, Transport.forget] using
      ((List.filter_sublist (p := fun w => w.1 != serial)
        (l := radio.transport.pending)).map (fun p => p.2)).subperm

/-- An answer of the radio is nothing that a transport may not do by itself. -/
theorem spends_respond (serial : Serial) (a : Completion) (r : Overheard) :
    books.Spends [] r
      { transport := (r.transport.respond serial).2
        called := r.called ++ (r.transport.respond serial).1.toList.map (fun k => (k, a)) } := by
  refine ⟨_, rfl, ?_⟩
  have hsplit := List.filter_append_perm (fun p => p.1 == serial) r.transport.pending
  have hfirst : (r.transport.callback? serial).toList.Sublist
      ((r.transport.pending.filter (fun p => p.1 == serial)).map (fun p => p.2)) := by
    rw [Transport.callback?, ← List.head?_filter, ← List.head?_map]
    cases (r.transport.pending.filter (fun p => p.1 == serial)).map (fun p => p.2) with
    | nil => exact List.Sublist.refl _
    | cons k ks => simp
  have hrest := (hsplit.map (fun p => p.2)).subperm
  rw [List.map_append] at hrest
  simpa [books, Transport.respond, Transport.forget, bne, Function.comp_def] using
    ((hfirst.append (List.Sublist.refl _)).subperm).trans hrest

/-- Giving up on everything is nothing either. -/
theorem spends_failAll (status : TxStatus) (r : Overheard) :
    books.Spends [] r
      { transport := r.transport.failAll.2
        called := r.called ++ r.transport.failAll.1.map (fun k => (k, .failed status)) } := by
  refine ⟨_, rfl, ?_⟩
  simpa [books, Transport.failAll, Function.comp_def] using List.Subperm.refl _

end Overheard

/-- A radio that answers every request before the submission returns. -/
structure Hasty where
  answer : Completion
  nextSerial : Serial := 1
  called : List (Callback × Completion) := []

namespace Hasty

instance : Radio Hasty Callback where
  interface _ := .v15
  submit _ k r :=
    (some r.nextSerial,
      { r with nextSerial := r.nextSerial + 1, called := r.called ++ [(k, r.answer)] })
  cancel _ r := r

/-- It has called whatever it was given. -/
def books : Books Hasty := ⟨Hasty.called, fun _ => []⟩

theorem kept : books.Kept where
  submitted h := by
    cases h
    exact ⟨[_], rfl, List.Subperm.refl _⟩
  refused h := by cases h
  cancelled _ r := .refl books r

end Hasty

/-! ## A dispatcher and a radio -/

open Switchboard (Record inForce)

/-- A dispatcher with a radio.  Whatever the radio calls goes into a queue; `taken` of these
messages have been taken out of it and handled. -/
structure Exchange (τ : Type) where
  dispatcher : Dispatcher := {}
  radio : τ
  taken : Nat := 0

namespace Exchange

variable {τ : Type}

section Steps

variable [Radio τ Callback]

/-- One step of the dispatcher of a session, with a record of what came of it. -/
inductive Step (b : Books τ) (i : SessionId) : Exchange τ → Record → Exchange τ → Prop
  | send (c : RequestClass) (value : Bool) (s : Exchange τ) :
      Step b i s (.sent i c value (s.dispatcher.send i c value s.radio).1)
        { s with
          dispatcher := (s.dispatcher.send i c value s.radio).2.1
          radio := (s.dispatcher.send i c value s.radio).2.2 }
  | cancel (c : RequestClass) (s : Exchange τ) :
      Step b i s (.cancelled i c)
        { s with
          dispatcher := (s.dispatcher.cancel c s.radio).1
          radio := (s.dispatcher.cancel c s.radio).2 }
  | dropAll (s : Exchange τ) :
      Step b i s (.droppedAll i)
        { s with
          dispatcher := (s.dispatcher.dropAll s.radio).1
          radio := (s.dispatcher.dropAll s.radio).2 }
  /-- The oldest message in the queue is handled. -/
  | complete {s : Exchange τ} {k : Callback} {a : Completion}
      (oldest : (b.called s.radio)[s.taken]? = some (k, a)) :
      Step b i s (.completed i k.cls k.ticket a (s.dispatcher.complete k.cls k.ticket a).1)
        { s with
          dispatcher := (s.dispatcher.complete k.cls k.ticket a).2
          taken := s.taken + 1 }

/-- Any number of steps, with a record of each.  In between the radio does as it likes. -/
inductive Trace (b : Books τ) (i : SessionId) (start : Exchange τ) :
    List Record → Exchange τ → Prop
  | nil : Trace b i start [] start
  | snoc {log : List Record} {s s' : Exchange τ} {r : Record} :
      Trace b i start log s → Step b i s r s' → Trace b i start (log ++ [r]) s'
  | wait {log : List Record} {s : Exchange τ} {radio : τ} :
      Trace b i start log s → b.Spends [] s.radio radio →
        Trace b i start log { s with radio := radio }

/-- A recorded step started in a state that the records before it lead to. -/
theorem Trace.split {b : Books τ} {i : SessionId} {start s : Exchange τ} {r : Record}
    {log older newer : List Record} (h : Trace b i start log s)
    (hlog : log = older ++ r :: newer) :
    ∃ s₁ s₂, Trace b i start older s₁ ∧ Step b i s₁ r s₂ := by
  induction h generalizing newer with
  | nil => simp at hlog
  | wait _ _ ih => exact ih hlog
  | @snoc log s s' r' ht hs ih =>
      rcases List.eq_nil_or_concat newer with rfl | ⟨newer, x, rfl⟩
      · obtain ⟨rfl, hr⟩ := List.append_inj' hlog rfl
        cases hr
        exact ⟨s, s', ht, hs⟩
      · rw [List.concat_eq_append, ← List.cons_append, ← List.append_assoc] at hlog
        exact ih (List.append_inj' hlog rfl).1

end Steps

/-- The answer that a record is about, with its callback. -/
def answer? : Record → Option (Callback × Completion)
  | .completed i c t a _ => some (⟨i, c, t⟩, a)
  | _ => none

/-- The tickets that were given out, oldest first. -/
def tickets (i : SessionId) (log : List Record) : List Ticket :=
  log.filterMap (Record.issued? i)

variable {b : Books τ} {i : SessionId} {log : List Record} {c e : RequestClass} {t : Ticket}
  {value : Bool}

theorem inForce_concat (log : List Record) (r : Record) :
    inForce i c (log ++ [r]) = Record.inForce i c (inForce i c log) r := by
  rw [inForce, List.foldl_append]
  rfl

theorem mem_tickets_of_sent (h : Record.sent i c value (.submitted t) ∈ log) :
    t ∈ tickets i log :=
  List.mem_filterMap.mpr ⟨_, h, Switchboard.issued_sent⟩

/-! ## What the dispatcher has noted -/

/-- What a dispatcher has in flight are the tickets in force, and tickets are given out once. -/
structure Noted (i : SessionId) (log : List Record) (d : Dispatcher) : Prop where
  silenced : d.Silenced
  inFlight : ∀ c, inForce i c log = (d.pending.get c).map InFlight.ticket
  below : ∀ t ∈ tickets i log, t < d.nextTicket
  once : (tickets i log).Nodup

variable {d d' : Dispatcher}

theorem noted_new (i : SessionId) : Noted i [] {} where
  silenced := Dispatcher.silenced_of_full rfl
  inFlight _ := by simp [inForce]
  below := by simp [tickets]
  once := List.nodup_nil

/-- A step that gives out no ticket. -/
theorem Noted.concat (h : Noted i log d) {r : Record} (hnone : r.issued? i = none)
    (hsilenced : d'.Silenced) (hnext : d.nextTicket ≤ d'.nextTicket)
    (hforce : ∀ c, Record.inForce i c ((d.pending.get c).map InFlight.ticket) r =
      (d'.pending.get c).map InFlight.ticket) : Noted i (log ++ [r]) d' := by
  have hsame : tickets i (log ++ [r]) = tickets i log := by simp [tickets, hnone]
  refine ⟨hsilenced, fun c => ?_, fun t ht => ?_, hsame ▸ h.once⟩
  · rw [inForce_concat, h.inFlight, hforce]
  · exact Nat.lt_of_lt_of_le (h.below t (hsame ▸ ht)) hnext

/-- A step that gives out the next ticket. -/
theorem Noted.issue (h : Noted i log d) {r : Record} (hnew : r.issued? i = some d.nextTicket)
    (hsilenced : d'.Silenced) (hnext : d'.nextTicket = d.nextTicket + 1)
    (hforce : ∀ c, Record.inForce i c ((d.pending.get c).map InFlight.ticket) r =
      (d'.pending.get c).map InFlight.ticket) : Noted i (log ++ [r]) d' := by
  have hmore : tickets i (log ++ [r]) = tickets i log ++ [d.nextTicket] := by
    simp [tickets, hnew]
  refine ⟨hsilenced, fun c => ?_, fun t ht => ?_, ?_⟩
  · rw [inForce_concat, h.inFlight, hforce]
  · rw [hnext]
    rcases List.mem_append.mp (hmore ▸ ht) with ht | ht
    · exact Nat.lt_succ_of_lt (h.below t ht)
    · rw [List.mem_singleton.mp ht]
      exact Nat.lt_succ_self _
  · rw [hmore]
    refine List.nodup_append.mpr ⟨h.once, List.nodup_singleton _, fun t ht u hu => ?_⟩
    rw [List.mem_singleton.mp hu]
    exact Nat.ne_of_lt (h.below t ht)

theorem Noted.cancel [Radio τ Callback] (h : Noted i log d) (c : RequestClass) (radio : τ) :
    Noted i (log ++ [.cancelled i c]) (d.cancel c radio).1 := by
  refine h.concat rfl (h.silenced.cancel c radio) ?_ fun e => ?_
  · rw [Dispatcher.dispatcher_cancel]
  · rw [Dispatcher.dispatcher_cancel, ByClass.get_set]
    by_cases he : e = c
    · simp [Record.inForce, he]
    · simp [Record.inForce, he, Ne.symm he]

theorem Noted.dropAll [Radio τ Callback] (h : Noted i log d) (radio : τ) :
    Noted i (log ++ [.droppedAll i]) (d.dropAll radio).1 := by
  refine h.concat rfl (h.silenced.dropAll radio) ?_ fun e => ?_
  · rw [Dispatcher.dispatcher_dropAll]
  · simp [Record.inForce, Dispatcher.pending_dropAll]

/-- The outcome of an answer counts exactly if its ticket is in force. -/
theorem Noted.outcome (h : Noted i log d) (c : RequestClass) (t : Ticket) (a : Completion) :
    (d.complete c t a).1 = if inForce i c log = some t then a.outcome c else .stale := by
  rw [Dispatcher.outcome_complete, h.inFlight]

theorem Noted.complete (h : Noted i log d) (c : RequestClass) (t : Ticket) (a : Completion) :
    Noted i (log ++ [.completed i c t a (d.complete c t a).1]) (d.complete c t a).2 := by
  refine h.concat rfl (h.silenced.hear (.completed c t a)) ?_ fun e => ?_
  · rw [Dispatcher.complete_eq]
    split <;> exact Nat.le_refl _
  · rw [Dispatcher.outcome_complete, Dispatcher.complete_eq]
    by_cases hd : d.Expects c t
    · have hticket : (d.pending.get c).map InFlight.ticket = some t := hd
      by_cases he : e = c
      · subst he
        simp [Record.inForce, hd, hticket, Completion.outcome_ne_stale]
      · simp [Record.inForce, hd, he, Ne.symm he]
    · have hticket : (d.pending.get c).map InFlight.ticket ≠ some t := hd
      simp [Record.inForce, hd, hticket]

theorem Noted.send [Radio τ Callback] (h : Noted i log d) (c : RequestClass) (value : Bool)
    (radio : τ) :
    Noted i (log ++ [.sent i c value (d.send i c value radio).1])
      (d.send i c value radio).2.1 := by
  have hsilenced := h.silenced.send radio i c value
  rcases d.send_cases radio i c value with
    ⟨hc, hsend⟩ | ⟨_, serial, _, -, -, hsend⟩ | ⟨_, _, -, -, hsend⟩ <;> rw [hsend] at hsilenced ⊢
  · -- nothing is in flight of a class that is not supported, so nothing is dropped
    refine h.concat rfl hsilenced (Nat.le_refl _) fun e => ?_
    by_cases he : e = c
    · simp [Record.inForce, he, h.silenced c hc]
    · simp [Record.inForce, Ne.symm he]
  · refine h.issue Switchboard.issued_sent hsilenced rfl fun e => ?_
    rw [ByClass.get_set]
    by_cases he : e = c
    · simp [Record.inForce, he]
    · simp [Record.inForce, he, Ne.symm he]
  · refine h.concat rfl hsilenced (Nat.le_succ _) fun e => ?_
    rw [ByClass.get_set]
    by_cases he : e = c
    · simp [Record.inForce, he]
    · simp [Record.inForce, he, Ne.symm he]

/-! ## What the radio has called -/

/-- Every callback of the radio is that of one submission, each of another; and the answers that
were handled are the first that the radio called with. -/
structure Booked (b : Books τ) (i : SessionId) (log : List Record) (radio : τ) (taken : Nat) :
    Prop where
  origin : ∀ k ∈ b.known radio,
    k.session = i ∧ ∃ value, Record.sent i k.cls value (.submitted k.ticket) ∈ log
  distinct : ((b.known radio).map (fun k => k.ticket)).Nodup
  handled : log.filterMap answer? = (b.called radio).take taken
  taken_le : taken ≤ (b.called radio).length

variable {radio radio' : τ} {taken : Nat}

theorem booked_new (i : SessionId) (hcalled : b.called radio = []) (hheld : b.held radio = []) :
    Booked b i [] radio 0 := by
  have hknown : b.known radio = [] := by rw [Books.known, hcalled, hheld]; rfl
  refine ⟨?_, ?_, rfl, Nat.zero_le _⟩
  · simp [hknown]
  · simp [hknown]

/-- The radio calls what it likes, and perhaps is given callbacks of submissions on record. -/
theorem Booked.spend (h : Booked b i log radio taken) {given : List Callback}
    (hspend : b.Spends given radio radio') {log' : List Record} (hlog : ∀ r ∈ log, r ∈ log')
    (hsame : log'.filterMap answer? = log.filterMap answer?)
    (hgiven : ∀ k ∈ given,
      k.session = i ∧ ∃ value, Record.sent i k.cls value (.submitted k.ticket) ∈ log')
    (hdistinct : ((b.known radio ++ given).map (fun k => k.ticket)).Nodup) :
    Booked b i log' radio' taken := by
  have hknown := hspend.known
  obtain ⟨calls, hcalled, -⟩ := hspend
  refine ⟨fun k hk => ?_, ?_, ?_, ?_⟩
  · rcases List.mem_append.mp (hknown.subset hk) with hk | hk
    · obtain ⟨hsession, value, hsent⟩ := h.origin k hk
      exact ⟨hsession, value, hlog _ hsent⟩
    · exact hgiven k hk
  · obtain ⟨kept, hperm, hsub⟩ := hknown
    exact (hperm.map _).nodup_iff.mp (hdistinct.sublist (hsub.map _))
  · rw [hsame, h.handled, hcalled, List.take_append_of_le_length h.taken_le]
  · rw [hcalled, List.length_append]
    exact Nat.le_add_right_of_le h.taken_le

/-- The radio is given nothing. -/
theorem Booked.spend_nil (h : Booked b i log radio taken) (hspend : b.Spends [] radio radio')
    {log' : List Record} (hlog : ∀ r ∈ log, r ∈ log')
    (hsame : log'.filterMap answer? = log.filterMap answer?) : Booked b i log' radio' taken :=
  h.spend hspend hlog hsame (by simp) (by rw [List.append_nil]; exact h.distinct)

/-- One more answer is handled. -/
theorem Booked.complete (h : Booked b i log radio taken) {k : Callback} {a : Completion}
    (oldest : (b.called radio)[taken]? = some (k, a)) (o : Outcome) :
    Booked b i (log ++ [.completed i k.cls k.ticket a o]) radio (taken + 1) := by
  obtain ⟨hlt, hget⟩ := List.getElem?_eq_some_iff.mp oldest
  have hmem : k ∈ b.known radio :=
    List.mem_append_left _ (List.mem_map.mpr ⟨(k, a), List.mem_of_getElem? oldest, rfl⟩)
  refine ⟨fun k' hk' => ?_, h.distinct, ?_, hlt⟩
  · obtain ⟨hsession, value, hsent⟩ := h.origin k' hk'
    exact ⟨hsession, value, List.mem_append_left _ hsent⟩
  · obtain ⟨rfl, -⟩ := h.origin k hmem
    rw [List.filterMap_append, h.handled, List.take_add_one, oldest]
    rfl

/-- What the dispatcher has noted and what the radio has called agree with what happened. -/
structure Ordered (b : Books τ) (i : SessionId) (log : List Record) (s : Exchange τ) : Prop where
  noted : Noted i log s.dispatcher
  booked : Booked b i log s.radio s.taken

variable {s s' : Exchange τ} {r : Record}

/-- **A step keeps order**, whenever the radio answers. -/
theorem Ordered.step [Radio τ Callback] (hb : b.Kept) (h : Ordered b i log s)
    (hs : Step b i s r s') : Ordered b i (log ++ [r]) s' := by
  have hlog : ∀ x ∈ log, x ∈ log ++ [r] := fun x hx => List.mem_append_left _ hx
  cases hs with
  | cancel c =>
      exact ⟨h.noted.cancel c s.radio,
        h.booked.spend_nil (hb.cancel c s.dispatcher s.radio) hlog (by simp [answer?])⟩
  | dropAll =>
      exact ⟨h.noted.dropAll s.radio,
        h.booked.spend_nil (hb.cancelAll _ s.dispatcher s.radio) hlog (by simp [answer?])⟩
  | complete oldest => exact ⟨h.noted.complete _ _ _, h.booked.complete oldest _⟩
  | send c value =>
      refine ⟨h.noted.send c value s.radio, ?_⟩
      have hcancel := hb.cancel c s.dispatcher s.radio
      rcases s.dispatcher.send_cases s.radio i c value with
        ⟨-, hsend⟩ | ⟨_, serial, radio', -, htaken, hsend⟩ | ⟨_, radio', -, hrefused, hsend⟩ <;>
        rw [hsend] at hlog ⊢
      · exact h.booked.spend_nil (.refl b s.radio) hlog (by simp [answer?])
      · -- the callback has the ticket that is given out here, so it is none of those known before
        have hnew : s.dispatcher.nextTicket ∉ (b.known s.radio).map (fun k => k.ticket) := by
          intro hmem
          obtain ⟨k, hk, hticket⟩ := List.mem_map.mp hmem
          obtain ⟨-, _, hsent⟩ := h.booked.origin k hk
          exact Nat.ne_of_lt (h.noted.below _ (mem_tickets_of_sent hsent)) hticket
        refine h.booked.spend (hcancel.trans (hb.submitted htaken)) hlog (by simp [answer?]) ?_ ?_
        · intro k hk
          obtain rfl := List.mem_singleton.mp hk
          exact ⟨rfl, value, List.mem_append_right _ List.mem_cons_self⟩
        · rw [List.map_append]
          refine List.nodup_append.mpr ⟨h.booked.distinct, List.nodup_singleton _, ?_⟩
          intro t ht u hu htu
          obtain rfl : u = s.dispatcher.nextTicket := List.mem_singleton.mp hu
          exact hnew (htu ▸ ht)
      · exact h.booked.spend_nil (hcancel.trans (hb.refused hrefused)) hlog (by simp [answer?])

/-- **A run keeps order**, whenever the radio answers. -/
theorem Ordered.trace [Radio τ Callback] (hb : b.Kept) {start : Exchange τ}
    (hstart : Ordered b i [] start) (h : Trace b i start log s) : Ordered b i log s := by
  induction h with
  | nil => exact hstart
  | snoc _ hs ih => exact ih.step hb hs
  | wait _ hspend ih => exact ⟨ih.noted, ih.booked.spend_nil hspend (fun _ hx => hx) rfl⟩

/-! ## Which answers count -/

/-- Where no value comes twice, no other element has the value of a given one. -/
theorem ne_of_nodup_filterMap {α β : Type} {f : α → Option β} {before after : List α} {x : α}
    {v : β} (h : ((before ++ x :: after).filterMap f).Nodup) (hx : f x = some v) :
    ∀ y ∈ before ++ after, f y ≠ some v := by
  rw [List.filterMap_append, List.filterMap_cons_some hx] at h
  have hnew := (List.nodup_middle.mp h).notMem
  rw [← List.filterMap_append] at hnew
  exact fun y hy hv => hnew (List.mem_filterMap.mpr ⟨y, hy, hv⟩)

/-- No two answers that were handled have the same ticket. -/
theorem Booked.nodup_handled (h : Booked b i log radio taken) :
    (log.filterMap (fun r => (answer? r).map (fun k => k.1.ticket))).Nodup := by
  have hsub : (((b.called radio).take taken).map (fun k => k.1)).Sublist (b.known radio) :=
    ((List.take_sublist taken _).map _).trans (List.sublist_append_left _ _)
  have hnodup := h.distinct.sublist (hsub.map (fun k => k.ticket))
  rwa [← h.handled, List.map_map, List.map_filterMap] at hnodup

/-- The class of an answer that is handled is the one that its ticket was given out for. -/
theorem Ordered.cls_of_handled (h : Ordered b i log s) {older newer : List Record}
    (hsent : log = older ++ .sent i c value (.submitted t) :: newer) {a : Completion} {o : Outcome}
    (hmem : Record.completed i e t a o ∈ log) : e = c := by
  have hanswer : (⟨i, e, t⟩, a) ∈ (b.called s.radio).take s.taken := by
    rw [← h.booked.handled]
    exact List.mem_filterMap.mpr ⟨_, hmem, rfl⟩
  have hknown : (⟨i, e, t⟩ : Callback) ∈ b.known s.radio :=
    List.mem_append_left _ (List.mem_map.mpr ⟨_, List.mem_of_mem_take hanswer, rfl⟩)
  obtain ⟨-, value', hsent'⟩ := h.booked.origin _ hknown
  have honce := h.noted.once
  rw [hsent] at honce hsent'
  have hother := ne_of_nodup_filterMap honce Switchboard.issued_sent
  rcases List.mem_append.mp hsent' with hm | hm
  · exact absurd Switchboard.issued_sent (hother _ (List.mem_append_left _ hm))
  · rcases List.mem_cons.mp hm with heq | hm
    · injection heq
    · exact absurd Switchboard.issued_sent (hother _ (List.mem_append_right _ hm))

/-- When the answer to a request is handled, its ticket is in force exactly if nothing was sent,
cancelled or dropped in the class since. -/
theorem Ordered.inForce_iff (h : Ordered b i log s) {older between rest : List Record}
    {a : Completion} {o : Outcome}
    (hsent : log =
      older ++ .sent i c value (.submitted t) :: (between ++ .completed i e t a o :: rest)) :
    inForce i c (older ++ .sent i c value (.submitted t) :: between) = some t ↔
      ∀ x ∈ between, x.touches i c = false := by
  have hforce : inForce i c (older ++ .sent i c value (.submitted t) :: between) =
      between.foldl (Record.inForce i c) (some t) := by
    rw [inForce, List.foldl_append, List.foldl_cons]
    simp [Record.inForce]
  rw [hforce]
  constructor
  · intro hcurrent
    rcases Switchboard.of_inForce_foldl hcurrent with ⟨-, hleft⟩ | ⟨value', hagain⟩
    · exact fun x hx => (hleft x hx).1
    · -- the ticket is not given out again
      have honce := h.noted.once
      rw [hsent] at honce
      have hother := ne_of_nodup_filterMap honce Switchboard.issued_sent
        (.sent i c value' (.submitted t)) (by simp [hagain])
      exact absurd Switchboard.issued_sent hother
  · intro hleft
    refine Switchboard.inForce_foldl_of_untouched fun x hx => ⟨hleft x hx, ?_⟩
    rw [← Bool.not_eq_true, Switchboard.Record.settles_iff]
    rintro ⟨e', a', o', rfl, -⟩
    -- the ticket is not answered twice
    have honce := h.booked.nodup_handled
    have hsplit : log = (older ++ .sent i c value (.submitted t) :: between) ++
        .completed i e t a o :: rest := by simp [hsent]
    rw [hsplit] at honce
    exact absurd rfl (ne_of_nodup_filterMap (v := t) honce rfl (.completed i e' t a' o')
      (by simp [hx]))

/-- **No answer is lost.**  Take a dispatcher and any radio that keeps its promise, and let the
radio answer when it likes; let the dispatcher send, cancel and drop what it likes, and let it handle
the answers as late as it likes.

Every answer is one to a request that the dispatcher was told was submitted, and the answers are
handled in the order in which the radio gave them.  When the answer to a request is handled, it is
for the class of the request, and it counts, for what it says, exactly if nothing was sent,
cancelled or dropped in the class since.  Sending a value takes no class away and leaves the other
classes in flight as they are, even if the radio answers meanwhile. -/
theorem no_answer_is_lost [Radio τ Callback] (hb : b.Kept) (i : SessionId) {start : τ}
    (hcalled : b.called start = []) (hheld : b.held start = [])
    (h : Trace b i ⟨{}, start, 0⟩ log s) :
    (∀ k a, (k, a) ∈ b.called s.radio →
      ∃ value, Record.sent i k.cls value (.submitted k.ticket) ∈ log) ∧
    log.filterMap answer? = (b.called s.radio).take s.taken ∧
    (∀ older c value t between e a o rest,
      log = older ++ .sent i c value (.submitted t) :: (between ++ .completed i e t a o :: rest) →
        e = c ∧ (o ≠ .stale ↔ ∀ x ∈ between, x.touches i c = false) ∧
          (o ≠ .stale → o = a.outcome c)) ∧
    ∀ c value,
      (s.dispatcher.send i c value s.radio).2.1.supported = s.dispatcher.supported ∧
      ∀ e, e ≠ c → (s.dispatcher.send i c value s.radio).2.1.pending.get e =
        s.dispatcher.pending.get e := by
  have hstart : Ordered b i [] ⟨{}, start, 0⟩ := ⟨noted_new i, booked_new i hcalled hheld⟩
  have hordered := hstart.trace hb h
  refine ⟨fun k a hk => ?_, hordered.booked.handled, ?_, fun c value => ⟨?_, fun e he => ?_⟩⟩
  · exact (hordered.booked.origin k
      (List.mem_append_left _ (List.mem_map.mpr ⟨(k, a), hk, rfl⟩))).2
  · intro older c value t between e a o rest hsent
    have hmem : Record.completed i e t a o ∈ log := by simp [hsent]
    obtain rfl := hordered.cls_of_handled hsent hmem
    have hsplit : log = (older ++ .sent i e value (.submitted t) :: between) ++
        .completed i e t a o :: rest := by simp [hsent]
    obtain ⟨s₁, s₂, h₁, hs⟩ := h.split hsplit
    have hiff := hordered.inForce_iff hsent
    have hnoted := (hstart.trace hb h₁).noted
    cases hs with
    | complete oldest =>
        rw [hnoted.outcome]
        split
        · next hforce =>
            exact ⟨rfl, iff_of_true (Completion.outcome_ne_stale _ _) (hiff.mp hforce),
              fun _ => rfl⟩
        · next hforce =>
            exact ⟨rfl, iff_of_false (by simp) (mt hiff.mpr hforce), fun hne => absurd rfl hne⟩
  · exact s.dispatcher.supported_send s.radio i c value
  · exact s.dispatcher.pending_send_ne s.radio he i value

/-- Both answers come while their requests are submitted.  The first counts, the second does not,
since the class was cancelled before the answer was handled. -/
theorem no_answer_is_lost_of_hasty :
    let a := Completion.ok .sendDeviceState
    let first : List Record :=
      [.sent 0 .chargingState true (.submitted 1), .completed 0 .chargingState 1 a .delivered]
    let second : List Record :=
      [.sent 0 .chargingState false (.submitted 2), .cancelled 0 .chargingState,
        .completed 0 .chargingState 2 a .stale]
    ∃ s, Trace Hasty.books 0 ⟨{}, { answer := a }, 0⟩ (first ++ second) s ∧
      (first ++ second).filterMap answer? = s.radio.called.take s.taken ∧
      (Outcome.delivered ≠ .stale ↔
        ∀ x ∈ ([] : List Record), x.touches 0 .chargingState = false) ∧
      (Outcome.stale ≠ .stale ↔
        ∀ x ∈ [Record.cancelled 0 .chargingState], x.touches 0 .chargingState = false) := by
  intro a first second
  let start : Exchange Hasty := ⟨{}, { answer := a }, 0⟩
  have hnew : Trace Hasty.books 0 start [] start := .nil
  have hsent := hnew.snoc (.send .chargingState true start)
  have hheard := hsent.snoc (.complete rfl)
  have hagain := hheard.snoc (.send .chargingState false _)
  have hdropped := hagain.snoc (.cancel .chargingState _)
  have hstale := hdropped.snoc (.complete rfl)
  obtain ⟨s, htrace⟩ : ∃ s, Trace Hasty.books 0 start (first ++ second) s := ⟨_, hstale⟩
  obtain ⟨-, hhandled, hcounts, -⟩ := no_answer_is_lost Hasty.kept 0 rfl rfl htrace
  exact ⟨s, htrace, hhandled, (hcounts [] .chargingState true 1 [] _ a .delivered second rfl).2.1,
    (hcounts first .chargingState false 2 [.cancelled 0 .chargingState] _ a .stale [] rfl).2.1⟩

end Exchange

end ModemWatch
