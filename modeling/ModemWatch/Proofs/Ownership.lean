import Mathlib.Logic.Basic
import Mathlib.Logic.ExistsUnique
import ModemWatch.Proofs.Switchboard

/-!
# Who a waiting request belongs to

Two tables and a queue have to stay in step.  A dispatcher remembers one request in flight for each
class, the transport remembers a callback for each number that waits, and an answer leaves the
second table before it is taken out of an inbox and ends the entry in the first.  In between a
request may be superseded, refused or cancelled, and the radio may give up on everything at once.

`Switchboard.Owned` is the invariant that every step keeps, whatever the order:

* what waits in the transport is the request in flight of the class that its callback names
  (`Owned.waiting`), and nothing has arrived for it yet (`Owned.unanswered`);
* a request in flight waits in the transport or its answer lies in the inbox (`Owned.served`);
* tickets and numbers belong to one request each (`Owned.once`, `Owned.ticket_inj`,
  `Owned.serial_inj`), and those still to be given out belong to none (`Owned.entry_lt`).

There is a lemma for each kind of step; `Owned.trace` puts them together.  `ownership` is what
follows for every state that dispatchers on a new transport can come to.
-/

namespace ModemWatch

namespace Switchboard

/-- Where no ticket is repeated, a ticket stands for one message. -/
theorem filter_ticket_of_mem {l : List Message} {m : Message} {t : Ticket} (hm : m ∈ l)
    (ht : m.ticket? = some t) (hl : (l.filterMap Message.ticket?).Nodup) :
    l.filter (fun m => m.ticket? = some t) = [m] := by
  induction l with
  | nil => simp at hm
  | cons x l ih =>
      rw [List.filterMap_cons] at hl
      by_cases hx : x.ticket? = some t
      · simp only [hx, List.nodup_cons] at hl
        have hrest : l.filter (fun m => m.ticket? = some t) = [] := by
          rw [List.filter_eq_nil_iff]
          intro y hy hyt
          exact hl.1 (List.mem_filterMap.mpr ⟨y, hy, by simpa using hyt⟩)
        rcases List.mem_cons.mp hm with rfl | hm
        · simp [hx, hrest]
        · exact absurd (List.mem_filterMap.mpr ⟨m, hm, ht⟩) hl.1
      · have hne : m ≠ x := fun he => hx (he ▸ ht)
        have hm : m ∈ l := (List.mem_cons.mp hm).resolve_left hne
        have hl : (l.filterMap Message.ticket?).Nodup := by
          revert hl
          cases x.ticket? with
          | none => exact id
          | some u => exact fun h => (List.nodup_cons.mp h).2
        simp [hx, ih hm hl]

/-- Transport, dispatchers and inboxes are in step. -/
structure Owned (s : Switchboard) : Prop where
  numbered : s.transport.Numbered
  /-- What waits in the transport is the request in flight of the class that it names. -/
  waiting : ∀ {n k}, s.transport.callback? n = some k →
    s.entry k.session k.cls = some ⟨k.ticket, n⟩
  /-- A request in flight waits in the transport or its answer has arrived. -/
  served : ∀ {i c p}, s.entry i c = some p →
    s.transport.callback? p.serial = some ⟨i, c, p.ticket⟩ ∨
      ∃ a, Message.completed c p.ticket a ∈ (s.desks i).inbox
  /-- Nothing has arrived yet for what waits in the transport. -/
  unanswered : ∀ {n k}, s.transport.callback? n = some k →
    k.ticket ∉ (s.desks k.session).tickets
  once : ∀ i, (s.desks i).tickets.Nodup
  ticket_lt : ∀ {i t}, t ∈ (s.desks i).tickets → t < s.nextTicket i
  entry_lt : ∀ {i c p}, s.entry i c = some p →
    p.ticket < s.nextTicket i ∧ p.serial < s.transport.nextSerial
  ticket_inj : ∀ {i c e p q}, s.entry i c = some p → s.entry i e = some q →
    p.ticket = q.ticket → c = e
  serial_inj : ∀ {i j c e p q}, s.entry i c = some p → s.entry j e = some q →
    p.serial = q.serial → i = j ∧ c = e

namespace Owned

variable {s : Switchboard}

theorem mem_tickets {d : Desk} {c : RequestClass} {t : Ticket} {a : Completion}
    (h : Message.completed c t a ∈ d.inbox) : t ∈ d.tickets :=
  List.mem_filterMap.mpr ⟨_, h, rfl⟩

theorem tickets_of_inbox {d e : Desk} (h : d.inbox = e.inbox) : d.tickets = e.tickets := by
  simp [Desk.tickets, h]

theorem new (slot : String) (interface : Interface) : Owned (.new slot interface) := by
  have hentry : ∀ {i c p}, (Switchboard.new slot interface).entry i c ≠ some p := by
    intro i c p
    simp [entry, Switchboard.new]
  have hcall : ∀ {n k}, (Switchboard.new slot interface).transport.callback? n ≠ some k := by
    intro n k
    simp [Transport.callback?, Switchboard.new]
  exact {
    numbered := Transport.numbered_new slot interface
    waiting := fun h => absurd h hcall
    served := fun h => absurd h hentry
    unanswered := fun h => absurd h hcall
    once := fun _ => List.nodup_nil
    ticket_lt := fun ht => absurd ht List.not_mem_nil
    entry_lt := fun h => absurd h hentry
    ticket_inj := fun h => absurd h hentry
    serial_inj := fun h => absurd h hentry }

theorem cancel (h : Owned s) (i : SessionId) (c : RequestClass) : Owned (s.cancel i c) := by
  have ht : ∀ j, ((s.cancel i c).desks j).tickets = (s.desks j).tickets :=
    fun j => tickets_of_inbox (inbox_cancel s i j c)
  constructor
  · exact numbered_cancel s i c h.numbered
  · intro n k hk
    obtain ⟨hne, hn⟩ := callback?_cancel_eq_some.mp hk
    refine entry_cancel_eq_some.mpr ⟨?_, h.waiting hn⟩
    rintro ⟨rfl, rfl⟩
    exact hne _ (h.waiting hn) rfl
  · intro j e p hp
    obtain ⟨hne, hp⟩ := entry_cancel_eq_some.mp hp
    rw [inbox_cancel]
    refine (h.served hp).imp_left fun hk => callback?_cancel_eq_some.mpr ⟨?_, hk⟩
    intro q hq hs
    exact hne (h.serial_inj hp hq hs.symm)
  · intro n k hk
    rw [ht]
    exact h.unanswered (callback?_cancel_eq_some.mp hk).2
  · intro j
    rw [ht]
    exact h.once j
  · intro j t hj
    rw [ht] at hj
    rw [nextTicket_cancel]
    exact h.ticket_lt hj
  · intro j e p hp
    rw [nextTicket_cancel, nextSerial_cancel]
    exact h.entry_lt (entry_cancel_eq_some.mp hp).2
  · intro j e f p q hp hq
    exact h.ticket_inj (entry_cancel_eq_some.mp hp).2 (entry_cancel_eq_some.mp hq).2
  · intro j k e f p q hp hq
    exact h.serial_inj (entry_cancel_eq_some.mp hp).2 (entry_cancel_eq_some.mp hq).2

theorem launch (h : Owned s) {i : SessionId} {c : RequestClass} (hnone : s.entry i c = none)
    (value : Bool) : Owned (s.launch i c value) := by
  have ht : ∀ j, ((s.launch i c value).desks j).tickets = (s.desks j).tickets :=
    fun j => tickets_of_inbox (inbox_launch s i j c value)
  have hkeep : ∀ {j e p}, s.entry j e = some p → (s.launch i c value).entry j e = some p := by
    intro j e p hp
    rw [entry_launch, if_neg]
    · exact hp
    · rintro ⟨-, rfl, rfl⟩
      simp [hnone] at hp
  have hlt : ∀ j, s.nextTicket j ≤ (s.launch i c value).nextTicket j := by
    intro j
    rw [nextTicket_launch]
    split
    · next hj => rw [hj]; exact Nat.le_succ _
    · exact Nat.le_refl _
  constructor
  · exact numbered_launch s i c h.numbered value
  · intro n k hk
    rcases callback?_of_launch h.numbered hk with ⟨ho, rfl, rfl⟩ | hk
    · rw [entry_launch, if_pos ⟨ho, rfl, rfl⟩]
    · exact hkeep (h.waiting hk)
  · intro j e p hp
    rw [inbox_launch, transport_launch, h.numbered.callback?_submit]
    rcases entry_of_launch hp with ⟨ho, rfl, rfl, rfl⟩ | hp
    · left
      rw [if_pos ⟨ho, rfl⟩]
    · rw [if_neg fun hn => Nat.ne_of_lt (h.entry_lt hp).2 hn.2]
      exact h.served hp
  · intro n k hk
    rw [ht]
    rcases callback?_of_launch h.numbered hk with ⟨-, -, rfl⟩ | hk
    · exact fun hm => Nat.lt_irrefl _ (h.ticket_lt hm)
    · exact h.unanswered hk
  · intro j
    rw [ht]
    exact h.once j
  · intro j t hj
    rw [ht] at hj
    exact Nat.lt_of_lt_of_le (h.ticket_lt hj) (hlt j)
  · intro j e p hp
    rw [nextSerial_launch]
    rcases entry_of_launch hp with ⟨-, rfl, rfl, rfl⟩ | hp
    · rw [nextTicket_launch, if_pos rfl]
      exact ⟨Nat.lt_succ_self _, Nat.lt_succ_self _⟩
    · obtain ⟨h1, h2⟩ := h.entry_lt hp
      exact ⟨Nat.lt_of_lt_of_le h1 (hlt j), Nat.lt_succ_of_lt h2⟩
  · intro j e f p q hp hq hpq
    rcases entry_of_launch hp with ⟨-, rfl, rfl, rfl⟩ | hp' <;>
      rcases entry_of_launch hq with ⟨-, hj, rfl, rfl⟩ | hq'
    · rfl
    · exact absurd (hpq ▸ (h.entry_lt hq').1) (Nat.lt_irrefl _)
    · exact absurd (hj ▸ hpq ▸ (h.entry_lt hp').1) (Nat.lt_irrefl _)
    · exact h.ticket_inj hp' hq' hpq
  · intro j k e f p q hp hq hpq
    rcases entry_of_launch hp with ⟨-, rfl, rfl, rfl⟩ | hp' <;>
      rcases entry_of_launch hq with ⟨-, rfl, rfl, rfl⟩ | hq'
    · exact ⟨rfl, rfl⟩
    · exact absurd (hpq ▸ (h.entry_lt hq').2) (Nat.lt_irrefl _)
    · exact absurd (hpq ▸ (h.entry_lt hp').2) (Nat.lt_irrefl _)
    · exact h.serial_inj hp' hq' hpq

theorem send (h : Owned s) (i : SessionId) (c : RequestClass) (value : Bool) :
    Owned (s.send i c value).2 := by
  cases hs : (s.desks i).dispatcher.supported.get c with
  | false => rwa [send_of_unsupported s i hs]
  | true =>
      rw [send_of_supported s i hs]
      refine (h.cancel i c).launch ?_ value
      rw [entry_cancel, if_pos ⟨rfl, rfl⟩]

theorem cancelEach (h : Owned s) (i : SessionId) (cs : List RequestClass) :
    Owned (cs.foldl (fun s c => s.cancel i c) s) := by
  induction cs generalizing s with
  | nil => exact h
  | cons c cs ih => exact ih (h.cancel i c)

theorem dropAll (h : Owned s) (i : SessionId) : Owned (s.dropAll i) := by
  rw [dropAll_eq_foldl]
  exact h.cancelEach i _

/-- An answer leaves the transport and goes to the inbox of the dispatcher that waits for it. -/
theorem deliver (h : Owned s) {n : Serial} {k : Callback}
    (hk : s.transport.callback? n = some k) (a : Completion) :
    Owned (({ s with transport := s.transport.forget n } : Switchboard).post a k) := by
  have hcall : ∀ {m l}, (s.transport.forget n).callback? m = some l →
      m ≠ n ∧ s.transport.callback? m = some l := by
    intro m l hm
    rw [Transport.callback?_forget] at hm
    split at hm
    · cases hm
    · next hne => exact ⟨hne, hm⟩
  have htk : ∀ {j t}, t ∈ ((({ s with transport := s.transport.forget n } : Switchboard).post a
      k).desks j).tickets → t ∈ (s.desks j).tickets ∨ j = k.session ∧ t = k.ticket := by
    intro j t hj
    rw [tickets_post] at hj
    split at hj
    · next he => simpa [he] using hj
    · exact .inl hj
  constructor
  · exact h.numbered.forget n
  · intro m l hm
    rw [entry_post]
    exact h.waiting (hcall hm).2
  · intro j e p hp
    rw [entry_post] at hp
    by_cases hn : p.serial = n
    · obtain ⟨rfl, rfl⟩ := h.serial_inj hp (h.waiting hk) hn
      have hpk := hp.symm.trans (h.waiting hk)
      right
      refine ⟨a, (mem_inbox_post _ _).mpr (.inr ⟨rfl, ?_⟩)⟩
      cases hpk
      rfl
    · refine (h.served hp).imp ?_ ?_
      · intro hc
        rw [transport_post, Transport.callback?_forget, if_neg hn]
        exact hc
      · rintro ⟨b, hb⟩
        exact ⟨b, (mem_inbox_post _ _).mpr (.inl hb)⟩
  · intro m l hm hl
    obtain ⟨hne, hm⟩ := hcall hm
    rcases htk hl with hl | ⟨hs, ht⟩
    · exact h.unanswered hm hl
    · have hcls := h.ticket_inj (hs ▸ h.waiting hm) (h.waiting hk) ht
      have hml := h.waiting hm
      rw [hs, hcls, h.waiting hk] at hml
      exact hne (congrArg InFlight.serial (Option.some.inj hml)).symm
  · intro j
    rw [tickets_post]
    split
    · next he =>
        rw [List.nodup_append]
        refine ⟨h.once j, by simp, ?_⟩
        rintro t ht u hu rfl
        rw [List.mem_singleton.mp hu, he] at ht
        exact h.unanswered hk ht
    · exact h.once j
  · intro j t hj
    rw [nextTicket_post]
    rcases htk hj with hj | ⟨rfl, rfl⟩
    · exact h.ticket_lt hj
    · exact (h.entry_lt (h.waiting hk)).1
  · intro j e p hp
    rw [nextTicket_post]
    rw [entry_post] at hp
    exact h.entry_lt hp
  · intro j e f p q hp hq
    rw [entry_post] at hp hq
    exact h.ticket_inj hp hq
  · intro i j e f p q hp hq
    rw [entry_post] at hp hq
    exact h.serial_inj hp hq

theorem respond (h : Owned s) (n : Serial) (a : Completion) : Owned (s.respond n a) := by
  simp only [Switchboard.respond, Transport.respond]
  cases hk : s.transport.callback? n with
  | some k => exact h.deliver hk a
  | none =>
      have hcall : ∀ m, (s.transport.forget n).callback? m = s.transport.callback? m := by
        intro m
        rw [Transport.callback?_forget]
        split
        · next he => rw [he, hk]
        · rfl
      exact {
        numbered := h.numbered.forget n
        waiting := fun hm => h.waiting ((hcall _).symm.trans hm)
        served := fun hp => (h.served hp).imp_left fun hm => (hcall _).trans hm
        unanswered := fun hm => h.unanswered ((hcall _).symm.trans hm)
        once := h.once
        ticket_lt := h.ticket_lt
        entry_lt := h.entry_lt
        ticket_inj := h.ticket_inj
        serial_inj := h.serial_inj }

/-- Giving up on everything is answering everything, one after the other. -/
theorem failAll (h : Owned s) {waiting : List (Serial × Callback)}
    (order : waiting.Perm s.transport.pending) (a : Completion) :
    Owned (({ s with transport := s.transport.failAll.2 } : Switchboard).answer a
      (waiting.map (fun p => p.2))) := by
  induction waiting generalizing s with
  | nil =>
      have hnil : s.transport.pending = [] := order.symm.eq_nil
      have hs : ({ s with transport := s.transport.failAll.2 } : Switchboard) = s := by
        simp [Transport.failAll, ← hnil]
      rw [hs]
      exact h
  | cons p rest ih =>
      have hp : s.transport.callback? p.1 = some p.2 :=
        h.numbered.callback?_eq_some_iff.mpr (order.subset List.mem_cons_self)
      have hd : ((p :: rest).map (fun q => q.1)).Nodup :=
        (order.map _).nodup_iff.mpr h.numbered.distinct
      have hrest : rest.Perm (s.transport.forget p.1).pending := by
        have hkeep : rest.filter (fun q => q.1 != p.1) = rest := by
          refine List.filter_eq_self.mpr fun q hq => ?_
          rw [List.map_cons, List.nodup_cons] at hd
          simpa using fun he => hd.1 (List.mem_map.mpr ⟨q, hq, he⟩)
        have := order.filter (fun q => q.1 != p.1)
        simpa [hkeep, Transport.forget] using this
      exact ih (h.deliver hp a) hrest

theorem close (h : Owned s) : Owned s.close where
  numbered := ⟨h.numbered.distinct, h.numbered.given⟩
  waiting := h.waiting
  served := h.served
  unanswered := h.unanswered
  once := h.once
  ticket_lt := h.ticket_lt
  entry_lt := h.entry_lt
  ticket_inj := h.ticket_inj
  serial_inj := h.serial_inj

/-- A dispatcher takes an answer out of its inbox. -/
theorem complete (h : Owned s) {i : SessionId} {c : RequestClass} {ticket : Ticket}
    {a : Completion} {rest : List Message}
    (oldest : (s.desks i).inbox = .completed c ticket a :: rest) :
    Owned (s.complete i c ticket a rest).2 := by
  have htickets : (s.desks i).tickets = ticket :: rest.filterMap Message.ticket? := by
    simp [Desk.tickets, oldest, Message.ticket?]
  have htk : ∀ j, ((s.complete i c ticket a rest).2.desks j).tickets.Sublist
      (s.desks j).tickets := by
    intro j
    rw [Desk.tickets, inbox_complete]
    split
    · next hj => rw [hj, htickets]; exact List.sublist_cons_self _ _
    · exact List.Sublist.refl _
  have hkeep : ∀ {j e p}, (s.complete i c ticket a rest).2.entry j e = some p →
      s.entry j e = some p ∧ ¬(j = i ∧ e = c ∧ p.ticket = ticket) := by
    intro j e p hp
    rw [entry_complete] at hp
    split at hp
    · cases hp
    · next hn =>
        refine ⟨hp, ?_⟩
        rintro ⟨rfl, rfl, ht⟩
        exact hn ⟨rfl, rfl, by simp [hp, ht]⟩
  constructor
  · exact h.numbered
  · intro n k hk
    have hentry := h.waiting hk
    rw [entry_complete, if_neg]
    · exact hentry
    · rintro ⟨hs, hc, ht⟩
      rw [← hs, ← hc, hentry] at ht
      refine h.unanswered hk ?_
      rw [hs, htickets]
      simp_all
  · intro j e p hp
    obtain ⟨hp, hne⟩ := hkeep hp
    refine (h.served hp).imp_right ?_
    rintro ⟨b, hb⟩
    refine ⟨b, ?_⟩
    rw [inbox_complete]
    split
    · next hj =>
        subst hj
        rw [oldest] at hb
        rcases List.mem_cons.mp hb with he | hb
        · cases he
          exact absurd ⟨rfl, rfl, rfl⟩ hne
        · exact hb
    · exact hb
  · intro n k hk hm
    exact h.unanswered hk ((htk _).subset hm)
  · exact fun j => (htk j).nodup (h.once j)
  · intro j t hj
    rw [nextTicket_complete]
    exact h.ticket_lt ((htk j).subset hj)
  · intro j e p hp
    rw [nextTicket_complete]
    exact h.entry_lt (hkeep hp).1
  · intro j e f p q hp hq
    exact h.ticket_inj (hkeep hp).1 (hkeep hq).1
  · intro j k e f p q hp hq
    exact h.serial_inj (hkeep hp).1 (hkeep hq).1

theorem step {r : Record} {s' : Switchboard} (h : Owned s) (hs : Step s r s') : Owned s' := by
  cases hs with
  | send i c value => exact h.send i c value
  | cancel i c => exact h.cancel i c
  | dropAll i => exact h.dropAll i
  | respond n a => exact h.respond n a
  | failAll status _ order => exact h.failAll order _
  | close => exact h.close
  | complete oldest => exact h.complete oldest

theorem trace {start : Switchboard} {log : List Record} (h : Owned start)
    (ht : Trace start log s) : Owned s := by
  induction ht with
  | nil => exact h
  | snoc _ hs ih => exact ih.step hs

end Owned

/-- **Ownership.**  A request in flight either waits in the transport under its number, with a
callback for its own class and ticket, or has exactly one answer in its dispatcher's inbox, never
both; whatever waits in the transport is the request in flight of exactly one class of exactly one
dispatcher; and no inbox holds two answers with one ticket. -/
theorem ownership {s : Switchboard} (h : s.Reachable) :
    (∀ i c p, s.entry i c = some p →
      Xor (s.transport.callback? p.serial = some ⟨i, c, p.ticket⟩)
        (∃ a, (s.desks i).inbox.filter (fun m => m.ticket? = some p.ticket)
          = [.completed c p.ticket a])) ∧
    (∀ n, s.transport.isPending n = true →
      ∃! o : SessionId × RequestClass, ∃ p, s.entry o.1 o.2 = some p ∧ p.serial = n) ∧
    ∀ i, (s.desks i).tickets.Nodup := by
  obtain ⟨slot, interface, log, ht⟩ := h
  have ho : Owned s := (Owned.new slot interface).trace ht
  refine ⟨?_, ?_, ho.once⟩
  · intro i c p hp
    rcases ho.served hp with hc | ⟨a, ha⟩
    · refine .inl ⟨hc, ?_⟩
      rintro ⟨a, ha⟩
      have hm : Message.completed c p.ticket a ∈ (s.desks i).inbox :=
        (List.mem_filter.mp (ha ▸ List.mem_singleton_self _)).1
      exact ho.unanswered hc (Owned.mem_tickets hm)
    · refine .inr ⟨⟨a, ?_⟩, fun hc => ho.unanswered hc (Owned.mem_tickets ha)⟩
      exact filter_ticket_of_mem ha rfl (ho.once i)
  · intro n hn
    obtain ⟨k, hk⟩ := Transport.isPending_iff.mp hn
    refine ⟨(k.session, k.cls), ⟨_, ho.waiting hk, rfl⟩, ?_⟩
    rintro ⟨i, c⟩ ⟨p, hp, hs⟩
    obtain ⟨hi, hc⟩ := ho.serial_inj hp (ho.waiting hk) hs
    exact Prod.ext hi hc

/-- The invariant at work: one dispatcher has its answer in the inbox, the other still waits. -/
theorem ownership_of_answered :
    let s := (((new "slot1" .v15).send 0 .lowDataExpected true).2.send 1 .chargingState
      true).2.respond 1 (.failed .timeout)
    s.Reachable ∧ s.entry 0 .lowDataExpected = some ⟨1, 1⟩ ∧
      Xor (s.transport.callback? 1 = some ⟨0, .lowDataExpected, 1⟩)
        (∃ a, (s.desks 0).inbox.filter (fun m => m.ticket? = some 1)
          = [.completed .lowDataExpected 1 a]) := by
  intro s
  have hr : s.Reachable :=
    ⟨"slot1", .v15, _, .snoc (.snoc (.snoc .nil (.send 0 .lowDataExpected true _))
      (.send 1 .chargingState true _)) (.respond 1 (.failed .timeout) _)⟩
  have he : s.entry 0 .lowDataExpected = some ⟨1, 1⟩ := by decide
  exact ⟨hr, he, (ownership hr).1 0 .lowDataExpected ⟨1, 1⟩ he⟩

end Switchboard

end ModemWatch
