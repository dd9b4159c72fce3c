import ModemWatch.Proofs.Ended
import ModemWatch.Proofs.Ledger

/-!
# A transport of one's own

Dispatchers that share a transport use up its numbers between them, and the requests of each stand
between those of the others.  Leave the others out, and a dispatcher might as well have a transport
of its own: the same requests in the same order, numbered from 1, so that numbers and tickets are the
same.  Nothing that the others do can be seen there, and what the dispatcher does is the same on
both.

Whose a request is can be told by its class, as long as the others are of other variants.

* `Variant.part` — the requests of one variant; `renumbered` — requests with numbers of their own;
* `Transport.share` — what waits for one session;
* `Extract` — a dispatcher on a shared transport and its like on one of its own, and what it keeps.
-/

namespace ModemWatch

/-- A request is of a class of the variant. -/
def Variant.owns (v : Variant) (o : Outgoing) : Bool :=
  o.request.cls?.any (fun c => v.profile.classes.contains c)

/-- The requests of a variant. -/
def Variant.part (v : Variant) (l : List Outgoing) : List Outgoing := l.filter v.owns

/-- Requests numbered anew, from 1. -/
def renumbered (l : List Outgoing) : List Outgoing := l.mapIdx (fun i o => ⟨i + 1, o.request⟩)

/-- What waits for a session. -/
def Transport.share (j : SessionId) (t : Transport Callback) : List (Serial × Callback) :=
  t.pending.filter (fun w => w.2.session == j)

section Requests

variable {v : Variant} {l : List Outgoing} {o : Outgoing} {c : RequestClass}

theorem Variant.owns_iff :
    v.owns o = true ↔ ∃ c ∈ v.profile.classes, o.request.cls? = some c := by
  rw [owns, Option.any_eq_true]
  simp only [List.contains_iff_mem, and_comm]

theorem Variant.owns_of_mem (h : o.request.cls? = some c) (hc : c ∈ v.profile.classes) :
    v.owns o = true :=
  owns_iff.mpr ⟨c, hc, h⟩

/-- A request is of one variant only. -/
theorem Variant.eq_of_owns {w : Variant} (hv : v.owns o = true) (hw : w.owns o = true) : v = w := by
  obtain ⟨c, hc, hcls⟩ := owns_iff.mp hv
  obtain ⟨e, he, hcls'⟩ := owns_iff.mp hw
  obtain rfl : c = e := Option.some.inj (hcls.symm.trans hcls')
  exact Profile.variant_eq_of_classes hc he

theorem Variant.part_of_owned (h : ∀ o ∈ l, v.owns o = true) : v.part l = l :=
  List.filter_eq_self.mpr h

theorem Variant.part_of_other {w : Variant} (hw : w ≠ v) (h : ∀ o ∈ l, w.owns o = true) :
    v.part l = [] :=
  List.filter_eq_nil_iff.mpr fun o ho hv => hw (eq_of_owns (h o ho) hv)

theorem Variant.part_append (l l' : List Outgoing) : v.part (l ++ l') = v.part l ++ v.part l' :=
  List.filter_append ..

theorem renumbered_concat (l : List Outgoing) (o : Outgoing) :
    renumbered (l ++ [o]) = renumbered l ++ [⟨l.length + 1, o.request⟩] :=
  List.mapIdx_concat

theorem getElem?_renumbered (l : List Outgoing) (i : Nat) :
    (renumbered l)[i]? = (l[i]?).map (fun o => ⟨i + 1, o.request⟩) :=
  List.getElem?_mapIdx

theorem requests_renumbered (l : List Outgoing) :
    (renumbered l).map (fun o => o.request) = l.map (fun o => o.request) := by
  refine List.ext_getElem? fun i => ?_
  rw [List.getElem?_map, getElem?_renumbered, List.getElem?_map, Option.map_map]
  rfl

/-- A request with a number of its own is found under it. -/
theorem find?_renumbered {i : Nat} (hi : l[i]? = some o) :
    (renumbered l).find? (fun e => e.serial == i + 1) = some ⟨i + 1, o.request⟩ := by
  have hget : (renumbered l)[i]? = some ⟨i + 1, o.request⟩ := by
    rw [getElem?_renumbered, hi]
    rfl
  obtain ⟨hlt, hget⟩ := List.getElem?_eq_some_iff.mp hget
  rw [List.find?_eq_some_iff_getElem]
  refine ⟨by simp, i, hlt, hget, fun k hk => ?_⟩
  simp only [renumbered, List.getElem_mapIdx]
  simp
  omega

end Requests

theorem Transport.mem_share {j : SessionId} {t : Transport Callback} {w : Serial × Callback} :
    w ∈ t.share j ↔ w ∈ t.pending ∧ w.2.session = j := by
  rw [share, List.mem_filter, beq_iff_eq]

theorem Transport.share_forget (j : SessionId) (n : Serial) (t : Transport Callback) :
    (t.forget n).share j = (t.share j).filter (fun w => w.1 != n) := by
  simp only [share, forget, List.filter_filter, Bool.and_comm]

/-- What waits for a session under a number. -/
theorem Transport.Numbered.filter_callback? {t : Transport Callback} (h : t.Numbered)
    (j : SessionId) (n : Serial) :
    (t.callback? n).toList.filter (fun k => k.session == j) =
      ((t.share j).filter (fun w => w.1 == n)).map (fun w => w.2) := by
  rw [h.toList_callback?, share, List.filter_map, List.filter_filter, List.filter_filter]
  simp only [Function.comp_def, Bool.and_comm]

namespace Switchboard

variable {s : Switchboard} {i j : SessionId} {c : RequestClass}

/-! ## What waits for whom -/

theorem share_cancel_of_none (hp : s.entry i c = none) :
    (s.cancel i c).transport.share j = s.transport.share j := by
  unfold cancel
  rw [Dispatcher.cancel_of_none _ _ hp]
  rfl

theorem share_cancel_of_some {p : InFlight} (hp : s.entry i c = some p) :
    (s.cancel i c).transport.share j =
      (s.transport.share j).filter (fun w => w.1 != p.serial) := by
  unfold cancel
  rw [Dispatcher.cancel_of_some _ _ hp]
  exact Transport.share_forget ..

/-- What waits for a session is in flight there. -/
theorem Owned.entry_of_share (h : Owned s) {w : Serial × Callback} (hw : w ∈ s.transport.share j) :
    s.entry j w.2.cls = some ⟨w.2.ticket, w.1⟩ := by
  obtain ⟨hmem, rfl⟩ := Transport.mem_share.mp hw
  exact h.waiting (h.numbered.callback?_eq_some_iff.mpr hmem)

/-- Dropping the request of a class takes what waits for the answer to it. -/
theorem Owned.share_cancel_self (h : Owned s) (i : SessionId) (c : RequestClass) :
    (s.cancel i c).transport.share i =
      (s.transport.share i).filter (fun w => w.2.cls != c) := by
  cases hp : s.entry i c with
  | none =>
      rw [share_cancel_of_none hp, eq_comm, List.filter_eq_self]
      intro w hw
      rw [bne_iff_ne]
      rintro rfl
      rw [h.entry_of_share hw] at hp
      cases hp
  | some p =>
      rw [share_cancel_of_some hp]
      refine List.filter_congr fun w hw => ?_
      have hentry := h.entry_of_share hw
      rw [Bool.eq_iff_iff, bne_iff_ne, bne_iff_ne, not_iff_not]
      constructor
      · exact fun hserial => (h.serial_inj hentry hp hserial).2
      · rintro rfl
        rw [hp] at hentry
        rw [Option.some.inj hentry]

/-- Dropping requests takes nothing that waits for others. -/
theorem Owned.share_cancel_ne (h : Owned s) (hj : j ≠ i) (c : RequestClass) :
    (s.cancel i c).transport.share j = s.transport.share j := by
  cases hp : s.entry i c with
  | none => exact share_cancel_of_none hp
  | some p =>
      rw [share_cancel_of_some hp, List.filter_eq_self]
      intro w hw
      rw [bne_iff_ne]
      exact fun hserial => hj (h.serial_inj (h.entry_of_share hw) hp hserial).1

theorem share_launch (hopen : s.transport.closed = false) (value : Bool) :
    (s.launch i c value).transport.share j =
      s.transport.share j ++
        if i = j then [(s.transport.nextSerial, ⟨i, c, s.nextTicket i⟩)] else [] := by
  rw [launch_of_open _ _ _ hopen]
  simp only [Transport.share, transport_update, List.filter_append, List.filter_singleton,
    Bool.cond_eq_ite, beq_iff_eq]

/-- A request that is sent waits in the place of the one before it. -/
theorem Owned.share_send_self (h : Owned s) (hs : s.supports i c = true)
    (hopen : s.transport.closed = false) (value : Bool) :
    (s.send i c value).2.transport.share i =
      (s.transport.share i).filter (fun w => w.2.cls != c) ++
        [(s.transport.nextSerial, ⟨i, c, s.nextTicket i⟩)] := by
  rw [send_of_supported s i hs, share_launch ((closed_cancel s i c).trans hopen), if_pos rfl,
    h.share_cancel_self, nextSerial_cancel, nextTicket_cancel]

/-- Nothing that waits for others is touched. -/
theorem Owned.share_send_ne (h : Owned s) (hj : j ≠ i) (hopen : s.transport.closed = false)
    (c : RequestClass) (value : Bool) :
    (s.send i c value).2.transport.share j = s.transport.share j := by
  cases hs : s.supports i c with
  | false => rw [send_of_unsupported s i hs]
  | true =>
      rw [send_of_supported s i hs, share_launch ((closed_cancel s i c).trans hopen),
        if_neg (Ne.symm hj), List.append_nil, h.share_cancel_ne hj]

theorem Owned.share_dropAll_self (h : Owned s) (i : SessionId) :
    (s.dropAll i).transport.share i = [] := by
  rw [List.eq_nil_iff_forall_not_mem]
  intro w hw
  have hentry := (h.dropAll i).entry_of_share hw
  rw [entry_dropAll, if_pos rfl] at hentry
  cases hentry

theorem Owned.share_dropAll_ne (h : Owned s) (hj : j ≠ i) :
    (s.dropAll i).transport.share j = s.transport.share j := by
  rw [dropAll_eq_foldl]
  generalize RequestClass.all = cs
  induction cs generalizing s with
  | nil => rfl
  | cons c cs ih => exact (ih (h.cancel i c)).trans (h.share_cancel_ne hj c)

theorem closed_send (s : Switchboard) (i : SessionId) (c : RequestClass) (value : Bool) :
    (s.send i c value).2.transport.closed = s.transport.closed :=
  Dispatcher.closed_send ..

theorem interface_send (s : Switchboard) (i : SessionId) (c : RequestClass) (value : Bool) :
    (s.send i c value).2.transport.interface = s.transport.interface :=
  Dispatcher.interface_send ..

theorem supported_send (s : Switchboard) (i : SessionId) (c : RequestClass) (value : Bool) :
    ((s.send i c value).2.desks i).dispatcher.supported = (s.desks i).dispatcher.supported := by
  rw [send, dispatcher_update]
  exact Dispatcher.supported_send ..

/-- A request uses up a ticket. -/
theorem nextTicket_send_self (hs : s.supports i c = true) (value : Bool) :
    ((s.send i c value).2.desks i).dispatcher.nextTicket =
      (s.desks i).dispatcher.nextTicket + 1 :=
  (nextTicket_send s i i c value).trans (if_pos ⟨rfl, hs⟩)

theorem nextSerial_send (s : Switchboard) (i : SessionId) (c : RequestClass) (value : Bool) :
    (s.send i c value).2.transport.nextSerial =
      if s.supports i c then s.transport.nextSerial + 1 else s.transport.nextSerial := by
  cases hs : s.supports i c with
  | false => rw [send_of_unsupported s i hs]; rfl
  | true => rw [send_of_supported s i hs, nextSerial_launch, nextSerial_cancel]; rfl

/-- A request that is sent goes to the end of the ledger. -/
theorem ledger_send (s : Switchboard) (i : SessionId) (c : RequestClass) (value : Bool)
    (taken : List Outgoing) :
    (s.send i c value).2.transport.ledger taken = s.transport.ledger taken ++
      if s.supports i c = true ∧ s.transport.closed = false then
        [⟨s.transport.nextSerial, c.build value s.transport.interface⟩] else [] := by
  rw [Transport.ledger, Transport.ledger, List.append_assoc]
  exact congrArg (taken ++ ·) (Dispatcher.queued_send ..)

variable {v : Variant}

/-- A request of the variant goes to the end of its part of the ledger. -/
theorem part_ledger_send (hs : s.supports i c = true) (hopen : s.transport.closed = false)
    (hc : c ∈ v.profile.classes) (value : Bool) (taken : List Outgoing) :
    v.part ((s.send i c value).2.transport.ledger taken) = v.part (s.transport.ledger taken) ++
      [⟨s.transport.nextSerial, c.build value s.transport.interface⟩] := by
  rw [ledger_send, if_pos ⟨hs, hopen⟩, Variant.part_append]
  congr 1
  simp [Variant.part, Variant.owns, hc]

/-- A request of another variant does not show there. -/
theorem part_ledger_send_other (s : Switchboard) (i : SessionId) (hc : c ∉ v.profile.classes)
    (value : Bool) (taken : List Outgoing) :
    v.part ((s.send i c value).2.transport.ledger taken) = v.part (s.transport.ledger taken) := by
  rw [ledger_send, Variant.part_append]
  split
  · simp [Variant.part, Variant.owns, hc]
  · exact List.append_nil _

end Switchboard

/-! ## Extracts -/

/-- A ticket is the place of the request that it is for among those listed. -/
def Placed (l : List Outgoing) (w : Serial × Callback) : Prop :=
  ∃ i o, l[i]? = some o ∧ o.serial = w.1 ∧ w.2.ticket = i + 1

theorem Placed.append {l : List Outgoing} {w : Serial × Callback} (h : Placed l w)
    (more : List Outgoing) : Placed (l ++ more) w := by
  obtain ⟨i, o, ho, hserial, hplace⟩ := h
  have hlt : i < l.length := (List.getElem?_eq_some_iff.mp ho).1
  exact ⟨i, o, (List.getElem?_append_left hlt).trans ho, hserial, hplace⟩

theorem placed_last (l : List Outgoing) (o : Outgoing) {w : Serial × Callback}
    (hserial : o.serial = w.1) (hticket : w.2.ticket = l.length + 1) : Placed (l ++ [o]) w :=
  ⟨l.length, o, List.getElem?_concat_length, hserial, hticket⟩

/-- What waits for a session, on a transport of its own. -/
def alone (w : Serial × Callback) : Serial × Callback := (w.2.ticket, ⟨0, w.2.cls, w.2.ticket⟩)

/-- The dispatcher `d'` is to the transport `t'`, which it has for itself, what `d` is to `t`, which
it shares: both support and expect the same, and the requests of the variant are the same on both,
in the same order.  On `t'` they have the tickets for numbers.  What was taken from the two
transports is `taken` and `taken'`. -/
structure Extract (v : Variant) (j : SessionId) (taken taken' : List Outgoing)
    (d d' : Dispatcher) (t t' : Transport Callback) : Prop where
  opened : t.closed = false
  opened' : t'.closed = false
  interface : t'.interface = t.interface
  supported : d'.supported = d.supported
  nextTicket : d'.nextTicket = d.nextTicket
  nextSerial : t'.nextSerial = d.nextTicket
  inFlight : ∀ c, d'.pending.get c = (d.pending.get c).map (fun p => ⟨p.ticket, p.ticket⟩)
  waiting : t'.share 0 = (t.share j).map alone
  placed : ∀ w ∈ t.share j, Placed (v.part (t.ledger taken)) w
  next : d.nextTicket = (v.part (t.ledger taken)).length + 1
  ledger : t'.ledger taken' = renumbered (v.part (t.ledger taken))
  taken : taken' = renumbered (v.part taken)

namespace Extract

variable {v : Variant} {j : SessionId} {taken taken' : List Outgoing} {d d' : Dispatcher}
  {t t' : Transport Callback} {b b' : Switchboard}

/-- A dispatcher that has not sent anything, among others, and its like on a new transport. -/
theorem fresh (hopen : t.closed = false) (hnone : t.share j = [])
    (hpart : v.part (t.ledger taken) = []) (slot : String) :
    Extract v j taken [] {} {} t { slot := slot, interface := t.interface } where
  opened := hopen
  opened' := rfl
  interface := rfl
  supported := rfl
  nextTicket := rfl
  nextSerial := rfl
  inFlight c := by rw [ByClass.get_const]; rfl
  waiting := by rw [hnone]; rfl
  placed w hw := by rw [hnone] at hw; exact absurd hw List.not_mem_nil
  next := by rw [hpart]; rfl
  ledger := by rw [hpart]; rfl
  taken := by
    rw [Transport.ledger, Variant.part_append, List.append_eq_nil_iff] at hpart
    rw [hpart.1]
    rfl

/-- What others do to the shared transport does not show. -/
theorem other (h : Extract v j taken taken' d d' t t') {u : Transport Callback}
    (hopen : u.closed = t.closed) (hinterface : u.interface = t.interface)
    (hshare : u.share j = t.share j)
    (hpart : v.part (u.ledger taken) = v.part (t.ledger taken)) :
    Extract v j taken taken' d d' u t' where
  opened := hopen.trans h.opened
  opened' := h.opened'
  interface := h.interface.trans hinterface.symm
  supported := h.supported
  nextTicket := h.nextTicket
  nextSerial := h.nextSerial
  inFlight := h.inFlight
  waiting := by rw [hshare]; exact h.waiting
  placed := by rw [hshare, hpart]; exact h.placed
  next := by rw [hpart]; exact h.next
  ledger := by rw [hpart]; exact h.ledger
  taken := h.taken

/-- On a transport of one's own, tickets are numbers. -/
theorem number (h : Extract v j taken taken' d d' t t') : d'.nextTicket = t'.nextSerial :=
  h.nextTicket.trans h.nextSerial.symm

/-- What both have in flight after they have sent the same. -/
theorem inFlight_send (h : Extract v j taken taken' (b.desks j).dispatcher (b'.desks 0).dispatcher
    b.transport b'.transport) {c : RequestClass} (hs : b.supports j c = true)
    (hs' : b'.supports 0 c = true) {value : Bool} (e : RequestClass) :
    ((b'.send 0 c value).2.desks 0).dispatcher.pending.get e =
      (((b.send j c value).2.desks j).dispatcher.pending.get e).map
        (fun p => ⟨p.ticket, p.ticket⟩) := by
  have hnumber : b'.nextTicket 0 = b'.transport.nextSerial := h.number
  have hentry := Switchboard.entry_send b j j c e value
  have hentry' := Switchboard.entry_send b' 0 0 c e value
  rw [Switchboard.entry] at hentry hentry'
  rw [hentry, hentry']
  by_cases he : e = c
  · simp only [he, hs, hs', h.opened, h.opened', and_self, if_true, Bool.false_eq_true, if_false,
      Option.map_some, ← hnumber]
    rw [Switchboard.nextTicket, h.nextTicket, Switchboard.nextTicket]
  · simp only [he, false_and, and_false, if_false]
    exact h.inFlight e

/-- **Both send the same.** -/
theorem send (hb : b.Owned) (hb' : b'.Owned)
    (h : Extract v j taken taken' (b.desks j).dispatcher (b'.desks 0).dispatcher b.transport
      b'.transport) {c : RequestClass} (hc : c ∈ v.profile.classes) (value : Bool) :
    Extract v j taken taken' ((b.send j c value).2.desks j).dispatcher
      ((b'.send 0 c value).2.desks 0).dispatcher (b.send j c value).2.transport
      (b'.send 0 c value).2.transport := by
  have hsupports : b'.supports 0 c = b.supports j c :=
    congrArg (fun supported => supported.get c) h.supported
  cases hs : b.supports j c with
  | false =>
      rw [Switchboard.send_of_unsupported b j hs,
        Switchboard.send_of_unsupported b' 0 (hsupports.trans hs)]
      exact h
  | true =>
      -- an older request of the class is dropped on both, and the new one has the next number
      have hs' := hsupports.trans hs
      have hpart := Switchboard.part_ledger_send hs h.opened hc value taken
      have hshare := hb.share_send_self hs h.opened value
      have hshare' := hb'.share_send_self hs' h.opened' value
      have hnumber : b'.nextTicket 0 = b'.transport.nextSerial := h.number
      constructor
      · rw [Switchboard.closed_send]
        exact h.opened
      · rw [Switchboard.closed_send]
        exact h.opened'
      · rw [Switchboard.interface_send, Switchboard.interface_send]
        exact h.interface
      · rw [Switchboard.supported_send, Switchboard.supported_send]
        exact h.supported
      · rw [Switchboard.nextTicket_send_self hs, Switchboard.nextTicket_send_self hs',
          h.nextTicket]
      · rw [Switchboard.nextTicket_send_self hs, Switchboard.nextSerial_send, if_pos hs',
          h.nextSerial]
      · exact h.inFlight_send hs hs'
      · rw [hshare, hshare', h.waiting, List.map_append, List.filter_map]
        refine congrArg₂ (· ++ ·) rfl ?_
        rw [← hnumber, Switchboard.nextTicket, h.nextTicket]
        rfl
      · intro w hw
        rw [hpart]
        rw [hshare] at hw
        rcases List.mem_append.mp hw with hw | hw
        · exact (h.placed w (List.mem_filter.mp hw).1).append _
        · rw [List.mem_singleton.mp hw]
          exact placed_last _ _ rfl h.next
      · rw [Switchboard.nextTicket_send_self hs, hpart, List.length_append, List.length_singleton,
          h.next]
      · rw [hpart, renumbered_concat, ← h.ledger, Switchboard.ledger_send, if_pos ⟨hs', h.opened'⟩,
          h.nextSerial, h.next, h.interface]
      · exact h.taken

theorem sendAll (hb : b.Owned) (hb' : b'.Owned)
    (h : Extract v j taken taken' (b.desks j).dispatcher (b'.desks 0).dispatcher b.transport
      b'.transport) {values : List Attempt} (hv : ∀ a ∈ values, a.cls ∈ v.profile.classes) :
    let r := Dispatcher.sendAll j values ((b.desks j).dispatcher, b.transport)
    let r' := Dispatcher.sendAll 0 values ((b'.desks 0).dispatcher, b'.transport)
    Extract v j taken taken' r.1 r'.1 r.2 r'.2 := by
  induction values generalizing b b' with
  | nil => exact h
  | cons a values ih =>
      have hnext := ih (hb.send j a.cls a.value) (hb'.send 0 a.cls a.value)
        (h.send hb hb' (hv a List.mem_cons_self) a.value)
        fun e he => hv e (List.mem_cons_of_mem _ he)
      simp only [Switchboard.send, Switchboard.dispatcher_update,
        Switchboard.transport_update] at hnext
      exact hnext

/-- Values of other classes, sent by another dispatcher, do not show. -/
theorem sendAll_other (hb : b.Owned) {i : SessionId} (hi : j ≠ i)
    (h : Extract v j taken taken' d d' b.transport t') {values : List Attempt}
    (hv : ∀ a ∈ values, a.cls ∉ v.profile.classes) :
    Extract v j taken taken' d d'
      (Dispatcher.sendAll i values ((b.desks i).dispatcher, b.transport)).2 t' := by
  induction values generalizing b with
  | nil => exact h
  | cons a values ih =>
      have hone := h.other (Switchboard.closed_send b i a.cls a.value)
        (Switchboard.interface_send b i a.cls a.value)
        (hb.share_send_ne hi h.opened a.cls a.value)
        (Switchboard.part_ledger_send_other b i (hv a List.mem_cons_self) a.value taken)
      have hnext := ih (hb.send i a.cls a.value) hone
        fun e he => hv e (List.mem_cons_of_mem _ he)
      simp only [Switchboard.send, Switchboard.dispatcher_update,
        Switchboard.transport_update] at hnext
      exact hnext

/-- **Both hear the same.** -/
theorem hear (h : Extract v j taken taken' d d' t t') (m : Message) :
    Extract v j taken taken' (d.hear m) (d'.hear m) t t' := by
  cases m with
  | signal | screenChanged | watchFailed => exact h
  | completed c ticket a =>
      simp only [Dispatcher.hear]
      cases hp : d.pending.get c with
      | none =>
          have hp' : d'.pending.get c = none := by rw [h.inFlight, hp]; rfl
          simp only [Dispatcher.complete, hp, hp']
          exact h
      | some p =>
          have hp' : d'.pending.get c = some ⟨p.ticket, p.ticket⟩ := by rw [h.inFlight, hp]; rfl
          simp only [Dispatcher.complete, hp, hp']
          split
          · refine { h with supported := ?_, inFlight := fun e => ?_ }
            · simp only [Dispatcher.release, h.supported]
            · simp only [Dispatcher.release, ByClass.get_set]
              split
              · rfl
              · exact h.inFlight e
          · exact h

/-- **Both drop the same.** -/
theorem dropAll (hb : b.Owned) (hb' : b'.Owned)
    (h : Extract v j taken taken' (b.desks j).dispatcher (b'.desks 0).dispatcher b.transport
      b'.transport) :
    let r := (b.desks j).dispatcher.dropAll b.transport
    let r' := (b'.desks 0).dispatcher.dropAll b'.transport
    Extract v j taken taken' r.1 r'.1 r.2 r'.2 := by
  intro r r'
  have hnone : r.2.share j = [] := hb.share_dropAll_self j
  have hnone' : r'.2.share 0 = [] := hb'.share_dropAll_self 0
  have hempty := Dispatcher.pending_dropAll (b.desks j).dispatcher b.transport
  have hempty' := Dispatcher.pending_dropAll (b'.desks 0).dispatcher b'.transport
  have hd : r.1 = _ := Dispatcher.dispatcher_dropAll _ _
  have hd' : r'.1 = _ := Dispatcher.dispatcher_dropAll _ _
  have ht : r.2 = _ := Dispatcher.transport_dropAll _ _
  have ht' : r'.2 = _ := Dispatcher.transport_dropAll _ _
  refine ⟨?_, ?_, ?_, ?_, ?_, ?_, fun c => ?_, ?_, fun w hw => ?_, ?_, ?_, h.taken⟩
  · rw [ht]; exact h.opened
  · rw [ht']; exact h.opened'
  · rw [ht, ht']; exact h.interface
  · rw [hd, hd']; exact h.supported
  · rw [hd, hd']; exact h.nextTicket
  · rw [ht', hd]; exact h.nextSerial
  · rw [hempty', hempty]; rfl
  · rw [hnone, hnone']; rfl
  · rw [hnone] at hw
    exact absurd hw List.not_mem_nil
  · rw [ht, hd]; exact h.next
  · rw [ht, ht']; exact h.ledger

/-- What another dispatcher drops does not show. -/
theorem dropAll_other (hb : b.Owned) {i : SessionId} (hi : j ≠ i)
    (h : Extract v j taken taken' d d' b.transport t') :
    Extract v j taken taken' d d' ((b.desks i).dispatcher.dropAll b.transport).2 t' := by
  refine h.other ?_ ?_ (hb.share_dropAll_ne hi) ?_
  · rw [Dispatcher.transport_dropAll]
  · rw [Dispatcher.transport_dropAll]
  · rw [Dispatcher.transport_dropAll]
    rfl

/-- A number tells of what waits what the place of its request tells. -/
theorem serial_eq_iff (h : Extract v j taken taken' d d' t t') (htraced : t.Traced taken) {i : Nat}
    {o : Outgoing} (ho : (v.part (t.ledger taken))[i]? = some o) {w : Serial × Callback}
    (hw : w ∈ t.share j) : w.1 = o.serial ↔ w.2.ticket = i + 1 := by
  -- numbers rise along the ledger, so no two places have the same one
  obtain ⟨k, e, he, hserial, hplace⟩ := h.placed w hw
  have hrising : ((v.part (t.ledger taken)).map (fun o => o.serial)).Pairwise (· < ·) :=
    htraced.rising.sublist (List.filter_sublist.map _)
  have hnodup : ((v.part (t.ledger taken)).map (fun o => o.serial)).Nodup :=
    hrising.imp fun hab => Nat.ne_of_lt hab
  constructor
  · intro hsame
    have hk : k < ((v.part (t.ledger taken)).map (fun o => o.serial)).length := by
      rw [List.length_map]
      exact (List.getElem?_eq_some_iff.mp he).1
    have hki : k = i := by
      refine (List.getElem?_inj hk hnodup).mp ?_
      rw [List.getElem?_map, List.getElem?_map, he, ho, Option.map_some, Option.map_some, hserial,
        hsame]
    rw [hplace, hki]
  · intro hsame
    obtain rfl : k = i := Nat.succ.inj (hplace.symm.trans hsame)
    rw [he] at ho
    rw [← hserial, Option.some.inj ho]

/-- **An answer to a request of the variant** is one to the request in the same place. -/
theorem forget (h : Extract v j taken taken' d d' t t') (htraced : t.Traced taken) {i : Nat}
    {o : Outgoing} (ho : (v.part (t.ledger taken))[i]? = some o) :
    Extract v j taken taken' d d' (t.forget o.serial) (t'.forget (i + 1)) := by
  refine { h with waiting := ?_, placed := fun w hw => ?_ }
  · rw [Transport.share_forget, Transport.share_forget, h.waiting, List.filter_map]
    congr 1
    refine List.filter_congr fun w hw => ?_
    rw [Bool.eq_iff_iff, Function.comp_apply, bne_iff_ne, bne_iff_ne]
    exact (not_congr (h.serial_eq_iff htraced ho hw)).symm
  · rw [Transport.share_forget] at hw
    exact h.placed w (List.mem_filter.mp hw).1

/-- It goes to the same place too. -/
theorem answers_forget (h : Extract v j taken taken' d d' t t') (htraced : t.Traced taken)
    (hn : t.Numbered) (hn' : t'.Numbered) {i : Nat} {o : Outgoing}
    (ho : (v.part (t.ledger taken))[i]? = some o) (a : Completion) :
    ((t'.callback? (i + 1)).toList.filter (fun k => k.session == 0)).map (fun k => k.message a) =
      ((t.callback? o.serial).toList.filter (fun k => k.session == j)).map
        (fun k => k.message a) := by
  rw [hn.filter_callback?, hn'.filter_callback?, h.waiting, List.filter_map, List.map_map,
    List.map_map, List.map_map]
  have hsame : (t.share j).filter ((fun w => w.1 == i + 1) ∘ alone) =
      (t.share j).filter (fun w => w.1 == o.serial) := by
    refine List.filter_congr fun w hw => ?_
    rw [Bool.eq_iff_iff, Function.comp_apply, beq_iff_eq, beq_iff_eq]
    exact (h.serial_eq_iff htraced ho hw).symm
  rw [hsame]
  rfl

/-- An answer for nothing that waits for the session does not show. -/
theorem forget_other (h : Extract v j taken taken' d d' t t') {n : Serial}
    (hnone : ∀ w ∈ t.share j, w.1 ≠ n) : Extract v j taken taken' d d' (t.forget n) t' := by
  refine h.other rfl rfl ?_ rfl
  rw [Transport.share_forget, List.filter_eq_self]
  exact fun w hw => bne_iff_ne.mpr (hnone w hw)

theorem failAll (h : Extract v j taken taken' d d' t t') :
    Extract v j taken taken' d d' t.failAll.2 t'.failAll.2 :=
  { h with
    waiting := rfl
    placed := fun _ hw => absurd hw List.not_mem_nil }

theorem answers_failAll (h : Extract v j taken taken' d d' t t') (a : Completion) :
    (t'.failAll.1.filter (fun k => k.session == 0)).map (fun k => k.message a) =
      (t.failAll.1.filter (fun k => k.session == j)).map (fun k => k.message a) := by
  have hall : ∀ (j : SessionId) (t : Transport Callback),
      t.failAll.1.filter (fun k => k.session == j) = (t.share j).map (fun w => w.2) := by
    intro j t
    rw [Transport.failAll, List.filter_map]
    rfl
  rw [hall, hall, h.waiting, List.map_map, List.map_map, List.map_map]
  rfl

/-- What is queued is taken from both. -/
theorem drain (h : Extract v j taken taken' d d' t t') :
    Extract v j (taken ++ t.queued) (taken' ++ t'.queued) d d' t.drain.2 t'.drain.2 := by
  have hledger : ∀ (taken : List Outgoing) (t : Transport Callback),
      t.drain.2.ledger (taken ++ t.queued) = t.ledger taken :=
    fun taken t => List.append_nil _
  refine { h with placed := ?_, next := ?_, ledger := ?_, taken := h.ledger }
  · rw [hledger]
    exact h.placed
  · rw [hledger]
    exact h.next
  · rw [hledger, hledger]
    exact h.ledger

/-- **The requests in the queues are the same.** -/
theorem requests_queued (h : Extract v j taken taken' d d' t t') :
    t'.queued.map (fun o => o.request) = (v.part t.queued).map (fun o => o.request) := by
  have hledger := congrArg (List.map (fun o : Outgoing => o.request)) h.ledger
  have htaken := congrArg (List.map (fun o : Outgoing => o.request)) h.taken
  rw [requests_renumbered] at hledger htaken
  rw [Transport.ledger, Transport.ledger, Variant.part_append, List.map_append, List.map_append,
    htaken] at hledger
  exact List.append_cancel_left hledger

end Extract

end ModemWatch
