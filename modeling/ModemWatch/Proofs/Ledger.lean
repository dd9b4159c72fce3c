import ModemWatch.Proofs.Mirror

/-!
# The ledger of requests

Requests leave the queue to the modem when somebody takes them; an answer may come long after that.
The ledger of a host is all that was ever queued, what was taken first and what still waits behind
it.  It grows at its end only and its numbers rise.  Whatever waits for an answer stands in the
ledger, under the same number and as a request of the same class.

All that ever happens to a transport is that requests are submitted, forgotten, given up on and
taken, and that it is closed.  What these operations keep, everything that happens on a host keeps.

* `Transport.Lasting` — that the operations other than closing keep something of a transport with
  what was taken from it; `Host.lasting_step` that then happenings do;
* `Transport.Traced` — the invariant of the ledger;
* `Host.traced_step` — every happening keeps it; what is taken moves, and stays in the ledger;
* `Transport.Traced.cls_eq` — the entry under a number tells the class of what waits there.
-/

namespace ModemWatch

namespace Transport

/-- All that was ever queued, oldest first; `taken` is what somebody took. -/
def ledger (taken : List Outgoing) (t : Transport Callback) : List Outgoing := taken ++ t.queued

/-- Every operation but closing keeps something of a transport with what was taken from it. -/
structure Lasting (P : List Outgoing → Transport Callback → Prop) : Prop where
  forget : ∀ {taken : List Outgoing} {t : Transport Callback}, P taken t → ∀ n, P taken (t.forget n)
  failAll : ∀ {taken : List Outgoing} {t : Transport Callback}, P taken t → P taken t.failAll.2
  drain : ∀ {taken : List Outgoing} {t : Transport Callback},
    P taken t → P (taken ++ t.queued) t.drain.2
  submit : ∀ {taken : List Outgoing} {t : Transport Callback} {r : Request} {k : Callback},
    P taken t → (∃ value, r = k.cls.build value t.interface) → P taken (t.submit r k).2

/-- Numbers rise along the ledger, and what waits for an answer stands in it. -/
structure Traced (taken : List Outgoing) (t : Transport Callback) : Prop where
  rising : ((t.ledger taken).map (fun o => o.serial)).Pairwise (fun a b => a < b)
  given : ∀ o ∈ t.ledger taken, o.serial < t.nextSerial
  entered : ∀ w ∈ t.pending, ∃ o ∈ t.ledger taken, o.serial = w.1 ∧ o.request.cls? = some w.2.cls

variable {taken : List Outgoing} {t : Transport Callback}

theorem traced_new (slot : String) (interface : Interface) :
    Traced [] { slot := slot, interface := interface } :=
  ⟨List.Pairwise.nil, fun _ ho => absurd ho List.not_mem_nil,
    fun _ hw => absurd hw List.not_mem_nil⟩

/-- What waits may be forgotten. -/
theorem Traced.sub {t' : Transport Callback} (h : t.Traced taken) (hq : t'.queued = t.queued)
    (hn : t.nextSerial ≤ t'.nextSerial) (hp : ∀ w ∈ t'.pending, w ∈ t.pending) :
    t'.Traced taken := by
  have hledger : t'.ledger taken = t.ledger taken := by rw [ledger, ledger, hq]
  refine ⟨by rw [hledger]; exact h.rising, ?_, ?_⟩
  · intro o ho
    rw [hledger] at ho
    exact Nat.lt_of_lt_of_le (h.given o ho) hn
  · intro w hw
    rw [hledger]
    exact h.entered w (hp w hw)

theorem Traced.forget (h : t.Traced taken) (n : Serial) : (t.forget n).Traced taken :=
  h.sub rfl (Nat.le_refl _) fun _ hw => (List.mem_filter.mp hw).1

theorem Traced.failAll (h : t.Traced taken) : t.failAll.2.Traced taken :=
  h.sub rfl (Nat.le_refl _) fun _ hw => absurd hw List.not_mem_nil

theorem Traced.close (h : t.Traced taken) : t.close.Traced taken :=
  h.sub rfl (Nat.le_refl _) fun _ hw => hw

/-- What is taken stays in the ledger. -/
theorem Traced.drain (h : t.Traced taken) : t.drain.2.Traced (taken ++ t.queued) := by
  have hledger : t.drain.2.ledger (taken ++ t.queued) = t.ledger taken := List.append_nil _
  exact ⟨by rw [hledger]; exact h.rising, by rw [hledger]; exact h.given,
    by rw [hledger]; exact h.entered⟩

/-- A new request stands at the end of the ledger. -/
theorem Traced.submit (h : t.Traced taken) {r : Request} {k : Callback}
    (hr : r.cls? = some k.cls) : (t.submit r k).2.Traced taken := by
  cases hc : t.closed with
  | true =>
      rw [submit_of_closed hc]
      exact h.sub rfl (Nat.le_succ _) fun _ hw => hw
  | false =>
      rw [submit_of_open hc]
      have hledger : ledger taken
          { t with
            nextSerial := t.nextSerial + 1
            queued := t.queued ++ [⟨t.nextSerial, r⟩]
            pending := t.pending ++ [(t.nextSerial, k)] } =
          t.ledger taken ++ [⟨t.nextSerial, r⟩] := (List.append_assoc ..).symm
      refine ⟨?_, ?_, ?_⟩
      · rw [hledger, List.map_append, List.map_singleton, List.pairwise_append]
        refine ⟨h.rising, List.pairwise_singleton _ _, ?_⟩
        intro a ha b hb
        obtain ⟨o, ho, rfl⟩ := List.mem_map.mp ha
        obtain rfl : b = t.nextSerial := List.mem_singleton.mp hb
        exact h.given o ho
      · intro o ho
        rw [hledger] at ho
        rcases List.mem_append.mp ho with ho | ho
        · exact Nat.lt_succ_of_lt (h.given o ho)
        · rw [List.mem_singleton.mp ho]
          exact Nat.lt_succ_self _
      · intro w hw
        rw [hledger]
        rcases List.mem_append.mp hw with hw | hw
        · obtain ⟨o, ho, hs⟩ := h.entered w hw
          exact ⟨o, List.mem_append_left _ ho, hs⟩
        · rw [List.mem_singleton.mp hw]
          exact ⟨_, List.mem_append_right _ (List.mem_singleton_self _), rfl, hr⟩

theorem lasting_traced : Lasting Traced where
  forget := Traced.forget
  failAll := Traced.failAll
  drain := Traced.drain
  submit h hr := by
    obtain ⟨value, rfl⟩ := hr
    exact h.submit (Request.cls?_build ..)

/-- There is one entry under a number. -/
theorem Traced.eq_of_serial (h : t.Traced taken) {o o' : Outgoing} (ho : o ∈ t.ledger taken)
    (ho' : o' ∈ t.ledger taken) (hs : o.serial = o'.serial) : o = o' := by
  have hnodup : ((t.ledger taken).map (fun o => o.serial)).Nodup :=
    h.rising.imp fun hab => Nat.ne_of_lt hab
  exact List.inj_on_of_nodup_map hnodup ho ho' hs

/-- **The entry under a number tells the class of what waits there.** -/
theorem Traced.cls_eq (h : t.Traced taken) {w : Serial × Callback} (hw : w ∈ t.pending)
    {o : Outgoing} (ho : o ∈ t.ledger taken) (hs : o.serial = w.1) :
    o.request.cls? = some w.2.cls := by
  obtain ⟨o', ho', hs', hcls⟩ := h.entered w hw
  rw [h.eq_of_serial ho ho' (hs.trans hs'.symm), hcls]

end Transport

/-! ## What happens on a host -/

namespace Transport.Lasting

variable {P : List Outgoing → Transport Callback → Prop} {taken : List Outgoing}
  {t : Transport Callback} {p : Platform}

theorem cancel (hP : Lasting P) (h : P taken t) (d : Dispatcher) (c : RequestClass) :
    P taken (d.cancel c t).2 := by
  cases hp : d.pending.get c with
  | none => rw [Dispatcher.cancel_of_none d t hp]; exact h
  | some p => rw [Dispatcher.cancel_of_some d t hp]; exact hP.forget h p.serial

theorem send (hP : Lasting P) (h : P taken t) (d : Dispatcher) (id : SessionId) (c : RequestClass)
    (value : Bool) : P taken (d.send id c value t).2.2 := by
  unfold Dispatcher.send
  split
  · have hsubmit := hP.submit (r := c.build value (d.cancel c t).2.interface)
      (k := ⟨id, c, (d.cancel c t).1.nextTicket⟩) (hP.cancel h d c) ⟨value, rfl⟩
    unfold Dispatcher.submit
    simp only [Radio.submit, Radio.interface]
    split
    · next hs => rw [hs] at hsubmit; exact hsubmit
    · next hs => rw [hs] at hsubmit; exact hsubmit
  · exact h

theorem sendAll (hP : Lasting P) (h : P taken t) (id : SessionId) (values : List Attempt)
    (d : Dispatcher) : P taken (Dispatcher.sendAll id values (d, t)).2 := by
  induction values generalizing d t with
  | nil => exact h
  | cons a values ih => exact ih (hP.send h d id a.cls a.value) _

theorem dropAll (hP : Lasting P) (h : P taken t) (d : Dispatcher) :
    P taken (d.dropAll t).2 := by
  unfold Dispatcher.dropAll
  generalize RequestClass.all = cs
  induction cs generalizing d t with
  | nil => exact h
  | cons c cs ih => exact ih (hP.cancel h d c) _

theorem perform (hP : Lasting P) (h : P taken p.transport) (id : SessionId) (s : Session)
    (step : Tracker × List Action) : P taken (s.perform id step p).2.transport := by
  rw [Session.perform_eq]
  exact hP.sendAll h id _ _

theorem handle (hP : Lasting P) (h : P taken p.transport) (id : SessionId) (m : Message)
    (s : Session) : P taken (s.handle id m p).2.transport := by
  cases hopen : s.closed with
  | true => rw [Session.handle_closed hopen]; exact h
  | false =>
      rw [Session.handle_of_open id p hopen]
      exact hP.sendAll h id _ _

theorem processOne (hP : Lasting P) (h : P taken p.transport) (id : SessionId) (s : Session) :
    P taken (s.processOne id p).2.transport := by
  unfold Session.processOne
  split
  · exact h
  · exact hP.handle h id _ _

theorem start (hP : Lasting P) (h : P taken p.transport) (id : SessionId) (m : Monitor) :
    P taken (Session.start id m.variant m.intervals m.watchPath p).2.transport := by
  have hnone : P taken (Session.start id m.variant m.intervals none p).2.transport := by
    rw [Session.start_none]
    exact hP.perform (p := { p with
      sources := (p.sources.subscribeAll id m.variant.profile.signals).2 }) h id _ _
  cases m.watchPath with
  | none => exact hnone
  | some path =>
      rw [Session.start_some]
      generalize Session.start id m.variant m.intervals none p = r at hnone
      cases hw : (r.2.notifier.watch path id).1 with
      | error failure => rw [Session.startPolling_of_error id r.2 hw]; exact hnone
      | ok watch =>
          rw [Session.startPolling_of_ok id r.2 hw]
          exact hP.perform (p := { r.2 with
            notifier := (r.2.notifier.watch path id).2 }) hnone id _ _

theorem shutdown (hP : Lasting P) (h : P taken p.transport) (id : SessionId) (s : Session) :
    P taken (s.shutdown id p).2.transport := by
  cases hopen : s.closed with
  | true => simpa [Session.shutdown, hopen] using h
  | false =>
      rw [Session.shutdown_of_open id p hopen]
      exact hP.dropAll h s.dispatcher

end Transport.Lasting

namespace Host

/-- What a happening takes off the queue to the modem. -/
def takes (h : Host) : Happening → List Outgoing
  | .takeOutgoing => h.platform.transport.queued
  | _ => []

variable {P : List Outgoing → Transport Callback → Prop} {taken : List Outgoing} {h : Host}

theorem lasting_withSession (ht : P taken h.platform.transport) {id : SessionId}
    {f : Session → Platform → Session × Platform}
    (hf : ∀ s, P taken (f s h.platform).2.transport) :
    P taken (h.withSession id f).platform.transport := by
  cases hs : h.sessions[id]? with
  | none => rw [withSession_of_none hs]; exact ht
  | some s => rw [withSession_of_some hs]; exact hf s

/-- **What the operations on a transport keep, happenings keep**, if the queue to the modem is not
closed. -/
theorem lasting_step (hP : Transport.Lasting P) (ht : P taken h.platform.transport) {e : Happening}
    (he : e ≠ .closeOutgoing) : P (taken ++ h.takes e) (h.step e).platform.transport := by
  cases e with
  | takeOutgoing => exact hP.drain ht
  | respond serial a =>
      simp only [step, takes, List.append_nil, platform_respond]
      exact hP.forget ht serial
  | failAll status =>
      simp only [step, takes, List.append_nil, platform_failAll]
      exact hP.failAll ht
  | signal u =>
      simp only [step, takes, List.append_nil, platform_signal]
      exact ht
  | emit event =>
      simp only [step, takes, List.append_nil, platform_emit]
      exact ht
  | start m =>
      simp only [takes, List.append_nil]
      exact hP.start ht _ m
  | processOne id =>
      simp only [takes, List.append_nil]
      exact lasting_withSession ht fun s => hP.processOne ht id s
  | shutdown id =>
      simp only [takes, List.append_nil]
      exact lasting_withSession ht fun s => hP.shutdown ht id s
  | closeOutgoing => exact absurd rfl he
  | failNextWatch | writeScreen | setPower | collectSlot =>
      simp only [takes, List.append_nil]
      exact ht

/-- **Every happening keeps the ledger.** -/
theorem traced_step (ht : h.platform.transport.Traced taken) (e : Happening) :
    (h.step e).platform.transport.Traced (taken ++ h.takes e) := by
  by_cases he : e = .closeOutgoing
  · subst he
    simp only [takes, List.append_nil]
    exact ht.close
  · exact lasting_step Transport.lasting_traced ht he

end Host

end ModemWatch
