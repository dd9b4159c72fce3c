import Mathlib.Data.List.Nodup
import Mathlib.Data.List.Perm.Basic
import ModemWatch.Proofs.Shares
import ModemWatch.Proofs.Wiring

/-!
# The accounts of a platform

Four parts of the platform keep lists of what they hold for whom: the handlers of each signal, the
open watches, the requests for intervals and the requests to the modem that wait for an answer.  If
nobody but the sessions of a host uses them, these lists can be told from the sessions alone,
whatever has happened so far and in whatever order.  A session that ends takes its own entries off
each list and no others, although the numbers of handlers begin anew on each signal.

* `Host.idsWhere` — the sessions of some description;
* `Host.Relieved` — a host as another was, less the share of one session;
* `Host.accounts` — what stands on the lists, and what an end takes off them.
-/

namespace ModemWatch

/-- Two lists with the same entries for each owner are the same up to order. -/
theorem perm_of_filter_eq {α : Type} [DecidableEq α] (owner : α → SessionId) {l l' : List α}
    (h : ∀ o, l.filter (fun x => owner x == o) = l'.filter (fun x => owner x == o)) :
    l.Perm l' := by
  rw [List.perm_iff_count]
  intro a
  have hshare : ∀ l : List α, (l.filter (fun x => owner x == owner a)).count a = l.count a :=
    fun l => List.count_filter (beq_self_eq_true _)
  rw [← hshare l, ← hshare l', h]

/-- The entries for one owner in a list that names each owner once. -/
theorem filter_flatMap_of_nodup {α : Type} {owner : α → SessionId} {f : SessionId → List α}
    (hf : ∀ j, ∀ x ∈ f j, owner x = j) {ids : List SessionId} (hd : ids.Nodup) (o : SessionId) :
    (ids.flatMap f).filter (fun x => owner x == o) = if o ∈ ids then f o else [] := by
  induction ids with
  | nil => rfl
  | cons j ids ih =>
      obtain ⟨hj, hd⟩ := List.nodup_cons.mp hd
      rw [List.flatMap_cons, List.filter_append, ih hd]
      by_cases ho : j = o
      · subst ho
        have hall : (f j).filter (fun x => owner x == j) = f j :=
          List.filter_eq_self.mpr fun x hx => by simp [hf j x hx]
        rw [hall, if_neg hj, if_pos List.mem_cons_self, List.append_nil]
      · have hnone : (f j).filter (fun x => owner x == o) = [] :=
          List.filter_eq_nil_iff.mpr fun x hx => by simp [hf j x hx, ho]
        simp [hnone, Ne.symm ho]

namespace Dispatcher

theorem cancelAll_cons {τ : Type} [Radio τ Callback] (c : RequestClass) (cs : List RequestClass)
    (d : Dispatcher) (radio : τ) :
    cancelAll (c :: cs) d radio = cancelAll cs (d.cancel c radio).1 (d.cancel c radio).2 := rfl

/-- Dropping requests of several classes forgets what is in flight in them. -/
theorem pending_cancelAll (cs : List RequestClass) (d : Dispatcher) (t : Transport Callback) :
    (cancelAll cs d t).2.pending = t.pending.filter (fun w =>
      !cs.any (fun c => (d.pending.get c).any (fun p => p.serial == w.1))) := by
  induction cs generalizing d t with
  | nil => simp [cancelAll]
  | cons c cs ih =>
      rw [cancelAll_cons]
      cases hp : d.pending.get c with
      | none => simp only [cancel_of_none d t hp, ih, List.any_cons, hp, Option.any_none,
          Bool.false_or]
      | some p =>
          simp only [cancel_of_some d t hp, ih, Transport.forget, List.filter_filter, List.any_cons,
            hp, Option.any_some]
          refine List.filter_congr fun w _ => ?_
          by_cases hw : w.1 = p.serial
          · simp [hw]
          · -- the class that is dropped no longer has a request in flight, and had another before
            have hrest : ∀ e, ((d.pending.set c none).get e).any (fun q => q.serial == w.1) =
                (d.pending.get e).any (fun q => q.serial == w.1) := by
              intro e
              rw [ByClass.get_set]
              split
              · next he => simp [he, hp, Ne.symm hw]
              · rfl
            have hkept : (w.1 != p.serial) = true := by simpa using hw
            have hother : (p.serial == w.1) = false := by simpa using Ne.symm hw
            simp only [hrest, hkept, hother, Bool.and_true, Bool.false_or]

/-- Dropping requests changes nothing about a transport but what waits there. -/
theorem transport_cancelAll (cs : List RequestClass) (d : Dispatcher) (t : Transport Callback) :
    (cancelAll cs d t).2 = { t with pending := (cancelAll cs d t).2.pending } := by
  induction cs generalizing d t with
  | nil => rfl
  | cons c cs ih =>
      have hrest := ih (d.cancel c t).1 (d.cancel c t).2
      rw [cancelAll_cons, hrest, transport_cancel d t c]

end Dispatcher

namespace Host

/-- The sessions of some description, by number. -/
def idsWhere (P : Session → Bool) (h : Host) : List SessionId :=
  (List.range h.sessions.length).filter (fun j => (h.sessions[j]?).any P)

/-- A host as another was, less what one session has of the platform. -/
structure Relieved (h : Host) (j : SessionId) (h' : Host) : Prop where
  handlers : ∀ k, (h'.platform.sources.get k).registry.handlers =
    (h.platform.sources.get k).registry.handlers.filter (fun x => x.owner != j)
  watches : h'.platform.notifier.watches =
    h.platform.notifier.watches.filter (fun w => w.2 != j)
  requests : h'.platform.slot.intervals.requests =
    h.platform.slot.intervals.requests.filter (fun r => r.1 != j)
  transport : h'.platform.transport = { h.platform.transport with
    pending := h.platform.transport.pending.filter (fun w => w.2.session != j) }
  others : ∀ i, i ≠ j → h'.sessions[i]? = h.sessions[i]?

variable {h : Host} {j : SessionId} {s : Session}

theorem nodup_idsWhere (P : Session → Bool) (h : Host) : (h.idsWhere P).Nodup :=
  List.nodup_range.filter _

theorem mem_idsWhere {P : Session → Bool} :
    j ∈ h.idsWhere P ↔ ∃ s : Session, h.sessions[j]? = some s ∧ P s = true := by
  rw [idsWhere, List.mem_filter, List.mem_range, Option.any_eq_true]
  constructor
  · rintro ⟨-, s, hs, hP⟩
    exact ⟨s, hs, hP⟩
  · rintro ⟨s, hs, hP⟩
    exact ⟨(List.getElem?_eq_some_iff.mp hs).1, s, hs, hP⟩

/-- **Handlers**: two for each open session that observes the signal. -/
theorem Subscribed.perm_handlers (hm : h.Subscribed) (k : SignalKind) :
    ((h.platform.sources.get k).registry.handlers.map (fun x => (x.owner, x.event))).Perm
      ((h.idsWhere (fun s => !s.closed && s.tracker.profile.observes k)).flatMap
        (fun j => SignalEvent.all.map (fun event => (j, event)))) := by
  refine perm_of_filter_eq Prod.fst fun o => ?_
  have hheld : ((h.platform.sources.get k).registry.handlers.map
      (fun x => (x.owner, x.event))).filter (fun x => x.1 == o) =
        ((h.platform.sources.heldBy k o).map (fun x => x.event)).map (fun event => (o, event)) := by
    rw [List.filter_map, List.map_map]
    refine List.map_congr_left fun x hx => ?_
    exact congrArg (fun owner => (owner, x.event)) (beq_iff_eq.mp (List.mem_filter.mp hx).2)
  rw [hheld, filter_flatMap_of_nodup (fun j x hx => ?_) (nodup_idsWhere _ h)]
  · by_cases hmem : o ∈ h.idsWhere (fun s => !s.closed && s.tracker.profile.observes k)
    · obtain ⟨s, hs, hobserves⟩ := mem_idsWhere.mp hmem
      rw [Bool.and_eq_true, Bool.not_eq_true', Profile.observes, List.contains_iff_mem] at hobserves
      have hk : k ∈ s.observed := by
        rw [Session.observed, if_neg (by simp [hobserves.1])]
        exact hobserves.2
      rw [if_pos hmem, (hm.held o s hs).events k, if_pos hk]
    · have hnone : (h.platform.sources.heldBy k o).map (fun x => x.event) = [] := by
        cases hs : h.sessions[o]? with
        | none =>
            rw [List.map_eq_nil_iff, Sources.heldBy, List.filter_eq_nil_iff]
            intro x hx howner
            have hlt := hm.owned k x hx
            rw [beq_iff_eq.mp howner] at hlt
            rw [List.getElem?_eq_getElem hlt] at hs
            cases hs
        | some s =>
            rw [(hm.held o s hs).events k, if_neg]
            intro hk
            refine hmem (mem_idsWhere.mpr ⟨s, hs, ?_⟩)
            unfold Session.observed at hk
            split at hk
            · cases hk
            · next hopen =>
                simpa [Profile.observes, Bool.not_eq_true] using ⟨by simpa using hopen, hk⟩
      rw [if_neg hmem, hnone, List.map_nil]
  · obtain ⟨event, -, rfl⟩ := List.mem_map.mp hx
    rfl

/-- **Watches**: one for each open session whose bridge is alive. -/
theorem Watched.perm_watches (hw : h.Watched) :
    (h.platform.notifier.watches.map (fun w => w.2)).Perm
      (h.idsWhere (fun s => !s.closed && s.tracker.isPolling)) := by
  have hnodup : (h.platform.notifier.watches.map (fun w => w.2)).Nodup := by
    refine List.Nodup.map_on ?_ hw.distinct.of_map
    rintro ⟨v, i⟩ hv ⟨w, j⟩ hw' (rfl : i = j)
    obtain ⟨s, hs, hwatch⟩ := (hw.held v i).mp hv
    obtain ⟨t, ht, hwatch'⟩ := (hw.held w i).mp hw'
    obtain rfl : s = t := Option.some.inj (hs.symm.trans ht)
    rw [Option.some.inj (hwatch.symm.trans hwatch')]
  refine (List.perm_ext_iff_of_nodup hnodup (nodup_idsWhere _ h)).mpr fun j => ?_
  rw [mem_idsWhere, List.mem_map]
  constructor
  · rintro ⟨⟨w, i⟩, hmem, rfl⟩
    obtain ⟨s, hs, hwatch⟩ := (hw.held w i).mp hmem
    refine ⟨s, hs, ?_⟩
    rw [Tracker.isPolling_eq, hwatch]
    cases hclosed : s.closed with
    | false => rfl
    | true =>
        rw [hw.ended i s hs hclosed] at hwatch
        cases hwatch
  · rintro ⟨s, hs, hlive⟩
    rw [Bool.and_eq_true, Tracker.isPolling_eq] at hlive
    obtain ⟨w, hwatch⟩ := Option.isSome_iff_exists.mp hlive.2
    exact ⟨(w, j), (hw.held w j).mpr ⟨s, hs, hwatch⟩, rfl⟩

/-- **Requests for intervals**: one for each open session. -/
theorem Booked.perm_owners (hb : h.Booked) :
    h.platform.slot.owners.Perm (h.idsWhere (fun s => !s.closed)) := by
  refine (List.perm_ext_iff_of_nodup hb.distinct (nodup_idsWhere _ h)).mpr fun j => ?_
  rw [hb.held, mem_idsWhere]
  simp only [Bool.not_eq_true']

/-- What a session drops when it ends is what waits under its name. -/
theorem Wired.pending_dropAll (hw : h.Wired) (hs : h.sessions[j]? = some s) :
    (s.dispatcher.dropAll h.platform.transport).2 = { h.platform.transport with
      pending := h.platform.transport.pending.filter (fun w => w.2.session != j) } := by
  rw [Dispatcher.dropAll, Dispatcher.transport_cancelAll, Dispatcher.pending_cancelAll]
  congr 1
  refine List.filter_congr fun w hmem => ?_
  have hentry := hw.owned.waiting (hw.owned.numbered.callback?_eq_some_iff.mpr hmem)
  rw [Bool.eq_iff_iff]
  simp only [Bool.not_eq_true', bne_iff_ne, List.any_eq_false, ne_eq]
  constructor
  · rintro hnone rfl
    rw [entry_board hs] at hentry
    refine hnone w.2.cls (by cases w.2.cls <;> decide) ?_
    rw [hentry]
    exact beq_self_eq_true _
  · intro hother c _ hmine
    rw [Option.any_eq_true] at hmine
    obtain ⟨p, hp, hserial⟩ := hmine
    rw [← entry_board hs] at hp
    exact hother (hw.owned.serial_inj hp hentry (beq_iff_eq.mp hserial)).1.symm

/-- **An end takes away the share of the session that ends.** -/
theorem relieved_shutdown (hm : h.Subscribed) (hwatched : h.Watched) (hw : h.Wired)
    (hs : h.sessions[j]? = some s) (hopen : s.closed = false) : h.Relieved j (h.shutdown j) := by
  rw [Host.shutdown, withSession_of_some hs, Session.shutdown_of_open j h.platform hopen]
  constructor
  · exact Sources.handlers_giveBack hm.tidy (hm.held j s hs)
  · simp only [Notifier.closeAll_eq, (Tracker.watch_stopPolling s.tracker).2]
    refine List.filter_congr fun x hx => ?_
    obtain ⟨w, i⟩ := x
    obtain ⟨t, ht, hwatch⟩ := (hwatched.held w i).mp hx
    by_cases hi : i = j
    · subst hi
      obtain rfl : s = t := Option.some.inj (hs.symm.trans ht)
      simp [hwatch]
    · -- the watch of another session has another number
      have hother : s.tracker.watch ≠ some w := by
        intro hmine
        have hsame := List.inj_on_of_nodup_map hwatched.distinct hx
          ((hwatched.held w j).mpr ⟨s, hs, hmine⟩) rfl
        exact hi (congrArg Prod.snd hsame)
      cases hmine : s.tracker.watch with
      | none => simp [hi]
      | some v =>
          have hne : w ≠ v := fun hv => hother (by rw [hmine, hv])
          simp [hi, hne]
  · rfl
  · exact hw.pending_dropAll hs
  · exact fun i hi => List.getElem?_set_ne (Ne.symm hi)

/-- **The accounts.**  After any row of moves the handlers of a signal are two for each open session
that observes it, the open watches are one for each open session whose bridge is alive, the requests
for intervals are one for each open session, and every number that waits in the transport is that of
a request in flight at an open session.  Ending a session takes off each list what is its own. -/
theorem accounts (slot : String) (interface : Interface) {es : List Move}
    (hes : ∀ e ∈ es, e.Queued) :
    let h := (new slot interface).travel es
    (∀ k, ((h.platform.sources.get k).registry.handlers.map (fun x => (x.owner, x.event))).Perm
      ((h.idsWhere (fun s => !s.closed && s.tracker.profile.observes k)).flatMap
        (fun j => SignalEvent.all.map (fun event => (j, event))))) ∧
    (h.platform.notifier.watches.map (fun w => w.2)).Perm
      (h.idsWhere (fun s => !s.closed && s.tracker.isPolling)) ∧
    h.platform.slot.owners.Perm (h.idsWhere (fun s => !s.closed)) ∧
    (∀ n, h.platform.transport.isPending n = true →
      ∃ (j : SessionId) (s : Session) (c : RequestClass) (p : InFlight),
        h.sessions[j]? = some s ∧ s.closed = false ∧
          s.dispatcher.pending.get c = some p ∧ p.serial = n) ∧
    ∀ (j : SessionId) (s : Session), h.sessions[j]? = some s → s.closed = false →
      h.Relieved j (h.shutdown j) := by
  intro h
  have hswept := swept_new slot interface
  have hinside : ∀ e ∈ es, e.Inside := fun e he => (hes e he).inside
  have hw : h.Wired := (wired_new slot interface).travel hswept hes
  have hm : h.Subscribed := (effect_induction hswept (fun _ _ _ he hm => hm.effect he) hinside
    (subscribed_new slot interface)).2
  have hwatched : h.Watched := (effect_induction hswept (fun _ _ _ he hm => hm.effect he) hinside
    (watched_new slot interface)).2
  have hbooked : h.Booked := (effect_induction hswept (fun _ _ _ he hm => hm.effect he) hinside
    (booked_new slot interface)).2
  refine ⟨hm.perm_handlers, hwatched.perm_watches, hbooked.perm_owners, fun n hn => ?_,
    fun j s hs hopen => relieved_shutdown hm hwatched hw hs hopen⟩
  obtain ⟨k, hk⟩ := Transport.isPending_iff.mp hn
  obtain ⟨s, hs, hopen, hp⟩ := hw.waiting (hw.owned.numbered.callback?_eq_some_iff.mp hk)
  exact ⟨k.session, s, k.cls, ⟨k.ticket, n⟩, hs, hopen, hp, rfl⟩

/-- Three sessions: the first polls, the watch of the second could not be set up, the third has ended
again.  The display has two handlers of each of the first two and nothing of the third, there is one
watch, and ending the second leaves the first what it has. -/
theorem accounts_of_three :
    let es : List Move :=
      [.happen (.start ⟨.deviceState, {}, some "screen"⟩),
       .happen (.failNextWatch "no watch"),
       .happen (.start ⟨.indicationFilter, {}, some "screen"⟩),
       .happen (.start ⟨.deviceState, {}, none⟩),
       .happen (.signal ⟨.display, .state .on⟩),
       .happen (.processOne 1),
       .hand 0 .screenChanged,
       .happen (.respond 1 (.failed .timeout)),
       .happen (.shutdown 2)]
    let h := (new "slot1" .v15).travel es
    ((h.platform.sources.get .display).registry.handlers.map (fun x => (x.owner, x.event))).Perm
      [(0, .validChanged), (0, .stateChanged), (1, .validChanged), (1, .stateChanged)] ∧
    (h.platform.notifier.watches.map (fun w => w.2)).Perm [0] ∧
    h.platform.slot.owners.Perm [0, 1] ∧
    h.platform.transport.isPending 2 = true ∧
    h.Relieved 1 (h.shutdown 1) := by
  intro es h
  have hes : ∀ e ∈ es, e.Queued := by
    intro e he
    simp only [es, List.mem_cons, List.not_mem_nil, or_false] at he
    rcases he with rfl | rfl | rfl | rfl | rfl | rfl | rfl | rfl | rfl <;> trivial
  obtain ⟨hhandlers, hwatches, howners, -, hends⟩ := accounts "slot1" .v15 hes
  obtain ⟨s, hs, hopen⟩ : ∃ s, h.sessions[1]? = some s ∧ s.closed = false := ⟨_, rfl, rfl⟩
  exact ⟨hhandlers .display, hwatches, howners, rfl, hends 1 s hs hopen⟩

end Host

end ModemWatch
