import ModemWatch.Proofs.Extracts
import ModemWatch.Proofs.Replaying

/-!
# Hosts in order

What the sessions of a host have of the platform is theirs: handlers, watches and requests in flight
are each known to the session that they belong to, and the ledger knows every request that waits.
All this holds of a new host and through everything that happens.

When the sessions are let work they take turns.  One round is enough, and as every session sends
requests of its own variant only, the requests of a round come in the order of the sessions.

* `Host.InOrder` — the invariants together, kept by `InOrder.step` and `InOrder.run`;
* `Host.settle_eq_processAll` — one round settles a host;
* `Host.exists_queued_settle`, `Host.exists_queued_startAll` — whose requests are queued, in which
  order.
-/

namespace ModemWatch

namespace Host

/-- What waits is of the classes of the session that it waits for. -/
def Classed (h : Host) : Prop :=
  ∀ w ∈ h.platform.transport.pending, ∃ s : Session, h.sessions[w.2.session]? = some s ∧
    w.2.cls ∈ s.tracker.profile.classes

/-- A host in order; `taken` is what was taken from its transport. -/
structure InOrder (taken : List Outgoing) (h : Host) : Prop where
  subscribed : h.Subscribed
  watched : h.Watched
  wired : h.Wired
  swept : h.Swept
  classed : h.Classed
  traced : h.platform.transport.Traced taken

variable {h h' : Host} {taken : List Outgoing}

theorem classed_new (slot : String) (interface : Interface) : (new slot interface).Classed :=
  fun _ hw => absurd hw List.not_mem_nil

/-- What was there before and is of the session's classes still is, if the session keeps its variant
and its place. -/
theorem Classed.set (hc : h.Classed) {id : SessionId} {s u : Session}
    (hs : h.sessions[id]? = some s) (hvariant : u.tracker.variant = s.tracker.variant)
    {p : Platform} (hpending : ∀ w ∈ p.transport.pending, w ∈ h.platform.transport.pending ∨
      w.2.session = id ∧ w.2.cls ∈ s.tracker.profile.classes) :
    (⟨p, h.sessions.set id u⟩ : Host).Classed := by
  intro w hw
  have hlt : id < h.sessions.length := (List.getElem?_eq_some_iff.mp hs).1
  have hprofile : u.tracker.profile = s.tracker.profile := congrArg Variant.profile hvariant
  by_cases hid : w.2.session = id
  · refine ⟨u, by rw [hid]; exact List.getElem?_set_self hlt, ?_⟩
    rw [hprofile]
    rcases hpending w hw with hold | ⟨-, hcls⟩
    · obtain ⟨t, ht, hcls⟩ := hc w hold
      rw [hid, hs] at ht
      rwa [Option.some.inj ht]
    · exact hcls
  · rcases hpending w hw with hold | ⟨hmine, -⟩
    · obtain ⟨t, ht, hcls⟩ := hc w hold
      exact ⟨t, (List.getElem?_set_ne (Ne.symm hid)).trans ht, hcls⟩
    · exact absurd hmine hid

theorem Classed.effect (hc : h.Classed) (he : h.Effect h') : h'.Classed := by
  cases he with
  | posts hp =>
      intro w hw
      refine (hp.exists_iff (fun s => w.2.cls ∈ s.tracker.profile.classes) (fun ms s => ?_) _).mp
        (hc w (hp.pending w hw))
      rw [Session.tracker_receiveAll]
  | @handles id s m queue hs hopen =>
      have hvariant := (Session.same_handle id m s h.platform).variant
      refine hc.set (u := { (s.handle id m h.platform).1 with queue := queue }) hs hvariant
        fun w hw => ?_
      rw [Session.handle_of_open id h.platform hopen] at hw
      refine (Dispatcher.mem_pending_sendAll hw).imp_right ?_
      rintro ⟨hid, a, ha, hcls⟩
      exact ⟨hid, hcls ▸ Tracker.cls_mem_of_handle ha⟩
  | @ends id s hs hopen =>
      rw [Session.shutdown_of_open id h.platform hopen]
      refine hc.set hs (Tracker.recorded_stopPolling s.tracker).variant fun w hw => .inl ?_
      simp only [Dispatcher.dropAll, Dispatcher.pending_cancelAll] at hw
      exact (List.mem_filter.mp hw).1
  | starts m =>
      obtain ⟨values, hvalues, hsends⟩ := Session.sends_start h.sessions.length m h.platform
      have hvariant := (Session.started h.sessions.length m h.platform).variant
      intro w hw
      have hsent : (Session.start h.sessions.length m.variant m.intervals m.watchPath
          h.platform).2.transport = _ := congrArg Prod.snd hsends
      simp only [hsent] at hw
      rcases Dispatcher.mem_pending_sendAll hw with hw | ⟨hid, a, ha, hcls⟩
      · obtain ⟨t, ht, hcls⟩ := hc w hw
        have hlt : w.2.session < h.sessions.length := (List.getElem?_eq_some_iff.mp ht).1
        exact ⟨t, (List.getElem?_append_left hlt).trans ht, hcls⟩
      · refine ⟨_, by rw [hid]; exact List.getElem?_concat_length, ?_⟩
        rw [Tracker.profile, hvariant, hcls]
        exact hvalues a ha

theorem inOrder_new (slot : String) (interface : Interface) :
    (new slot interface).InOrder [] where
  subscribed := subscribed_new slot interface
  watched := watched_new slot interface
  wired := wired_new slot interface
  swept := swept_new slot interface
  classed := classed_new slot interface
  traced := Transport.traced_new slot interface

/-- **Everything that happens keeps a host in order.** -/
theorem InOrder.step (ho : h.InOrder taken) (e : Happening) :
    (h.step e).InOrder (taken ++ h.takes e) := by
  have he : h.Effect (h.step e) := effect_move (e := .happen e) ho.swept trivial
  exact ⟨ho.subscribed.effect he, ho.watched.effect he, ho.wired.step ho.swept e,
    ho.swept.effect he, ho.classed.effect he, traced_step ho.traced e⟩

/-- Happenings in which nobody takes requests from the transport. -/
theorem InOrder.run (ho : h.InOrder taken) {es : List Happening} (hes : .takeOutgoing ∉ es) :
    (h.run es).InOrder taken := by
  induction es generalizing h with
  | nil => exact ho
  | cons e es ih =>
      rw [List.mem_cons, not_or] at hes
      have hnone : h.takes e = [] := by
        cases e with
        | takeOutgoing => exact absurd rfl hes.1
        | _ => rfl
      have hone := ho.step e
      rw [hnone, List.append_nil] at hone
      exact ih hone hes.2

theorem InOrder.numbered (ho : h.InOrder taken) : h.platform.transport.Numbered :=
  ho.wired.owned.numbered

theorem InOrder.silently (ho : h.InOrder taken) (hs : h.Silently h') : h'.InOrder taken := by
  obtain ⟨es, hes, rfl⟩ := hs
  exact ho.run fun hmem => hes _ hmem

theorem InOrder.processOne (ho : h.InOrder taken) (id : SessionId) :
    (h.processOne id).InOrder taken := by
  have hone := ho.step (.processOne id)
  rwa [show h.takes (.processOne id) = [] from rfl, List.append_nil] at hone

/-- What a session does in its turn keeps a host in order. -/
theorem InOrder.process (ho : h.InOrder taken) (id : SessionId) :
    (h.process id).2.InOrder taken := by
  rw [process_eq_run]
  refine ho.run fun hmem => ?_
  cases (List.mem_replicate.mp hmem).2

theorem InOrder.settle (ho : h.InOrder taken) : h.settle.InOrder taken := by
  obtain ⟨es, hes, hrun⟩ := exists_run_settle h
  rw [hrun]
  refine ho.run fun hmem => ?_
  obtain ⟨id, heq⟩ := hes _ hmem
  cases heq

theorem variants_processOne (id : SessionId) (h : Host) :
    (h.processOne id).variants = h.variants :=
  (variants_step h (.processOne id)).trans (List.append_nil _)

theorem variants_process (id : SessionId) (h : Host) : (h.process id).2.variants = h.variants := by
  rw [process_eq_run, variants_run, List.flatMap_replicate]
  simp [Happening.starts]

/-! ## One round settles a host -/

theorem process_of_empty {id : SessionId} (hempty : ∀ s, h.sessions[id]? = some s → s.queue = []) :
    h.process id = (0, h) := by
  cases hs : h.sessions[id]? with
  | none => rw [process, withSession_of_none hs, queued, hs]
  | some s =>
      rw [process, withSession_of_some hs, Session.process_of_empty (hempty s hs), put_back hs,
        queued, hs]
      simp only [hempty s hs, List.length_nil]

theorem processEach_eq_foldl (ids : List SessionId) (h : Host) :
    (processEach ids h).2 = ids.foldl (fun h id => (h.process id).2) h := by
  induction ids generalizing h with
  | nil => rfl
  | cons id ids ih => exact ih (h.process id).2

theorem processEach_of_idle (hidle : h.Idle) (ids : List SessionId) :
    (processEach ids h).2 = h := by
  induction ids with
  | nil => rfl
  | cons id ids ih =>
      have hone : h.process id = (0, h) :=
        process_of_empty fun s hs => hidle s (List.mem_of_getElem? hs)
      simp only [processEach, hone]
      exact ih

/-- **One round settles a host**: the sessions take turns in their order, and nothing comes up
meanwhile. -/
theorem settle_eq_processAll (h : Host) : h.settle = h.processAll.2 := by
  -- after the first round nothing waits, and further rounds do nothing
  have hagain : ∀ rounds, settleWithin rounds h.processAll.2 = h.processAll.2 := by
    intro rounds
    have hsame : h.processAll.2.processAll.2 = h.processAll.2 :=
      processEach_of_idle (idle_processAll h) _
    induction rounds with
    | zero => rfl
    | succ rounds ih =>
        simp only [settleWithin, hsame, ih, ite_self]
  rw [settle, settleWithin]
  simp only [hagain, ite_self]

/-- A host with nothing waiting is settled. -/
theorem settle_of_idle (hidle : h.Idle) : h.settle = h := by
  rw [settle_eq_processAll]
  exact processEach_of_idle hidle _

/-! ## Whose requests are queued -/

/-- A request is of the variant of a session. -/
def Sourced (id : SessionId) (h : Host) (o : Outgoing) : Prop :=
  ∃ v, h.variants[id]? = some v ∧ v.owns o = true

theorem Silently.queued_eq (hs : h.Silently h') :
    h'.platform.transport.queued = h.platform.transport.queued := by
  have hstep : ∀ (h : Host) (e : Happening), e.Silent →
      (h.step e).platform.transport.queued = h.platform.transport.queued := by
    intro h e he
    cases e with
    | start | processOne | takeOutgoing => exact absurd he not_false
    | signal u => rw [step, platform_signal]
    | respond n a => rw [step, platform_respond]; rfl
    | failAll status => rw [step, platform_failAll]; rfl
    | emit event => rw [step, platform_emit]
    | shutdown id =>
        cases hget : h.sessions[id]? with
        | none => rw [step, shutdown, withSession_of_none hget]
        | some s =>
            cases hopen : s.closed with
            | true => rw [step, shutdown_of_closed hget hopen]
            | false =>
                rw [step, shutdown, withSession_of_some hget, Session.shutdown_of_open id _ hopen,
                  Dispatcher.transport_dropAll]
    | closeOutgoing | failNextWatch | writeScreen | setPower | collectSlot => rfl
  obtain ⟨es, hes, rfl⟩ := hs
  induction es generalizing h with
  | nil => rfl
  | cons e es ih =>
      refine (ih (h := h.step e) fun e' he' => hes e' (List.mem_cons_of_mem _ he')).trans ?_
      exact hstep h e (hes e List.mem_cons_self)

theorem exists_queued_processOne (id : SessionId) (h : Host) :
    ∃ sent, (h.processOne id).platform.transport.queued = h.platform.transport.queued ++ sent ∧
      ∀ o ∈ sent, h.Sourced id o := by
  rcases processOne_cases h id with heq | ⟨s, m, rest, hs, -, heq⟩
  · exact ⟨[], by rw [heq, List.append_nil], fun o ho => absurd ho List.not_mem_nil⟩
  · obtain ⟨sent, hsent, hmine⟩ := Session.exists_queued_handle id m s h.platform
    refine ⟨sent, by rw [heq]; exact hsent, fun o ho => ?_⟩
    obtain ⟨c, hc, hcls, -⟩ := hmine o ho
    refine ⟨s.tracker.variant, ?_, Variant.owns_of_mem hcls hc⟩
    rw [variants, List.getElem?_map, hs, Option.map_some]

/-- **What a session queues in its turn** is of its own variant. -/
theorem exists_queued_process (id : SessionId) (h : Host) :
    ∃ sent, (h.process id).2.platform.transport.queued = h.platform.transport.queued ++ sent ∧
      ∀ o ∈ sent, h.Sourced id o := by
  rw [process_eq_run]
  generalize h.queued id = n
  induction n generalizing h with
  | zero => exact ⟨[], (List.append_nil _).symm, fun o ho => absurd ho List.not_mem_nil⟩
  | succ n ih =>
      obtain ⟨new, hnew, hfirst⟩ := exists_queued_processOne id h
      obtain ⟨sent, hsent, hlater⟩ := ih (h.processOne id)
      refine ⟨new ++ sent, ?_, fun o ho => ?_⟩
      · rw [List.replicate_succ, ← List.append_assoc, ← hnew]
        exact hsent
      · rcases List.mem_append.mp ho with ho | ho
        · exact hfirst o ho
        · have hsourced := hlater o ho
          rwa [Sourced, variants_processOne] at hsourced

theorem exists_queued_processEach (ids : List SessionId) (h : Host) :
    ∃ parts : List (List Outgoing), (processEach ids h).2.platform.transport.queued =
        h.platform.transport.queued ++ parts.flatten ∧
      List.Forall₂ (fun id part => ∀ o ∈ part, h.Sourced id o) ids parts := by
  induction ids generalizing h with
  | nil => exact ⟨[], (List.append_nil _).symm, .nil⟩
  | cons id ids ih =>
      obtain ⟨part, hpart, hmine⟩ := exists_queued_process id h
      obtain ⟨parts, hparts, hothers⟩ := ih (h.process id).2
      refine ⟨part :: parts, ?_, .cons hmine ?_⟩
      · rw [List.flatten_cons, ← List.append_assoc, ← hpart]
        exact hparts
      · simpa only [Sourced, variants_process] using hothers

/-- **The requests of a round come in the order of the sessions.** -/
theorem exists_queued_settle (h : Host) :
    ∃ parts : List (List Outgoing), h.settle.platform.transport.queued =
        h.platform.transport.queued ++ parts.flatten ∧
      List.Forall₂ (fun v part => ∀ o ∈ part, v.owns o = true) h.variants parts := by
  obtain ⟨parts, hparts, hmine⟩ := exists_queued_processEach (List.range h.sessions.length) h
  refine ⟨parts, by rw [settle_eq_processAll]; exact hparts, ?_⟩
  have hlength : h.variants.length = h.sessions.length := List.length_map _
  rw [List.forall₂_iff_get] at hmine ⊢
  obtain ⟨hlen, hmine⟩ := hmine
  rw [List.length_range] at hlen
  refine ⟨hlength.trans hlen, fun i hi hi' o ho => ?_⟩
  rw [hlength] at hi
  obtain ⟨v, hv, hown⟩ := hmine i (by rwa [List.length_range]) hi' o ho
  rw [List.get_eq_getElem, List.getElem_range, List.getElem?_eq_getElem (by omega)] at hv
  rw [List.get_eq_getElem, Option.some.inj hv]
  exact hown

/-- The requests of sessions that start come in the order of their monitors. -/
theorem exists_queued_startAll (monitors : List Monitor) (h : Host) :
    ∃ parts : List (List Outgoing), (h.startAll monitors).platform.transport.queued =
        h.platform.transport.queued ++ parts.flatten ∧
      List.Forall₂ (fun m part => ∀ o ∈ part, m.variant.owns o = true) monitors parts := by
  induction monitors generalizing h with
  | nil => exact ⟨[], (List.append_nil _).symm, .nil⟩
  | cons m monitors ih =>
      obtain ⟨values, hclasses, hsends⟩ := Session.sends_start h.sessions.length m h.platform
      obtain ⟨part, hpart, hmine⟩ := Dispatcher.exists_queued_sendAll h.sessions.length values {}
        h.platform.transport
      obtain ⟨parts, hparts, hothers⟩ := ih (h.start m)
      refine ⟨part :: parts, ?_, .cons (fun o ho => ?_) hothers⟩
      · have hstart : (h.start m).platform.transport.queued =
            h.platform.transport.queued ++ part := by
          rw [← hpart, ← hsends]
          rfl
        rw [List.flatten_cons, ← List.append_assoc, ← hstart]
        exact hparts
      · obtain ⟨a, ha, hcls, -⟩ := hmine o ho
        exact Variant.owns_of_mem hcls (hclasses a ha)

end Host

end ModemWatch
