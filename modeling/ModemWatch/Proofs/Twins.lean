import ModemWatch.Proofs.Extracts
import ModemWatch.Proofs.Lines
import ModemWatch.Proofs.Order

/-!
# Sessions with and without company

A session that shares a platform with sessions of other variants gets on as it would if it were the
only one.  Compare two hosts, one with company and one without.  The devices show the same, and the
session has a twin on the other host: the two know the same, the same messages wait for them, and
what one does to the shared transport the other does to the one that it has for itself.  What happens
to both devices keeps them twins, and so does what happens to the company alone.

* `Session.Like`, `Host.Twin` — the relation;
* `Host.Twin.signal`, `emit`, `failAll`, `respond`, `processOne`, `shutdown`, `start` — what happens
  to both;
* `Host.Twin.respond_other`, `processOne_other`, `shutdown_other`, `start_other` — what happens to
  the company.
-/

namespace ModemWatch

/-- A session of the variant and another one that knows the same and for which the same messages
wait.  The numbers of their watches may differ. -/
structure Session.Like (v : Variant) (s s' : Session) : Prop where
  variant : s.tracker.variant = v
  tracker : s'.tracker.unnumbered = s.tracker.unnumbered
  queue : s'.queue = s.queue
  closed : s'.closed = s.closed

namespace Host

/-- The first session of `g` is to `g` what session `j` of `h` is to `h`. -/
structure Twin (v : Variant) (j : SessionId) (taken taken' : List Outgoing) (h g : Host) :
    Prop where
  snapshot : g.platform.sources.snapshot = h.platform.sources.snapshot
  sample : g.platform.sample = h.platform.sample
  session : ∃ s s' : Session, h.sessions[j]? = some s ∧ g.sessions[0]? = some s' ∧ s.Like v s' ∧
    Extract v j taken taken' s.dispatcher s'.dispatcher h.platform.transport g.platform.transport

end Host

namespace Session.Like

variable {v : Variant} {s s' : Session}

theorem variant' (hl : s.Like v s') : s'.tracker.variant = v := by
  have hsame := congrArg Tracker.variant hl.tracker
  exact hsame.trans hl.variant

theorem observed (hl : s.Like v s') : s'.observed = s.observed := by
  rw [Session.observed, Session.observed, hl.closed, Tracker.profile, Tracker.profile, hl.variant',
    hl.variant]

theorem isPolling (hl : s.Like v s') : s'.tracker.isPolling = s.tracker.isPolling := by
  rw [← Tracker.isPolling_unnumbered, hl.tracker, Tracker.isPolling_unnumbered]

theorem receiveAll (hl : s.Like v s') (ms : List Message) :
    (s.receiveAll ms).Like v (s'.receiveAll ms) where
  variant := by rw [tracker_receiveAll]; exact hl.variant
  tracker := by rw [tracker_receiveAll, tracker_receiveAll]; exact hl.tracker
  queue := by
    cases hc : s.closed with
    | true =>
        rw [Session.receiveAll, Session.receiveAll, if_pos hc, if_pos (hl.closed.trans hc)]
        exact hl.queue
    | false => rw [queue_receiveAll hc, queue_receiveAll (hl.closed.trans hc), hl.queue]
  closed := by rw [closed_receiveAll, closed_receiveAll]; exact hl.closed

end Session.Like

namespace Host

variable {v : Variant} {j : SessionId} {taken taken' : List Outgoing} {h g h' g' : Host}

/-- The same mail arrives for both. -/
theorem Twin.receive (ht : Twin v j taken taken' h g) {ms : List Message}
    (hs : h'.sessions[j]? = (h.sessions[j]?).map (Session.receiveAll ms))
    (hs' : g'.sessions[0]? = (g.sessions[0]?).map (Session.receiveAll ms))
    (hsnapshot : g'.platform.sources.snapshot = h'.platform.sources.snapshot)
    (hsample : g'.platform.sample = h'.platform.sample)
    (hextract : ∀ {d d' : Dispatcher}, Extract v j taken taken' d d' h.platform.transport
      g.platform.transport → Extract v j taken taken' d d' h'.platform.transport
        g'.platform.transport) : Twin v j taken taken' h' g' where
  snapshot := hsnapshot
  sample := hsample
  session := by
    obtain ⟨s, s', hget, hget', hlike, hx⟩ := ht.session
    refine ⟨s.receiveAll ms, s'.receiveAll ms, by rw [hs, hget]; rfl, by rw [hs', hget']; rfl,
      hlike.receiveAll ms, ?_⟩
    rw [Session.dispatcher_receiveAll, Session.dispatcher_receiveAll]
    exact hextract hx

/-- **A signal changes on both devices.** -/
theorem Twin.signal (ht : Twin v j taken taken' h g) (hh : h.Subscribed) (hg : g.Subscribed)
    (u : SignalUpdate) : Twin v j taken taken' (h.signal u) (g.signal u) := by
  obtain ⟨s, s', hs, hs', hlike, -⟩ := ht.session
  have hreading : (g.platform.sources.get u.kind).reading =
      (h.platform.sources.get u.kind).reading := by
    rw [← Sources.get_snapshot, ← Sources.get_snapshot, ht.snapshot]
  have hcount : (g.platform.sources.write u).2.count 0 =
      (h.platform.sources.write u).2.count j := by
    rw [Sources.count_write (hg.held 0 s' hs'), Sources.count_write (hh.held j s hs), hreading,
      hlike.observed]
  refine ht.receive (sessions_signal h u j) ?_ ?_ ?_ fun hx => ?_
  · rw [sessions_signal, hcount]
  · rw [platform_signal, platform_signal, Sources.snapshot_write, Sources.snapshot_write,
      ht.snapshot]
  · rw [platform_signal, platform_signal]
    exact ht.sample
  · rw [platform_signal, platform_signal]
    exact hx

/-- How often a session hears of an event of its watch. -/
theorem Watched.count_listeners (hw : h.Watched) {s : Session} (hs : h.sessions[j]? = some s) :
    h.platform.notifier.listeners.count j = if s.tracker.isPolling then 1 else 0 := by
  have hall : h.platform.notifier.listeners.count j = _ := hw.perm_watches.count_eq j
  rw [hall, (nodup_idsWhere _ h).count]
  refine if_congr ?_ rfl rfl
  rw [mem_idsWhere, hs]
  constructor
  · rintro ⟨t, ht, hlive⟩
    obtain rfl := Option.some.inj ht
    exact (Bool.and_eq_true_iff.mp hlive).2
  · intro hlive
    refine ⟨s, rfl, ?_⟩
    cases hclosed : s.closed with
    | false => exact hlive
    | true =>
        rw [Tracker.isPolling_eq, hw.ended j s hs hclosed] at hlive
        cases hlive

/-- **The watches report an event on both devices.** -/
theorem Twin.emit (ht : Twin v j taken taken' h g) (hh : h.Watched) (hg : g.Watched)
    (event : WatchEvent) : Twin v j taken taken' (h.emit event) (g.emit event) := by
  obtain ⟨s, s', hs, hs', hlike, -⟩ := ht.session
  refine ht.receive (sessions_emit h event j) ?_ ?_ ?_ fun hx => ?_
  · rw [sessions_emit, hg.count_listeners hs', hh.count_listeners hs, hlike.isPolling]
  · rw [platform_emit, platform_emit]
    exact ht.snapshot
  · rw [platform_emit, platform_emit]
    exact ht.sample
  · rw [platform_emit, platform_emit]
    exact hx

/-- **The radio gives up on everything** on both devices. -/
theorem Twin.failAll (ht : Twin v j taken taken' h g) (status : TxStatus) :
    Twin v j taken taken' (h.failAll status).2 (g.failAll status).2 := by
  obtain ⟨s, s', hs, hs', hlike, hx⟩ := ht.session
  refine ht.receive (sessions_failAll h status j) ?_ ?_ ?_ fun hx => ?_
  · rw [sessions_failAll, hx.answers_failAll]
  · rw [platform_failAll, platform_failAll]
    exact ht.snapshot
  · rw [platform_failAll, platform_failAll]
    exact ht.sample
  · rw [platform_failAll, platform_failAll]
    exact hx.failAll

/-- **A request of the variant is answered**: on the other host it is the one in the same place. -/
theorem Twin.respond (ht : Twin v j taken taken' h g) (hh : h.InOrder taken) (hg : g.InOrder taken')
    {i : Nat} {o : Outgoing} (ho : (v.part (h.platform.transport.ledger taken))[i]? = some o)
    (a : Completion) :
    Twin v j taken taken' (h.respond o.serial a).2 (g.respond (i + 1) a).2 := by
  obtain ⟨s, s', hs, hs', hlike, hx⟩ := ht.session
  refine ht.receive (sessions_respond h o.serial a j) ?_ ?_ ?_ fun hx => ?_
  · rw [sessions_respond, hx.answers_forget hh.traced hh.numbered hg.numbered ho]
  · rw [platform_respond, platform_respond]
    exact ht.snapshot
  · rw [platform_respond, platform_respond]
    exact ht.sample
  · rw [platform_respond, platform_respond]
    exact hx.forget hh.traced ho

/-- What waits for the session is of its variant. -/
theorem Twin.owns_of_waiting (ht : Twin v j taken taken' h g) (hh : h.InOrder taken)
    {w : Serial × Callback} (hw : w ∈ h.platform.transport.share j) {o : Outgoing}
    (ho : o ∈ h.platform.transport.ledger taken) (hserial : o.serial = w.1) : v.owns o = true := by
  obtain ⟨hpending, hsession⟩ := Transport.mem_share.mp hw
  obtain ⟨s, s', hs, -, hlike, -⟩ := ht.session
  obtain ⟨t, hget, hcls⟩ := hh.classed w hpending
  rw [hsession, hs] at hget
  rw [← Option.some.inj hget, Tracker.profile, hlike.variant] at hcls
  exact Variant.owns_of_mem (hh.traced.cls_eq hpending ho hserial) hcls

/-- The answer to a request that is not the session's does not show. -/
theorem Twin.respond_other (ht : Twin v j taken taken' h g) (hh : h.InOrder taken) {n : Serial}
    (hnone : ∀ w ∈ h.platform.transport.share j, w.1 ≠ n) (a : Completion) :
    Twin v j taken taken' (h.respond n a).2 g := by
  -- whoever hears of the answer, it is not this session
  have hmail : (h.platform.transport.callback? n).toList.filter (fun k => k.session == j) = [] := by
    rw [hh.numbered.filter_callback?, List.map_eq_nil_iff, List.filter_eq_nil_iff]
    intro w hw hn
    exact hnone w hw (beq_iff_eq.mp hn)
  refine ht.receive (sessions_respond h n a j) ?_ ?_ ?_ fun hx => ?_
  · rw [hmail]
    simp [show Session.receiveAll [] = id from funext Session.receiveAll_nil]
  · rw [platform_respond]
    exact ht.snapshot
  · rw [platform_respond]
    exact ht.sample
  · rw [platform_respond]
    exact hx.forget_other hnone

/-- The two platforms change, while both go on showing the same. -/
theorem Twin.platforms (ht : Twin v j taken taken' h g) {more more' : List Outgoing}
    {p p' : Platform} (hsnapshot : p'.sources.snapshot = p.sources.snapshot)
    (hsample : p'.sample = p.sample)
    (hextract : ∀ {d d' : Dispatcher}, Extract v j taken taken' d d' h.platform.transport
      g.platform.transport → Extract v j more more' d d' p.transport p'.transport) :
    Twin v j more more' { h with platform := p } { g with platform := p' } where
  snapshot := hsnapshot
  sample := hsample
  session := by
    obtain ⟨s, s', hs, hs', hlike, hx⟩ := ht.session
    exact ⟨s, s', hs, hs', hlike, hextract hx⟩

theorem Twin.writeScreen (ht : Twin v j taken taken' h g) (content : FileContent) :
    Twin v j taken taken' (h.writeScreen content) (g.writeScreen content) := by
  refine ht.platforms ht.snapshot ?_ fun hx => hx
  have hpower := congrArg PollSample.battery ht.sample
  exact congrArg (PollSample.mk content.screenOn) hpower

theorem Twin.setPower (ht : Twin v j taken taken' h g) (power : PowerState) :
    Twin v j taken taken' (h.setPower power) (g.setPower power) := by
  refine ht.platforms ht.snapshot ?_ fun hx => hx
  have hscreen := congrArg PollSample.screenOn ht.sample
  exact congrArg (fun on => PollSample.mk on power) hscreen

theorem Twin.setSignal (ht : Twin v j taken taken' h g) (hh : h.InOrder taken)
    (hg : g.InOrder taken') (k : SignalKind) (valid : Option Bool) (state : Option k.State) :
    Twin v j taken taken' (h.setSignal k valid state) (g.setSignal k valid state) := by
  cases valid with
  | none =>
      cases state with
      | none => exact ht
      | some state => exact ht.signal hh.subscribed hg.subscribed ⟨k, .state state⟩
  | some valid =>
      have hone := ht.signal hh.subscribed hg.subscribed ⟨k, .valid valid⟩
      cases state with
      | none => exact hone
      | some state =>
          have hh' := hh.silently (silently_step h (e := .signal ⟨k, .valid valid⟩) trivial)
          have hg' := hg.silently (silently_step g (e := .signal ⟨k, .valid valid⟩) trivial)
          exact hone.signal hh'.subscribed hg'.subscribed ⟨k, .state state⟩

theorem Twin.screen (ht : Twin v j taken taken' h g) (hh : h.InOrder taken)
    (hg : g.InOrder taken') (on : Bool) :
    Twin v j taken taken' ((h.writeScreen (.ofScreen on)).emit .changed)
      ((g.writeScreen (.ofScreen on)).emit .changed) := by
  have hh' := hh.silently (silently_step h (e := .writeScreen (.ofScreen on)) trivial)
  have hg' := hg.silently (silently_step g (e := .writeScreen (.ofScreen on)) trivial)
  exact (ht.writeScreen (.ofScreen on)).emit hh'.watched hg'.watched .changed

/-- Somebody takes the requests that are queued, and collects the records of the slots. -/
theorem Twin.collect (ht : Twin v j taken taken' h g) :
    Twin v j (taken ++ h.platform.transport.queued) (taken' ++ g.platform.transport.queued)
      h.takeOutgoing.2.collectSlot.2 g.takeOutgoing.2.collectSlot.2 :=
  ht.platforms ht.snapshot ht.sample fun hx => hx.drain

/-- Nobody takes anything from the transport of the session that is alone. -/
theorem Twin.collect_other (ht : Twin v j taken taken' h g)
    (hnone : g.platform.transport.queued = []) :
    Twin v j (taken ++ h.platform.transport.queued) taken' h.takeOutgoing.2.collectSlot.2 g := by
  refine ht.platforms ht.snapshot ht.sample fun hx => ?_
  have hsame : g.platform.transport.drain.2 = g.platform.transport := by
    rw [Transport.drain, ← hnone]
  have hdrained := hx.drain
  rwa [hsame, hnone, List.append_nil] at hdrained

/-! ## Working -/

/-- **Both handle their oldest message.** -/
theorem Twin.processOne (ht : Twin v j taken taken' h g) (hh : h.InOrder taken)
    (hg : g.InOrder taken') : Twin v j taken taken' (h.processOne j) (g.processOne 0) := by
  obtain ⟨s, s', hs, hs', hlike, hx⟩ := ht.session
  have hlt : j < h.sessions.length := (List.getElem?_eq_some_iff.mp hs).1
  have hlt' : 0 < g.sessions.length := (List.getElem?_eq_some_iff.mp hs').1
  rw [Host.processOne, Host.processOne, withSession_of_some hs, withSession_of_some hs']
  cases hq : s.queue with
  | nil =>
      rw [Session.processOne_of_empty j hq, Session.processOne_of_empty 0 (hlike.queue.trans hq),
        put_back hs, put_back hs']
      exact ht
  | cons m rest =>
      have hopen := hh.swept.open_of_cons hs hq
      have hopen' := hlike.closed.trans hopen
      obtain ⟨htracker, hsends, -⟩ := Tracker.handle_alike hlike.tracker h.platform.sample m
      rw [Session.processOne_of_cons hq, Session.processOne_of_cons (hlike.queue.trans hq),
        Session.handle_of_open j h.platform hopen, Session.handle_of_open 0 g.platform hopen',
        ht.sample, hsends]
      refine ⟨ht.snapshot, ht.sample, _, _, List.getElem?_set_self hlt,
        List.getElem?_set_self hlt', ⟨?_, htracker, rfl, hlike.closed⟩, ?_⟩
      · exact (Tracker.recorded_handle h.platform.sample m s.tracker).variant.trans hlike.variant
      · have hclasses : ∀ a ∈ Action.sends (s.tracker.handle h.platform.sample m).2,
            a.cls ∈ v.profile.classes := by
          intro a ha
          have hmine := Tracker.cls_mem_of_handle ha
          rwa [Tracker.profile, hlike.variant] at hmine
        have hdesk := desks_board hs
        have hdesk' := desks_board hs'
        have hsent := Extract.sendAll (v := v) (j := j)
          hh.wired.owned hg.wired.owned (by rw [hdesk, hdesk']; exact hx) hclasses
        rw [hdesk, hdesk'] at hsent
        exact hsent.hear m

/-- **What another session works off does not show.** -/
theorem Twin.processOne_other (ht : Twin v j taken taken' h g) (hh : h.InOrder taken)
    {i : SessionId} (hi : i ≠ j) (hv : h.variants[i]? ≠ some v) :
    Twin v j taken taken' (h.processOne i) g := by
  rcases processOne_cases h i with heq | ⟨t, m, rest, htget, hq, heq⟩
  · rw [heq]
    exact ht
  · have hopen := hh.swept.open_of_cons htget hq
    have hclasses : ∀ a ∈ Action.sends (t.tracker.handle h.platform.sample m).2,
        a.cls ∉ v.profile.classes := by
      intro a ha hmine
      refine hv ?_
      rw [variants, List.getElem?_map, htget, Option.map_some,
        Profile.variant_eq_of_classes (Tracker.cls_mem_of_handle ha) hmine]
    obtain ⟨s, s', hs, hs', hlike, hx⟩ := ht.session
    rw [heq, Session.handle_of_open i h.platform hopen]
    refine ⟨ht.snapshot, ht.sample, s, s', (List.getElem?_set_ne hi).trans hs, hs', hlike, ?_⟩
    have hsent := Extract.sendAll_other (b := h.board) hh.wired.owned (Ne.symm hi) hx hclasses
    rw [desks_board htget] at hsent
    exact hsent

/-! ## Ending -/

/-- **Both end.** -/
theorem Twin.shutdown (ht : Twin v j taken taken' h g) (hh : h.InOrder taken)
    (hg : g.InOrder taken') : Twin v j taken taken' (h.shutdown j) (g.shutdown 0) := by
  obtain ⟨s, s', hs, hs', hlike, hx⟩ := ht.session
  have hlt : j < h.sessions.length := (List.getElem?_eq_some_iff.mp hs).1
  have hlt' : 0 < g.sessions.length := (List.getElem?_eq_some_iff.mp hs').1
  cases hopen : s.closed with
  | true =>
      rw [shutdown_of_closed hs hopen, shutdown_of_closed hs' (hlike.closed.trans hopen)]
      exact ht
  | false =>
      have hopen' := hlike.closed.trans hopen
      obtain ⟨htracker, -, -⟩ :=
        Tracker.handle_alike hlike.tracker h.platform.sample (.watchFailed "")
      rw [Host.shutdown, Host.shutdown, withSession_of_some hs, withSession_of_some hs',
        Session.shutdown_of_open j _ hopen, Session.shutdown_of_open 0 _ hopen']
      refine ⟨?_, ht.sample, _, _, List.getElem?_set_self hlt, List.getElem?_set_self hlt',
        ⟨?_, htracker, rfl, rfl⟩, ?_⟩
      · simp only [Sources.snapshot_unsubscribeAll, ht.snapshot]
      · exact (Tracker.recorded_stopPolling s.tracker).variant.trans hlike.variant
      · have hdesk := desks_board hs
        have hdesk' := desks_board hs'
        have hdropped := Extract.dropAll (v := v) (j := j)
          hh.wired.owned hg.wired.owned (by rw [hdesk, hdesk']; exact hx)
        rw [hdesk, hdesk'] at hdropped
        exact hdropped

/-- The end of another session does not show. -/
theorem Twin.shutdown_other (ht : Twin v j taken taken' h g) (hh : h.InOrder taken)
    {i : SessionId} (hi : i ≠ j) : Twin v j taken taken' (h.shutdown i) g := by
  cases hget : h.sessions[i]? with
  | none =>
      rw [Host.shutdown, withSession_of_none hget]
      exact ht
  | some t =>
      cases hopen : t.closed with
      | true =>
          rw [shutdown_of_closed hget hopen]
          exact ht
      | false =>
          obtain ⟨s, s', hs, hs', hlike, hx⟩ := ht.session
          rw [Host.shutdown, withSession_of_some hget, Session.shutdown_of_open i _ hopen]
          refine ⟨?_, ht.sample, s, s', (List.getElem?_set_ne hi).trans hs, hs', hlike, ?_⟩
          · simp only [Sources.snapshot_unsubscribeAll, ht.snapshot]
          · have hdropped := Extract.dropAll_other (b := h.board) hh.wired.owned (Ne.symm hi) hx
            rw [desks_board hget] at hdropped
            exact hdropped

/-! ## Taking turns -/

/-- No other session of a host is of the variant. -/
def Only (v : Variant) (j : SessionId) (h : Host) : Prop :=
  ∀ i, h.variants[i]? = some v → i = j

theorem Twin.only (ht : Twin v j taken taken' h g) (hdistinct : h.variants.Nodup) : h.Only v j := by
  intro i hi
  obtain ⟨s, s', hs, -, hlike, -⟩ := ht.session
  have hj : h.variants[j]? = some v := by
    rw [variants, List.getElem?_map, hs, Option.map_some, hlike.variant]
  exact (List.getElem?_inj (List.getElem?_eq_some_iff.mp hi).1 hdistinct).mp (hi.trans hj.symm)

/-- The sessions take turns in something that the company does unnoticed. -/
theorem Twin.turns {f : SessionId → Host → Host} {P : Host → Prop}
    (hkeep : ∀ i h, P h → P (f i h))
    (hself : ∀ h, P h → Twin v j taken taken' h g → Twin v j taken taken' (f j h) (f 0 g))
    (hother : ∀ i h g, i ≠ j → P h → Twin v j taken taken' h g → Twin v j taken taken' (f i h) g)
    (ht : Twin v j taken taken' h g) (h0 : P h) :
    Twin v j taken taken' ((List.range h.sessions.length).foldl (fun h i => f i h) h) (f 0 g) := by
  have hothers : ∀ (ids : List SessionId) (h g : Host), j ∉ ids → P h →
      Twin v j taken taken' h g → P (ids.foldl (fun h i => f i h) h) ∧
        Twin v j taken taken' (ids.foldl (fun h i => f i h) h) g := by
    intro ids
    induction ids with
    | nil => exact fun h g _ h0 ht => ⟨h0, ht⟩
    | cons i ids ih =>
        intro h g hj h0 ht
        rw [List.mem_cons, not_or] at hj
        exact ih (f i h) g hj.2 (hkeep i h h0) (hother i h g (Ne.symm hj.1) h0 ht)
  obtain ⟨s, s', hs, -⟩ := ht.session
  have hlt : j < h.sessions.length := (List.getElem?_eq_some_iff.mp hs).1
  -- only in the turn of session `j` does anything happen on the other host
  obtain ⟨before, behind, hids⟩ := List.append_of_mem (List.mem_range.mpr hlt)
  have hnodup := List.nodup_range (n := h.sessions.length)
  rw [hids] at hnodup
  obtain ⟨-, hbehind, hbefore⟩ := List.nodup_append.mp hnodup
  obtain ⟨hfirst, htfirst⟩ := hothers before h g
    (fun hmem => hbefore j hmem j List.mem_cons_self rfl) h0 ht
  rw [hids, List.foldl_append, List.foldl_cons]
  exact (hothers behind _ (f 0 g) (List.nodup_cons.mp hbehind).1 (hkeep j _ hfirst)
    (hself _ hfirst htfirst)).2

/-- **Both work off what waits.** -/
theorem Twin.process (ht : Twin v j taken taken' h g) (hh : h.InOrder taken)
    (hg : g.InOrder taken') : Twin v j taken taken' (h.process j).2 (g.process 0).2 := by
  have hqueued : g.queued 0 = h.queued j := by
    obtain ⟨s, s', hs, hs', hlike, -⟩ := ht.session
    simp only [queued, hs, hs', hlike.queue]
  rw [process_eq_run, process_eq_run, hqueued]
  clear hqueued
  generalize h.queued j = n
  induction n generalizing h g with
  | zero => exact ht
  | succ n ih =>
      exact ih (ht.processOne hh hg) (hh.processOne j) (hg.processOne 0)

/-- **What others work off does not show.** -/
theorem Twin.process_other (ht : Twin v j taken taken' h g) (hh : h.InOrder taken)
    {i : SessionId} (hi : i ≠ j) (hv : h.variants[i]? ≠ some v) :
    Twin v j taken taken' (h.process i).2 g := by
  rw [process_eq_run]
  generalize h.queued i = n
  induction n generalizing h with
  | zero => exact ht
  | succ n ih =>
      rw [← variants_processOne i h] at hv
      exact ih (ht.processOne_other hh hi (by rwa [variants_processOne] at hv)) (hh.processOne i) hv

/-- **Both settle.** -/
theorem Twin.settle (ht : Twin v j taken taken' h g) (hh : h.InOrder taken)
    (hg : g.InOrder taken') (hv : h.Only v j) (hone : g.sessions.length = 1) :
    Twin v j taken taken' h.settle g.settle := by
  have halone : g.settle = (g.process 0).2 := by
    rw [settle_eq_processAll, processAll, processEach_eq_foldl, hone]
    rfl
  rw [halone, settle_eq_processAll, processAll, processEach_eq_foldl]
  refine ht.turns (f := fun i h => (h.process i).2)
    (P := fun h => h.InOrder taken ∧ h.Only v j) ?_ ?_ ?_ ⟨hh, hv⟩
  · rintro i h ⟨hh, hv⟩
    refine ⟨hh.process i, ?_⟩
    rwa [Only, variants_process]
  · rintro h ⟨hh, -⟩ ht
    exact ht.process hh hg
  · rintro i h g hi ⟨hh, hv⟩ ht
    exact ht.process_other hh hi fun hmine => hi (hv i hmine)

/-- **All end.** -/
theorem Twin.shutdownAll (ht : Twin v j taken taken' h g) (hh : h.InOrder taken)
    (hg : g.InOrder taken') (hone : g.sessions.length = 1) :
    Twin v j taken taken' h.shutdownAll g.shutdownAll := by
  have halone : g.shutdownAll = g.shutdown 0 := by
    rw [Host.shutdownAll, hone]
    rfl
  rw [halone, Host.shutdownAll]
  refine ht.turns (P := fun h => h.InOrder taken) ?_ ?_ ?_ hh
  · exact fun i h hh => hh.silently (silently_step h (e := .shutdown i) trivial)
  · exact fun h hh ht => ht.shutdown hh hg
  · exact fun i h g hi hh ht => ht.shutdown_other hh hi

end Host

/-! ## Starting -/

/-- Only classes and values matter to a dispatcher. -/
theorem Dispatcher.sendAll_congr {values values' : List Attempt}
    (h : values.map (fun a => (a.cls, a.value)) = values'.map (fun a => (a.cls, a.value)))
    (id : SessionId) (run : Dispatcher × Transport Callback) :
    sendAll id values run = sendAll id values' run := by
  have hall : ∀ values : List Attempt, sendAll id values run =
      (values.map (fun a => (a.cls, a.value))).foldl
        (fun run a => (run.1.send id a.1 a.2 run.2).2) run := by
    intro values
    rw [List.foldl_map]
    rfl
  rw [hall, hall, h]

/-- What a line does to its transport when it starts. -/
theorem Line.exists_sends_start (id : SessionId) (m : Monitor) (snapshot : Snapshot)
    (watch : Option WatchId) (sample : PollSample) (t : Transport Callback) :
    ∃ values : List Attempt, (∀ a ∈ values, a.cls ∈ m.variant.profile.classes) ∧
      (start id m snapshot watch sample t).attempts = values.map (fun a => (a.cls, a.value)) ∧
      ((start id m snapshot watch sample t).dispatcher,
          (start id m snapshot watch sample t).radio) = Dispatcher.sendAll id values ({}, t) := by
  have hfirst : ∀ a ∈ Action.sends (Tracker.start m.variant m.intervals snapshot).2,
      a.cls ∈ m.variant.profile.classes := fun a ha =>
    Tracker.cls_mem_of_evaluate (t := Tracker.new m.variant m.intervals snapshot) ha
  cases watch with
  | none =>
      refine ⟨_, hfirst, ?_, ?_⟩
      · simp only [start, perform_eq, List.nil_append]
      · simp only [start, perform_eq]
  | some w =>
      refine ⟨Action.sends (Tracker.start m.variant m.intervals snapshot).2 ++
        Action.sends (((Tracker.start m.variant m.intervals snapshot).1.bridged w).poll sample).2,
        fun a ha => ?_, ?_, ?_⟩
      · exact (List.mem_append.mp ha).elim (hfirst a) fun ha => Tracker.cls_mem_of_poll ha
      · simp only [start, perform_eq, List.nil_append, List.map_append]
      · simp only [start, perform_eq, Dispatcher.sendAll_append]

namespace Session

variable {m : Monitor} {i j : SessionId} {p p' : Platform}

/-- **Two sessions of a monitor start alike** where the same is to be seen. -/
theorem alike_start (hsnapshot : p'.sources.snapshot = p.sources.snapshot)
    (hsample : p'.sample = p.sample)
    (hwatch : (m.watchIn i p'.notifier).isSome = (m.watchIn j p.notifier).isSome) :
    (Session.start i m.variant m.intervals m.watchPath p').1.tracker.unnumbered =
      (Session.start j m.variant m.intervals m.watchPath p).1.tracker.unnumbered ∧
    ∃ values : List Attempt, (∀ a ∈ values, a.cls ∈ m.variant.profile.classes) ∧
      ((Session.start j m.variant m.intervals m.watchPath p).1.dispatcher,
        (Session.start j m.variant m.intervals m.watchPath p).2.transport) =
          Dispatcher.sendAll j values ({}, p.transport) ∧
      ((Session.start i m.variant m.intervals m.watchPath p').1.dispatcher,
        (Session.start i m.variant m.intervals m.watchPath p').2.transport) =
          Dispatcher.sendAll i values ({}, p'.transport) := by
  have his := Line.is_start j m p
  have his' := Line.is_start i m p'
  rw [hsnapshot, hsample] at his'
  have halike := Conduct.alike_start m p.sources.snapshot hwatch p.sample
  rw [← Line.conduct_start i m _ _ _ p'.transport, ← Line.conduct_start j m _ _ _ p.transport]
    at halike
  obtain ⟨values, hclasses, hattempts, hsends⟩ := Line.exists_sends_start j m p.sources.snapshot
    (m.watchIn j p.notifier) p.sample p.transport
  obtain ⟨values', -, hattempts', hsends'⟩ := Line.exists_sends_start i m p.sources.snapshot
    (m.watchIn i p'.notifier) p.sample p'.transport
  have hsame : values'.map (fun a => (a.cls, a.value)) = values.map (fun a => (a.cls, a.value)) :=
    hattempts'.symm.trans (halike.attempts.trans hattempts)
  rw [his.dispatcher, his.radio] at hsends
  rw [his'.dispatcher, his'.radio, Dispatcher.sendAll_congr hsame] at hsends'
  refine ⟨?_, values, hclasses, hsends, hsends'⟩
  rw [← his'.tracker, ← his.tracker]
  exact halike.tracker

/-- A start leaves the poll sources and what was arranged for the next watch. -/
theorem polled_start (id : SessionId) (m : Monitor) (p : Platform) :
    (Session.start id m.variant m.intervals m.watchPath p).2.sample = p.sample ∧
      (p.notifier.failNext = none →
        (Session.start id m.variant m.intervals m.watchPath p).2.notifier.failNext = none) := by
  obtain ⟨hnotifier, hsample⟩ := polled_of_start_none id m.variant m.intervals p
  cases m.watchPath with
  | none => exact ⟨hsample, fun h => by rw [hnotifier, h]⟩
  | some path =>
      rw [start_some]
      generalize Session.start id m.variant m.intervals none p = first at hnotifier hsample
      cases hw : (first.2.notifier.watch path id).1 with
      | error failure =>
          rw [startPolling_of_error id first.2 hw]
          refine ⟨hsample, fun h => ?_⟩
          simp [Notifier.watch, hnotifier, h]
      | ok watch =>
          rw [startPolling_of_ok id first.2 hw, perform_eq]
          refine ⟨hsample, fun h => ?_⟩
          rw [Notifier.closeAll_eq]
          simp [Notifier.watch, hnotifier, h]

end Session

namespace Host

variable {v : Variant} {j : SessionId} {taken taken' : List Outgoing} {h g : Host} {m : Monitor}

/-- **Both start a session of a monitor**, one among others and one alone. -/
theorem Twin.start (hh : h.InOrder taken) (hg : g.InOrder taken') (hm : m.variant = v)
    (hj : h.sessions.length = j) (hnone : g.sessions.length = 0)
    (hsnapshot : g.platform.sources.snapshot = h.platform.sources.snapshot)
    (hsample : g.platform.sample = h.platform.sample)
    (hwatch : (m.watchIn 0 g.platform.notifier).isSome = (m.watchIn j h.platform.notifier).isSome)
    (hx : Extract v j taken taken' {} {} h.platform.transport g.platform.transport) :
    Twin v j taken taken' (h.start m) (g.start m) := by
  have hdesk := desks_board_of_none (List.getElem?_eq_none (Nat.le_of_eq hj))
  have hdesk' := desks_board_of_none (List.getElem?_eq_none (Nat.le_of_eq hnone))
  have hnew := Session.started j m h.platform
  have hnew' := Session.started 0 m g.platform
  obtain ⟨htracker, values, hclasses, hsends, hsends'⟩ :=
    Session.alike_start (i := 0) (j := j) hsnapshot hsample hwatch
  rw [start_eq, start_eq, hj, hnone]
  refine ⟨?_, ?_, _, _, ?_, ?_, ⟨hnew.variant.trans hm, htracker, ?_, ?_⟩, ?_⟩
  · rw [hnew.sources, hnew'.sources, Sources.snapshot_subscribeAll, Sources.snapshot_subscribeAll,
      hsnapshot]
  · rw [(Session.polled_start _ _ _).1, (Session.polled_start _ _ _).1, hsample]
  · rw [← hj]; exact List.getElem?_concat_length
  · rw [← hnone]; exact List.getElem?_concat_length
  · rw [hnew.queue, hnew'.queue]
  · rw [hnew.closed, hnew'.closed]
  · have hsent := Extract.sendAll (v := v) (j := j) hh.wired.owned hg.wired.owned
      (by rw [hdesk, hdesk']; exact hx) (by rw [← hm]; exact hclasses)
    rw [hdesk, hdesk'] at hsent
    simp only [show h.board.transport = h.platform.transport from rfl,
      show g.board.transport = g.platform.transport from rfl, ← hsends, ← hsends'] at hsent
    exact hsent

/-- A session of another variant that starts does not show. -/
theorem Twin.start_other (ht : Twin v j taken taken' h g) (hh : h.InOrder taken)
    (hm : m.variant ≠ v) : Twin v j taken taken' (h.start m) g := by
  obtain ⟨s, s', hs, hs', hlike, hx⟩ := ht.session
  have hlt : j < h.sessions.length := (List.getElem?_eq_some_iff.mp hs).1
  have hdesk := desks_board_of_none (List.getElem?_eq_none (Nat.le_refl h.sessions.length))
  have hnew := Session.started h.sessions.length m h.platform
  obtain ⟨values, hclasses, hsends⟩ := Session.sends_start h.sessions.length m h.platform
  rw [start_eq]
  refine ⟨?_, ?_, s, s', (List.getElem?_append_left hlt).trans hs, hs', hlike, ?_⟩
  · rw [hnew.sources, Sources.snapshot_subscribeAll, ht.snapshot]
  · rw [(Session.polled_start _ _ _).1, ht.sample]
  · have hothers : ∀ a ∈ values, a.cls ∉ v.profile.classes := fun a ha hmine =>
      hm (Profile.variant_eq_of_classes (hclasses a ha) hmine)
    have hsent := Extract.sendAll_other (b := h.board) hh.wired.owned (Nat.ne_of_lt hlt) hx hothers
    rw [hdesk] at hsent
    rw [show h.board.transport = h.platform.transport from rfl, ← hsends] at hsent
    exact hsent

/-! ## Starting among others -/

/-- Sessions have started on `h`, but none of the variant, while nothing has happened on `g`. -/
structure Awaits (v : Variant) (h g : Host) : Prop where
  order : h.InOrder []
  snapshot : g.platform.sources.snapshot = h.platform.sources.snapshot
  sample : g.platform.sample = h.platform.sample
  /-- The next watch can be set up. -/
  watchable : h.platform.notifier.failNext = none
  opened : h.platform.transport.closed = false
  interface : h.platform.transport.interface = g.platform.transport.interface
  unsent : v.part (h.platform.transport.ledger []) = []

theorem Awaits.start_other (ha : Awaits v h g) (hm : m.variant ≠ v) : Awaits v (h.start m) g := by
  have hnew := Session.started h.sessions.length m h.platform
  obtain ⟨hsample, hwatchable⟩ := Session.polled_start h.sessions.length m h.platform
  obtain ⟨values, hclasses, hsends⟩ := Session.sends_start h.sessions.length m h.platform
  have htransport : (h.start m).platform.transport = _ := congrArg Prod.snd hsends
  refine ⟨?_, ?_, ha.sample.trans hsample.symm, hwatchable ha.watchable, ?_, ?_, ?_⟩
  · exact ha.order.step (.start m)
  · rw [start_eq, hnew.sources, Sources.snapshot_subscribeAll, ha.snapshot]
  · rw [htransport]
    exact (Dispatcher.closed_sendAll ..).trans ha.opened
  · rw [htransport]
    exact (Dispatcher.interface_sendAll ..).trans ha.interface
  · obtain ⟨sent, hsent, hmine⟩ := Dispatcher.exists_queued_sendAll h.sessions.length values {}
      h.platform.transport
    have hothers : v.part sent = [] := by
      refine Variant.part_of_other hm fun o ho => ?_
      obtain ⟨a, ha, hcls, -⟩ := hmine o ho
      exact Variant.owns_of_mem hcls (hclasses a ha)
    rw [htransport, Transport.ledger, hsent, ← List.append_assoc, Variant.part_append, hothers,
      List.append_nil]
    exact ha.unsent

/-- **A session that starts among others** has a twin in the one that starts alone. -/
theorem Awaits.start (ha : Awaits v h g) (hg : g.InOrder []) (hnone : g.sessions.length = 0)
    (hwatchable : g.platform.notifier.failNext = none) {slot : String} {interface : Interface}
    (hfresh : g.platform.transport = { slot := slot, interface := interface })
    (hm : m.variant = v) : Twin v h.sessions.length [] [] (h.start m) (g.start m) := by
  refine Twin.start ha.order hg hm rfl hnone ha.snapshot ha.sample ?_ ?_
  · have hwatch : ∀ (id : SessionId) (n : Notifier SessionId), n.failNext = none →
        (m.watchIn id n).isSome = m.watchPath.isSome := by
      intro id n hn
      cases hpath : m.watchPath with
      | none => simp [Monitor.watchIn, hpath]
      | some path =>
          simp [Monitor.watchIn, hpath, Notifier.watch_of_free hn, Except.toOption]
    rw [hwatch _ _ hwatchable, hwatch _ _ ha.watchable]
  · have hshare : h.platform.transport.share h.sessions.length = [] := by
      rw [List.eq_nil_iff_forall_not_mem]
      intro w hw
      obtain ⟨hpending, hsession⟩ := Transport.mem_share.mp hw
      obtain ⟨s, hs, -⟩ := ha.order.classed w hpending
      exact Nat.ne_of_lt (List.getElem?_eq_some_iff.mp hs).1 hsession
    have hinterface : interface = h.platform.transport.interface := by
      rw [ha.interface, hfresh]
    rw [hfresh, hinterface]
    exact Extract.fresh ha.opened hshare ha.unsent slot

end Host

end ModemWatch
