import ModemWatch.Proofs.Asking

/-!
# Hosts that keep the modem up to date

A host is sound if its sessions mirror the signals, the ledger tells what they decided, what waits
for an answer stands in the ledger, every lost class has been refused, and the slot holds what the
sessions ask for.  Sessions that follow the signals alone keep a host sound, whatever else happens
while nobody ends them.

Once such a host is idle nothing is on its way any more.  What the sessions remember is then what
the signals show, so that the ledger tells, and the slot applies, what follows from the signals.

* `Host.Sound` — the invariant; `Host.Sound.respond`, `Host.Sound.settle` and others keep it;
* `Host.Sound.told`, `Host.Sound.applied` — what an idle host has told the modem.
-/

namespace ModemWatch

/-- Of a rule's class the last request carries the rule's value; without a request the value is what
the modem is taken to hold. -/
def Told (i : Interface) (requests : List Request) (r : DecisionRule) (shown : Snapshot) : Prop :=
  match latest (fun q => q.cls? == some r.cls) requests with
  | some q => q = r.cls.build (r.compute shown) i
  | none => r.initial = some (r.compute shown)

theorem Stands.told {i : Interface} {requests : List Request} {r : DecisionRule}
    {shown : Snapshot} (h : Stands i requests r (some (r.compute shown))) :
    Told i requests r shown := by
  unfold Stands at h
  unfold Told
  split
  · next q hq =>
      rw [hq] at h
      obtain ⟨value, hvalue, rfl⟩ := h
      rw [Option.some.inj hvalue]
  · next hq =>
      rw [hq] at h
      exact h _ rfl

/-- A rule's value depends only on the signals that a session with the rule observes. -/
theorem Profile.compute_congr {v : Variant} {r : DecisionRule} (hr : r ∈ v.profile.rules)
    {s t : Snapshot} (h : ∀ k ∈ v.profile.signals, s.get k = t.get k) :
    r.compute s = r.compute t := by
  have hd := h .display (by cases v <;> decide)
  have hc := h .charger (by cases v <;> decide)
  simp only [Snapshot.get] at hd hc
  cases v with
  | indicationFilter =>
      obtain rfl := List.mem_singleton.mp hr
      simp only [Snapshot.displayOn, hd]
  | deviceState =>
      have ht := h .tethering (by decide)
      simp only [Snapshot.get] at ht
      rcases List.mem_cons.mp hr with rfl | hr
      · simp only [Snapshot.lowDataExpected, Snapshot.tetheringOn, Snapshot.charging,
          Snapshot.displayOn, hd, hc, ht]
      · obtain rfl := List.mem_singleton.mp hr
        simp only [Snapshot.charging, hc]

/-- The interval depends only on signals that every session observes. -/
theorem Profile.interval_congr (v : Variant) {s t : Snapshot}
    (h : ∀ k ∈ v.profile.signals, s.get k = t.get k) (intervals : Intervals) :
    s.cellInfoInterval intervals = t.cellInfoInterval intervals := by
  have hd := h .display (by cases v <;> decide)
  have hb := h .battery (by cases v <;> decide)
  have hc := h .charger (by cases v <;> decide)
  simp only [Snapshot.get] at hd hb hc
  simp only [Snapshot.cellInfoInterval, Snapshot.wantsShort, Snapshot.displayOn,
    Snapshot.charging, Snapshot.batteryOk, hd, hb, hc]

namespace Host

/-- All that keeps the modem up to date. -/
structure Sound (intervals : Intervals) (i : Interface) (taken : List Outgoing)
    (refused : RequestClass → Prop) (h : Host) : Prop where
  mirrored : h.Mirrored
  steady : h.Steady intervals i
  faithful : h.Faithful i taken
  traced : h.platform.transport.Traced taken
  blamed : h.Blamed refused
  asked : h.Asked

variable {h : Host} {intervals : Intervals} {i : Interface} {taken : List Outgoing}
  {refused : RequestClass → Prop}

theorem sound_new (slot : String) (intervals : Intervals) (i : Interface) :
    (new slot i).Sound intervals i [] refused := by
  have hnone : ∀ (j : SessionId) (s : Session), (new slot i).sessions[j]? = some s → False := by
    intro j s hs
    simp [new] at hs
  exact {
    mirrored := mirrored_new slot i
    steady := ⟨fun j s hs => (hnone j s hs).elim, fun j _ s _ hs => (hnone j s hs).elim, rfl, rfl⟩
    faithful := ⟨fun j s hs => (hnone j s hs).elim, fun _ hq => absurd hq List.not_mem_nil⟩
    traced := Transport.traced_new slot i
    blamed := ⟨fun j s hs => (hnone j s hs).elim, fun j s hs => (hnone j s hs).elim⟩
    asked := ⟨fun j s hs => (hnone j s hs).elim, fun _ hx => absurd hx List.not_mem_nil, rfl⟩ }

/-! ## Happenings that only mail -/

theorem Sound.mailed (hs : h.Sound intervals i taken refused) (e : Happening)
    {letters : SessionId → List Message} (hm : h.Mailed (h.step e) letters)
    (hletters : ∀ j, ∀ m ∈ letters j, Blames refused m) (ht : h.takes e = []) :
    (h.step e).Sound intervals i taken refused where
  mirrored := hs.mirrored.step e
  steady := hs.steady.mailed hm
  faithful := hs.faithful.mailed hm
  traced := by
    have htraced := traced_step hs.traced e
    rwa [ht, List.append_nil] at htraced
  blamed := hs.blamed.mailed hm hletters
  asked := hs.asked.mailed hm

theorem Sound.signal (hs : h.Sound intervals i taken refused) (u : SignalUpdate) :
    (h.signal u).Sound intervals i taken refused := by
  have hm : h.Mailed (h.signal u) fun j =>
      List.replicate ((h.platform.sources.write u).2.count j) (.signal u) :=
    .of_platform (platform_signal h u) (sessions_signal h u) rfl rfl rfl rfl
  refine hs.mailed (.signal u) hm ?_ rfl
  intro j m hmem c ticket a he
  rw [List.eq_of_mem_replicate hmem] at he
  cases he

theorem Sound.emit (hs : h.Sound intervals i taken refused) (event : WatchEvent) :
    (h.emit event).Sound intervals i taken refused := by
  have hm : h.Mailed (h.emit event) fun j =>
      List.replicate (h.platform.notifier.listeners.count j) event.message :=
    .of_platform (platform_emit h event) (sessions_emit h event) rfl rfl rfl rfl
  refine hs.mailed (.emit event) hm ?_ rfl
  intro j m hmem c ticket a he
  rw [List.eq_of_mem_replicate hmem] at he
  cases event <;> cases he

theorem Sound.failAll (hs : h.Sound intervals i taken refused) (status : TxStatus) :
    (h.failAll status).2.Sound intervals i taken refused := by
  have hm : h.Mailed (h.failAll status).2 fun j =>
      (h.platform.transport.failAll.1.filter (fun k => k.session == j)).map
        (fun k => k.message (.failed status)) :=
    .of_platform (platform_failAll h status) (sessions_failAll h status) rfl rfl rfl rfl
  refine hs.mailed (.failAll status) hm ?_ rfl
  intro j m hmem c ticket a he ho
  obtain ⟨k, -, rfl⟩ := List.mem_map.mp hmem
  obtain ⟨-, -, rfl⟩ := Message.completed.inj he
  -- giving up on a request brings no response
  obtain ⟨-, hresponse, -⟩ := Completion.outcome_eq_notSupported_iff.mp ho
  cases hresponse

/-- An answer that refuses the class of what waits for it must be counted as a refusal. -/
theorem Sound.respond (hs : h.Sound intervals i taken refused) (n : Serial) (a : Completion)
    (hrefusal : ∀ k, h.platform.transport.callback? n = some k →
      a.outcome k.cls = .notSupported → refused k.cls) :
    (h.respond n a).2.Sound intervals i taken refused := by
  have hm : h.Mailed (h.respond n a).2 fun j =>
      ((h.platform.transport.callback? n).toList.filter (fun k => k.session == j)).map
        (fun k => k.message a) :=
    .of_platform (platform_respond h n a) (sessions_respond h n a) rfl rfl rfl rfl
  refine hs.mailed (.respond n a) hm ?_ rfl
  intro j m hmem c ticket a' he ho
  obtain ⟨k, hk, rfl⟩ := List.mem_map.mp hmem
  obtain ⟨rfl, -, rfl⟩ := Message.completed.inj he
  exact hrefusal k (Option.mem_toList.mp (List.mem_filter.mp hk).1) ho

/-- A change of the platform that no session and no request has to do with. -/
theorem mailed_platform {p : Platform} (ht : p.transport = h.platform.transport)
    (hi : p.slot.intervals = h.platform.slot.intervals) :
    h.Mailed { h with platform := p } (fun _ => []) := by
  refine ⟨fun j => ?_, by rw [ht], by rw [ht], by rw [ht], hi⟩
  have hid : Session.receiveAll [] = id := funext Session.receiveAll_nil
  rw [hid, Option.map_id]
  rfl

theorem Sound.writeScreen (hs : h.Sound intervals i taken refused) (content : FileContent) :
    (h.writeScreen content).Sound intervals i taken refused :=
  hs.mailed (.writeScreen content) (mailed_platform rfl rfl)
    (fun _ _ hm => absurd hm List.not_mem_nil) rfl

theorem Sound.setPower (hs : h.Sound intervals i taken refused) (power : PowerState) :
    (h.setPower power).Sound intervals i taken refused :=
  hs.mailed (.setPower power) (mailed_platform rfl rfl)
    (fun _ _ hm => absurd hm List.not_mem_nil) rfl

theorem Sound.collectSlot (hs : h.Sound intervals i taken refused) :
    h.collectSlot.2.Sound intervals i taken refused :=
  hs.mailed .collectSlot (mailed_platform rfl rfl)
    (fun _ _ hm => absurd hm List.not_mem_nil) rfl

/-! ## Everything else -/

theorem Sound.processOne (hs : h.Sound intervals i taken refused) (id : SessionId) :
    (h.processOne id).Sound intervals i taken refused where
  mirrored := hs.mirrored.processOne id
  steady := hs.steady.processOne id
  faithful := hs.faithful.processOne hs.steady id
  traced := by
    have htraced := traced_step hs.traced (.processOne id)
    simpa only [takes, step, List.append_nil] using htraced
  blamed := hs.blamed.processOne hs.steady id
  asked := hs.asked.processOne hs.steady id

/-- **Letting the sessions work keeps a host sound.** -/
theorem Sound.settle (hs : h.Sound intervals i taken refused) :
    h.settle.Sound intervals i taken refused :=
  settle_induction hs fun id _ hs' => hs'.processOne id

/-- What is taken off the queue stays in the ledger. -/
theorem Sound.takeOutgoing (hs : h.Sound intervals i taken refused) :
    h.takeOutgoing.2.Sound intervals i (taken ++ h.platform.transport.queued) refused := by
  have hledger : h.takeOutgoing.2.platform.transport.ledger
      (taken ++ h.platform.transport.queued) = h.platform.transport.ledger taken :=
    List.append_nil _
  exact {
    mirrored := hs.mirrored.step .takeOutgoing
    steady := ⟨hs.steady.sessions, hs.steady.distinct, hs.steady.flowing, hs.steady.interface⟩
    faithful := ⟨by rw [hledger]; exact hs.faithful.told,
      by rw [hledger]; exact hs.faithful.sourced⟩
    traced := traced_step hs.traced .takeOutgoing
    blamed := ⟨hs.blamed.lost, hs.blamed.losing⟩
    asked := ⟨hs.asked.asked, hs.asked.asking, hs.asked.shortest⟩ }

theorem Sound.start (hs : h.Sound intervals i taken refused) {m : Monitor}
    (hm : m.watchPath = none) (hi : m.intervals = intervals)
    (hfresh : ∀ (j : SessionId) (s : Session), h.sessions[j]? = some s →
      s.tracker.variant ≠ m.variant) : (h.start m).Sound intervals i taken refused where
  mirrored := hs.mirrored.start m
  steady := hs.steady.start hm hi hfresh
  faithful := hs.faithful.start hs.steady hm hfresh
  traced := by
    have htraced := traced_step hs.traced (.start m)
    simpa only [takes, step, List.append_nil] using htraced
  blamed := hs.blamed.start hm
  asked := hs.asked.start hm

theorem Sound.mono {refused' : RequestClass → Prop} (hs : h.Sound intervals i taken refused)
    (hle : ∀ c, refused c → refused' c) : h.Sound intervals i taken refused' :=
  { hs with blamed := hs.blamed.mono hle }

/-! ## Idle hosts -/

/-- An idle session remembers what the signals show. -/
theorem Sound.remembers (hs : h.Sound intervals i taken refused) (hidle : h.Idle)
    {j : SessionId} {s : Session} (hget : h.sessions[j]? = some s) :
    ∀ k ∈ s.tracker.profile.signals,
      s.tracker.snapshot.get k = h.platform.sources.snapshot.get k := by
  intro k hk
  have hopen := (hs.steady.sessions j s hget).opened
  have hmirror := hs.mirrored.mirror j s hget hopen k hk
  rwa [Session.foreseen, hidle s (List.mem_of_getElem? hget)] at hmirror

/-- **The modem was told what follows from the signals.** -/
theorem Sound.told (hs : h.Sound intervals i taken refused) (hidle : h.Idle)
    {j : SessionId} {s : Session} (hget : h.sessions[j]? = some s) {r : DecisionRule}
    (hr : r ∈ s.tracker.profile.rules) (hrefused : ¬refused r.cls) :
    Told i ((h.platform.transport.ledger taken).map (fun o => o.request)) r
      h.platform.sources.snapshot := by
  have hsupported : s.dispatcher.supported.get r.cls = true := by
    rw [← Bool.not_eq_false]
    exact fun hlost => hrefused (hs.blamed.lost j s hget r.cls hlost)
  have hstands := hs.faithful.told j s hget r hr hsupported
  have hdecision : s.tracker.decision .signals r.cls =
      some (r.compute h.platform.sources.snapshot) := by
    rw [← Profile.compute_congr hr (hs.remembers hidle hget)]
    exact (hs.steady.sessions j s hget).current.computed r hr
  rw [hdecision] at hstands
  exact hstands.told

/-- **The interval that follows from the signals applies.** -/
theorem Sound.applied (hs : h.Sound intervals i taken refused) (hidle : h.Idle)
    (hsome : h.sessions ≠ []) :
    h.platform.slot.intervals.applied =
      some (h.platform.sources.snapshot.cellInfoInterval intervals) := by
  refine hs.asked.applied hsome fun s hmem => ?_
  obtain ⟨j, hget⟩ := List.mem_iff_getElem?.mp hmem
  rw [Session.interval, (hs.steady.sessions j s hget).intervals]
  exact Profile.interval_congr s.tracker.variant (hs.remembers hidle hget) intervals

end Host

end ModemWatch
