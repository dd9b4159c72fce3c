import ModemWatch.Proofs.Revisions

/-!
# Answers that come in time

An answer to a request that waits takes effect within its step.  It goes to the session that the
request is in flight at, which has nothing else to do, and ends the request.  Whatever the answer
says, nothing is sent because of it and no interval is pushed.  What remains of it is a class that is
lost if the modem refused it; otherwise the session goes on telling what changes.

* `Reply.outcome_completion` — the reply that takes a class away;
* `Host.Wired.settle_respond` — the work that an answer makes;
* `Host.Answered`, `Host.InOrder.answered` — what an answer leaves;
* `Replay.Addresses` — which request a step answers;
* `Replay.answer_takes_effect` — a step that answers, and the steps after it.
-/

namespace ModemWatch

/-! ## Which answers take a class away -/

/-- A request as sessions build it. -/
def Request.Formed (q : Request) : Prop :=
  ∃ (c : RequestClass) (value : Bool) (i : Interface), q = c.build value i

theorem Request.Formed.response {q : Request} {c : RequestClass} (hq : q.Formed)
    (hc : q.cls? = some c) : q.code.response = c.expectedResponse := by
  obtain ⟨e, value, i, rfl⟩ := hq
  obtain rfl : e = c := Option.some.inj ((Request.cls?_build e value i).symm.trans hc)
  exact RequestClass.response_build ..

/-- **One reply takes a class away**, and no other. -/
theorem Reply.outcome_completion {q : Request} {c : RequestClass}
    (hq : q.code.response = c.expectedResponse) (reply : Reply) :
    (reply.completion q).outcome c = .notSupported ↔ reply = .notSupported := by
  rw [Completion.outcome_eq_notSupported_iff]
  cases reply <;>
    simp [Reply.completion, Completion.ok, Completion.answered, Completion.failed, hq]

/-- Whatever stands in the ledger was built by a session. -/
theorem Transport.lasting_formed : Lasting fun taken t => ∀ o ∈ t.ledger taken, o.request.Formed where
  forget h _ := h
  failAll h := h
  drain h := by
    rw [ledger, drain, List.append_nil]
    exact h
  submit {taken t r k} h hr := by
    cases hc : t.closed with
    | true => rw [submit_of_closed hc]; exact h
    | false =>
        rw [submit_of_open hc, ledger, ← List.append_assoc]
        intro o ho
        rcases List.mem_append.mp ho with ho | ho
        · exact h o ho
        · obtain ⟨value, rfl⟩ := hr
          rw [List.mem_singleton.mp ho]
          exact ⟨k.cls, value, t.interface, rfl⟩

/-- A session that handles the answer to a request in flight ends the request. -/
theorem Session.handle_answer {s : Session} {k : Callback} {n : Serial} (hopen : s.closed = false)
    (hpending : s.dispatcher.pending.get k.cls = some ⟨k.ticket, n⟩) (id : SessionId)
    (a : Completion) (p : Platform) :
    s.handle id (k.message a) p =
      ({ s with dispatcher := s.dispatcher.release k.cls (a.outcome k.cls) }, p) := by
  simp [handle, hopen, Callback.message, Dispatcher.complete, hpending]

namespace Host

variable {h : Host} {j : SessionId} {s : Session} {m : Message} {n : Serial} {k : Callback}

theorem processOne_of_nothing {id : SessionId}
    (hnone : ∀ t, h.sessions[id]? = some t → t.queue = []) : h.processOne id = h := by
  refine (processOne_cases h id).resolve_right fun hworks => ?_
  obtain ⟨t, m, rest, ht, hq, -⟩ := hworks
  rw [hnone t ht] at hq
  cases hq

/-- If one message waits on a host, handling it is all the work there is. -/
theorem settle_of_single (hs : h.sessions[j]? = some s) (hq : s.queue = [m])
    (hothers : ∀ i t, h.sessions[i]? = some t → i ≠ j → t.queue = []) :
    h.settle = ⟨(s.handle j m h.platform).2,
      h.sessions.set j { (s.handle j m h.platform).1 with queue := [] }⟩ := by
  have hone : h.processOne j = ⟨(s.handle j m h.platform).2,
      h.sessions.set j { (s.handle j m h.platform).1 with queue := [] }⟩ := by
    rw [processOne, withSession_of_some hs, Session.processOne_of_cons hq]
  rw [← hone]
  have hidle : (h.processOne j).Idle := by
    intro t ht
    obtain ⟨i, hi⟩ := List.mem_iff_getElem?.mp ht
    rw [hone] at hi
    rcases getElem?_set_cases hi with ⟨rfl, rfl⟩ | ⟨hne, hold⟩
    · rfl
    · exact hothers i t hold hne
  -- whoever works, either the message still waits or it has been handled
  have hall : h.settle = h ∨ h.settle = h.processOne j := by
    refine settle_induction (P := fun g => g = h ∨ g = h.processOne j) (.inl rfl) fun id g hg => ?_
    rcases hg with rfl | rfl
    · by_cases hid : id = j
      · exact .inr (by rw [hid])
      · exact .inl (processOne_of_nothing fun t ht => hothers id t ht hid)
    · exact .inr (processOne_of_nothing fun t ht => hidle t (List.mem_of_getElem? ht))
  refine hall.resolve_left fun hsame => ?_
  have hempty := idle_settle h s (by rw [hsame]; exact List.mem_of_getElem? hs)
  rw [hq] at hempty
  cases hempty

/-- A host on which a request is over. -/
def release (n : Serial) (k : Callback) (outcome : Outcome) (h : Host) : Host where
  platform := { h.platform with transport := h.platform.transport.forget n }
  sessions := h.sessions.modify k.session fun t =>
    { t with dispatcher := t.dispatcher.release k.cls outcome }

theorem getElem?_release (n : Serial) (k : Callback) (outcome : Outcome) (h : Host) (i : SessionId) :
    (h.release n k outcome).sessions[i]? = (h.sessions[i]?).map fun t =>
      if k.session = i then { t with dispatcher := t.dispatcher.release k.cls outcome } else t := by
  rw [release, List.getElem?_modify]
  split <;> rfl

/-- **The work that an answer makes** on a host without other work: the request that it is for is
over, and nothing else happens. -/
theorem Wired.settle_respond (hw : h.Wired) (hidle : h.Idle)
    (hk : h.platform.transport.callback? n = some k) (a : Completion) :
    (h.respond n a).2.settle = h.release n k (a.outcome k.cls) := by
  obtain ⟨t, ht, hopen, hpending⟩ := hw.waiting (hw.owned.numbered.callback?_eq_some_iff.mp hk)
  have hempty := hidle t (List.mem_of_getElem? ht)
  have hqueue : (t.receiveAll [k.message a]).queue = [k.message a] := by
    rw [Session.queue_receiveAll hopen, hempty]
    rfl
  have hposted : ∀ i, (h.respond n a).2.sessions[i]? =
      (h.sessions[i]?).map (Session.receiveAll (if k.session = i then [k.message a] else [])) := by
    intro i
    rw [sessions_respond, hk]
    by_cases hi : k.session = i <;> simp [hi]
  have hmine : (h.respond n a).2.sessions[k.session]? = some (t.receiveAll [k.message a]) := by
    rw [hposted, if_pos rfl, ht, Option.map_some]
  have hothers : ∀ i u, (h.respond n a).2.sessions[i]? = some u → i ≠ k.session →
      h.sessions[i]? = some u := by
    intro i u hu hi
    rw [hposted, if_neg (Ne.symm hi)] at hu
    obtain ⟨u', hu', rfl⟩ := Option.map_eq_some_iff.mp hu
    rwa [Session.receiveAll_nil]
  rw [settle_of_single hmine hqueue fun i u hu hi =>
    hidle u (List.mem_of_getElem? (hothers i u hu hi)),
    Session.handle_answer (n := n) (by rwa [Session.closed_receiveAll])
      (by rwa [Session.dispatcher_receiveAll])]
  refine eq_of_parts (platform_respond ..) (List.ext_getElem? fun i => ?_)
  rw [getElem?_release]
  by_cases hi : k.session = i
  · subst hi
    rw [List.getElem?_set_self (List.getElem?_eq_some_iff.mp hmine).1, ht, Option.map_some,
      if_pos rfl]
    simp [Session.receiveAll, hopen, hempty]
  · rw [List.getElem?_set_ne hi, hposted, if_neg hi]
    cases h.sessions[i]? with
    | none => rfl
    | some u => rw [Option.map_some, Option.map_some, Session.receiveAll_nil, if_neg hi]

/-- Where nothing waits to be handled, requests are in flight at sessions that have their class. -/
theorem InOrder.mem_classes_of_pending {taken : List Outgoing} (ho : h.InOrder taken)
    (hidle : h.Idle) (hs : h.sessions[j]? = some s) {c : RequestClass} {p : InFlight}
    (hp : s.dispatcher.pending.get c = some p) : c ∈ s.tracker.profile.classes := by
  have hwaits : h.platform.transport.callback? p.serial = some ⟨j, c, p.ticket⟩ := by
    refine (ho.wired.owned.served ((entry_board hs c).trans hp)).resolve_right ?_
    intro hanswered
    obtain ⟨a, hmem⟩ := hanswered
    rw [desks_board hs, hidle s (List.mem_of_getElem? hs)] at hmem
    exact absurd hmem List.not_mem_nil
  obtain ⟨t, ht, hc⟩ := ho.classed _ (ho.numbered.callback?_eq_some_iff.mp hwaits)
  rwa [Option.some.inj (hs.symm.trans ht)]

/-- What the answer to a request of a class leaves of a host. -/
structure Answered (c : RequestClass) (reply : Reply) (h h' : Host) : Prop where
  /-- Nobody has a request of the class in flight. -/
  ended : ∀ t ∈ h'.sessions, t.dispatcher.pending.get c = none
  /-- There is a session that has the class, and no other. -/
  owner : ∃! j : SessionId, ∃ t, h'.sessions[j]? = some t ∧ c ∈ t.tracker.profile.classes
  /-- That session still supports the class, unless it was refused. -/
  supported : ∀ t ∈ h'.sessions, c ∈ t.tracker.profile.classes →
    (t.dispatcher.supported.get c = true ↔ reply ≠ .notSupported)
  /-- The other classes are as they were, and sessions without the class are too. -/
  others : ∀ (j : SessionId) (t : Session), h.sessions[j]? = some t →
    ∃ t', h'.sessions[j]? = some t' ∧ (c ∉ t.tracker.profile.classes → t' = t) ∧
      ∀ e, e ≠ c → t'.dispatcher.supported.get e = t.dispatcher.supported.get e ∧
        t'.dispatcher.pending.get e = t.dispatcher.pending.get e

/-- **What is left when a request is over.** -/
theorem InOrder.answered {taken : List Outgoing} (ho : h.InOrder taken) (hidle : h.Idle)
    (hdistinct : h.variants.Nodup) (hs : h.sessions[k.session]? = some s)
    (hp : s.dispatcher.pending.get k.cls = some ⟨k.ticket, n⟩) (hsilenced : s.dispatcher.Silenced)
    {outcome : Outcome} {reply : Reply} (hout : outcome = .notSupported ↔ reply = .notSupported) :
    Answered k.cls reply h (h.release n k outcome) := by
  have hmine := ho.mem_classes_of_pending hidle hs hp
  -- the session alone has the class
  have honly : ∀ i t, h.sessions[i]? = some t → k.cls ∈ t.tracker.profile.classes →
      i = k.session := by
    intro i t ht hc
    have hsame := congrArg some (Profile.variant_eq_of_classes hc hmine)
    refine (List.getElem?_inj (List.getElem?_eq_some_iff.mp (getElem?_variants ht)).1 hdistinct).mp ?_
    exact (getElem?_variants ht).trans (hsame.trans (getElem?_variants hs).symm)
  have hafter : ∀ i t', (h.release n k outcome).sessions[i]? = some t' →
      ∃ t, h.sessions[i]? = some t ∧ t' = if k.session = i then
        { t with dispatcher := t.dispatcher.release k.cls outcome } else t := by
    intro i t' ht'
    rw [getElem?_release] at ht'
    obtain ⟨t, ht, rfl⟩ := Option.map_eq_some_iff.mp ht'
    exact ⟨t, ht, rfl⟩
  constructor
  · intro t' ht'
    obtain ⟨i, hi⟩ := List.mem_iff_getElem?.mp ht'
    obtain ⟨t, ht, rfl⟩ := hafter i t' hi
    split
    · exact ByClass.get_set_self ..
    · next hne =>
        cases hpending : t.dispatcher.pending.get k.cls with
        | none => rfl
        | some p =>
            have hc := ho.mem_classes_of_pending hidle ht hpending
            exact absurd (honly i t ht hc).symm hne
  · have hthere : (h.release n k outcome).sessions[k.session]? =
        some { s with dispatcher := s.dispatcher.release k.cls outcome } := by
      rw [getElem?_release, hs, Option.map_some, if_pos rfl]
    refine ⟨k.session, ⟨_, hthere, hmine⟩, fun i hi => ?_⟩
    obtain ⟨t', ht', hc⟩ := hi
    obtain ⟨t, ht, rfl⟩ := hafter i t' ht'
    refine honly i t ht ?_
    split at hc <;> exact hc
  · intro t' ht' hc
    obtain ⟨i, hi⟩ := List.mem_iff_getElem?.mp ht'
    obtain ⟨t, ht, rfl⟩ := hafter i t' hi
    have hi : i = k.session := honly i t ht (by split at hc <;> exact hc)
    obtain rfl : t = s := Option.some.inj (ht.symm.trans (hi ▸ hs))
    -- what is in flight was supported until now
    have hbefore : t.dispatcher.supported.get k.cls = true := by
      rw [← Bool.not_eq_false]
      intro hlost
      rw [hsilenced k.cls hlost] at hp
      cases hp
    rw [if_pos hi.symm, Dispatcher.supported_release, hbefore]
    simp [← hout]
  · intro i t ht
    refine ⟨_, (getElem?_release ..).trans (by rw [ht, Option.map_some]), fun hc => ?_,
      fun e he => ?_⟩
    · refine if_neg fun hi => hc ?_
      subst hi
      rwa [Option.some.inj (ht.symm.trans hs)]
    · split
      · exact ⟨(Dispatcher.supported_release ..).trans (if_neg fun h => he h.1),
          ByClass.get_set_ne _ _ he⟩
      · exact ⟨rfl, rfl⟩

end Host

namespace Replay

variable {s : Scenario} {r : Replay} {reports : List Report} {serial : Option Serial} {n : Serial}
  {k : Callback} {q : Request} {pre : List Step}

/-- An answer is to a request that waits: the one that it names, or the latest one if it names
none. -/
def Addresses (serial : Option Serial) (n : Serial) (r : Replay) : Prop :=
  r.host.platform.transport.isPending n = true ∧
    (serial = some n ∨
      serial = none ∧ ∀ m, r.host.platform.transport.isPending m = true → m ≤ n)

/-- What waits was reported. -/
theorem Tallied.exists_sent (ht : Tallied reports r)
    (hn : r.host.platform.transport.isPending n = true) : ∃ o ∈ r.sent, o.serial = n := by
  obtain ⟨w, hw, rfl⟩ : ∃ w ∈ r.host.platform.transport.pending, w.1 = n := by
    simpa [Transport.isPending, Transport.callback?, List.find?_isSome] using hn
  obtain ⟨o, ho, hserial, -⟩ := ht.host.traced.entered w hw
  rw [ht.ledger] at ho
  exact ⟨o, ho, hserial⟩

/-- **The latest request that waits has the largest number.** -/
theorem Tallied.latestPending_eq (ht : Tallied reports r)
    (hn : r.host.platform.transport.isPending n = true)
    (hmax : ∀ m, r.host.platform.transport.isPending m = true → m ≤ n) :
    r.latestPending = some n := by
  obtain ⟨o, ho, rfl⟩ := ht.exists_sent hn
  have hfalling : r.sent.reverse.Pairwise fun a b => b.serial < a.serial := by
    have hrising := ht.host.traced.rising
    rw [ht.ledger, List.pairwise_map] at hrising
    exact List.pairwise_reverse.mpr hrising
  have hmem : o ∈ r.sent.reverse := List.mem_reverse.mpr ho
  obtain ⟨latest, hlatest⟩ := Option.isSome_iff_exists.mp
    (List.find?_isSome.mpr ⟨o, hmem, hn⟩ : (r.sent.reverse.find? fun o =>
      r.host.platform.transport.isPending o.serial).isSome = true)
  rw [latestPending, hlatest, Option.map_some]
  obtain ⟨hpending, later, earlier, hsplit, hnone⟩ := List.find?_eq_some_iff_append.mp hlatest
  have hle := hmax _ hpending
  -- the numbers fall from the latest on, and before it nothing waits
  rw [hsplit] at hmem hfalling
  have hbehind := (List.pairwise_cons.mp (List.pairwise_append.mp hfalling).2.1).1
  grind

/-- The request that is answered. -/
theorem Addresses.exists_target (ha : r.Addresses serial n) (ht : Tallied reports r) :
    ∃ q, r.target serial = .ok (n, q) ∧ ⟨n, q⟩ ∈ r.sent := by
  obtain ⟨hn, hserial⟩ := ha
  have hnumber : serial.or r.latestPending = some n := by
    rcases hserial with rfl | ⟨rfl, hmax⟩
    · rfl
    · exact ht.latestPending_eq hn hmax
  obtain ⟨q, hq⟩ := Option.isSome_iff_exists.mp (isSome_sent?_iff.mpr (ht.exists_sent hn))
  have htarget : r.target serial = .ok (n, q) := by
    simp only [target, hnumber, hq]
  obtain ⟨o, ho, rfl, rfl⟩ := mem_of_target htarget
  exact ⟨_, htarget, ho⟩

/-- To let the sessions work first does not change a report. -/
theorem report_settle (number : Nat) (action : String) (answered : Option Serial) (r : Replay) :
    ({ r with host := r.host.settle } : Replay).report number action answered =
      r.report number action answered := by
  simp only [report, Host.settle_of_idle (Host.idle_settle r.host)]

/-- What was reported was built by a session. -/
theorem formed_after (h : after s pre = .ok (reports, r)) (hq : ⟨n, q⟩ ∈ r.sent) : q.Formed :=
  lasting_after Transport.lasting_formed (fun _ ho => absurd ho List.not_mem_nil) h _
    (List.mem_append_left _ hq)

/-- **A step that answers** a request which waits, and what it leaves. -/
theorem Addresses.exists_apply (ha : r.Addresses serial n) (h : after s pre = .ok (reports, r))
    (number : Nat) (reply : Reply) :
    ∃ q c r', r.apply number (.respond serial reply) =
        .ok (⟨number, "respond", [], [], some n⟩, r') ∧
      ⟨n, q⟩ ∈ requestsOf reports ∧ q.cls? = some c ∧ Host.Answered c reply r.host r'.host := by
  have hrested := rested_after h
  have hquiet := quiet_after h
  obtain ⟨q, htarget, hmem⟩ := ha.exists_target (tallied_after h)
  obtain ⟨k, hk⟩ := Transport.isPending_iff.mp ha.1
  have hwaits := hrested.order.numbered.callback?_eq_some_iff.mp hk
  have hcls := hrested.order.traced.cls_eq hwaits (List.mem_append_left _ hmem) rfl
  have hout := Reply.outcome_completion ((formed_after h hmem).response hcls) reply
  obtain ⟨t, ht, -, hpending⟩ := hrested.order.wired.waiting hwaits
  have hsilenced : t.dispatcher.Silenced := by
    obtain ⟨es, hes⟩ := exists_travel_after h
    exact Host.silenced_travel (hes ▸ ht)
  have hanswered := hrested.order.answered hquiet.idle
    (hrested.variants ▸ s.settings.nodup_tracked) ht hpending hsilenced hout
  -- all the work that the step makes is done when its report begins
  have hreleased : (r.host.release n k ((reply.completion q).outcome k.cls)).Quiet := by
    refine ⟨?_, hquiet.queued, hquiet.collected⟩
    rw [← hrested.order.wired.settle_respond hquiet.idle hk]
    exact Host.idle_settle _
  have hreported : ⟨n, q⟩ ∈ requestsOf reports := by
    rw [requestsOf, ← sent_after h]
    exact hmem
  refine ⟨q, k.cls, ⟨_, r.sent⟩, ?_, hreported, hcls, hanswered⟩
  rw [Replay.apply, perform]
  simp only [htarget]
  rw [← report_settle]
  simp only [hrested.order.wired.settle_respond hquiet.idle hk]
  rw [report_of_quiet hreleased]
  rfl

/-- What an answer leaves is clear of the class. -/
theorem clear_of_answered {r' : Replay} {c : RequestClass} {reply : Reply} {steps : List Step}
    (ha : Host.Answered c reply r.host r'.host) (h : after s steps = .ok (reports, r')) :
    ∃ v j, Clear v s.settings.tracked j c s.interface (decide (reply ≠ .notSupported)) r' := by
  have hrested := rested_after h
  obtain ⟨j, ⟨t, ht, hc⟩, -⟩ := ha.owner
  have hmem := List.mem_of_getElem? ht
  have hplace : s.settings.tracked[j]? = some t.tracker.variant := by
    rw [← hrested.variants]
    exact Host.getElem?_variants ht
  refine ⟨t.tracker.variant, j, hrested, fun i hi => ?_, hc,
    lasting_after (Transport.lasting_flows s.interface) ⟨rfl, rfl⟩ h, t, ht, rfl, ?_,
    ha.ended t hmem⟩
  · exact (List.getElem?_inj (List.getElem?_eq_some_iff.mp hi).1 s.settings.nodup_tracked).mp
      (hi.trans hplace.symm)
  · exact Bool.eq_iff_iff.mpr ((ha.supported t hmem hc).trans decide_eq_true_iff.symm)

/-- **An answer in time takes effect within its step.**  Take a scenario, any steps of it and a
request that waits after them.  A step that answers it, by its number or as the latest request that
waits, succeeds.  Its report says which request was answered and has neither requests nor
intervals, and what is left is a host on which the request is over.

If the reply says that the request is not supported, no later report has a request of its class,
whatever the steps are that follow.  After any other reply, the decisions about the class that
change next are reported as requests, and nothing else is. -/
theorem answer_takes_effect (h : after s pre = .ok (reports, r)) (ha : r.Addresses serial n)
    (reply : Reply) :
    ∃ q c r', r.apply (pre.length + 1) (.respond serial reply) =
        .ok (⟨pre.length + 1, "respond", [], [], some n⟩, r') ∧
      ⟨n, q⟩ ∈ requestsOf reports ∧ q.cls? = some c ∧ Host.Answered c reply r.host r'.host ∧
      (reply = .notSupported → ∀ post all last,
        after s (pre ++ .respond serial reply :: post) = .ok (all, last) →
        ∃ later, all = reports ++ ⟨pre.length + 1, "respond", [], [], some n⟩ :: later ∧
          ∀ report ∈ later, c.among report.requests = []) ∧
      (reply ≠ .notSupported → ∀ mid all r₁ number step report r₂,
        after s (pre ++ .respond serial reply :: mid) = .ok (all, r₁) →
        r'.revisionsAlong c mid = [] → r₁.apply number step = .ok (report, r₂) →
        c.among report.requests =
          (r₁.revisions c step).map fun value => c.build value s.interface) := by
  obtain ⟨q, c, r', happly, hreported, hcls, hanswered⟩ := ha.exists_apply h (pre.length + 1) reply
  have hafter : after s (pre ++ [.respond serial reply]) = _ :=
    after_append_of_follow h (follow_cons_eq_ok.mpr ⟨_, r', [], happly, rfl, rfl⟩)
  obtain ⟨v, j, hclear⟩ := clear_of_answered hanswered hafter
  -- what follows goes on from what the answer leaves
  have hrest : ∀ post all last, after s (pre ++ .respond serial reply :: post) = .ok (all, last) →
      ∃ later, follow (pre.length + 2) post r' = .ok (later, last) ∧
        all = reports ++ ⟨pre.length + 1, "respond", [], [], some n⟩ :: later := by
    intro post all last hall
    rw [List.append_cons] at hall
    obtain ⟨later, hfollow, rfl⟩ := exists_follow_of_after hafter hall
    rw [List.length_append] at hfollow
    exact ⟨later, hfollow, List.append_assoc ..⟩
  refine ⟨q, c, r', happly, hreported, hcls, hanswered, fun hrefused post all last hall => ?_,
    fun hkept mid all r₁ number step report r₂ hall hnone hstep => ?_⟩
  · obtain ⟨later, hfollow, rfl⟩ := hrest post all last hall
    rw [hrefused] at hclear
    exact ⟨later, rfl, hclear.follow_of_lost hfollow⟩
  · obtain ⟨later, hfollow, -⟩ := hrest mid all r₁ hall
    have hnext := ((hclear.follow hnone hfollow).apply hstep).1
    rwa [if_pos (decide_eq_true hkept)] at hnext

/-- A device that shows the modem nothing but its state, and whose display is on. -/
def reading : Scenario where
  interface := .v14
  settings := { devmon := { tracking := [.deviceState] } }
  initial := { display := some .on, battery := some .ok, charger := some .off }

/-- What a result that is known in part is the result of. -/
theorem exists_of_map {ε α β : Type} {x : Except ε α} {f : α → β} {b : β} (h : x.map f = .ok b) :
    ∃ a, x = .ok a ∧ f a = b := by
  cases x with
  | error e => cases h
  | ok a => exact ⟨a, rfl, Except.ok.inj h⟩

/-- The display goes off, the modem answers, the battery runs low and the display comes on again.  If
the modem refused the first request, it does not hear of the display any more; if it failed, it
does. -/
theorem answer_takes_effect_of_display :
    ∃ reports r, after reading [.display none (some .off)] = .ok (reports, r) ∧
      r.Addresses none 1 ∧
      (∃ last later, after reading [.display none (some .off), .respond none .notSupported,
          .battery none (some .low), .display none (some .on)] =
            .ok (reports ++ ⟨2, "respond", [], [], some 1⟩ :: later, last) ∧
        ∀ report ∈ later, RequestClass.lowDataExpected.among report.requests = []) ∧
      ∃ all r₁ report r₂, after reading [.display none (some .off), .respond none .failure,
          .battery none (some .low)] = .ok (all, r₁) ∧
        r₁.apply 4 (.display none (some .on)) = .ok (report, r₂) ∧
        RequestClass.lowDataExpected.among report.requests =
          [RequestClass.lowDataExpected.build false .v14] := by
  have hfirst : (after reading [.display none (some .off)]).map (fun x =>
      (requestsOf x.1, x.2.host.platform.transport.isPending 1)) =
      .ok ([⟨1, RequestClass.lowDataExpected.build true .v14⟩], true) := by
    decide +kernel
  have hrefused : (after reading [.display none (some .off), .respond none .notSupported,
      .battery none (some .low), .display none (some .on)]).map (fun x => x.1.length) = .ok 5 := by
    decide +kernel
  have hfailed : (after reading [.display none (some .off), .respond none .failure]).map
      (fun x => x.2.revisionsAlong .lowDataExpected [.battery none (some .low)]) = .ok [] := by
    decide +kernel
  have hagain : (after reading [.display none (some .off), .respond none .failure,
      .battery none (some .low)]).map (fun x =>
        (x.2.revisions .lowDataExpected (.display none (some .on)),
          (x.2.apply 4 (.display none (some .on))).map (fun y => y.1.step))) =
      .ok ([false], .ok 4) := by
    decide +kernel
  obtain ⟨⟨reports, r⟩, hafter, hfirst⟩ := exists_of_map hfirst
  obtain ⟨⟨all, last⟩, hall, -⟩ := exists_of_map hrefused
  obtain ⟨⟨before, r₁⟩, hbefore, hagain⟩ := exists_of_map hagain
  obtain ⟨hsent, hwaits⟩ := Prod.mk.inj hfirst
  obtain ⟨hrevisions, hstep⟩ := Prod.mk.inj hagain
  obtain ⟨⟨report, r₂⟩, hstep, -⟩ := exists_of_map hstep
  have haddresses : r.Addresses none 1 := by
    refine ⟨hwaits, .inr ⟨rfl, fun m hm => ?_⟩⟩
    obtain ⟨o, ho, rfl⟩ := (tallied_after hafter).exists_sent hm
    rw [sent_after hafter, ← requestsOf, hsent] at ho
    rw [List.mem_singleton.mp ho]
  -- the only request so far is one about low data
  have hclass : ∀ q c, ⟨1, q⟩ ∈ requestsOf reports → q.cls? = some c → c = .lowDataExpected := by
    intro q c hq hc
    rw [hsent] at hq
    obtain ⟨-, rfl⟩ := Outgoing.mk.inj (List.mem_singleton.mp hq)
    exact Option.some.inj (hc.symm.trans (Request.cls?_build ..))
  refine ⟨reports, r, hafter, haddresses, ?_, ?_⟩
  · obtain ⟨q, c, -, -, hq, hc, -, hlost, -⟩ :=
      answer_takes_effect hafter haddresses .notSupported
    obtain rfl := hclass q c hq hc
    obtain ⟨later, rfl, hlater⟩ := hlost rfl _ _ _ hall
    exact ⟨last, later, hall, hlater⟩
  · obtain ⟨q, c, r', happly, hq, hc, -, -, hkept⟩ :=
      answer_takes_effect hafter haddresses .failure
    obtain rfl := hclass q c hq hc
    have hanswered : after reading [.display none (some .off), .respond none .failure] = _ :=
      after_append_of_follow hafter (follow_cons_eq_ok.mpr ⟨_, r', [], happly, rfl, rfl⟩)
    rw [hanswered] at hfailed
    have hrequests := hkept (by decide) _ _ _ 4 _ _ _ hbefore (Except.ok.inj hfailed) hstep
    rw [hrevisions] at hrequests
    exact ⟨before, r₁, report, r₂, hbefore, hstep, hrequests⟩

end Replay

end ModemWatch
