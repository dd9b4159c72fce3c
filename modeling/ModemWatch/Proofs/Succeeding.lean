import ModemWatch.CommandLine.Run
import ModemWatch.Proofs.Ledger
import ModemWatch.Proofs.Passes
import ModemWatch.Proofs.Replaying

/-!
# When a replay runs through

Nothing in a replay can fail but its settings and a step that answers a request.  Whether there is a
request to answer can be told from the reports so far and from what waits in the transport: between
two steps every request that was ever submitted has been reported, and their numbers are 1, 2, 3 and
so on.  The listener of the slot, whose changes are reported as well, missed none and heard nothing
twice in a row.

* `Transport.Gapless` — the numbers in a ledger, if the queue to the modem is open;
* `Host.slot_step` — what a happening does to the slot: calls, or a collection;
* `Host.Tallied` — ledger and listener in order, kept by every happening of a replay;
* `Replay.serials_after` — the numbers in the reports of some steps;
* `Replay.target_cases` — which requests can be answered;
* `Replay.runs_through_iff` — when a replay succeeds, what it reports, and how it fails.
-/

namespace ModemWatch

/-! ## Numbers -/

namespace Transport

variable {taken : List Outgoing} {t : Transport Callback}

/-- The numbers in the ledger are 1, 2, 3 and so on, the next request gets the next number, and it
can be queued. -/
structure Gapless (taken : List Outgoing) (t : Transport Callback) : Prop where
  opened : t.closed = false
  serials : (t.ledger taken).map (fun o => o.serial) = List.range' 1 (t.ledger taken).length
  next : t.nextSerial = (t.ledger taken).length + 1

theorem gapless_new (slot : String) (interface : Interface) :
    Gapless [] { slot := slot, interface := interface } :=
  ⟨rfl, rfl, rfl⟩

theorem Gapless.submit (h : t.Gapless taken) (r : Request) (k : Callback) :
    (t.submit r k).2.Gapless taken := by
  rw [submit_of_open h.opened]
  have hledger : ledger taken
      { t with
        nextSerial := t.nextSerial + 1
        queued := t.queued ++ [⟨t.nextSerial, r⟩]
        pending := t.pending ++ [(t.nextSerial, k)] } =
      t.ledger taken ++ [⟨t.nextSerial, r⟩] := (List.append_assoc ..).symm
  refine ⟨h.opened, ?_, ?_⟩
  · rw [hledger, List.map_append, h.serials, List.length_append, List.length_singleton,
      List.range'_concat, List.map_singleton, h.next, Nat.one_mul, Nat.add_comm]
  · rw [hledger, List.length_append, List.length_singleton, ← h.next]

/-- What is taken stays in the ledger. -/
theorem Gapless.drain (h : t.Gapless taken) : t.drain.2.Gapless (taken ++ t.queued) := by
  have hledger : t.drain.2.ledger (taken ++ t.queued) = t.ledger taken := List.append_nil _
  exact ⟨h.opened, by rw [hledger]; exact h.serials, by rw [hledger]; exact h.next⟩

theorem lasting_gapless : Lasting Gapless where
  forget h _ := ⟨h.opened, h.serials, h.next⟩
  failAll h := ⟨h.opened, h.serials, h.next⟩
  drain h := h.drain
  submit h _ := h.submit _ _

end Transport

/-! ## Calls -/

namespace Session

theorem slot_handle (id : SessionId) (m : Message) (s : Session) (p : Platform) :
    ∃ calls, (s.handle id m p).2.slot = p.slot.takeAll calls := by
  cases hopen : s.closed with
  | true => exact ⟨[], by rw [handle_closed hopen]; rfl⟩
  | false => exact ⟨_, (calls_handle hopen id m p).trans (Slot.pushAll_eq_takeAll ..)⟩

theorem slot_shutdown (id : SessionId) (s : Session) (p : Platform) :
    ∃ calls, (s.shutdown id p).2.slot = p.slot.takeAll calls := by
  cases hopen : s.closed with
  | true => exact ⟨[], by rw [shutdown, if_pos hopen]; rfl⟩
  | false => exact ⟨[.drop id], by rw [shutdown_of_open id p hopen]; rfl⟩

end Session

namespace Host

/-- What a happening collects of what the listener of the slot heard. -/
def collects (h : Host) : Happening → List (Option Millis)
  | .collectSlot => h.platform.slot.heard
  | _ => []

variable {h h' : Host} {taken : List Outgoing} {said : List (Option Millis)}

/-- **A happening only makes calls on the slot**, or it collects what was heard. -/
theorem slot_step (h : Host) (e : Happening) :
    (e = .collectSlot ∧ (h.step e).platform.slot = h.platform.slot.collect) ∨
      (h.collects e = [] ∧ ∃ calls, (h.step e).platform.slot = h.platform.slot.takeAll calls) := by
  cases e with
  | collectSlot => exact .inl ⟨rfl, rfl⟩
  | signal u => exact .inr ⟨rfl, [], by rw [step, platform_signal]; rfl⟩
  | respond n a => exact .inr ⟨rfl, [], by rw [step, platform_respond]; rfl⟩
  | failAll status => exact .inr ⟨rfl, [], by rw [step, platform_failAll]; rfl⟩
  | emit event => exact .inr ⟨rfl, [], by rw [step, platform_emit]; rfl⟩
  | start m =>
      have hslot := (Session.slot_pushed_at_start h.sessions.length m.variant m.intervals
        m.watchPath h.platform).1
      exact .inr ⟨rfl, _, hslot.trans (Slot.pushAll_eq_takeAll ..)⟩
  | processOne id =>
      refine .inr ⟨rfl, ?_⟩
      rcases processOne_cases h id with heq | ⟨s, m, rest, -, -, heq⟩
      · exact ⟨[], by rw [step, heq]; rfl⟩
      · rw [step, heq]
        exact Session.slot_handle id m s h.platform
  | shutdown id =>
      refine .inr ⟨rfl, ?_⟩
      rw [step, Host.shutdown]
      cases hs : h.sessions[id]? with
      | none => exact ⟨[], by rw [withSession_of_none hs]; rfl⟩
      | some s =>
          rw [withSession_of_some hs]
          exact Session.slot_shutdown id s h.platform
  | closeOutgoing | failNextWatch | writeScreen | setPower | takeOutgoing =>
      exact .inr ⟨rfl, [], rfl⟩

/-- **The listener misses nothing**, whatever happens. -/
theorem told_step (ht : h.platform.slot.Told said) (e : Happening) :
    (h.step e).platform.slot.Told (said ++ h.collects e) := by
  rcases h.slot_step e with ⟨rfl, hslot⟩ | ⟨hnone, calls, hslot⟩
  · rw [hslot]
    exact ht.collect
  · rw [hslot, hnone, List.append_nil]
    exact ht.takeAll calls

/-! ## Both together -/

/-- A host whose requests and intervals were read by somebody: `taken` and `said` are what was
read. -/
structure Tallied (taken : List Outgoing) (said : List (Option Millis)) (h : Host) : Prop where
  traced : h.platform.transport.Traced taken
  gapless : h.platform.transport.Gapless taken
  told : h.platform.slot.Told said

theorem tallied_new (slot : String) (interface : Interface) : (new slot interface).Tallied [] [] :=
  ⟨Transport.traced_new slot interface, Transport.gapless_new slot interface, Slot.told_new⟩

theorem Tallied.step (ht : h.Tallied taken said) {e : Happening} (he : e ≠ .closeOutgoing) :
    (h.step e).Tallied (taken ++ h.takes e) (said ++ h.collects e) :=
  ⟨traced_step ht.traced e, lasting_step Transport.lasting_gapless ht.gapless he,
    told_step ht.told e⟩

end Host

/-- Nobody reads what went out or was heard, and the queue to the modem stays open. -/
def Happening.Unread : Happening → Prop
  | .takeOutgoing | .collectSlot | .closeOutgoing => False
  | _ => True

theorem Happening.Scripted.unread {e : Happening} (he : e.Scripted) : e.Unread := by
  cases e with
  | takeOutgoing | collectSlot | closeOutgoing => exact he
  | _ => trivial

namespace Host

variable {h h' : Host} {taken : List Outgoing} {said : List (Option Millis)}

theorem Tallied.through (ht : h.Tallied taken said) (hthrough : h.Through Happening.Unread h') :
    h'.Tallied taken said := by
  obtain ⟨es, hes, rfl⟩ := hthrough
  refine run_induction (fun e he g hg => ?_) ht
  have hunread := hes e he
  have hstep := hg.step (e := e) (by rintro rfl; exact hunread)
  have htakes : g.takes e = [] ∧ g.collects e = [] := by
    cases e with
    | takeOutgoing | collectSlot => exact absurd hunread not_false
    | _ => exact ⟨rfl, rfl⟩
  rwa [htakes.1, htakes.2, List.append_nil, List.append_nil] at hstep

/-- Sessions that work collect nothing. -/
theorem through_settle (h : Host) : h.Through Happening.Unread h.settle := by
  obtain ⟨es, hes, hrun⟩ := exists_run_settle h
  refine ⟨es, fun e he => ?_, hrun⟩
  obtain ⟨id, rfl⟩ := hes e he
  trivial

theorem through_startAll (monitors : List Monitor) (h : Host) :
    h.Through Happening.Unread (h.startAll monitors) := by
  refine ⟨monitors.map Happening.start, fun e he => ?_, startAll_eq_run monitors h⟩
  obtain ⟨m, -, rfl⟩ := List.mem_map.mp he
  trivial

theorem Tallied.settle (ht : h.Tallied taken said) : h.settle.Tallied taken said :=
  ht.through (through_settle h)

theorem Tallied.startAll (ht : h.Tallied taken said) (monitors : List Monitor) :
    (h.startAll monitors).Tallied taken said :=
  ht.through (through_startAll monitors h)

end Host

namespace Replay

variable {s : Scenario} {r r' : Replay} {step : Step} {steps pre post : List Step} {number : Nat}
  {report : Report} {reports : List Report} {serial : Option Serial}

/-- Between two steps: ledger and listener are in order, and all that went out or was heard is in
the reports. -/
structure Tallied (reports : List Report) (r : Replay) : Prop where
  host : r.host.Tallied r.sent (reports.flatMap (fun report => report.intervals))
  drained : r.host.platform.transport.queued = []

/-- A report takes in all that went out and was heard. -/
theorem tallied_report (reports : List Report)
    (ht : r.host.Tallied r.sent (reports.flatMap fun report => report.intervals)) (number : Nat)
    (action : String) (answered : Option Serial) :
    Tallied (reports ++ [(r.report number action answered).1])
      (r.report number action answered).2 := by
  have hdone := (ht.settle.step (e := .takeOutgoing) (by simp)).step (e := .collectSlot) (by simp)
  simp only [Host.takes, Host.collects, List.append_nil] at hdone
  refine ⟨?_, rfl⟩
  rw [List.flatMap_append, List.flatMap_singleton]
  exact hdone

/-- **After any steps everything is in the reports.** -/
theorem tallied_after (h : after s steps = .ok (reports, r)) : Tallied reports r := by
  refine after_induction (P := fun _ reports r => Tallied reports r) ?_ ?_ h
  · intro r hstart
    obtain ⟨-, rfl⟩ := start_eq_ok.mp hstart
    have hdevice := (Host.tallied_new s.slot s.interface).through
      ((Host.through_setUp _ s.initial).mono fun _ => Happening.Scripted.unread)
    exact tallied_report [] (hdevice.startAll _) 0 "start" none
  · intro pre reports r step report r' _ ih happly
    obtain ⟨answered, h, hstep, rfl, rfl⟩ := exists_of_apply happly
    have hperformed := ih.host.through
      ((through_perform hstep).mono fun _ => Happening.Scripted.unread)
    exact tallied_report (r := { r with host := h }) reports hperformed _ _ _

/-- All requests of some reports, oldest first. -/
def requestsOf (reports : List Report) : List Outgoing :=
  reports.flatMap (fun report => report.requests)

/-- All requests that were submitted so far were sent. -/
theorem Tallied.ledger (ht : Tallied reports r) :
    r.host.platform.transport.ledger r.sent = r.sent := by
  rw [Transport.ledger, ht.drained, List.append_nil]

/-- The numbers in the reports of some steps are 1, 2, 3 and so on, and the next request gets the
next number. -/
theorem serials_after (h : after s steps = .ok (reports, r)) :
    (requestsOf reports).map (fun o => o.serial) = List.range' 1 (requestsOf reports).length ∧
      r.host.platform.transport.nextSerial = (requestsOf reports).length + 1 := by
  have ht := tallied_after h
  have hsent : r.host.platform.transport.ledger r.sent = requestsOf reports :=
    ht.ledger.trans (sent_after h)
  have hgapless := ht.host.gapless
  exact ⟨hsent ▸ hgapless.serials, hsent ▸ hgapless.next⟩

/-! ## Answers -/

/-- The failure of an answer that is for no request. -/
def refusal : Option Serial → NoAnswer
  | none => .nothingPending
  | some n => .unknownRequest n

/-- An answer names a request that was reported, or it names none while some request waits.  All
other steps can always be taken. -/
def Answerable (reports : List Report) (r : Replay) : Step → Prop
  | .respond (some n) _ => 1 ≤ n ∧ n ≤ (requestsOf reports).length
  | .respond none _ => r.host.platform.transport.pending ≠ []
  | _ => True

/-- The numbers that were sent go from 1 to the number of requests in the reports. -/
theorem exists_sent_iff (h : after s steps = .ok (reports, r)) (n : Serial) :
    (∃ o ∈ r.sent, o.serial = n) ↔ 1 ≤ n ∧ n ≤ (requestsOf reports).length := by
  have hsent : r.sent = requestsOf reports := sent_after h
  rw [hsent, ← List.mem_map, (serials_after h).1, List.mem_range'_1, Nat.add_comm,
    Nat.lt_succ_iff]

theorem isSome_sent?_iff {n : Serial} :
    (r.sent? n).isSome = true ↔ ∃ o ∈ r.sent, o.serial = n := by
  simp [sent?, List.find?_isSome]

/-- There is a latest request that waits if any request waits. -/
theorem Tallied.isSome_latestPending_iff (ht : Tallied reports r) :
    r.latestPending.isSome = true ↔ r.host.platform.transport.pending ≠ [] := by
  have hwaits : ∀ n, r.host.platform.transport.isPending n = true ↔
      ∃ w ∈ r.host.platform.transport.pending, w.1 = n := by
    simp [Transport.isPending, Transport.callback?, List.find?_isSome]
  rw [latestPending, Option.isSome_map, List.find?_isSome]
  constructor
  · rintro ⟨o, -, hpending⟩
    obtain ⟨w, hw, -⟩ := (hwaits o.serial).mp hpending
    exact List.ne_nil_of_mem hw
  · -- whatever waits was submitted, and all that was submitted was sent
    intro hsome
    obtain ⟨w, hw⟩ := List.exists_mem_of_ne_nil _ hsome
    obtain ⟨o, ho, hserial, -⟩ := ht.host.traced.entered w hw
    rw [ht.ledger] at ho
    exact ⟨o, List.mem_reverse.mpr ho, (hwaits o.serial).mpr ⟨w, hw, hserial.symm⟩⟩

/-- The latest request that waits was reported. -/
theorem isSome_sent?_of_latest {n : Serial} (hlatest : r.latestPending = some n) :
    (r.sent? n).isSome = true := by
  obtain ⟨o, ho, rfl⟩ := Option.map_eq_some_iff.mp hlatest
  exact isSome_sent?_iff.mpr ⟨o, List.mem_reverse.mp (List.mem_of_find?_eq_some ho), rfl⟩

/-- **Which requests can be answered**, and how it fails for others. -/
theorem target_cases (h : after s steps = .ok (reports, r)) (serial : Option Serial)
    (reply : Reply) :
    (Answerable reports r (.respond serial reply) ∧ ∃ x, r.target serial = .ok x) ∨
      (¬ Answerable reports r (.respond serial reply) ∧
        r.target serial = .error (refusal serial)) := by
  cases serial with
  | some n =>
      have hsent : (r.sent? n).isSome = true ↔ Answerable reports r (.respond (some n) reply) := by
        rw [isSome_sent?_iff, exists_sent_iff h]
        rfl
      cases hfound : r.sent? n with
      | none =>
          rw [hfound] at hsent
          exact .inr ⟨fun hn => Bool.false_ne_true (hsent.mpr hn),
            by simp [target, hfound, refusal]⟩
      | some request =>
          rw [hfound] at hsent
          exact .inl ⟨hsent.mp rfl, (n, request), by simp [target, hfound]⟩
  | none =>
      have hpending : r.latestPending.isSome = true ↔ Answerable reports r (.respond none reply) :=
        (tallied_after h).isSome_latestPending_iff
      cases hlatest : r.latestPending with
      | none =>
          rw [hlatest] at hpending
          exact .inr ⟨fun hn => Bool.false_ne_true (hpending.mpr hn),
            by simp [target, hlatest, refusal]⟩
      | some n =>
          rw [hlatest] at hpending
          obtain ⟨request, hfound⟩ := Option.isSome_iff_exists.mp (isSome_sent?_of_latest hlatest)
          exact .inl ⟨hpending.mp rfl, (n, request), by simp [target, hlatest, hfound]⟩

/-- **A step is taken if it is no answer for no request**, and otherwise it says so. -/
theorem apply_cases (h : after s steps = .ok (reports, r)) (number : Nat) (step : Step) :
    (Answerable reports r step ∧ ∃ x, r.apply number step = .ok x) ∨
      ∃ serial reply, step = .respond serial reply ∧ ¬ Answerable reports r step ∧
        r.apply number step = .error (refusal serial) := by
  cases step with
  | respond serial reply =>
      rcases target_cases h serial reply with ⟨hanswer, ⟨n, q⟩, htarget⟩ | ⟨hno, htarget⟩
      · refine .inl ⟨hanswer, ?_⟩
        simp only [Replay.apply, perform, htarget]
        exact ⟨_, rfl⟩
      · exact .inr ⟨serial, reply, rfl, hno, by simp only [Replay.apply, perform, htarget]⟩
  | _ => exact .inl ⟨trivial, _, rfl⟩

/-! ## Whole runs -/

/-- The steps are numbered, and named in the reports. -/
theorem labels_follow (h : follow number steps r = .ok (reports, r')) :
    reports.map (fun report => report.step) = List.range' number steps.length ∧
      reports.map (fun report => report.action) = steps.map Step.action := by
  induction steps generalizing number r reports with
  | nil =>
      obtain ⟨rfl, -⟩ := Prod.mk.inj (Except.ok.inj h)
      exact ⟨rfl, rfl⟩
  | cons step steps ih =>
      obtain ⟨report, r₁, rest, happly, hfollow, rfl⟩ := follow_cons_eq_ok.mp h
      obtain ⟨answered, g, -, rfl, -⟩ := exists_of_apply happly
      obtain ⟨hsteps, hactions⟩ := ih hfollow
      rw [List.map_cons, List.map_cons, hsteps, hactions]
      exact ⟨rfl, rfl⟩

/-- A row of steps fails at its first step that cannot be taken. -/
theorem exists_of_follow_error {e : NoAnswer} (h : follow number steps r = .error e) :
    ∃ pre step post reports r', steps = pre ++ step :: post ∧
      follow number pre r = .ok (reports, r') ∧ r'.apply (number + pre.length) step = .error e := by
  induction steps generalizing number r with
  | nil => cases h
  | cons step steps ih =>
      rw [follow] at h
      cases happly : r.apply number step with
      | error e' =>
          rw [happly] at h
          cases h
          exact ⟨[], step, steps, [], r, rfl, rfl, happly⟩
      | ok x =>
          rw [happly] at h
          cases hfollow : follow (number + 1) steps x.2 with
          | ok y => simp only [hfollow] at h; cases h
          | error e' =>
              simp only [hfollow] at h
              cases h
              obtain ⟨pre, step', post, reports, r', rfl, hpre, hlast⟩ := ih hfollow
              refine ⟨step :: pre, step', post, x.1 :: reports, r', rfl,
                follow_cons_eq_ok.mpr ⟨x.1, x.2, reports, happly, hpre, rfl⟩, ?_⟩
              rwa [List.length_cons, Nat.add_comm pre.length, ← Nat.add_assoc]

theorem validate_of_after {x : List Report × Replay} (h : after s steps = .ok x) :
    s.settings.validate = .ok () := by
  obtain ⟨r₀, -, hstart, -⟩ := after_eq_ok.mp h
  exact (start_eq_ok.mp hstart).1

/-- A step that was taken was no answer for no request. -/
theorem answerable_of_after {x : List Report × Replay} (h : after s (pre ++ step :: post) = .ok x)
    (hpre : after s pre = .ok (reports, r)) : Answerable reports r step := by
  obtain ⟨first, r₁, rest, hfirst, hrest, -⟩ := after_append h
  obtain ⟨rfl, rfl⟩ := Prod.mk.inj (Except.ok.inj (hpre.symm.trans hfirst))
  obtain ⟨report, r₂, -, happly, -⟩ := follow_cons_eq_ok.mp hrest
  rcases apply_cases hpre (pre.length + 1) step with ⟨hanswer, -⟩ | ⟨serial, reply, -, -, herror⟩
  · exact hanswer
  · rw [happly] at herror
    cases herror

/-- **What the reports of a run contain.** -/
structure Complete (s : Scenario) (reports : List Report) : Prop where
  steps : reports.map (fun report => report.step) = List.range (s.steps.length + 1)
  actions : reports.map (fun report => report.action) = "start" :: s.steps.map Step.action
  serials : (requestsOf reports).map (fun o => o.serial) =
    List.range' 1 (requestsOf reports).length
  /-- Whenever some steps were taken, nothing waits to be sent, and each number that was given to a
  request until then is in one of the reports until then, and in one only. -/
  submitted : ∀ pre post, s.steps = pre ++ post → ∃ r,
    after s pre = .ok (reports.take (pre.length + 1), r) ∧
    r.host.platform.transport.queued = [] ∧
    r.host.platform.transport.nextSerial =
      (requestsOf (reports.take (pre.length + 1))).length + 1 ∧
    ∀ n, 1 ≤ n → n < r.host.platform.transport.nextSerial → ∃! i : Nat, ∃ report : Report,
      (reports.take (pre.length + 1))[i]? = some report ∧ ∃ o ∈ report.requests, o.serial = n
  /-- No change is reported twice, and that nothing applies at first is not reported. -/
  changes : (none :: reports.flatMap (fun report => report.intervals)).IsChain (· ≠ ·)

/-- **How a run fails**: for its settings before any session starts, or at its first answer that is
for no request. -/
inductive FailsWith (s : Scenario) : Failure → Prop
  | settings {invalid : InvalidSettings} : s.settings.validate = .error invalid →
      start s = .error invalid → FailsWith s (.configInvalid invalid.reason)
  | answer {pre post : List Step} {serial : Option Serial} {reply : Reply} {reports : List Report}
      {r : Replay} : s.settings.validate = .ok () →
      s.steps = pre ++ .respond serial reply :: post → after s pre = .ok (reports, r) →
      (∀ pre' step post' reports' r', pre = pre' ++ step :: post' →
        after s pre' = .ok (reports', r') → Answerable reports' r' step) →
      ¬ Answerable reports r (.respond serial reply) → FailsWith s (refusal serial).failure

theorem failsWith_of_run {f : Failure} (h : run s = .error f) : FailsWith s f := by
  rw [run_eq_after, after] at h
  cases hstart : start s with
  | error invalid =>
      rw [hstart] at h
      cases h
      exact .settings (start_eq_error.mp hstart) hstart
  | ok r₀ =>
      cases hfollow : follow 1 s.steps (r₀.report 0 "start" none).2 with
      | ok x =>
          simp only [hstart, hfollow] at h
          cases h
      | error e =>
          simp only [hstart, hfollow] at h
          cases h
          obtain ⟨pre, step, post, rest, r, hsteps, hpre, hlast⟩ := exists_of_follow_error hfollow
          have hafter := after_eq_ok.mpr ⟨r₀, rest, hstart, hpre, rfl⟩
          rcases apply_cases hafter (1 + pre.length) step with
            ⟨-, x, hok⟩ | ⟨serial, reply, rfl, hno, herror⟩
          · rw [hlast] at hok
            cases hok
          · rw [hlast] at herror
            rw [Except.error.inj herror]
            refine .answer (validate_of_after hafter) hsteps hafter ?_ hno
            rintro pre' step post' reports' r' rfl hpre'
            exact answerable_of_after hafter hpre'

/-- Each number is in one report. -/
theorem existsUnique_of_serials (h : (requestsOf reports).map (fun o => o.serial) =
      List.range' 1 (requestsOf reports).length) {n : Serial} (hfirst : 1 ≤ n)
    (hlast : n ≤ (requestsOf reports).length) :
    ∃! i : Nat, ∃ report : Report, reports[i]? = some report ∧
      ∃ o ∈ report.requests, o.serial = n := by
  have hnodup : (reports.flatMap fun report => report.requests.map fun o => o.serial).Nodup := by
    rw [← List.map_flatMap]
    exact h ▸ List.nodup_range'
  have hmem : n ∈ reports.flatMap fun report => report.requests.map fun o => o.serial := by
    rw [← List.map_flatMap]
    exact h ▸ List.mem_range'_1.mpr ⟨hfirst, Nat.lt_one_add_iff.mpr hlast⟩
  obtain ⟨report, hreport, hn⟩ := List.mem_flatMap.mp hmem
  obtain ⟨i, hi, rfl⟩ := List.mem_iff_getElem.mp hreport
  refine ⟨i, ⟨reports[i], List.getElem?_eq_getElem hi, List.mem_map.mp hn⟩, ?_⟩
  rintro j ⟨report, hj, hn'⟩
  obtain ⟨hlt, rfl⟩ := List.getElem?_eq_some_iff.mp hj
  -- no number is repeated, so two reports have none in common
  have hapart := List.pairwise_iff_getElem.mp (List.nodup_flatMap.mp hnodup).2
  rcases Nat.lt_trichotomy i j with hij | rfl | hji
  · exact absurd (List.mem_map.mpr hn') ((hapart i j hi hlt hij) hn)
  · rfl
  · exact absurd hn ((hapart j i hlt hi hji) (List.mem_map.mpr hn'))

/-- All of it can be read off the ledger and the slot, as they are after the steps. -/
theorem complete_of_run (h : run s = .ok reports) : Complete s reports := by
  obtain ⟨last, hafter⟩ := run_eq_ok.mp h
  obtain ⟨r₀, rest, -, hfollow, hreports⟩ := after_eq_ok.mp hafter
  obtain ⟨hsteps, hactions⟩ := labels_follow hfollow
  refine ⟨?_, ?_, (serials_after hafter).1, fun pre post hpre => ?_, ?_⟩
  · rw [hreports, List.map_cons, hsteps, List.range_eq_range', List.range'_succ]
    rfl
  · rw [hreports, List.map_cons, hactions]
    rfl
  · obtain ⟨r, hr⟩ := exists_after_of_run h hpre
    obtain ⟨hserials, hnext⟩ := serials_after hr
    refine ⟨r, hr, (tallied_after hr).drained, hnext, fun n hfirst hlt => ?_⟩
    rw [hnext] at hlt
    exact existsUnique_of_serials hserials hfirst (Nat.lt_succ_iff.mp hlt)
  · have hchain := (tallied_after hafter).host.told.changing
    rw [← List.cons_append] at hchain
    exact hchain.left_of_append

/-- **When a replay runs through.**  A scenario runs through exactly if its settings make sense and
each of its steps that answers a request names one that was reported before it, or names none while
a request waits for its answer in the transport.

Then there is a report of the start and one of each step, in order and numbered from 0.  Every
request that was ever submitted is in exactly one of the reports, and along them the numbers are 1,
2, 3 and so on.  The reported intervals are changes: none is reported twice in a row, and the first
is not that nothing applies.

Otherwise the run fails for its settings before any session starts, or at the first step that
answers no request, and the command prints no report. -/
theorem runs_through_iff (s : Scenario) :
    ((∃ reports, run s = .ok reports) ↔ s.settings.validate = .ok () ∧
      ∀ pre step post reports r, s.steps = pre ++ step :: post → after s pre = .ok (reports, r) →
        Answerable reports r step) ∧
    (∀ reports, run s = .ok reports → Complete s reports) ∧
    ∀ f, run s = .error f → FailsWith s f ∧
      ∀ track pretty (s₀ : Scenario),
        s = (if track.isEmpty then s₀ else { s₀ with settings := s₀.settings.withTracking track }) →
        replayScenario track pretty s₀ = f.output ∧
          (replayScenario track pretty s₀).stdout = "" := by
  refine ⟨⟨?_, ?_⟩, fun _ => complete_of_run, fun f hf => ⟨failsWith_of_run hf, ?_⟩⟩
  · rintro ⟨reports, hrun⟩
    obtain ⟨last, hafter⟩ := run_eq_ok.mp hrun
    refine ⟨validate_of_after hafter, fun pre step post reports' r hsteps hpre => ?_⟩
    rw [hsteps] at hafter
    exact answerable_of_after hafter hpre
  · rintro ⟨hvalid, hanswers⟩
    cases hrun : run s with
    | ok reports => exact ⟨reports, rfl⟩
    | error f =>
        cases failsWith_of_run hrun with
        | settings hinvalid _ =>
            rw [hvalid] at hinvalid
            cases hinvalid
        | answer _ hsteps hafter _ hno => exact absurd (hanswers _ _ _ _ _ hsteps hafter) hno
  · rintro track pretty s₀ rfl
    have hout : replayScenario track pretty s₀ = f.output := by
      rw [replayScenario, hf]
    rw [hout]
    exact ⟨rfl, rfl⟩

/-- A device that is used, and taken off its charger after a request was answered. -/
def unplugged (serial : Serial) : Scenario where
  interface := .v14
  initial := { charger := some .on }
  steps := [.display (some true) (some .on), .respond (some serial) .ok,
    .charger none (some .off), .shutdown]

/-- The second request goes out when the charger is taken away.  Answering the first one before that
is fine; answering the second fails, and nothing is printed. -/
theorem runs_through_iff_of_unplugged :
    (∃ reports, run (unplugged 1) = .ok reports ∧ Complete (unplugged 1) reports ∧
      reports.map (fun report => report.requests.length) = [1, 0, 0, 1, 0]) ∧
    FailsWith (unplugged 2) (.transport "unknown request #2") ∧
    ∀ pretty, (replayScenario [] pretty (unplugged 2)).stdout = "" := by
  refine ⟨?_, ?_⟩
  · have hlengths : (run (unplugged 1)).map (fun reports =>
        reports.map (fun report => report.requests.length)) = .ok [1, 0, 0, 1, 0] := by
      decide +kernel
    cases hrun : run (unplugged 1) with
    | error e => rw [hrun] at hlengths; cases hlengths
    | ok reports =>
        rw [hrun] at hlengths
        exact ⟨reports, rfl, (runs_through_iff _).2.1 reports hrun, Except.ok.inj hlengths⟩
  · have hrun : run (unplugged 2) = .error (.transport "unknown request #2") := by decide +kernel
    obtain ⟨hfails, hprints⟩ := (runs_through_iff _).2.2 _ hrun
    exact ⟨hfails, fun pretty => (hprints [] pretty _ rfl).2⟩

end Replay

end ModemWatch
