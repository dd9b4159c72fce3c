import ModemWatch.Proofs.Ended
import ModemWatch.Proofs.PollingRate
import ModemWatch.Proofs.Resting

/-!
# How a replay closes

A step that shuts down ends the sessions one after the other, and each drops its request for an
interval.  On the way another interval may come to apply, once or several times, and in the end none
does.  The listener is told so at that moment, and never before: as long as a session is open, some
interval is requested.  From then on the host is deserted.  Signals, watches and the radio find
nobody, there is nobody to be ended, and so nothing is reported any more.

* `Slot.exists_heard_pushAll` — who asks for intervals makes intervals heard;
* `Host.Deserted` — no session is open; `Deserted.scripted` — then no step of a scenario matters;
* `Host.Notified` — what the listener was told so far, kept by every happening of a replay;
* `Replay.shutdown_is_final` — what a replay reports of a shutdown, and afterwards.
-/

namespace ModemWatch

namespace Slot

/-- Once somebody asks, some interval applies. -/
theorem exists_applied_take_set (owner : Owner) (ms : Millis) (s : Slot) :
    ∃ m, (s.take (.set owner ms)).intervals.applied = some m := by
  rw [← Option.ne_none_iff_exists']
  simp [take, IntervalTable.set, IntervalTable.put, IntervalTable.shortest]

/-- **Of somebody who asks the listener hears intervals only.** -/
theorem exists_heard_pushAll (owner : Owner) (intervals : List Millis) (s : Slot) :
    ∃ news : List Millis, (s.pushAll owner intervals).heard = s.heard ++ news.map some := by
  unfold pushAll
  induction intervals generalizing s with
  | nil => exact ⟨[], (List.append_nil _).symm⟩
  | cons ms intervals ih =>
      obtain ⟨news, hnews⟩ := ih (s.take (.set owner ms))
      obtain ⟨m, hm⟩ := exists_applied_take_set owner ms s
      rw [heard_take, hm] at hnews
      split at hnews
      · exact ⟨news, by rwa [List.append_nil] at hnews⟩
      · exact ⟨m :: news, by rwa [List.append_assoc] at hnews⟩

end Slot

namespace Host

variable {h h' : Host} {e : Happening} {j : SessionId} {s : Session}
  {said : List (Option Millis)}

/-! ## Deserted hosts -/

/-- No session is open. -/
def Deserted (h : Host) : Prop := ∀ j, h.isOpen j = false

theorem Deserted.closed (hd : h.Deserted) (hs : h.sessions[j]? = some s) : s.closed = true := by
  have hj := hd j
  rwa [isOpen_of_some hs, Bool.not_eq_false'] at hj

theorem slot_of_outside (he : e.Outside) (h : Host) :
    (h.step e).platform.slot = h.platform.slot := by
  cases e with
  | signal u => rw [step, platform_signal]
  | respond n a => rw [step, platform_respond]
  | failAll status => rw [step, platform_failAll]
  | emit event => rw [step, platform_emit]
  | writeScreen | setPower => rfl
  | shutdown | closeOutgoing | failNextWatch | start | processOne | takeOutgoing | collectSlot =>
      exact absurd he not_false

/-- Nobody ends because of something outside. -/
theorem isOpen_of_outside (he : e.Outside) (h : Host) (j : SessionId) :
    (h.step e).isOpen j = h.isOpen j := by
  refine isOpen_of_posted (posted_move (e := .happen e) ?_) j
  cases e with
  | shutdown | start | processOne => exact absurd he not_false
  | _ => trivial

theorem isOpen_processOne (id : SessionId) (h : Host) (j : SessionId) :
    (h.processOne id).isOpen j = h.isOpen j := by
  rcases processOne_cases h id with heq | ⟨s, m, rest, hs, -, heq⟩
  · rw [heq]
  · rw [heq, isOpen_set hs]
    have hclosed := (Session.same_handle id m s h.platform).closed
    by_cases hj : j = id
    · subst hj
      rw [if_pos rfl, isOpen_of_some hs]
      exact congrArg (! ·) hclosed
    · rw [if_neg hj]

/-- Nobody ends by working. -/
theorem isOpen_settle (h : Host) (j : SessionId) : h.settle.isOpen j = h.isOpen j :=
  settle_induction (P := fun g => g.isOpen j = h.isOpen j) rfl fun id g hg =>
    (isOpen_processOne id g j).trans hg

/-- To end whoever is not open changes nothing. -/
theorem shutdown_of_not_open (hj : h.isOpen j = false) : h.shutdown j = h := by
  cases hs : h.sessions[j]? with
  | none => rw [shutdown, withSession_of_none hs]
  | some s =>
      rw [isOpen_of_some hs, Bool.not_eq_false'] at hj
      exact shutdown_of_closed hs hj

theorem isOpen_shutdown (id : SessionId) (h : Host) (j : SessionId) :
    (h.shutdown id).isOpen j = if j = id then false else h.isOpen j := by
  cases hs : h.sessions[id]? with
  | none =>
      rw [shutdown, withSession_of_none hs]
      by_cases hj : j = id
      · rw [if_pos hj, hj, isOpen, hs]
        rfl
      · rw [if_neg hj]
  | some s =>
      rw [shutdown, withSession_of_some hs, isOpen_set hs, Session.closed_shutdown]
      rfl

/-- **After a shutdown nobody is open.** -/
theorem deserted_shutdownAll (h : Host) : h.shutdownAll.Deserted := by
  intro j
  have hall : ∀ (ids : List SessionId) (g : Host),
      (g.run (ids.map .shutdown)).isOpen j = if j ∈ ids then false else g.isOpen j := by
    intro ids
    induction ids with
    | nil => exact fun g => rfl
    | cons id ids ih =>
        intro g
        refine (ih (g.shutdown id)).trans ?_
        rw [isOpen_shutdown]
        by_cases hid : j = id <;> simp [hid]
  rw [shutdownAll_eq_run, hall]
  by_cases hj : j < h.sessions.length
  · rw [if_pos (List.mem_range.mpr hj)]
  · rw [isOpen, List.getElem?_eq_none (Nat.le_of_not_lt hj)]
    exact ite_self _

/-- **No step of a scenario matters to a deserted host.** -/
theorem Deserted.scripted (hd : h.Deserted) (he : e.Scripted) :
    (h.step e).Deserted ∧ (h.step e).platform.slot = h.platform.slot := by
  cases e with
  | shutdown id =>
      rw [step, shutdown_of_not_open (hd id)]
      exact ⟨hd, rfl⟩
  | closeOutgoing | failNextWatch | start | processOne | takeOutgoing | collectSlot =>
      exact absurd he not_false
  | signal | respond | failAll | emit | writeScreen | setPower =>
      exact ⟨fun j => (isOpen_of_outside (by trivial) h j).trans (hd j),
        slot_of_outside (by trivial) h⟩

theorem Deserted.through (hd : h.Deserted) (ht : h.Through Happening.Scripted h') :
    h'.Deserted ∧ h'.platform.slot = h.platform.slot := by
  obtain ⟨es, hes, rfl⟩ := ht
  refine run_induction (P := fun g => g.Deserted ∧ g.platform.slot = h.platform.slot)
    (fun e he g hg => ?_) ⟨hd, rfl⟩
  obtain ⟨hstill, hslot⟩ := hg.1.scripted (hes e he)
  exact ⟨hstill, hslot.trans hg.2⟩

/-- Nobody is there to work. -/
theorem Deserted.idle (hd : h.Deserted) (hswept : h.Swept) : h.Idle := by
  intro s hs
  obtain ⟨j, hj, rfl⟩ := List.mem_iff_getElem.mp hs
  have hget := List.getElem?_eq_getElem hj
  exact hswept j _ hget (hd.closed hget)

/-- Nothing waits for nobody. -/
theorem Deserted.pending (hd : h.Deserted) (hw : h.Wired) :
    h.platform.transport.pending = [] := by
  rw [List.eq_nil_iff_forall_not_mem]
  intro w hmem
  obtain ⟨s, hs, hopen, -⟩ := hw.waiting hmem
  rw [hd.closed hs] at hopen
  cases hopen

/-! ## What the listener is told -/

/-- No interval applies exactly if no session is open. -/
theorem applied_eq_none_iff (hb : h.Booked) (hc : h.platform.slot.intervals.Consistent) :
    h.platform.slot.intervals.applied = none ↔ h.Deserted := by
  have howners : h.platform.slot.intervals.applied = none ↔ h.platform.slot.owners = [] := by
    rw [hc.shortest, IntervalTable.shortest, List.min?_eq_none_iff, Slot.owners,
      List.map_eq_nil_iff, List.map_eq_nil_iff]
  rw [howners, List.eq_nil_iff_forall_not_mem]
  refine forall_congr' fun j => ?_
  rw [hb.held, isOpen, Bool.eq_false_iff, ne_eq, Option.any_eq_true]
  simp

/-- The listener of a slot was told of intervals only, or of intervals and then that none applies;
in that case no session is open. -/
structure Notified (said : List (Option Millis)) (h : Host) : Prop where
  swept : h.Swept
  booked : h.Booked
  consistent : h.platform.slot.intervals.Consistent
  news : ∃ news : List Millis, said ++ h.platform.slot.heard = news.map some ∨
    (said ++ h.platform.slot.heard = news.map some ++ [none] ∧ h.Deserted)

theorem notified_new (slot : String) (interface : Interface) : (new slot interface).Notified [] :=
  ⟨swept_new slot interface, booked_new slot interface, IntervalTable.consistent_new, [], .inl rfl⟩

/-- As long as a session is open, the listener was told of intervals only. -/
theorem Notified.exists_of_open (hn : h.Notified said) (hopen : h.isOpen j = true) :
    ∃ news : List Millis, said ++ h.platform.slot.heard = news.map some := by
  obtain ⟨news, hnews | ⟨-, hd⟩⟩ := hn.news
  · exact ⟨news, hnews⟩
  · rw [hd j] at hopen
    cases hopen

/-- What is pushed by a session that was open. -/
theorem Notified.pushed (hn : h.Notified said) (hopen : h.isOpen j = true) {owner : Owner}
    {intervals : List Millis}
    (hslot : h'.platform.slot = h.platform.slot.pushAll owner intervals) :
    ∃ news : List Millis, said ++ h'.platform.slot.heard = news.map some := by
  obtain ⟨news, hnews⟩ := hn.exists_of_open hopen
  obtain ⟨more, hmore⟩ := Slot.exists_heard_pushAll owner intervals h.platform.slot
  exact ⟨news ++ more, by rw [hslot, hmore, ← List.append_assoc, hnews, List.map_append]⟩

theorem consistent_step (hc : h.platform.slot.intervals.Consistent) (e : Happening) :
    (h.step e).platform.slot.intervals.Consistent := by
  rcases h.slot_step e with ⟨-, hslot⟩ | ⟨-, calls, hslot⟩
  · rw [hslot]
    exact hc
  · rw [hslot]
    exact Slot.consistent_takeAll hc calls

/-- **The listener hears that none applies when the last session ends**, and not before. -/
theorem Notified.step (hn : h.Notified said) (he : e.starts = []) :
    (h.step e).Notified (said ++ h.collects e) := by
  have heffect : h.Effect (h.step e) := effect_move (e := .happen e) hn.swept trivial
  have hbooked := hn.booked.effect heffect
  have hconsistent := consistent_step hn.consistent e
  refine ⟨hn.swept.effect heffect, hbooked, hconsistent, ?_⟩
  have hsame : ∀ {g : Host}, g.platform.slot = h.platform.slot →
      (∀ j, g.isOpen j = h.isOpen j) → ∃ news : List Millis,
        said ++ [] ++ g.platform.slot.heard = news.map some ∨
          (said ++ [] ++ g.platform.slot.heard = news.map some ++ [none] ∧ g.Deserted) := by
    intro g hslot hopen
    rw [hslot, Deserted, List.append_nil]
    simp only [hopen]
    exact hn.news
  cases e with
  | start m => cases he
  | signal | respond | failAll | emit | writeScreen | setPower =>
      exact hsame (slot_of_outside (by trivial) h) (isOpen_of_outside (by trivial) h)
  | closeOutgoing | failNextWatch | takeOutgoing => exact hsame rfl fun _ => rfl
  | collectSlot =>
      obtain ⟨news, hnews⟩ := hn.news
      have hheard : said ++ h.platform.slot.heard ++ [] = said ++ h.platform.slot.heard :=
        List.append_nil _
      refine ⟨news, ?_⟩
      rw [← hheard] at hnews
      exact hnews
  | processOne id =>
      rcases processOne_cases h id with heq | ⟨s, m, rest, hs, hq, heq⟩
      · rw [Host.step, heq]
        exact hsame rfl fun _ => rfl
      · have hopen : s.closed = false := hn.swept.open_of_cons hs hq
        have hopen' : h.isOpen id = true := by rw [isOpen_of_some hs, hopen]; rfl
        obtain ⟨intervals, hslot⟩ : ∃ intervals,
            (h.processOne id).platform.slot = h.platform.slot.pushAll id intervals := by
          rw [heq]
          exact ⟨_, Session.calls_handle hopen id m h.platform⟩
        obtain ⟨news, hnews⟩ := hn.pushed hopen' hslot
        have hnone : said ++ h.collects (.processOne id) = said := List.append_nil said
        exact ⟨news, .inl (hnone.symm ▸ hnews)⟩
  | shutdown id =>
      cases hopen : h.isOpen id with
      | false =>
          rw [Host.step, shutdown_of_not_open hopen]
          exact hsame rfl fun _ => rfl
      | true =>
          obtain ⟨news, hnews⟩ := hn.exists_of_open hopen
          obtain ⟨s, hs, hclosed⟩ := (Option.any_eq_true _ _).mp hopen
          rw [Bool.not_eq_true'] at hclosed
          have hslot : (h.step (.shutdown id)).platform.slot =
              h.platform.slot.take (.drop id) := by
            rw [Host.step, shutdown, withSession_of_some hs,
              Session.shutdown_of_open id h.platform hclosed]
          -- whether an interval applies afterwards depends on whether somebody else is open
          rw [show h.collects (.shutdown id) = [] from rfl, List.append_nil, hslot,
            Slot.heard_take, ← hslot]
          by_cases hstays : (h.step (.shutdown id)).platform.slot.intervals.applied =
              h.platform.slot.intervals.applied
          · exact ⟨news, .inl (by rw [if_pos hstays, List.append_nil]; exact hnews)⟩
          · rw [if_neg hstays, ← List.append_assoc, hnews]
            cases happlied : (h.step (.shutdown id)).platform.slot.intervals.applied with
            | some m => exact ⟨news ++ [m], .inl (by rw [List.map_append, List.map_singleton])⟩
            | none =>
                exact ⟨news, .inr ⟨rfl, (applied_eq_none_iff hbooked hconsistent).mp happlied⟩⟩

theorem Notified.through (hn : h.Notified said)
    (ht : h.Through (fun e => e.starts = [] ∧ e ≠ .collectSlot) h') : h'.Notified said := by
  obtain ⟨es, hes, rfl⟩ := ht
  refine run_induction (fun e he g hg => ?_) hn
  have hstep := hg.step (hes e he).1
  have hnone : g.collects e = [] := by
    cases e with
    | collectSlot => exact absurd rfl (hes _ he).2
    | _ => rfl
  rwa [hnone, List.append_nil] at hstep

theorem Notified.scripted (hn : h.Notified said) (ht : h.Through Happening.Scripted h') :
    h'.Notified said := by
  refine hn.through (ht.mono fun e he => ?_)
  cases e with
  | collectSlot | start => exact absurd he not_false
  | _ => exact ⟨rfl, by simp⟩

theorem Notified.settle (hn : h.Notified said) : h.settle.Notified said := by
  obtain ⟨es, hes, hrun⟩ := exists_run_settle h
  refine hn.through ⟨es, fun e he => ?_, hrun⟩
  obtain ⟨id, rfl⟩ := hes e he
  exact ⟨rfl, by simp⟩

/-- Sessions that start ask for intervals. -/
theorem Notified.startAll (hn : h.Notified said) {news : List Millis}
    (hnews : said ++ h.platform.slot.heard = news.map some) (monitors : List Monitor) :
    (h.startAll monitors).Notified said := by
  induction monitors generalizing h news with
  | nil => exact hn
  | cons m monitors ih =>
      have heffect : h.Effect (h.start m) := .starts m
      obtain ⟨intervals, -, hslot⟩ := Session.slot_start h.sessions.length m h.platform
      obtain ⟨more, hmore⟩ := Slot.exists_heard_pushAll h.sessions.length intervals
        h.platform.slot
      have hall : said ++ (h.start m).platform.slot.heard = (news ++ more).map some := by
        rw [start_eq, hslot, hmore, ← List.append_assoc, hnews, List.map_append]
      exact ih ⟨hn.swept.effect heffect, hn.booked.effect heffect,
        consistent_step hn.consistent (.start m), _, .inl hall⟩ hall

theorem isOpen_startAll (hopen : h.isOpen j = true) (monitors : List Monitor) :
    (h.startAll monitors).isOpen j = true := by
  induction monitors generalizing h with
  | nil => exact hopen
  | cons m monitors ih =>
      refine ih (h := h.start m) ?_
      rw [start_eq, isOpen_concat, (Session.started _ m _).closed, hopen]
      exact ite_self _

end Host

namespace Replay

variable {s : Scenario} {r r' : Replay} {step : Step} {steps pre post : List Step} {number : Nat}
  {report : Report} {reports : List Report} {said : List (Option Millis)}

theorem notified_report (hn : r.host.Notified said) (number : Nat) (action : String)
    (answered : Option Serial) :
    (r.report number action answered).2.host.Notified
      (said ++ (r.report number action answered).1.intervals) := by
  have htaken := hn.settle.step (e := .takeOutgoing) rfl
  rw [show r.host.settle.collects .takeOutgoing = [] from rfl, List.append_nil] at htaken
  exact htaken.step (e := .collectSlot) rfl

theorem notified_device (s : Scenario) : (device s).Notified [] :=
  (Host.notified_new s.slot s.interface).scripted (Host.through_setUp _ s.initial)

theorem deserted_device (s : Scenario) :
    (device s).Deserted ∧ (device s).platform.slot = {} :=
  Host.Deserted.through (fun _ => rfl) (Host.through_setUp _ s.initial)

/-- **Whatever the steps**, the listener is told of intervals, and last that none applies. -/
theorem notified_after (h : after s steps = .ok (reports, r)) :
    r.host.Notified (reports.flatMap fun report => report.intervals) := by
  refine after_induction (P := fun _ reports r =>
    r.host.Notified (reports.flatMap fun report => report.intervals)) ?_ ?_ h
  · intro r hstart
    rw [List.flatMap_singleton, start_eq hstart]
    have hnone : [] ++ (device s).platform.slot.heard = ([] : List Millis).map some := by
      rw [(deserted_device s).2]
      rfl
    have hreport : ∀ r₀ : Replay, r₀.host.Notified [] →
        (r₀.report 0 "start" none).2.host.Notified (r₀.report 0 "start" none).1.intervals :=
      fun _ hn => notified_report hn 0 "start" none
    exact hreport _ ((notified_device s).startAll hnone _)
  · intro pre reports r step report r' _ ih happly
    obtain ⟨answered, h, hstep, rfl, rfl⟩ := exists_of_apply happly
    rw [List.flatMap_append, List.flatMap_singleton]
    exact notified_report (r := { r with host := h }) (ih.scripted (through_perform hstep)) ..

/-- A report ends nobody. -/
theorem isOpen_report (r : Replay) (number : Nat) (action : String) (answered : Option Serial)
    (j : SessionId) : (r.report number action answered).2.host.isOpen j = r.host.isOpen j :=
  Host.isOpen_settle r.host j

/-- **Only a shutdown ends sessions.** -/
theorem isOpen_apply (happly : r.apply number step = .ok (report, r')) (hne : step ≠ .shutdown)
    (j : SessionId) : r'.host.isOpen j = r.host.isOpen j := by
  obtain ⟨answered, h, hstep, -, rfl⟩ := exists_of_apply happly
  rw [isOpen_report]
  obtain ⟨es, hes, rfl⟩ := through_perform_of_ne hstep hne
  refine Host.run_induction (P := fun g => g.isOpen j = r.host.isOpen j) (fun e he g hg => ?_) rfl
  exact (Host.isOpen_of_outside (hes e he) g j).trans hg

/-- Without a shutdown the first session is open, if there is one. -/
theorem isOpen_after (htracked : s.settings.tracked ≠ []) (hne : .shutdown ∉ steps)
    (h : after s steps = .ok (reports, r)) : r.host.isOpen 0 = true := by
  refine after_induction (P := fun steps _ r => .shutdown ∉ steps → r.host.isOpen 0 = true)
    ?_ ?_ h hne
  · intro r hstart _
    rw [isOpen_report, start_eq hstart]
    obtain ⟨v, rest, hvariants⟩ := List.exists_cons_of_ne_nil htracked
    rw [hvariants]
    refine Host.isOpen_startAll (h := (device s).start (s.monitor v)) ?_ _
    rw [Host.start_eq, Host.isOpen_concat, (Session.started _ _ _).closed, sessions_device]
    rfl
  · intro pre reports r step report r' _ ih happly hsteps
    rw [List.mem_append, List.mem_singleton, not_or] at hsteps
    rw [isOpen_apply happly (Ne.symm hsteps.2)]
    exact ih hsteps.1

/-- **What a step reports that leaves nobody open**: no request, and what the listener heard. -/
theorem report_of_deserted {h : Host} (hr : Rested s.settings.tracked r)
    (hsilent : r.host.Silently h) (hd : h.Deserted) (number : Nat) (action : String)
    (answered : Option Serial) :
    (({ r with host := h } : Replay).report number action answered).1 =
      ⟨number, action, [], h.platform.slot.heard, answered⟩ := by
  have hidle := hd.idle (hr.order.silently hsilent).swept
  have hqueued : h.platform.transport.queued = [] := hsilent.queued_eq.trans hr.taken
  simp only [report, Host.settle_of_idle hidle, Host.takeOutgoing, Transport.drain,
    Host.collectSlot, hqueued]

/-- **A deserted replay reports nothing**, and stays deserted. -/
theorem apply_of_deserted (hr : Rested s.settings.tracked r) (hq : r.host.Quiet)
    (hd : r.host.Deserted) (happly : r.apply number step = .ok (report, r')) :
    report.requests = [] ∧ report.intervals = [] ∧ r'.host.Deserted := by
  obtain ⟨answered, h, hstep, rfl, rfl⟩ := exists_of_apply happly
  obtain ⟨hd', hslot⟩ := hd.through (through_perform hstep)
  rw [report_of_deserted hr (silently_perform hstep) hd', hslot]
  refine ⟨rfl, hq.heard, fun j => ?_⟩
  rw [isOpen_report]
  exact hd' j

theorem follow_of_deserted (hr : Rested s.settings.tracked r) (hq : r.host.Quiet)
    (hd : r.host.Deserted) (h : follow number steps r = .ok (reports, r')) :
    (∀ report ∈ reports, report.requests = [] ∧ report.intervals = []) ∧ r'.host.Deserted := by
  induction steps generalizing number r reports with
  | nil =>
      obtain ⟨rfl, rfl⟩ := Prod.mk.inj (Except.ok.inj h)
      exact ⟨fun report hmem => absurd hmem List.not_mem_nil, hd⟩
  | cons step steps ih =>
      obtain ⟨report, r₁, rest, happly, hrest, rfl⟩ := follow_cons_eq_ok.mp h
      obtain ⟨hrequests, hintervals, hd₁⟩ := apply_of_deserted hr hq hd happly
      obtain ⟨hall, hlast⟩ := ih (hr.apply happly) (quiet_apply happly) hd₁ hrest
      refine ⟨fun report' hmem => ?_, hlast⟩
      rcases List.mem_cons.mp hmem with rfl | hmem
      · exact ⟨hrequests, hintervals⟩
      · exact hall report' hmem

/-- **After a shutdown nobody is open any more.** -/
theorem deserted_after (h : after s steps = .ok (reports, r)) (hmem : .shutdown ∈ steps) :
    r.host.Deserted := by
  refine after_induction (P := fun steps _ r => .shutdown ∈ steps → r.host.Deserted) ?_ ?_ h hmem
  · exact fun r _ hnone => absurd hnone List.not_mem_nil
  · intro pre reports r step report r' hpre ih happly hsteps
    by_cases hbefore : .shutdown ∈ pre
    · exact (apply_of_deserted (rested_after hpre) (quiet_after hpre) (ih hbefore) happly).2.2
    · obtain rfl : .shutdown = step := by simpa [hbefore] using hsteps
      obtain ⟨answered, h, hstep, -, rfl⟩ := exists_of_apply happly
      obtain ⟨-, rfl⟩ := Prod.mk.inj (Except.ok.inj hstep)
      intro j
      rw [isOpen_report]
      exact Host.deserted_shutdownAll r.host j

/-- Of what was heard after some intervals the last is that none applies, and before it there are
intervals only. -/
theorem exists_closing {before news : List Millis} {rest : List (Option Millis)}
    (hsome : (none :: before.map some).getLast? ≠ some none)
    (hlast : (none :: (before.map some ++ rest)).getLast? = some none)
    (hall : before.map some ++ rest = news.map some ∨
      before.map some ++ rest = news.map some ++ [none]) :
    ∃ more : List Millis, rest = more.map some ++ [none] := by
  rcases hall with hall | hall
  · -- the last of some intervals is an interval
    rw [hall] at hlast
    rcases List.eq_nil_or_concat news with rfl | ⟨news, m, rfl⟩
    · rw [(List.append_eq_nil_iff.mp hall).1] at hsome
      exact absurd rfl hsome
    · simp [List.getLast?_cons] at hlast
  · clear hsome hlast
    induction before generalizing news with
    | nil => exact ⟨news, hall⟩
    | cons m before ih =>
        cases news with
        | nil => simp at hall
        | cons m' news => exact ih (List.cons.inj hall).2

/-- Before a shutdown the listener was told of intervals only. -/
theorem not_mem_intervals (htracked : s.settings.tracked ≠ []) (hne : .shutdown ∉ steps)
    (h : after s steps = .ok (reports, r)) : ∀ report ∈ reports, none ∉ report.intervals := by
  intro report hreport hnone
  obtain ⟨news, hnews⟩ := (notified_after h).exists_of_open (isOpen_after htracked hne h)
  have hmem : none ∈ news.map some := by
    rw [← hnews]
    exact List.mem_append_left _ (List.mem_flatMap.mpr ⟨report, hreport, hnone⟩)
  simp at hmem

/-- What was heard so far was collected, and the last of it applies. -/
theorem getLast?_intervals (h : after s steps = .ok (reports, r)) :
    (none :: reports.flatMap fun report => report.intervals).getLast? =
      some r.host.platform.slot.intervals.applied := by
  have hlast := (tallied_after h).host.told.last
  rwa [(quiet_after h).heard, List.append_nil] at hlast

/-- **The first shutdown**: no request is sent, and the last that the listener hears is that no
interval applies. -/
theorem report_of_shutdown (htracked : s.settings.tracked ≠ []) (hne : .shutdown ∉ pre)
    (hpre : after s pre = .ok (reports, r))
    (happly : r.apply (pre.length + 1) .shutdown = .ok (report, r')) :
    ∃ news : List Millis,
      report = ⟨pre.length + 1, "shutdown", [], news.map some ++ [none], none⟩ := by
  have hafter : after s (pre ++ [.shutdown]) = .ok (reports ++ [report], r') :=
    after_append_of_follow hpre (follow_cons_eq_ok.mpr ⟨report, r', [], happly, rfl, rfl⟩)
  have hopen := isOpen_after htracked hne hpre
  have hn := notified_after hpre
  have hn' := notified_after hafter
  -- some interval applies before the shutdown and none afterwards, and the listener knows both
  have hsome : r.host.platform.slot.intervals.applied ≠ none := by
    intro hnone
    rw [(Host.applied_eq_none_iff hn.booked hn.consistent).mp hnone 0] at hopen
    cases hopen
  have hnone : r'.host.platform.slot.intervals.applied = none :=
    (Host.applied_eq_none_iff hn'.booked hn'.consistent).mpr (deserted_after hafter (by simp))
  have hlast := getLast?_intervals hpre
  have hlast' := getLast?_intervals hafter
  obtain ⟨before, hbefore⟩ := hn.exists_of_open hopen
  obtain ⟨news, hnews⟩ := hn'.news
  rw [(quiet_after hpre).heard, List.append_nil] at hbefore
  rw [(quiet_after hafter).heard, List.append_nil] at hnews
  rw [List.flatMap_append, List.flatMap_singleton, hbefore] at hnews hlast'
  rw [hbefore] at hlast
  obtain ⟨more, hmore⟩ := exists_closing (by rw [hlast, ne_eq, Option.some.injEq]; exact hsome)
    (hlast'.trans (congrArg some hnone)) (hnews.imp_right fun hended => hended.1)
  obtain ⟨answered, h, hstep, rfl, -⟩ := exists_of_apply happly
  obtain ⟨rfl, rfl⟩ := Prod.mk.inj (Except.ok.inj hstep)
  have hreport := report_of_deserted (rested_after hpre) (silently_perform hstep)
    (Host.deserted_shutdownAll r.host) (pre.length + 1) "shutdown" none
  refine ⟨more, hreport.trans ?_⟩
  rw [← hmore]
  exact congrArg (Report.mk (pre.length + 1) "shutdown" [] · none)
    (congrArg Report.intervals hreport).symm

/-- What a shutdown leaves, whatever comes after it: nothing waits, and every session is over. -/
theorem over_after (h : after s steps = .ok (reports, r)) (hmem : .shutdown ∈ steps) :
    r.host.platform.transport.pending = [] ∧ ∀ t ∈ r.host.sessions, t.Over := by
  have hd := deserted_after h hmem
  have hover : r.host.AllOver :=
    effect_after (fun _ _ _ _ hs => absurd hs (by simp [Host.new]))
      (fun _ _ _ he ha => ha.effect he) h
  refine ⟨hd.pending (rested_after h).order.wired, fun t ht => ?_⟩
  obtain ⟨j, hj, rfl⟩ := List.mem_iff_getElem.mp ht
  have hget := List.getElem?_eq_getElem hj
  exact hover j _ hget (hd.closed hget)

/-- Nobody tracks anything, and nothing is reported. -/
theorem reports_of_untracked (htracked : s.settings.tracked = [])
    (h : after s steps = .ok (reports, r)) :
    ∀ report ∈ reports, report.requests = [] ∧ report.intervals = [] := by
  obtain ⟨r₀, rest, hstart, hfollow, rfl⟩ := after_eq_ok.mp h
  obtain rfl : r₀ = { host := device s } := by
    rw [start_eq hstart, htracked]
    rfl
  obtain ⟨hd, hslot⟩ := deserted_device s
  have hq : (device s).Quiet := by
    refine ⟨hd.idle (inOrder_device s).swept, (Host.silently_setUp _ _).queued_eq, ?_⟩
    rw [hslot]
    rfl
  have hr : Rested s.settings.tracked { host := device s } := by
    rw [htracked]
    exact ⟨inOrder_device s, variants_device s, hq.idle, hq.queued⟩
  rw [report_of_quiet (r := { host := device s }) hq] at hfollow ⊢
  intro report hmem
  rcases List.mem_cons.mp hmem with rfl | hmem
  · exact ⟨rfl, rfl⟩
  · exact (follow_of_deserted hr hq hd hfollow).1 report hmem

/-- After a shutdown there is no latest request to be answered. -/
theorem fails_of_unnamed {reply : Reply} (hsteps : s.steps = pre ++ .respond none reply :: post)
    (hmem : .shutdown ∈ pre) :
    (∃ invalid, s.settings.validate = .error invalid ∧
      run s = .error (.configInvalid invalid.reason)) ∨
    ∃ text, run s = .error (.transport text) := by
  cases hrun : run s with
  | ok reports =>
      obtain ⟨last, hafter⟩ := run_eq_ok.mp hrun
      rw [hsteps] at hafter
      obtain ⟨first, r, rest, hpre, -, -⟩ := after_append hafter
      exact absurd (over_after hpre hmem).1 (answerable_of_after hafter hpre)
  | error f =>
      cases failsWith_of_run hrun with
      | settings hinvalid _ => exact .inl ⟨_, hinvalid, rfl⟩
      | @answer _ _ serial =>
          right
          cases serial with
          | none => exact ⟨_, rfl⟩
          | some n => exact ⟨_, rfl⟩

/-- **A shutdown is final.**  Take a scenario that tracks some variant and runs through.  Until its
first shutdown the reported intervals are intervals.  The report of that step has no request, and
the last of its intervals is that none applies; before that it may have intervals, which come to
apply while the sessions end one after the other.  All later reports have neither requests nor
intervals, whatever their steps are.  Whenever a shutdown is among the steps so far, no request
waits for its answer and every session is over.

A scenario that tracks nothing has neither requests nor intervals in its reports.  And a scenario
that after a shutdown answers a request without naming it fails, like any answer to no request, if
not for its settings. -/
theorem shutdown_is_final (s : Scenario) :
    (∀ reports, run s = .ok reports → s.settings.devmon.tracking ≠ [] →
      (.shutdown ∉ s.steps → ∀ report ∈ reports, none ∉ report.intervals) ∧
      ∀ pre post, s.steps = pre ++ .shutdown :: post → .shutdown ∉ pre →
        ∃ (before later : List Report) (news : List Millis),
          reports = before ++
            ⟨pre.length + 1, "shutdown", [], news.map some ++ [none], none⟩ :: later ∧
          before.length = pre.length + 1 ∧
          (∀ report ∈ before, none ∉ report.intervals) ∧
          ∀ report ∈ later, report.requests = [] ∧ report.intervals = []) ∧
    (∀ reports, run s = .ok reports → ∀ pre post, s.steps = pre ++ post → .shutdown ∈ pre → ∃ r,
      after s pre = .ok (reports.take (pre.length + 1), r) ∧
      r.host.platform.transport.pending = [] ∧ ∀ t ∈ r.host.sessions, t.Over) ∧
    (∀ reports, run s = .ok reports → s.settings.devmon.tracking = [] →
      ∀ report ∈ reports, report.requests = [] ∧ report.intervals = []) ∧
    ∀ pre post reply, s.steps = pre ++ .respond none reply :: post → .shutdown ∈ pre →
      (∃ invalid, s.settings.validate = .error invalid ∧
        run s = .error (.configInvalid invalid.reason)) ∨
      ∃ text, run s = .error (.transport text) := by
  have htracked : s.settings.tracked = [] ↔ s.settings.devmon.tracking = [] := by
    simp only [List.eq_nil_iff_forall_not_mem, Settings.mem_tracked]
  refine ⟨fun reports hrun hsome => ⟨fun hne => ?_, fun pre post hsteps hne => ?_⟩,
    fun reports hrun pre post hsteps hmem => ?_, fun reports hrun hnone => ?_,
    fun pre post reply => fails_of_unnamed⟩
  · obtain ⟨last, hafter⟩ := run_eq_ok.mp hrun
    exact not_mem_intervals (mt htracked.mp hsome) hne hafter
  · obtain ⟨last, hafter⟩ := run_eq_ok.mp hrun
    rw [hsteps] at hafter
    obtain ⟨before, r, rest, hpre, hrest, rfl⟩ := after_append hafter
    obtain ⟨report, r', later, happly, hlater, rfl⟩ := follow_cons_eq_ok.mp hrest
    obtain ⟨news, rfl⟩ := report_of_shutdown (mt htracked.mp hsome) hne hpre happly
    have hshut : after s (pre ++ [.shutdown]) = _ :=
      after_append_of_follow hpre (follow_cons_eq_ok.mpr ⟨_, r', [], happly, rfl, rfl⟩)
    refine ⟨before, later, news, rfl, length_after hpre,
      not_mem_intervals (mt htracked.mp hsome) hne hpre, ?_⟩
    exact (follow_of_deserted (rested_after hshut) (quiet_after hshut)
      (deserted_after hshut (by simp)) hlater).1
  · obtain ⟨r, hr⟩ := exists_after_of_run hrun hsteps
    exact ⟨r, hr, over_after hr hmem⟩
  · obtain ⟨last, hafter⟩ := run_eq_ok.mp hrun
    exact reports_of_untracked (htracked.mpr hnone) hafter

/-- Two sessions of which one has come to poll fast, their shutdown, and steps that follow it. -/
def nightfall : Scenario where
  interface := .v15
  settings := { devmon := { tracking := [.indicationFilter, .deviceState] } }
  initial := { display := some .on, charger := some .on }
  steps := [.tethering (some true) none, .shutdown, .respond (some 1) .ok,
    .display none (some .off), .shutdown]

/-- Between the ends of the two sessions the long interval applies.  What follows the shutdown is not
noticed, and an answer to no request in particular would fail. -/
theorem shutdown_is_final_of_two :
    ∃ reports, run nightfall = .ok reports ∧
      reports.map (fun report => report.intervals) =
        [[some 2000, some 30000, some 2000, some 30000], [some 2000], [some 30000, none], [], [],
          []] ∧
      (∃ (before later : List Report) (news : List Millis),
        reports = before ++ ⟨2, "shutdown", [], news.map some ++ [none], none⟩ :: later ∧
        (∀ report ∈ before, none ∉ report.intervals) ∧
        ∀ report ∈ later, report.requests = [] ∧ report.intervals = []) ∧
      ∃ text, run { nightfall with steps := nightfall.steps ++ [.respond none .ok] } =
        .error (.transport text) := by
  have hintervals : (run nightfall).map (fun reports =>
      reports.map (fun report => report.intervals)) =
      .ok [[some 2000, some 30000, some 2000, some 30000], [some 2000], [some 30000, none], [], [],
        []] := by
    decide +kernel
  cases hrun : run nightfall with
  | error e => rw [hrun] at hintervals; cases hintervals
  | ok reports =>
      rw [hrun] at hintervals
      obtain ⟨-, hfirst⟩ := (shutdown_is_final nightfall).1 reports hrun (by decide)
      obtain ⟨before, later, news, heq, -, hbefore, hlater⟩ :=
        hfirst [.tethering (some true) none] _ rfl (by decide)
      refine ⟨reports, rfl, Except.ok.inj hintervals, ⟨before, later, news, heq, hbefore, hlater⟩,
        ?_⟩
      obtain ⟨-, -, -, hfails⟩ :=
        shutdown_is_final { nightfall with steps := nightfall.steps ++ [.respond none .ok] }
      refine (hfails nightfall.steps [] .ok rfl (by decide)).resolve_left ?_
      intro hinvalid
      obtain ⟨invalid, hinvalid, -⟩ := hinvalid
      cases hinvalid

/-- Settings that no session could work with, and an answer after a shutdown. -/
def unworkable : Scenario where
  interface := .v14
  settings := { devmon := { short := 0 } }
  steps := [.shutdown, .respond none .ok]

/-- Settings are looked at before any step is taken, so this scenario does not fail for its answer. -/
theorem unworkable_fails_for_settings :
    ¬ ∀ (s : Scenario) pre post reply, s.steps = pre ++ .respond none reply :: post →
      .shutdown ∈ pre → ∃ text, run s = .error (.transport text) := by
  intro hall
  obtain ⟨text, htext⟩ := hall unworkable [.shutdown] [] .ok rfl (by decide)
  have hrun : run unworkable = .error (.configInvalid InvalidSettings.zeroInterval.reason) := by
    decide +kernel
  rw [hrun] at htext
  cases htext

end Replay

end ModemWatch
