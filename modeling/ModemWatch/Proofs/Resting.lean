import ModemWatch.Proofs.Succeeding
import ModemWatch.Proofs.Together

/-!
# Between two steps

Each step of a replay ends with a report, and a report takes in all that there is.  So between two
steps a replay is at rest: no message waits to be handled, no request waits to be sent, and the
record of the slot is empty.  To let a replay report that is at rest changes nothing and reports
nothing.

* `Host.Quiet` — nothing waits on a host; `Replay.report_of_quiet` — then nothing is reported;
* `Replay.quiet_after`, `Replay.rested_after` — how any steps leave a replay;
* `Replay.exists_travel_after` — the host of a replay is one that a row of happenings has led to;
* `Replay.lasting_after` — what the operations on a transport keep, all steps keep.
-/

namespace ModemWatch

namespace Host

/-- Nothing waits on a host: no message to be handled, no request to be sent, and nothing to be
collected from the slot. -/
structure Quiet (h : Host) : Prop where
  idle : h.Idle
  queued : h.platform.transport.queued = []
  collected : h.platform.slot.collect = h.platform.slot

/-- What was collected is not heard again. -/
theorem Quiet.heard {h : Host} (hq : h.Quiet) : h.platform.slot.heard = [] := by
  rw [← hq.collected]
  rfl

/-- **What the operations on a transport keep**, happenings keep in which nobody takes requests. -/
theorem lasting_through {P : List Outgoing → Transport Callback → Prop} {taken : List Outgoing}
    {h h' : Host} (hP : Transport.Lasting P) (ht : P taken h.platform.transport)
    (hthrough : h.Through Happening.Unread h') : P taken h'.platform.transport := by
  obtain ⟨es, hes, rfl⟩ := hthrough
  refine run_induction (P := fun h => P taken h.platform.transport) (fun e he g hg => ?_) ht
  have hunread := hes e he
  have hstep := lasting_step hP hg (e := e) (by rintro rfl; exact hunread)
  have hnone : g.takes e = [] := by
    cases e with
    | takeOutgoing => exact absurd hunread not_false
    | _ => rfl
  rwa [hnone, List.append_nil] at hstep

/-- A row of happenings is a row of moves. -/
theorem travel_happen (es : List Happening) (h : Host) : h.travel (es.map .happen) = h.run es := by
  rw [travel, run, List.foldl_map]
  rfl

end Host

namespace Replay

variable {s : Scenario} {r r' : Replay} {step : Step} {steps : List Step} {number : Nat}
  {action : String} {answered : Option Serial} {report : Report} {reports : List Report}

/-- **Of a replay at rest nothing is reported**, and the report changes nothing. -/
theorem report_of_quiet (hq : r.host.Quiet) (number : Nat) (action : String)
    (answered : Option Serial) :
    r.report number action answered = (⟨number, action, [], [], answered⟩, r) := by
  obtain ⟨⟨⟨sources, transport, slot, notifier, power, screen⟩, sessions⟩, sent⟩ := r
  have hqueued : transport.queued = [] := hq.queued
  have hcollected : slot.collect = slot := hq.collected
  have hheard : slot.heard = [] := hq.heard
  have hdrained : ({ transport with queued := [] } : Transport Callback) = transport := by
    rw [← hqueued]
  simp only [report, Host.settle_of_idle hq.idle, Host.takeOutgoing, Transport.drain,
    Host.collectSlot, hqueued, hcollected, hheard, hdrained, List.append_nil]

/-- A report leaves nothing behind that waits. -/
theorem quiet_report (r : Replay) (number : Nat) (action : String) (answered : Option Serial) :
    (r.report number action answered).2.host.Quiet :=
  ⟨Host.idle_settle r.host, rfl, rfl⟩

theorem quiet_apply (happly : r.apply number step = .ok (report, r')) : r'.host.Quiet := by
  obtain ⟨answered, h, -, -, rfl⟩ := exists_of_apply happly
  exact quiet_report ..

/-- **Any steps leave a replay at rest.** -/
theorem quiet_after (h : after s steps = .ok (reports, r)) : r.host.Quiet :=
  after_induction (P := fun _ _ r => r.host.Quiet) (fun _ _ => quiet_report ..)
    (fun _ _ _ _ _ _ _ _ happly => quiet_apply happly) h

/-- **Any steps leave the sessions in order**, one for each tracked variant. -/
theorem rested_after (h : after s steps = .ok (reports, r)) : Rested s.settings.tracked r := by
  refine after_induction (P := fun _ _ r => Rested s.settings.tracked r) ?_ ?_ h
  · intro r hstart
    rw [start_eq hstart]
    exact rested_start _ s
  · intro pre reports r step report r' _ ih happly
    exact ih.apply happly

/-- What a report makes happen: sessions handle messages, and what there is is taken. -/
theorem through_report (r : Replay) (number : Nat) (action : String) (answered : Option Serial) :
    r.host.Through (fun _ => True) (r.report number action answered).2.host := by
  obtain ⟨es, -, hsettle⟩ := Host.exists_run_settle r.host
  refine ⟨es ++ [.takeOutgoing, .collectSlot], fun _ _ => trivial, ?_⟩
  rw [Host.run_append, ← hsettle]
  rfl

/-- **All that steps come to is the work of happenings.** -/
theorem exists_travel_after (h : after s steps = .ok (reports, r)) :
    ∃ es : List Happening, r.host = (Host.new s.slot s.interface).travel (es.map .happen) := by
  have hthrough : (Host.new s.slot s.interface).Through (fun _ => True) r.host := by
    refine after_induction (P := fun _ _ r =>
      (Host.new s.slot s.interface).Through (fun _ => True) r.host) ?_ ?_ h
    · intro r hstart
      obtain ⟨-, rfl⟩ := start_eq_ok.mp hstart
      refine Host.Through.trans ?_ (through_report ..)
      refine ((Host.through_setUp _ s.initial).mono fun _ _ => trivial).trans ?_
      exact (Host.through_startAll ..).mono fun _ _ => trivial
    · intro pre reports r step report r' _ ih happly
      obtain ⟨answered, h, hstep, -, rfl⟩ := exists_of_apply happly
      refine ih.trans (((through_perform hstep).mono fun _ _ => trivial).trans ?_)
      exact through_report (r := { r with host := h }) ..
  obtain ⟨es, -, hes⟩ := hthrough
  exact ⟨es, hes.trans (Host.travel_happen es _).symm⟩

/-- What was taken and what is left, after a report. -/
theorem lasting_report {P : List Outgoing → Transport Callback → Prop}
    (hP : Transport.Lasting P) (ht : P r.sent r.host.platform.transport) (number : Nat)
    (action : String) (answered : Option Serial) :
    P (r.report number action answered).2.sent
      (r.report number action answered).2.host.platform.transport :=
  hP.drain (Host.lasting_through hP ht (Host.through_settle r.host))

/-- **What the operations on a transport keep, all steps keep.** -/
theorem lasting_after {P : List Outgoing → Transport Callback → Prop} (hP : Transport.Lasting P)
    (hnew : P [] { slot := s.slot, interface := s.interface })
    (h : after s steps = .ok (reports, r)) : P r.sent r.host.platform.transport := by
  refine after_induction (P := fun _ _ r => P r.sent r.host.platform.transport) ?_ ?_ h
  · intro r hstart
    obtain ⟨-, rfl⟩ := start_eq_ok.mp hstart
    refine lasting_report hP ?_ 0 "start" none
    have hdevice := Host.lasting_through (h := Host.new s.slot s.interface) hP hnew
      ((Host.through_setUp _ s.initial).mono fun _ => Happening.Scripted.unread)
    exact Host.lasting_through hP hdevice (Host.through_startAll ..)
  · intro pre reports r step report r' _ ih happly
    obtain ⟨answered, h, hstep, -, rfl⟩ := exists_of_apply happly
    exact lasting_report (r := { r with host := h }) hP (Host.lasting_through hP ih
      ((through_perform hstep).mono fun _ => Happening.Scripted.unread)) _ _ _

/-- **What every effect keeps, all steps keep.** -/
theorem effect_after {P : Host → Prop} (hnew : ∀ slot interface, P (Host.new slot interface))
    (hstep : ∀ h h' : Host, h.Swept → h.Effect h' → P h → P h')
    (h : after s steps = .ok (reports, r)) : P r.host := by
  obtain ⟨es, hes⟩ := exists_travel_after h
  rw [hes]
  have hswept : (Host.new s.slot s.interface).Swept := Host.swept_new s.slot s.interface
  refine (Host.effect_induction hswept hstep (fun e he => ?_) (hnew ..)).2
  obtain ⟨e, -, rfl⟩ := List.mem_map.mp he
  trivial

end Replay

end ModemWatch
