import ModemWatch.Proofs.Fates
import ModemWatch.Proofs.Resting

/-!
# Answers that come too late

A request may stop waiting before its answer comes.  It was answered before, another request of its
class took its place, the radio gave up on it, or its session has ended.  Its answer is allowed all
the same as long as the request was reported, and it must leave no trace: whatever it says, nobody
hears of it.  Nor does anything later go another way, since between two steps a replay is at rest
and an answer that nobody hears leaves it just as it was.

* `Host.respond_of_not_pending` — nobody hears of such an answer;
* `Replay.apply_of_not_pending` — a step that gives it;
* `Replay.follow_succ` — steps that are numbered one higher;
* `Replay.belated_answer_unseen` — a scenario with such a step put in.
-/

namespace ModemWatch

/-- **Nobody hears of an answer that nobody waits for.** -/
theorem Host.respond_of_not_pending {n : Serial} {h : Host} (hd : h.platform.transport.Numbered)
    (hn : h.platform.transport.isPending n = false) (a : Completion) :
    (h.respond n a).2 = h := by
  have hnone : h.platform.transport.callback? n = none := by
    rwa [Transport.isPending, Option.isSome_eq_false_iff, Option.isNone_iff_eq_none] at hn
  rw [respond, Transport.respond, hd.forget_of_not_pending hn, hnone]
  rfl

/-- The report of the same step one place further on. -/
def Report.later (report : Report) : Report := { report with step := report.step + 1 }

namespace Replay

variable {s : Scenario} {r r' : Replay} {steps pre post : List Step} {number : Nat}
  {reports : List Report} {n : Serial}

/-- **An answer that comes too late** is reported, and that is all. -/
theorem apply_of_not_pending (h : after s pre = .ok (reports, r))
    (hsent : ∃ o ∈ requestsOf reports, o.serial = n)
    (hn : r.host.platform.transport.isPending n = false) (number : Nat) (reply : Reply) :
    r.apply number (.respond (some n) reply) =
      .ok (⟨number, "respond", [], [], some n⟩, r) := by
  rw [requestsOf, ← sent_after h] at hsent
  obtain ⟨q, hfound⟩ := Option.isSome_iff_exists.mp (isSome_sent?_iff.mpr hsent)
  have htarget : r.target (some n) = .ok (n, q) := by
    rw [target, Option.some_or]
    simp only [hfound]
  rw [Replay.apply, perform]
  simp only [htarget, Host.respond_of_not_pending (rested_after h).order.numbered hn]
  rw [report_of_quiet (quiet_after h)]
  rfl

/-- What a step does has nothing to do with its number. -/
theorem apply_succ (number : Nat) (step : Step) (r : Replay) :
    r.apply (number + 1) step = (r.apply number step).map fun x => (x.1.later, x.2) := by
  unfold Replay.apply
  cases r.perform step with
  | error e => rfl
  | ok x => rfl

/-- Steps that are numbered one higher have the same reports with higher numbers. -/
theorem follow_succ (number : Nat) (steps : List Step) (r : Replay) :
    follow (number + 1) steps r =
      (follow number steps r).map fun x => (x.1.map Report.later, x.2) := by
  induction steps generalizing number r with
  | nil => rfl
  | cons step steps ih =>
      rw [follow, follow, apply_succ]
      cases r.apply number step with
      | error e => rfl
      | ok x =>
          simp only [Except.map, ih (number + 1)]
          cases follow (number + 1) steps x.2 with
          | error e => rfl
          | ok y => rfl

/-- **Answers that come too late are not seen.**  Take a scenario that runs through, a place in its
steps and a request that was reported by then and does not wait any more: because it was answered,
because it was replaced, because the radio gave up on it or because its session has ended.  Put in
an answer to that request, whatever it says.  The scenario runs through as before, with one more
report in that place; that report says which request was answered and has neither requests nor
intervals, and those behind it have numbers one higher and are the same otherwise. -/
theorem belated_answer_unseen (hrun : run s = .ok reports) (hsteps : s.steps = pre ++ post) :
    ∃ r, after s pre = .ok (reports.take (pre.length + 1), r) ∧
      ∀ (n : Serial) (reply : Reply),
        (∃ o ∈ requestsOf (reports.take (pre.length + 1)), o.serial = n) →
        r.host.platform.transport.isPending n = false →
        run { s with steps := pre ++ .respond (some n) reply :: post } =
          .ok (reports.take (pre.length + 1) ++
            ⟨pre.length + 1, "respond", [], [], some n⟩ ::
              (reports.drop (pre.length + 1)).map Report.later) := by
  obtain ⟨last, hlast⟩ := run_eq_ok.mp hrun
  rw [hsteps] at hlast
  obtain ⟨first, r, rest, hpre, hpost, rfl⟩ := after_append hlast
  have htake : (first ++ rest).take (pre.length + 1) = first := by
    rw [← length_after hpre, List.take_left]
  have hdrop : (first ++ rest).drop (pre.length + 1) = rest := by
    rw [← length_after hpre, List.drop_left]
  rw [htake, hdrop]
  refine ⟨r, hpre, fun n reply hreported hn => ?_⟩
  -- the first steps come to the same, and then the answer leaves everything as it is
  have hanswer := apply_of_not_pending hpre hreported hn (pre.length + 1) reply
  have hlater : follow (pre.length + 1 + 1) post r = .ok (rest.map Report.later, last) := by
    rw [follow_succ, hpost]
    rfl
  have hrest := follow_cons_eq_ok.mpr ⟨_, r, _, hanswer, hlater, rfl⟩
  have hall : after { s with steps := pre ++ .respond (some n) reply :: post }
      (pre ++ .respond (some n) reply :: post) = _ := after_append_of_follow hpre hrest
  exact run_eq_ok.mpr ⟨last, hall⟩

/-- A device that is taken off its charger and put on it again before any request is answered. -/
def reconnected : Scenario where
  interface := .v15
  initial := { charger := some .on }
  steps := [.charger none (some .off), .charger none (some .on)]

/-- The first request was replaced when the modem refuses it.  The class that it was of is not lost by
that: back on its charger, the device says so as if the modem had not answered. -/
theorem belated_answer_unseen_of_replaced :
    ∃ reports, run reconnected = .ok reports ∧
      reports.map (fun report => report.requests.length) = [1, 2, 2] ∧
      run { reconnected with
        steps := [.charger none (some .off), .respond (some 1) .notSupported,
          .charger none (some .on)] } =
          .ok (reports.take 2 ++ ⟨2, "respond", [], [], some 1⟩ ::
            (reports.drop 2).map Report.later) := by
  have hlengths : (run reconnected).map (fun reports =>
      reports.map (fun report => report.requests.length)) = .ok [1, 2, 2] := by
    decide +kernel
  have hreplaced : (after reconnected [.charger none (some .off)]).map (fun x =>
      ((requestsOf x.1).map (fun o => o.serial), x.2.host.platform.transport.isPending 1)) =
      .ok ([1, 2, 3], false) := by
    decide +kernel
  cases hrun : run reconnected with
  | error e => rw [hrun] at hlengths; cases hlengths
  | ok reports =>
      rw [hrun] at hlengths
      have hsteps : reconnected.steps =
          [.charger none (some .off)] ++ [.charger none (some .on)] := rfl
      obtain ⟨r, hafter, hunseen⟩ := belated_answer_unseen hrun hsteps
      rw [hafter] at hreplaced
      obtain ⟨hserials, hgone⟩ := Prod.mk.inj (Except.ok.inj hreplaced)
      refine ⟨reports, rfl, Except.ok.inj hlengths, hunseen 1 .notSupported ?_ hgone⟩
      exact List.mem_map.mp (hserials ▸ List.mem_cons_self)

end Replay

end ModemWatch
