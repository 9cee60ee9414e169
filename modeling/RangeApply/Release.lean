import RangeApply.Changes
import RangeApply.Served

/-! What no automatic step releases: an attempt that was or may have been submitted stays out of
CLOSED and FAILED and on its slot, unless an executor reports a permanent failure, `start` finds
that the executor was lost before its press, or reconciliation meets a stop. -/
namespace RangeApply

def Ending.permanent (ending : Ending) : Bool :=
  decide ((ending.result false).outcome = .permanentFailure)

theorem verified_outcome (r : ExecutionResult) (v : VerificationResult) :
    (r.verified v).outcome = r.outcome := by
  unfold ExecutionResult.verified
  split <;> rfl

theorem Ending.permanent_of_result {ending : Ending} {dryRun : Bool}
    (failed : (ending.result dryRun).outcome = .permanentFailure) : ending.permanent = true := by
  cases ending with
  | returned r v => simpa [permanent, result, verified_outcome] using failed
  | raised beforeSubmit retryable errorClass message =>
    cases dryRun <;> simp_all [permanent, result, ExecutionResult.plain]
  | crashed message => cases dryRun <;> simp [result, ExecutionResult.plain] at failed

/-- The step is none of those that may release the attempt of this opening. -/
def Sys.spares (env : Env) (s : Sys) (i : OpportunityId) (l : Label) : Bool :=
  match s.db.openings.get i with
  | none => true
  | some o =>
    match l with
    | .schedule _ | .settlePrepared => !releases env s.db o
    | .finish p ending => !(decide ((s.phase p).opening = some i) && ending.permanent)
    | .reportFor _ j r _ => !(decide (j = i) && decide (r.outcome = .permanentFailure))
    | .start _ j _ | .startFor _ j _ =>
      !(decide (j = i) && (o.attempt.any fun row => decide (row.status = .submitting)) &&
        !o.crashedAfterPress)
    | _ => true

/-- An attempt outside CLOSED and FAILED, on a slot when `held`. -/
def Opening.Stands (held : Prop) (o : Opening) : Prop :=
  ∃ row, o.attempt = some row ∧ row.status ≠ .closed ∧ row.status ≠ .failed ∧
    (held → row.holdsSlot = true)

section Operations
variable {env : Env} {now : Time} {worker : WorkerId} {held : Prop} {s s' : Slice} {o o' : Opening}

theorem Opening.Stands.mono {row : Application} (attempt : o.attempt = some row)
    (status : row.status ≠ .closed ∧ row.status ≠ .failed) (slot : held → row.holdsSlot = true) :
    o.Stands held :=
  ⟨row, attempt, status.1, status.2, slot⟩

theorem Opening.Stands.same (stands : o.Stands held) (attempt : o'.attempt = o.attempt) :
    o'.Stands held := by
  obtain ⟨row, found, rest⟩ := stands
  exact ⟨row, attempt.trans found, rest⟩

theorem submitted_open {row : Application} (submitted : row.isSubmitted = true) :
    row.status ≠ .ready ∧ row.status ≠ .closed ∧ row.status ≠ .failed := by
  refine ⟨?_, ?_, ?_⟩ <;> intro status <;>
    simp [Application.isSubmitted, status, ApplicationStatus.inSubmittedStatuses] at submitted

theorem startStep_stands {x : StartReads} {out : StartOutcome} {row : Application}
    (step : StartStep env x worker s s' out) (attempt : s.opening.attempt = some row)
    (submitted : row.isSubmitted = true)
    (spared : row.status = .submitting → s.opening.crashedAfterPress = true) :
    s'.opening.Stands (row.holdsSlot = true) := by
  obtain ⟨unready, open_⟩ := submitted_open submitted
  cases step with
  | missing item' none =>
    rw [none] at attempt
    contradiction
  | lostAfter row₁ item' attempt₁ =>
    cases Option.some.inj (attempt.symm.trans attempt₁)
    exact .mono rfl (by simp) fun held => Application.forceTo_sameSlot.holdsSlot.trans held
  | entered attempt₁ entry launched =>
    cases Option.some.inj (attempt.symm.trans attempt₁)
    cases entry with
    | straight =>
      cases launched with
      | kept => exact .mono rfl open_ id
      | raceLost => exact .mono attempt open_ id
      | returned _ ready => exact absurd ready unready
      | parked _ ready => exact absurd ready unready
      | closed _ ready => exact absurd ready unready
      | submits ready => exact absurd ready unready
    | abandoned status none =>
      have pressed := spared status
      simp [Opening.crashedAfterPress, attempt, none] at pressed
    | lostBefore status found unpressed =>
      have pressed := spared status
      simp [Opening.crashedAfterPress, attempt, found, unpressed] at pressed

theorem gateStep_stands {g : GateReads} (step : GateStep env g s s')
    (stands : s.opening.Stands held) : s'.opening.Stands held := by
  cases step with
  | kept => exact stands
  | @checked row attempt ok =>
    obtain ⟨row₁, found, closed, failed, -⟩ := stands
    cases Option.some.inj (attempt.symm.trans found)
    have status := (gateCheck_move env g s row).slotOnly.status
    exact .mono rfl ⟨by rwa [status], by rwa [status]⟩ fun _ => (gateCheck_passed ok).holds

theorem finalStatus_open {r : ExecutionResult} (item : QueueItem)
    (kept : r.outcome ≠ .permanentFailure) :
    r.finalStatus item ≠ .closed ∧ r.finalStatus item ≠ .failed := by
  unfold ExecutionResult.finalStatus
  split
  · rename_i v _ _
    cases status : v.status <;> simp [verifiedStatus]
  · split <;> simp
  · unfold ExecutionResult.target
    split <;> simp_all
    split <;> simp

theorem reportStep_stands {result : ExecutionResult} {r : RunId} {row : Application}
    {item : QueueItem} {run : ExecutionRun} {w : Work}
    (step : ReportStep now worker result r s s' row item run w)
    (kept : result.outcome ≠ .permanentFailure) (stands : s.opening.Stands held) :
    s'.opening.Stands held := by
  obtain ⟨row₁, found, -, -, slot⟩ := stands
  cases Option.some.inj (step.attempt.symm.trans found)
  obtain ⟨-, same, -⟩ | ⟨permanent, -⟩ := step.reported.slot
  · have status := step.reported.status
    have open_ := finalStatus_open item kept
    rw [step.stored]
    refine .mono rfl ⟨?_, ?_⟩ fun held => same.holdsSlot.trans (slot held)
    · rw [status]
      exact open_.1
    · rw [status]
      exact open_.2
  · exact absurd permanent kept

theorem recovered_stands {r : RunId} (recovered : Recovered now o r o') (stands : o.Stands held) :
    o'.Stands held := by
  cases recovered with
  | kept => exact stands
  | orphaned => exact stands.same rfl
  | pressed attempt =>
    obtain ⟨row, found, -, -, slot⟩ := stands
    cases Option.some.inj (attempt.symm.trans found)
    exact .mono rfl (by simp) fun held => Application.forceTo_sameSlot.holdsSlot.trans (slot held)
  | @unpressed row run attempt =>
    obtain ⟨row₁, found, closed, failed, slot⟩ := stands
    cases Option.some.inj (attempt.symm.trans found)
    by_cases submitting : row.status = .submitting
    · refine .mono (congrArg some (if_pos submitting)) (by simp [Application.reclaim]) fun held => ?_
      exact (show Application.SameSlot { row with submissionKey := none } _ from
        Application.forceTo_sameSlot).holdsSlot.trans (slot held)
    · exact .mono (congrArg some (if_neg submitting)) ⟨closed, failed⟩ slot

theorem considered_stands {db : DB} {i : OpportunityId} (here : Considered env db i s s')
    (stands : s.opening.Stands held) : s'.opening.Stands held := by
  rcases here.admission with ⟨code, v, rfl⟩ | ⟨co, v, -, -, admitted⟩
  · exact stands.same rfl
  cases admitted with
  | conflict => exact stands
  | refused => exact stands.same rfl
  | granted ledger row row' item co' reserved readied =>
    obtain ⟨-, qualified, holds, -⟩ := Application.reserve_granted reserved
    rcases readied with rfl | ⟨p, rfl⟩
    · exact .mono rfl (by simp [qualified]) fun _ => holds
    · exact .mono rfl (by simp) fun _ => Application.markReady_sameSlot.holdsSlot.trans holds

theorem followPreparation_stands {db : DB} {row : Application} (attempt : o.attempt = some row)
    (open_ : row.status ≠ .closed ∧ row.status ≠ .failed) :
    (followPreparation db row o).Stands (row.holdsSlot = true) := by
  obtain ⟨row', prepare, rows, moved⟩ := followPreparation_rows db attempt
  rw [rows]
  rcases moved with rfl | ⟨p, rfl⟩ | ⟨p, rfl⟩
  · exact .mono rfl open_ id
  · unfold readyWith
    split
    · exact .mono rfl (by simp) fun held => Application.markReady_sameSlot.holdsSlot.trans held
    · exact .mono rfl open_ id
  · exact .mono rfl (by simp) fun held => Application.markPreparing_sameSlot.holdsSlot.trans held

/-- Without a stop, reconciliation leaves a submitted attempt, or sends a REJECTED one back to
its package. -/
theorem reconcile_stands {db : DB} {row : Application} (attempt : s.opening.attempt = some row)
    (submitted : row.isSubmitted = true) (kept : releases env db s.opening = false) :
    (reconcile env db s).opening.Stands (row.holdsSlot = true) := by
  obtain ⟨-, open_⟩ := submitted_open submitted
  have reconciled := reconcile_reconciled env db s
  generalize reconcile env db s = s' at reconciled ⊢
  cases reconciled with
  | kept => exact .mono attempt open_ id
  | stopped row₁ co stop attempt₁ candidate holds found =>
    simp [releases, attempt₁, candidate, holds, found] at kept
  | followed row₁ attempt₁ =>
    cases Option.some.inj (attempt.symm.trans attempt₁)
    exact followPreparation_stands attempt open_

end Operations

/-! ### Steps -/

section Step
variable {env : Env} {ident : ProcId → WorkerId}

theorem op_stands {held : Prop} {phase : ProcId → Phase} {db : DB} {i : OpportunityId}
    {s s' : Slice} {l : Label} (op : Op env ident phase db i s l s') (auto : l.human = false)
    (batch : l.batch = true) (scheduling : l.scheduling = false) (stands : s.opening.Stands held) :
    s'.opening.Stands held := by
  cases op with
  | exhausted => exact stands.same (onItem_attempt ..)
  | taken => exact stands.same (onItem_attempt ..)
  | recovered => exact recoverOpening_keeps (fun o r o' stands recovered =>
      recovered_stands recovered stands) stands
  | reconciled _ yes => exact absurd yes (by simp [scheduling])
  | enqueued => exact stands.same (enqueueReady_attempt ..)
  | _ => contradiction

theorem op_spared {s : Sys} {i : OpportunityId} {o : Opening} {s' : Slice} {l : Label}
    {row : Application} (op : Op env ident s.phase s.db i ⟨o, s.db.ledger⟩ l s')
    (auto : l.human = false) (batch : l.batch = false) (found : s.db.openings.get i = some o)
    (spared : s.spares env i l = true) (attempt : o.attempt = some row)
    (submitted : row.isSubmitted = true) : s'.opening.Stands (row.holdsSlot = true) := by
  have stands : o.Stands (row.holdsSlot = true) := .mono attempt (submitted_open submitted).2 id
  have crashed (here : (!(decide (i = i) &&
      (o.attempt.any fun row => decide (row.status = .submitting)) && !o.crashedAfterPress)) = true)
      (status : row.status = .submitting) : o.crashedAfterPress = true := by
    simpa [attempt, status] using here
  simp only [Sys.spares, found] at spared
  cases op with
  | world => exact stands.same rfl
  | started p args item out submit done =>
    exact startStep_stands (start_step done).2.2 attempt submitted (crashed spared)
  | startedFor worker args item out submit done =>
    exact startStep_stands (start_step done).2.2 attempt submitted (crashed spared)
  | marked => exact stands.same rfl
  | gated p r stale => exact gateStep_stands (preSubmitGate_step env _ _) stands
  | finished p r ending here done =>
    obtain ⟨row₁, item, run, w, step⟩ := finishRun_ok done
    refine reportStep_stands step (fun permanent => ?_) stands
    have at_ : (s.phase p).opening = some i := by
      cases phase : s.phase p <;> simp_all [Phase.running, Phase.opening]
    simp [at_, Ending.permanent_of_result permanent] at spared
  | prepareBegun => exact stands.same rfl
  | prepareEnded => exact stands.same rfl
  | claimedFor => exact stands.same rfl
  | beaten worker done =>
    obtain ⟨old, item, -, -, rfl⟩ := heartbeat_ok done
    exact stands.same rfl
  | gatedFor worker stale answer done =>
    rcases gate_ok done with ⟨-, step⟩ | ⟨run, -, -, rfl⟩
    · exact gateStep_stands step stands
    · exact (gateStep_stands (preSubmitGate_step env (s.db.gateReads i stale) _) stands).same rfl
  | reported worker r v done =>
    obtain ⟨run, row₁, item, w, -, step⟩ := reportResult_ok done
    refine reportStep_stands step (fun permanent => ?_) stands
    rw [verified_outcome] at permanent
    simp [permanent] at spared
  | reconciled l yes => cases l <;> contradiction
  | considered => contradiction
  | enqueued l yes => cases l <;> simp_all [Label.scheduling, Label.human, Label.batch]
  | _ => contradiction

theorem schedule_stands {held : Prop} {db : DB} {i : OpportunityId} {o : Opening} (window : Nat)
    (found : (reconcileAll env db).openings.get i = some o) (stands : o.Stands held) :
    ∃ o', (schedule env window db).openings.get i = some o' ∧ o'.Stands held := by
  have pass := Pass.foldl_chain env window (db.openPass env) db.ordered
  obtain ⟨o₁, found₁, stands₁⟩ := pass.opening (Opening.Stands held)
      (fun db₁ o s' _ stands here => considered_stands here stands) found stands
  exact (enqueueAll_chain env _).opening (Opening.Stands held)
    (fun db₁ o s' _ stands here => here ▸ stands.same (enqueueReady_attempt ..)) found₁ stands₁

/-- An attempt that was or may have been submitted is left out of CLOSED and FAILED and keeps a
slot by every automatic step but these: a PERMANENT_FAILURE reported for it, a `start` that finds
it SUBMITTING without a running execution that may have pressed, and a scheduler run in which a
stop reason of reconciliation applies to it. -/
theorem submitted_attempt_stands (s : Sys) (l : Label) (auto : l.human = false) (i : OpportunityId)
    {o : Opening} {row : Application} (found : s.db.openings.get i = some o)
    (attempt : o.attempt = some row) (submitted : row.isSubmitted = true)
    (spared : s.spares env i l = true) :
    ∃ o' row', (s.step env ident l).db.openings.get i = some o' ∧ o'.attempt = some row' ∧
      row'.status ≠ .closed ∧ row'.status ≠ .failed ∧
      (row.holdsSlot = true → row'.holdsSlot = true) := by
  suffices ∃ o', (s.step env ident l).db.openings.get i = some o' ∧
      o'.Stands (row.holdsSlot = true) by
    obtain ⟨o', found', row', attempt', rest⟩ := this
    exact ⟨o', row', found', attempt', rest⟩
  have stands : o.Stands (row.holdsSlot = true) := .mono attempt (submitted_open submitted).2 id
  by_cases scheduling : l.scheduling = true
  · -- reconciliation comes first, on the rows the guard speaks of
    have kept : releases env s.db o = false := by
      cases l <;> first | contradiction | simpa [Sys.spares, found] using spared
    have settled := reconcile_stands (s := ⟨o, s.db.ledger⟩) attempt submitted kept
    cases l with
    | schedule window => exact schedule_stands window (reconcileAll_get found) settled
    | settlePrepared =>
      exact (enqueueAll_chain env _).opening (Opening.Stands (row.holdsSlot = true))
        (fun db₁ o s' _ stands here => here ▸ stands.same (enqueueReady_attempt ..))
        (reconcileAll_get found) settled
    | _ => contradiction
  by_cases batch : l.batch = true
  · refine (Sys.step_ops env ident s l).opening (Opening.Stands (row.holdsSlot = true))
      (fun db₁ o s' _ stands op => op_stands op auto batch (by simpa using scheduling) stands)
      (arrive_get l found) stands
  · rcases Sys.step_op env ident s l (by simpa using batch) with
      same | ⟨j, o₁, s', found₁, op, stored⟩
    · exact ⟨o, same ▸ arrive_get l found, stands⟩
    · rw [op.arrive] at op found₁ stored
      rw [stored]
      by_cases mine : i = j
      · subst mine
        cases Option.some.inj (found.symm.trans found₁)
        exact ⟨s'.opening, DB.get_put_self s' found,
          op_spared op auto (by simpa using batch) found spared attempt submitted⟩
      · exact ⟨o, (DB.get_put_other s' mine).trans found, stands⟩

end Step

/-! ### A permanent failure -/

def Ending.gone : Ending :=
  .returned (.plain .permanentFailure false .targetGone "posting removed")
    ⟨.notAttempted, .none, none, none, none, none⟩

open Trace in
/-- The executor's permanent failure ends a SUBMITTING attempt as FAILED. -/
theorem permanent_failure_releases :
    ¬ ∀ (before : List Label) (l : Label), l.human = false →
      let s := run (Sys.step .utc toString) (.initial .initial 0) before
      s.attemptStatus 1 = some .submitting →
      (s.step .utc toString l).attemptStatus 1 ≠ some .failed := by
  intro all
  exact all (Label.prepares 1 "Acme" "Engineer" ++ [.claim 0 .submit none 1, .start 0 1 .mock, .mark 0])
    (.finish 0 .gone) rfl (by decide +kernel) (by decide +kernel)

/-- An UNCERTAIN attempt whose worker is still within its lease goes through recovery and stands. -/
theorem uncertain_attempt_stands :
    let o := { Opening.executing 1 "Acme" "Engineer" "w" with
      attempt := (Opening.executing 1 "Acme" "Engineer" "w").attempt.map fun row =>
        { row with status := .uncertain } }
    ∃ o' row', ((Sys.holding 1 o).step .utc toString .recover).db.openings.get 1 = some o' ∧
      o'.attempt = some row' ∧ row'.status ≠ .closed ∧ row'.status ≠ .failed ∧
      (true = true → row'.holdsSlot = true) := by
  intro o
  exact submitted_attempt_stands (Sys.holding 1 o) .recover rfl 1 rfl rfl rfl rfl

end RangeApply
