import RangeApply.Service

/-! What the other calls of the execution service can do, one inversion to a call. -/
namespace RangeApply

/-- `start` finds its attempt SUBMITTING with a running execution that may have pressed. -/
def Opening.crashedAfterPress (o : Opening) : Bool :=
  match o.attempt with
  | none => false
  | some row => decide (row.status = .submitting) && (match crashedRun o.runs with
    | none => false
    | some found => found.2.submitInvoked)

/-! ### The gates -/

section Gates
variable {env : Env} {g : GateReads} {worker : WorkerId} {s s' : Slice}

/-- What the check of the gate may write: nothing, or the slot of an attempt that passed it. -/
inductive GateStep (env : Env) (g : GateReads) (s : Slice) : Slice → Prop
  | kept : GateStep env g s s
  | checked {row : Application} (attempt : s.opening.attempt = some row)
      (ok : (gateCheck env g s row).report.ok = true) :
      GateStep env g s ⟨{ s.opening with attempt := some (gateCheck env g s row).attempt },
        (gateCheck env g s row).ledger⟩

theorem preSubmitGate_step (env : Env) (g : GateReads) (s : Slice) :
    GateStep env g s (preSubmitGate env g s).2 := by
  unfold preSubmitGate
  split
  · exact .kept
  · rename_i row attempt
    dsimp only
    split
    · rename_i ok
      exact .checked attempt ok
    · exact .kept

theorem preSubmitGate_passed (passed : (preSubmitGate env g s).1 = []) :
    ∃ row, s.opening.attempt = some row ∧ (gateCheck env g s row).report.ok = true ∧
      (preSubmitGate env g s).2 = ⟨{ s.opening with
        attempt := some (gateCheck env g s row).attempt }, (gateCheck env g s row).ledger⟩ := by
  unfold preSubmitGate at passed ⊢
  split at passed
  · contradiction
  · rename_i row attempt
    simp only [List.append_eq_nil_iff, List.map_eq_nil_iff] at passed
    have ok : (gateCheck env g s row).report.ok = true := by
      simp [PreconditionReport.ok, passed.2]
    refine ⟨row, attempt, ok, ?_⟩
    simp only [if_pos ok]

theorem gateCheck_move (env : Env) (g : GateReads) (s : Slice) (row : Application) :
    SlotMove g.check (g.check.keys env) s.ledger row (gateCheck env g s row).ledger
      (gateCheck env g s row).attempt :=
  (check_move env (g.check.forPreparation (s.opening.preparation row.preparationId)) s.opening row
    s.ledger true true).forInputs

theorem gateCheck_passed {row : Application} (ok : (gateCheck env g s row).report.ok = true) :
    Passed env (g.check.forPreparation (s.opening.preparation row.preparationId)) s.opening row
      (gateCheck env g s row).attempt true :=
  check_passed ok

theorem GateStep.runs (step : GateStep env g s s') : s'.opening.runs = s.opening.runs := by
  cases step <;> rfl

theorem preSubmitGate_runs (env : Env) (g : GateReads) (s : Slice) :
    (preSubmitGate env g s).2.opening.runs = s.opening.runs :=
  (preSubmitGate_step env g s).runs

theorem ownRun_ok {found : RunId × ExecutionRun} (done : ownRun worker s = .ok found) :
    crashedRun s.opening.runs = some found := by
  unfold ownRun at done
  split at done
  · contradiction
  · obtain ⟨-, rest⟩ := QueueItem.owned_ok.mp done
    split at rest
    · contradiction
    · split at rest
      · contradiction
      · rename_i found' here
        cases Except.ok.inj rest
        exact here

/-- The extension's gate answers with failures, or marks the run of a gate that passed. -/
theorem gate_ok {answer : List String × Slice} (done : gate env g worker s = .ok answer) :
    (answer.1 ≠ [] ∧ GateStep env g s answer.2) ∨
      ∃ found, ownRun worker s = .ok found ∧ (preSubmitGate env g s).1 = [] ∧ answer =
        ([], { (preSubmitGate env g s).2 with
          opening := markSubmit found.1 (preSubmitGate env g s).2.opening }) := by
  unfold gate at done
  simp only [bind_ok] at done
  obtain ⟨found, own, rest⟩ := done
  split at rest
  · cases Except.ok.inj rest
    exact .inl ⟨by simp, .kept⟩
  · split at rest
    · rename_i failed
      cases Except.ok.inj rest
      exact .inl ⟨failed, preSubmitGate_step env g s⟩
    · rename_i passed
      exact .inr ⟨found, own, not_not.mp passed, (Except.ok.inj rest).symm⟩

end Gates

theorem pressedAt_press {runs : List ExecutionRun} {r : RunId} (bound : r < runs.length) :
    pressedAt (runs.modify r .press) r = true := by
  simp [pressedAt, bound, ExecutionRun.press]

/-! ### Reports -/

section Reports
variable {env : Env} {policy : ApplicationPolicy} {now : Time} {worker : WorkerId} {s s' : Slice}

structure ReportStep (now : Time) (worker : WorkerId) (result : ExecutionResult) (r : RunId)
    (s s' : Slice) (row : Application) (item : QueueItem) (run : ExecutionRun) (w : Work) :
    Prop where
  attempt : s.opening.attempt = some row
  submit : s.opening.submit = some item
  bound : r < s.opening.runs.length
  reported : Reported now worker result (s.work row item run) w
  stored : s' = s.putWork r w

theorem finishRun_ok {r : RunId} {dryRun : Bool} {ending : Ending}
    (done : finishRun env policy now worker r dryRun ending s = .ok s') :
    ∃ row item run w, ReportStep now worker (ending.result dryRun) r s s' row item run w := by
  unfold finishRun at done
  split at done
  · rename_i row item run attempt submit found
    simp only [bind_ok] at done
    obtain ⟨w, reported, rest⟩ := done
    exact ⟨row, item, _, w, attempt, submit, (List.getElem?_eq_some_iff.mp found).1,
      report_reported reported, (Except.ok.inj rest).symm⟩
  · contradiction

theorem reportResult_ok {result : ExecutionResult} {v : VerificationResult}
    (done : reportResult env policy now worker result v s = .ok s') :
    ∃ found row item w, ownRun worker s = .ok found ∧
      ReportStep now worker (result.verified v) found.1 s s' row item found.2 w := by
  unfold reportResult at done
  simp only [bind_ok] at done
  obtain ⟨found, own, rest⟩ := done
  split at rest
  · rename_i row item attempt submit
    simp only [bind_ok] at rest
    obtain ⟨w, reported, rest⟩ := rest
    exact ⟨found, row, item, w, own, attempt, submit,
      (List.getElem?_eq_some_iff.mp (crashedRun_some (ownRun_ok own)).1).1,
      report_reported reported, (Except.ok.inj rest).symm⟩
  · contradiction

end Reports

/-! ### Recovery -/

section Recovery
variable {now : Time} {o : Opening} {r : RunId}

inductive Recovered (now : Time) (o : Opening) (r : RunId) : Opening → Prop
  | kept : Recovered now o r o
  | orphaned (gone : o.attempt = none) :
      Recovered now o r { o with runs := o.runs.modify r (ExecutionRun.orphan now) }
  | pressed {row : Application} {run : ExecutionRun} (attempt : o.attempt = some row)
      (found : o.runs[r]? = some run) (running : run.status = .running)
      (invoked : run.submitInvoked = true) (idle : liveItem now o.submit = false) :
      Recovered now o r (recoverPressed now r row o)
  | unpressed {row : Application} {run : ExecutionRun} (attempt : o.attempt = some row)
      (found : o.runs[r]? = some run) (running : run.status = .running)
      (uninvoked : run.submitInvoked = false) (idle : liveItem now o.submit = false) :
      Recovered now o r (recoverUnpressed now r row o)

theorem recoverRun_recovered (now : Time) (o : Opening) (r : RunId) :
    Recovered now o r (recoverRun now o r) := by
  unfold recoverRun
  split
  · exact .kept
  rename_i run found
  split
  · exact .kept
  rename_i running
  split
  · exact .kept
  rename_i idle
  split
  · rename_i gone
    exact .orphaned gone
  rename_i row attempt
  split
  · rename_i invoked
    exact .pressed attempt found (not_not.mp running) invoked (by simpa using idle)
  · rename_i uninvoked
    exact .unpressed attempt found (not_not.mp running) (by simpa using uninvoked)
      (by simpa using idle)

theorem recoverOpening_keeps {P : Opening → Prop}
    (keeps : ∀ o r o', P o → Recovered now o r o' → P o') (here : P o) :
    P (recoverOpening now o) := by
  unfold recoverOpening
  generalize List.range o.runs.length = rs
  induction rs generalizing o with
  | nil => exact here
  | cons r rs ih => exact ih (keeps o r _ here (recoverRun_recovered now o r))

end Recovery

/-! ### People -/

section People
variable {now : Time} {r : RunId} {o o' : Opening}

theorem heartbeat_ok {env : Env} {worker : WorkerId} (done : heartbeat env now worker o = .ok o') :
    ∃ old item, o.submit = some old ∧ old.extendLease now worker env.leaseSeconds = .ok item ∧
      o' = { o with submit := some item } := by
  unfold heartbeat at done
  split at done
  · contradiction
  · rename_i old submit
    simp only [bind_ok] at done
    obtain ⟨item, extended, rest⟩ := done
    exact ⟨old, item, submit, extended, (Except.ok.inj rest).symm⟩

theorem verify_settled {v : VerificationResult} (done : verify now v r o = .ok o') :
    ∃ run row w, o.runs[r]? = some run ∧ o.attempt = some row ∧ run.status.verifiable = true ∧
      Settled now v ⟨run, row, o.submit, o.candidate⟩ w ∧ o' = o.putVerdicts r w := by
  unfold verify at done
  split at done
  · rename_i run row found attempt
    split at done
    · rename_i verifiable
      simp only [bind_ok] at done
      obtain ⟨w, applied, rest⟩ := done
      exact ⟨run, row, w, found, attempt, verifiable, applyVerification_settled applied,
        (Except.ok.inj rest).symm⟩
    · contradiction
  · contradiction

/-- A confirmation is a verification, of a run that counts as submitted by hand first when it
was handed off. -/
theorem confirm_ok {submitted : Bool} {reference note : Option String}
    (done : confirm now submitted reference note r o = .ok o') :
    ∃ run row, o.runs[r]? = some run ∧ o.attempt = some row ∧
      verify now (confirmation submitted reference note) r
        (if submitted ∧ run.status = .handoff then finishByHand now r row o else o) = .ok o' := by
  unfold confirm at done
  split at done
  · rename_i run row found attempt
    exact ⟨run, row, found, attempt, done⟩
  · contradiction

theorem retry_ok {reason : Option String} (done : retry now reason o = .ok o') :
    ∃ row item, o.attempt = some row ∧
      ¬ (row.status.inSubmittedStatuses = true ∧ row.status ≠ .submitting) ∧
      o.runs.any ExecutionRun.unresolved = false ∧ row.status.retryable = true ∧
      retryItem now o.submit = .ok item ∧
      o' = { o with attempt := some (row.reopen now reason), submit := item } := by
  unfold retry at done
  split at done
  · contradiction
  rename_i row attempt
  split at done
  · contradiction
  rename_i unsent
  split at done
  · contradiction
  rename_i resolved
  split at done
  · contradiction
  rename_i retryable
  simp only [bind_ok] at done
  obtain ⟨item, queued, rest⟩ := done
  exact ⟨row, item, attempt, unsent, by simpa using resolved, by simpa using retryable, queued,
    (Except.ok.inj rest).symm⟩

theorem cancel_ok {actor : String} {reason : Option String} {s s' : Slice}
    (done : cancel now actor reason s = .ok s') :
    ∃ row submit prepare, s.opening.attempt = some row ∧ row.status.inSubmittedStatuses = false ∧
      cancelWhen QueueState.cancellable now s.opening.submit = .ok submit ∧
      cancelWhen QueueState.idle now s.opening.prepare = .ok prepare ∧
      s' = ⟨{ s.opening with
        attempt := some { (row.release now s.ledger .cancelled
          (textOr reason s!"cancelled by {actor}")).2 with submissionKey := none }
        submit := submit, prepare := prepare },
        (row.release now s.ledger .cancelled (textOr reason s!"cancelled by {actor}")).1⟩ := by
  unfold cancel at done
  split at done
  · contradiction
  rename_i row attempt
  split at done
  · contradiction
  rename_i unsent
  simp only [bind_ok] at done
  obtain ⟨submit, closed, prepare, ended, rest⟩ := done
  exact ⟨row, submit, prepare, attempt, by simpa using unsent, closed, ended,
    (Except.ok.inj rest).symm⟩

end People

end RangeApply
