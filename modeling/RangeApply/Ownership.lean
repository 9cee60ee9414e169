import RangeApply.Served

/-! What the worker that holds an item is refused: nothing when the item is started, and of a report
only a transition that its attempt may not make. -/
namespace RangeApply

section Started
variable {env : Env} {x : StartReads} {worker : WorkerId} {s s' : Slice} {item : QueueItem}

/-- The worker's own item, being worked on. -/
def QueueItem.Own (worker : WorkerId) (item : QueueItem) : Prop :=
  item.state = .processing ∧ item.claimedBy = some worker

theorem QueueItem.Parked.unheld (parked : item.Parked worker) : item.state.held = false := by
  obtain ⟨settled | blocked | review, -⟩ := parked
  · revert settled
    cases item.state <;> simp [QueueState.active, QueueState.held]
  · rw [blocked]
    rfl
  · rw [review]
    rfl

theorem QueueItem.Returned.unheld (returned : item.Returned) : item.state.held = false := by
  rw [returned.1]
  rfl

/-- An item that `start` does not execute is out of the worker's hands. -/
theorem start_left {out : StartOutcome} (done : start env x worker s item = .ok (s', out)) :
    ∃ row, s'.opening.submit = some row ∧
      (row.state.held = false ∨ (∃ r, out = .started r) ∧ row.Own worker) := by
  obtain ⟨-, -, step⟩ := start_step done
  cases step with
  | missing item' _ parked => exact ⟨item', rfl, .inl parked.unheld⟩
  | lostAfter row item' _ _ _ _ parked => exact ⟨item', rfl, .inl parked.unheld⟩
  | entered _ _ launched =>
    cases launched with
    | kept item' _ _ parked => exact ⟨item', rfl, .inl parked.unheld⟩
    | raceLost item' _ returned => exact ⟨item', rfl, .inl returned.unheld⟩
    | returned _ _ rows _ _ _ returned => exact ⟨_, rows.submit, .inl returned.unheld⟩
    | parked _ _ rows _ _ _ parked => exact ⟨_, rows.submit, .inl parked.unheld⟩
    | closed _ _ rows _ _ _ parked => exact ⟨_, rows.submit, .inl parked.unheld⟩
    | submits _ _ rows _ _ held => exact ⟨_, rows.submit, .inr ⟨⟨_, rfl⟩, held⟩⟩

/-! ### Starting -/

section Owner
variable (now : Time) (own : item.Own worker)
include own

theorem owned_next {α : Type} (next : Res α) : item.owned worker next = next := if_pos own.2

theorem parkItem_owner (status : ApplicationStatus) (reason : String) :
    ∃ row, parkItem now worker item status reason = .ok row := by
  have open_ : item.state ≠ .succeeded := by rw [own.1]; decide
  unfold parkItem
  split
  · exact ⟨_, owned_next own _⟩
  · exact ⟨_, owned_next own _⟩
  · exact ⟨_, if_neg open_⟩
  · exact ⟨_, if_neg open_⟩
  · exact ⟨_, if_neg open_⟩
  · exact ⟨_, rfl⟩

theorem cancel_owner : ∃ row, item.cancel now = .ok row := by
  have open_ : item.state ≠ .succeeded := by rw [own.1]; decide
  exact ⟨_, if_neg open_⟩

theorem release_owner : ∃ row, item.release now worker = .ok row := ⟨_, owned_next own _⟩

theorem succeed_owner : ∃ row, item.succeed now worker = .ok row := ⟨_, owned_next own _⟩

theorem block_owner (reason : String) : ∃ row, item.block now worker reason = .ok row :=
  ⟨_, owned_next own _⟩

end Owner

theorem reprepareItem_typed (now : Time) (row : Application) {o : Opening}
    (typed : ∀ item, o.prepare = some item → item.action = .prepare) :
    ∃ prepare, reprepareItem now row o = .ok prepare := by
  unfold reprepareItem
  split
  · rename_i item prepare
    split
    · exact ⟨_, rfl⟩
    · rename_i idle
      rw [Bool.or_eq_true, not_or] at idle
      have action := typed item prepare
      have pending : item.state ≠ .pending ∧ item.state.held = false := by
        revert idle
        cases item.state <;> simp [QueueState.waiting, QueueState.held]
      unfold QueueItem.requeue
      simp [action, pending.1, pending.2, Except.map]
  · split
    · exact ⟨_, rfl⟩
    · exact ⟨_, rfl⟩

theorem settlePreconditions_owner {row : Application} {report : PreconditionReport}
    (own : item.Own worker)
    (typed : ∀ item, s.opening.prepare = some item → item.action = .prepare) :
    ∃ s', settlePreconditions env x worker s item row report = .ok s' := by
  unfold settlePreconditions
  dsimp only
  split
  · obtain ⟨prepare, made⟩ := reprepareItem_typed x.check.now
      { row with lastExecutionId := some s.opening.runs.length } typed
    rw [made]
    exact ⟨_, rfl⟩
  split
  · split
    · obtain ⟨item', done⟩ := succeed_owner x.check.now own
      rw [done]
      exact ⟨_, rfl⟩
    · obtain ⟨item', done⟩ := cancel_owner x.check.now own
      rw [done]
      exact ⟨_, rfl⟩
  split
  · obtain ⟨item', done⟩ := block_owner x.check.now own
      s!"cooldown active until {report.cooldownUntil}"
    rw [done]
    exact ⟨_, rfl⟩
  split
  · obtain ⟨item', done⟩ := release_owner x.check.now own
    rw [done]
    exact ⟨_, rfl⟩
  split
  · obtain ⟨item', done⟩ := block_owner x.check.now own report.message
    rw [done]
    exact ⟨_, rfl⟩
  · exact ⟨_, rfl⟩

theorem launch_owner {before : Slice} {original : QueueItem} {row : Application}
    {executor : Executor} (own : item.Own worker) (held : original.claimedBy = some worker) :
    ∃ done, launch x worker before original s item row executor = .ok done := by
  unfold launch
  dsimp only
  split
  · exact ⟨_, rfl⟩
  split
  · unfold handoff QueueItem.block
    rw [owned_next own]
    exact ⟨_, rfl⟩
  split
  · have released : ∃ row', original.release x.check.now worker = .ok row' := ⟨_, if_pos held⟩
    obtain ⟨item', done⟩ := released
    rw [done]
    exact ⟨_, rfl⟩
  · exact ⟨_, rfl⟩

theorem startReady_owner {before : Slice} {original : QueueItem} {row : Application}
    (own : item.Own worker) (held : original.claimedBy = some worker)
    (typed : ∀ item, s.opening.prepare = some item → item.action = .prepare) :
    ∃ done, startReady env x worker before original s item row = .ok done := by
  unfold startReady
  dsimp only
  generalize check env (x.check.forPreparation (s.opening.preparation row.preparationId)) s.opening
    row s.ledger true false = checked
  split
  · obtain ⟨item', done⟩ := parkItem_owner x.check.now own row.status
      (textOr row.statusReason row.status.value)
    rw [done]
    exact ⟨_, rfl⟩
  split
  · obtain ⟨item', done⟩ := release_owner x.check.now own
    rw [done]
    exact ⟨_, rfl⟩
  split
  · obtain ⟨settled, done⟩ : ∃ s', settlePreconditions env x worker
        { s with ledger := checked.ledger } item checked.attempt checked.report = .ok s' :=
      settlePreconditions_owner own typed
    rw [done]
    exact ⟨_, rfl⟩
  split
  · obtain ⟨item', done⟩ := release_owner x.check.now own
    rw [done]
    exact ⟨_, rfl⟩
  · exact launch_owner own held

theorem startAttempt_owner {original : QueueItem} {row : Application}
    (own : item.Own worker) (held : original.claimedBy = some worker)
    (typed : ∀ item, s.opening.prepare = some item → item.action = .prepare) :
    ∃ done, startAttempt env x worker s original item row = .ok done := by
  unfold startAttempt
  dsimp only
  split
  · obtain ⟨item', done⟩ := succeed_owner x.check.now own
    rw [done]
    exact ⟨_, rfl⟩
  split
  · exact ⟨_, rfl⟩
  split
  · split
    · exact startReady_owner own held typed
    · split
      · exact ⟨_, rfl⟩
      · apply startReady_owner own held
        exact typed
  · exact startReady_owner own held typed

theorem start_iff {now : Time} {row row' : QueueItem} :
    row.start now worker = .ok row' ↔ row.claimedBy = some worker ∧ row.state = .claimed ∧
      row' = { row with state := .processing, updatedAt := now } := by
  constructor
  · exact QueueItem.start_ok
  · rintro ⟨own, claimed, rfl⟩
    unfold QueueItem.start QueueItem.owned
    rw [if_pos own, if_neg (not_not.mpr claimed)]

/-- `start` refuses the worker nothing but an item that it does not hold. -/
theorem start_owner (held : item.state.held = true) (claimed : item.claimedBy = some worker)
    (typed : ∀ item, s.opening.prepare = some item → item.action = .prepare) :
    ∃ done, start env x worker s item = .ok done := by
  have begins : ∃ begun, beginItem x.check.now worker item = .ok begun ∧ begun.Own worker := by
    unfold beginItem
    split
    · rename_i state
      exact ⟨_, start_iff.mpr ⟨claimed, state, rfl⟩, rfl, claimed⟩
    · have state : item.state = .processing := by
        revert held
        cases h : item.state <;> simp_all [QueueState.held]
      rw [if_neg (by simp [state, claimed])]
      exact ⟨item, rfl, state, claimed⟩
  obtain ⟨begun, begins, own⟩ := begins
  unfold start
  rw [begins]
  simp only [bind, Except.bind]
  split
  · have failed : ∃ row, begun.fail x.check.now worker
        "no application attempt for this opportunity" false = .ok row :=
      ⟨_, owned_next own _⟩
    obtain ⟨item', done⟩ := failed
    rw [done]
    exact ⟨_, rfl⟩
  · exact startAttempt_owner own claimed typed

/-! ### Reporting -/

section Reporting
variable {now : Time} {r : ExecutionResult} {w : Work} {policy : ApplicationPolicy}

/-- The attempt may go to the status that the outcome calls for. -/
def ExecutionResult.Legal (r : ExecutionResult) (row : Application) : Prop :=
  r.outcome = .permanentFailure ∨ r.outcome = .handoff ∨ row.status = r.target ∨
    r.target ∈ row.status.transitions

theorem transition_legal {row : Application} {target : ApplicationStatus} (now : Time)
    (reason : Option String) (legal : row.status = target ∨ target ∈ row.status.transitions) :
    ∃ row', row.transition now target reason = .ok row' ∧ row'.status = target := by
  unfold Application.transition
  split
  · exact ⟨row, rfl, ‹_›⟩
  · rename_i differs
    rw [if_pos (legal.resolve_left differs)]
    exact ⟨_, rfl, rfl⟩

theorem cleared_legal {row : Application} {target : ApplicationStatus} (now : Time)
    (reason : Option String) (legal : row.status = target ∨ target ∈ row.status.transitions) :
    ∃ row', ({ row with submissionKey := none } : Application).transition now target reason =
      .ok row' ∧ row'.status = target :=
  transition_legal now reason legal

theorem fail_owner {item : QueueItem} (now : Time) (own : item.claimedBy = some worker)
    (error : String) (retryable : Bool) :
    ∃ row, item.fail now worker error retryable = .ok row := by
  unfold QueueItem.fail QueueItem.owned
  rw [if_pos own]
  dsimp only
  split
  · exact ⟨_, rfl⟩
  · exact ⟨_, rfl⟩

theorem applyVerification_submitted (now : Time) (v : VerificationResult) (run : ExecutionRun)
    {row : Application} (candidate : Option CandidateOpportunity)
    (submitted : row.status = .submitted) :
    ∃ settled, applyVerification now v ⟨run, row, none, candidate⟩ = .ok settled := by
  unfold applyVerification
  have kept : (recordReferences v ⟨run, row, none, candidate⟩).attempt.status = .submitted :=
    submitted
  have itemless : (recordReferences v ⟨run, row, none, candidate⟩).item = none := rfl
  dsimp only
  generalize recordReferences v ⟨run, row, none, candidate⟩ = w at *
  split
  · unfold applyVerified confirmAttempt asSubmitted
    have legal : w.attempt.status = .verified ∨ .verified ∈ w.attempt.status.transitions :=
      .inr (by rw [kept]; decide)
    obtain ⟨verified, moved, -⟩ := transition_legal now (some (textOr v.detail "verified")) legal
    rw [if_neg (by rw [kept]; decide), if_pos kept, moved, itemless]
    exact ⟨_, rfl⟩
  · unfold applyLikely
    dsimp only
    rw [if_neg (by rw [kept]; decide)]
    exact ⟨_, rfl⟩
  · exact ⟨_, rfl⟩
  · exact ⟨_, rfl⟩

theorem report_owner (own : w.item.claimedBy = some worker) (legal : r.Legal w.attempt) :
    ∃ w', report now worker r w env policy = .ok w' := by
  unfold ExecutionResult.Legal ExecutionResult.target at legal
  unfold report
  dsimp only
  split
  · rename_i outcome
    simp only [outcome, reduceCtorEq, false_or] at legal
    unfold reportSubmitted
    obtain ⟨attempt, moved, status⟩ :=
      transition_legal now (some (textOr r.message "submitted")) legal
    simp only [moved, bind, Except.bind, QueueItem.succeed, QueueItem.owned, own, if_true]
    split
    · exact ⟨_, rfl⟩
    · rename_i v _
      let sent : Application := { attempt with
        submittedAt := some now
        resultUrl := r.applicationUrl
        externalApplicationId := r.externalApplicationId
        confirmation := r.confirmationReference }
      have submitted : sent.status = .submitted := status
      obtain ⟨settled, done⟩ := applyVerification_submitted now v
        ((w.run.record r).finish now .submitted (some .submitted) none none)
        (moveCandidate now w.candidate .submitted "submitted") submitted
      rw [done]
      exact ⟨_, rfl⟩
  · rename_i outcome
    simp only [outcome, reduceCtorEq, false_or] at legal
    obtain ⟨attempt, moved, -⟩ := cleared_legal now (some (textOr r.message "dry run")) legal
    exact ⟨_, by rw [reportDryRun, moved]; rfl⟩
  · rename_i outcome
    simp only [outcome, reduceCtorEq, false_or] at legal
    obtain ⟨attempt, moved, -⟩ :=
      transition_legal now (some (textOr r.message "submit outcome unknown")) legal
    exact ⟨_, by rw [reportUnknown, moved]; rfl⟩
  · rename_i outcome
    simp only [outcome, reduceCtorEq, false_or] at legal
    let reason := textOr r.message "retryable failure"
    obtain ⟨attempt, moved, status⟩ := cleared_legal now (some reason) legal
    obtain ⟨item, failed⟩ := fail_owner now own reason true
    have further : attempt.status = .needsReview ∨
        .needsReview ∈ attempt.status.transitions := .inr (by rw [status]; decide)
    obtain ⟨attempt', moved', -⟩ := transition_legal now (some "retries exhausted") further
    unfold reportRetryable
    simp only [reason] at moved failed
    simp only [moved, failed, bind, Except.bind]
    split
    · rw [moved']
      exact ⟨_, rfl⟩
    · exact ⟨_, rfl⟩
  · obtain ⟨item, failed⟩ := fail_owner now own (textOr r.message "permanent failure") false
    unfold reportPermanent
    simp only [failed, bind, Except.bind]
    exact ⟨_, rfl⟩
  · unfold reportHandoff handoff
    simp only [QueueItem.block, QueueItem.owned, own, if_true, bind, Except.bind]
    exact ⟨_, rfl⟩
  · rename_i outcome
    simp only [outcome, reduceCtorEq, false_or] at legal
    split at legal
    · rename_i wait
      rw [if_pos wait]
      obtain ⟨attempt, moved, -⟩ := cleared_legal now
        (some (textOr r.message "cap reached at submit")) legal
      unfold reportCapWait
      simp only [moved, QueueItem.release, QueueItem.owned, own, if_true, bind, Except.bind]
      exact ⟨_, rfl⟩
    · rename_i stays
      rw [if_neg stays]
      obtain ⟨attempt, moved, -⟩ := cleared_legal now (some (parkedReason r)) legal
      exact ⟨_, by rw [reportNeedsReview, moved]; rfl⟩
  · rename_i outcome
    simp only [outcome, reduceCtorEq, false_or] at legal
    obtain ⟨attempt, moved, -⟩ := cleared_legal now (some (parkedReason r)) legal
    unfold reportNeedsUserInput
    simp only [moved, QueueItem.block, QueueItem.owned, own, if_true, bind, Except.bind]
    exact ⟨_, rfl⟩
  · rename_i outcome
    simp only [outcome, reduceCtorEq, false_or] at legal
    obtain ⟨attempt, moved, -⟩ := cleared_legal now (some (parkedReason r)) legal
    exact ⟨_, by rw [reportNeedsReview, moved]; rfl⟩

/-- An item that was reported on is out of the worker's hands. -/
theorem report_left {w' : Work} (reported : Reported now worker r w w') :
    w'.item.state.held = false := by
  have item := reported.item
  split at item
  · revert item
    cases w'.item.state <;> simp [QueueState.waiting, QueueState.held]
  · revert item
    cases w'.item.state <;> simp [QueueState.active, QueueState.held]

section Finishing
variable {run : RunId} {dryRun : Bool} {ending : Ending}

theorem finishRun_left (done : finishRun env policy now worker run dryRun ending s = .ok s') :
    ∃ row, s'.opening.submit = some row ∧ row.state.held = false := by
  obtain ⟨row, item, execution, w, step⟩ := finishRun_ok done
  refine ⟨w.item, ?_, report_left step.reported⟩
  rw [step.stored]
  rfl

/-- There is a run to report on, and the outcome is a legal one for its attempt. -/
def Reportable (rows : Opening) (run : RunId) (dryRun : Bool) (ending : Ending) : Prop :=
  ∃ row, rows.attempt = some row ∧ (rows.runs[run]?).isSome = true ∧
    (ending.result dryRun).Legal row

theorem finishRun_owner (own : item.claimedBy = some worker)
    (submit : s.opening.submit = some item) :
    (∃ s', finishRun env policy now worker run dryRun ending s = .ok s') ↔
      Reportable s.opening run dryRun ending := by
  constructor
  · rintro ⟨s', done⟩
    obtain ⟨row, _, execution, w, step⟩ := finishRun_ok done
    exact ⟨row, step.attempt, by simp [step.bound], step.reported.legal⟩
  · rintro ⟨row, attempt, there, legal⟩
    obtain ⟨execution, found⟩ := Option.isSome_iff_exists.mp there
    unfold finishRun
    rw [attempt, submit, found]
    dsimp only
    let cleared := if ending.clears dryRun then { execution with submitInvoked := false }
      else execution
    have reports : ∃ w, report now worker (ending.result dryRun) (s.work row item cleared) env
        policy = .ok w := report_owner own legal
    obtain ⟨w, reported⟩ := reports
    rw [reported]
    exact ⟨_, rfl⟩

end Finishing

end Reporting

end Started
end RangeApply
