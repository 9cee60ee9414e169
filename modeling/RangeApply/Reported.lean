import RangeApply.Report

/-! What a successful report leaves behind, as a table over the outcome: the columns of the
attempt, the item and the run that later operations decide by. -/
namespace RangeApply

/-! ### Verification -/

def verifiedStatus (v : VerificationStatus) (status : ApplicationStatus) : ApplicationStatus :=
  match v with
  | .verified => .verified
  | .likely => if status = .uncertain then .submitted else status
  | .failed => .needsReview
  | _ => status

def verifiedRun (v : VerificationStatus) (status : ExecutionStatus) : ExecutionStatus :=
  match v with
  | .verified => .verified
  | .likely => .submitted
  | .failed => .verificationFailed
  | _ => status

def storedVerification (v : VerificationStatus) (status : ExecutionStatus) : VerificationStatus :=
  if v = .unknown ∧ status = .unknown then .pending else v

structure Settled (now : Time) (v : VerificationResult) (w w' : Verdicts) : Prop where
  status : w'.attempt.status = verifiedStatus v.status w.attempt.status
  slot : Application.SameSlot w.attempt w'.attempt
  submissionKey : w'.attempt.submissionKey = w.attempt.submissionKey
  preparationId : w'.attempt.preparationId = w.attempt.preparationId
  submittedAt : w'.attempt.submittedAt = w.attempt.submittedAt ∨
    (w.attempt.submittedAt = none ∧ w'.attempt.submittedAt = some now)
  runStatus : w'.run.status = verifiedRun v.status w.run.status
  submitInvoked : w'.run.submitInvoked = w.run.submitInvoked
  workerId : w'.run.workerId = w.run.workerId
  verification : w'.run.verificationStatus = storedVerification v.status w.run.status
  candidate : w'.candidate.isSome = w.candidate.isSome
  item : w'.item = w.item ∨ ∃ row row', w.item = some row ∧ w'.item = some row' ∧
    row'.claimedBy = none ∧ row'.leaseExpiresAt = none ∧ row'.action = row.action ∧
    ((row'.state = .succeeded ∧ row.state ≠ .succeeded ∧ row.state ≠ .cancelled) ∨
      (row'.state = .needsReview ∧ row.state ≠ .succeeded ∧ row.state ≠ .cancelled))

theorem resolveItem_ok {now : Time} {item item' : Option QueueItem}
    (done : resolveItem now item = .ok item') : item' = item ∨ ∃ row row', item = some row ∧
      item' = some row' ∧ row'.claimedBy = none ∧ row'.leaseExpiresAt = none ∧
      row'.action = row.action ∧
      ((row'.state = .succeeded ∧ row.state ≠ .succeeded ∧ row.state ≠ .cancelled) ∨
        (row'.state = .needsReview ∧ row.state ≠ .succeeded ∧ row.state ≠ .cancelled)) := by
  unfold resolveItem at done
  split at done
  · exact .inl (Except.ok.inj done).symm
  · rename_i row
    split at done
    · exact .inl (Except.ok.inj done).symm
    · cases resolved : row.resolve now with
      | error e => simp [resolved, Except.map] at done
      | ok row' =>
        simp only [resolved, Except.map, Except.ok.injEq] at done
        obtain ⟨open_, live, rfl⟩ := QueueItem.resolve_ok resolved
        exact .inr ⟨row, _, rfl, done.symm, rfl, rfl, rfl, .inl ⟨rfl, open_, live⟩⟩

theorem confirmAttempt_ok {now : Time} {v : VerificationResult} {w : Verdicts}
    {done : Application × Option CandidateOpportunity} (confirmed : confirmAttempt now v w = .ok done) :
    done.1.status = .verified ∧ Application.SameSlot w.attempt done.1 ∧
      done.1.submissionKey = w.attempt.submissionKey ∧
      done.1.preparationId = w.attempt.preparationId ∧ done.2.isSome = w.candidate.isSome ∧
      (done.1.submittedAt = w.attempt.submittedAt ∨
        (w.attempt.submittedAt = none ∧ done.1.submittedAt = some now)) := by
  unfold confirmAttempt at confirmed
  split at confirmed
  · rename_i already
    cases Except.ok.inj confirmed
    exact ⟨already, .refl _, rfl, rfl, rfl, .inl rfl⟩
  · simp only [bind_ok] at confirmed
    obtain ⟨verified, moved, rest⟩ := confirmed
    cases Except.ok.inj rest
    have start : (asSubmitted now w.attempt).status = .submitted := by
      unfold asSubmitted
      split
      · assumption
      · simp
    have status := Application.transition_status moved
    rcases Application.transition_ok moved with ⟨-, same⟩ | ⟨-, rfl⟩
    · rw [start] at same
      contradiction
    · unfold asSubmitted
      split
      · exact ⟨rfl, ⟨rfl, rfl, rfl, rfl⟩, rfl, rfl, Option.isSome_map, .inl rfl⟩
      · have slot : Application.SameSlot w.attempt
            (w.attempt.forceTo now .submitted (some "verified")) := Application.forceTo_sameSlot
        refine ⟨rfl, ⟨slot.capDay, slot.capWeek, slot.reservedAt, slot.releasedAt⟩,
          Application.forceTo_submissionKey, Application.forceTo_preparationId,
          Option.isSome_map, ?_⟩
        cases known : w.attempt.submittedAt with
        | none => exact .inr ⟨rfl, by simp⟩
        | some t => exact .inl (by simp)

theorem applyVerified_settled {now : Time} {v : VerificationResult} {w w' : Verdicts}
    (verified : v.status = .verified)
    (done : applyVerified now v (recordReferences v w) = .ok w') : Settled now v w w' := by
  unfold applyVerified at done
  simp only [bind_ok] at done
  obtain ⟨attempt, confirmed, item, resolved, rest⟩ := done
  cases Except.ok.inj rest
  obtain ⟨status, slot, key, preparation, candidate, submittedAt⟩ := confirmAttempt_ok confirmed
  exact {
    status := by rw [verified]; exact status
    slot := ⟨slot.capDay, slot.capWeek, slot.reservedAt, slot.releasedAt⟩
    submissionKey := key
    preparationId := preparation
    submittedAt := submittedAt
    runStatus := by rw [verified]; rfl
    submitInvoked := rfl
    workerId := rfl
    verification := by simp [recordReferences, ExecutionRun.finish, storedVerification, verified]
    candidate := candidate
    item := resolveItem_ok resolved }

theorem applyLikely_settled {now : Time} {v : VerificationResult} {w w' : Verdicts}
    (likely : v.status = .likely)
    (done : applyLikely now v (recordReferences v w) = .ok w') : Settled now v w w' := by
  unfold applyLikely at done
  have stored : storedVerification v.status w.run.status = v.status := by
    simp [storedVerification, likely]
  dsimp only at done
  split at done
  · rename_i uncertain
    simp only [bind_ok] at done
    obtain ⟨attempt, moved, item, resolved, rest⟩ := done
    cases Except.ok.inj rest
    have status := Application.transition_status moved
    have slot := Application.transition_sameSlot moved
    rcases Application.transition_ok moved with ⟨-, same⟩ | ⟨-, rfl⟩
    · rw [uncertain] at same
      contradiction
    · refine ⟨?_, ⟨slot.capDay, slot.capWeek, slot.reservedAt, slot.releasedAt⟩, rfl, rfl, ?_, ?_,
        rfl, rfl, stored.symm ▸ rfl, Option.isSome_map, resolveItem_ok resolved⟩
      · have before : w.attempt.status = .uncertain := uncertain
        simp [verifiedStatus, likely, before]
      · cases known : w.attempt.submittedAt with
        | none => exact .inr ⟨rfl, by simp [recordReferences, known]⟩
        | some t => exact .inl (by simp [recordReferences, known])
      · rw [likely]
        rfl
  · rename_i certain
    cases Except.ok.inj done
    have elsewhere : w.attempt.status ≠ .uncertain := certain
    refine ⟨?_, ⟨rfl, rfl, rfl, rfl⟩, rfl, rfl, .inl rfl, ?_, rfl, rfl, stored.symm ▸ rfl, rfl, .inl rfl⟩
    · simp [recordReferences, verifiedStatus, likely, elsewhere]
    · rw [likely]
      rfl

theorem applyFailed_settled {now : Time} {v : VerificationResult} {w : Verdicts}
    (failed : v.status = .failed) : Settled now v w (applyFailed now v (recordReferences v w)) where
  status := by simp [applyFailed, verifiedStatus, failed]
  slot := by
    have slot : Application.SameSlot (recordReferences v w).attempt
        (applyFailed now v (recordReferences v w)).attempt := Application.forceTo_sameSlot
    exact ⟨slot.capDay, slot.capWeek, slot.reservedAt, slot.releasedAt⟩
  submissionKey := Application.forceTo_submissionKey
  preparationId := Application.forceTo_preparationId
  submittedAt := .inl Application.forceTo_submittedAt
  runStatus := by simp [applyFailed, ExecutionRun.finish, verifiedRun, failed]
  submitInvoked := rfl
  workerId := rfl
  verification := by
    simp [applyFailed, recordReferences, ExecutionRun.finish, storedVerification, failed]
  candidate := rfl
  item := by
    cases there : w.item with
    | none => exact .inl (by simp [applyFailed, recordReferences, there])
    | some row =>
      by_cases settled : row.state = .needsReview ∨ row.state = .succeeded ∨ row.state = .cancelled
      · exact .inl (by simp [applyFailed, recordReferences, there, settled])
      · refine .inr ⟨row, row.needsReview now
          "verification failed; a person must decide whether to retry", rfl, ?_, rfl, rfl, rfl, ?_⟩
        · simp [applyFailed, recordReferences, there, settled]
        · simp only [not_or] at settled
          exact .inr ⟨rfl, settled.2⟩

theorem applyUndecided_settled {now : Time} {v : VerificationResult} {w : Verdicts}
    (verified : v.status ≠ .verified) (likely : v.status ≠ .likely) (failed : v.status ≠ .failed) :
    Settled now v w (applyUndecided v (recordReferences v w)) where
  status := by
    cases v with
    | mk status => cases status <;> simp_all [applyUndecided, recordReferences, verifiedStatus]
  slot := ⟨rfl, rfl, rfl, rfl⟩
  submissionKey := rfl
  preparationId := rfl
  submittedAt := .inl rfl
  runStatus := by
    cases v with
    | mk status => cases status <;> simp_all [applyUndecided, recordReferences, verifiedRun]
  submitInvoked := rfl
  workerId := rfl
  verification := rfl
  candidate := rfl
  item := .inl rfl

theorem applyVerification_settled {now : Time} {v : VerificationResult} {w w' : Verdicts}
    (done : applyVerification now v w = .ok w') : Settled now v w w' := by
  unfold applyVerification at done
  dsimp only at done
  split at done
  · rename_i verified
    exact applyVerified_settled verified done
  · rename_i likely
    exact applyLikely_settled likely done
  · rename_i failed
    cases Except.ok.inj done
    exact applyFailed_settled failed
  · rename_i verified likely failed
    cases Except.ok.inj done
    exact applyUndecided_settled verified likely failed

/-! ### Reports -/

namespace ExecutionResult

def target (r : ExecutionResult) : ApplicationStatus :=
  match r.outcome with
  | .submitted => .submitted
  | .dryRun | .retryableFailure => .ready
  | .unknown => .uncertain
  | .permanentFailure => .failed
  | .handoff => .blocked
  | .needsReview => if r.capWait then .ready else .needsReview
  | .needsUserInput => .needsUserInput
  | .formChanged => .needsReview

/-- The report hands the item back to the queue: a retry with tries left, or the wait for a
new cap period. -/
def reopens (r : ExecutionResult) (item : QueueItem) : Bool :=
  match r.outcome with
  | .retryableFailure => decide (item.attempts < item.maxAttempts)
  | .needsReview => r.capWait
  | _ => false

/-- Where the report leaves the attempt: a retry without tries left and a verification that
came with the result go one step further than the target. -/
def finalStatus (r : ExecutionResult) (item : QueueItem) : ApplicationStatus :=
  match r.outcome, r.verification with
  | .submitted, some v => verifiedStatus v.status .submitted
  | .retryableFailure, _ => if r.reopens item then .ready else .needsReview
  | _, _ => r.target

def invoked (r : ExecutionResult) (run : ExecutionRun) : Bool :=
  match r.outcome with
  | .dryRun => false
  | .unknown => true
  | _ => run.submitInvoked || r.submitAttempted

/-- The outcomes that settle the item without asking who holds it. -/
def ownerless (r : ExecutionResult) : Bool :=
  match r.outcome with
  | .dryRun | .unknown | .formChanged => true
  | .needsReview => !r.capWait
  | _ => false

end ExecutionResult

/-- What a report that went through did. -/
structure Reported (now : Time) (worker : WorkerId) (r : ExecutionResult) (w w' : Work) : Prop where
  legal : r.outcome = .permanentFailure ∨ r.outcome = .handoff ∨ w.attempt.status = r.target ∨
    r.target ∈ w.attempt.status.transitions
  status : w'.attempt.status = r.finalStatus w.item
  slot : (r.outcome ≠ .permanentFailure ∧ Application.SameSlot w.attempt w'.attempt ∧
      w'.ledger = w.ledger) ∨
    (r.outcome = .permanentFailure ∧ ∃ reason,
      w'.ledger = (w.attempt.release now w.ledger .failed reason).1 ∧
      w'.attempt = (w.attempt.release now w.ledger .failed reason).2)
  cleared : r.outcome = .submitted ∨ r.outcome = .unknown ∨ r.outcome = .permanentFailure ∨
    w'.attempt.submissionKey = none
  submittedAt : w'.attempt.submittedAt =
    if r.outcome = .submitted then some now else w.attempt.submittedAt
  running : w'.run.status ≠ .running
  unknown : w'.run.status = .unknown → w'.run.verificationStatus = .pending
  submitInvoked : w'.run.submitInvoked = r.invoked w.run
  owner : r.ownerless = true ∨ w.item.claimedBy = some worker
  item : if r.reopens w.item then w'.item.state.waiting = true ∧ w'.item.claimedBy = none
    else w'.item.state.active = false ∨ w'.item.state = .blocked ∨ w'.item.state = .needsReview
  ownerless : r.ownerless = true → w'.item.state = .needsReview ∧ w'.item.claimedBy = none
  succeeded : w'.item.state = .succeeded → r.outcome = .submitted
  claimedBy : w'.item.claimedBy = none ∨ w'.item.claimedBy = w.item.claimedBy
  action : w'.item.action = w.item.action
  candidate : w'.candidate.isSome = w.candidate.isSome

section Branches
variable {now : Time} {worker : WorkerId} {r : ExecutionResult} {w w' : Work}

theorem cleared_transition {row row' : Application} {target : ApplicationStatus}
    {reason : Option String}
    (moved : ({ row with submissionKey := none } : Application).transition now target reason =
      .ok row') :
    (row.status = target ∨ target ∈ row.status.transitions) ∧ row'.status = target ∧
      Application.SameSlot row row' ∧ row'.submittedAt = row.submittedAt ∧
      row'.submissionKey = none := by
  have status := Application.transition_status moved
  rcases Application.transition_ok moved with ⟨rfl, same⟩ | ⟨allowed, rfl⟩
  · exact ⟨.inl same, status, ⟨rfl, rfl, rfl, rfl⟩, rfl, rfl⟩
  · exact ⟨.inr allowed, rfl, ⟨rfl, rfl, rfl, rfl⟩, rfl, rfl⟩

theorem reportSubmitted_reported (submitted : r.outcome = .submitted)
    (done : reportSubmitted now worker r { w with run := w.run.record r } = .ok w') :
    Reported now worker r w w' := by
  unfold reportSubmitted at done
  simp only [bind_ok] at done
  obtain ⟨attempt, moved, item, succeeded, rest⟩ := done
  obtain ⟨owner, rfl⟩ := QueueItem.succeed_ok succeeded
  have status := Application.transition_status moved
  have slot := Application.transition_sameSlot moved
  have legal : w.attempt.status = .submitted ∨ .submitted ∈ w.attempt.status.transitions := by
    rcases Application.transition_ok moved with ⟨-, same⟩ | ⟨allowed, -⟩
    · exact .inl same
    · exact .inr allowed
  have targeted : r.target = .submitted := by simp [ExecutionResult.target, submitted]
  have kept : r.reopens w.item = false := by simp [ExecutionResult.reopens, submitted]
  have owned : r.ownerless = false := by simp [ExecutionResult.ownerless, submitted]
  split at rest
  · rename_i unverified
    cases Except.ok.inj rest
    exact {
      legal := .inr (.inr (targeted ▸ legal))
      status := by
        simp only [ExecutionResult.finalStatus, submitted, unverified, targeted]
        exact status
      slot := .inl ⟨by simp [submitted], ⟨slot.capDay, slot.capWeek, slot.reservedAt,
        slot.releasedAt⟩, rfl⟩
      cleared := .inl submitted
      submittedAt := by simp [submitted]
      running := by simp [ExecutionRun.finish]
      unknown := by simp [ExecutionRun.finish]
      submitInvoked := by simp [ExecutionRun.finish, ExecutionResult.invoked, submitted,
        ExecutionRun.record]
      owner := .inr owner
      item := by simp [kept, QueueState.active]
      ownerless := by simp [owned]
      succeeded := fun _ => submitted
      claimedBy := .inr rfl
      action := rfl
      candidate := Option.isSome_map }
  · rename_i v verified
    simp only [bind_ok] at rest
    obtain ⟨settled, applied, rest⟩ := rest
    cases Except.ok.inj rest
    have outcome := applyVerification_settled applied
    have runStatus := outcome.runStatus
    simp only [ExecutionRun.finish] at runStatus
    exact {
      legal := .inr (.inr (targeted ▸ legal))
      status := by
        simp only [ExecutionResult.finalStatus, submitted, verified]
        exact outcome.status.trans (by rw [status])
      slot := .inl ⟨by simp [submitted], ⟨outcome.slot.capDay.trans slot.capDay,
        outcome.slot.capWeek.trans slot.capWeek, outcome.slot.reservedAt.trans slot.reservedAt,
        outcome.slot.releasedAt.trans slot.releasedAt⟩, rfl⟩
      cleared := .inl submitted
      submittedAt := by
        rcases outcome.submittedAt with same | ⟨missing, -⟩
        · simpa [submitted] using same
        · cases missing
      running := by
        rw [runStatus]
        cases v.status <;> simp [verifiedRun]
      unknown := by
        rw [runStatus]
        cases v.status <;> simp [verifiedRun]
      submitInvoked := by
        rw [outcome.submitInvoked]
        simp [ExecutionRun.finish, ExecutionResult.invoked, submitted, ExecutionRun.record]
      owner := .inr owner
      item := by simp [kept, QueueState.active]
      ownerless := by simp [owned]
      succeeded := fun _ => submitted
      claimedBy := .inr rfl
      action := rfl
      candidate := outcome.candidate.trans Option.isSome_map }

theorem reportDryRun_reported (dry : r.outcome = .dryRun)
    (done : reportDryRun now r { w with run := w.run.record r } = .ok w') :
    Reported now worker r w w' := by
  unfold reportDryRun at done
  simp only [bind_ok] at done
  obtain ⟨attempt, moved, rest⟩ := done
  cases Except.ok.inj rest
  obtain ⟨legal, status, slot, submittedAt, cleared⟩ := cleared_transition moved
  have targeted : r.target = .ready := by simp [ExecutionResult.target, dry]
  exact {
    legal := .inr (.inr (targeted ▸ legal))
    status := by simpa [ExecutionResult.finalStatus, dry, targeted] using status
    slot := .inl ⟨by simp [dry], slot, rfl⟩
    cleared := .inr (.inr (.inr cleared))
    submittedAt := by simpa [dry] using submittedAt
    running := by simp [ExecutionRun.finish]
    unknown := by simp [ExecutionRun.finish]
    submitInvoked := by simp [ExecutionRun.finish, ExecutionResult.invoked, dry]
    owner := .inl (by simp [ExecutionResult.ownerless, dry])
    item := by simp [ExecutionResult.reopens, dry, QueueItem.needsReview]
    ownerless := fun _ => ⟨rfl, rfl⟩
    succeeded := by simp [QueueItem.needsReview]
    claimedBy := .inl rfl
    action := rfl
    candidate := rfl }

theorem reportUnknown_reported (unknown : r.outcome = .unknown)
    (done : reportUnknown now r { w with run := w.run.record r } = .ok w') :
    Reported now worker r w w' := by
  unfold reportUnknown at done
  simp only [bind_ok] at done
  obtain ⟨attempt, moved, rest⟩ := done
  cases Except.ok.inj rest
  have targeted : r.target = .uncertain := by simp [ExecutionResult.target, unknown]
  have legal : w.attempt.status = .uncertain ∨ .uncertain ∈ w.attempt.status.transitions := by
    rcases Application.transition_ok moved with ⟨-, same⟩ | ⟨allowed, -⟩
    · exact .inl same
    · exact .inr allowed
  exact {
    legal := .inr (.inr (targeted ▸ legal))
    status := by
      simpa [ExecutionResult.finalStatus, unknown, targeted] using
        Application.transition_status moved
    slot := .inl ⟨by simp [unknown], Application.transition_sameSlot moved, rfl⟩
    cleared := .inr (.inl unknown)
    submittedAt := by simpa [unknown] using Application.transition_submittedAt moved
    running := by simp [ExecutionRun.finish]
    unknown := fun _ => rfl
    submitInvoked := by simp [ExecutionRun.finish, ExecutionResult.invoked, unknown]
    owner := .inl (by simp [ExecutionResult.ownerless, unknown])
    item := by simp [ExecutionResult.reopens, unknown, QueueItem.needsReview]
    ownerless := fun _ => ⟨rfl, rfl⟩
    succeeded := by simp [QueueItem.needsReview]
    claimedBy := .inl rfl
    action := rfl
    candidate := rfl }

theorem reportRetryable_reported (retryable : r.outcome = .retryableFailure)
    (done : reportRetryable now worker r { w with run := w.run.record r } = .ok w') :
    Reported now worker r w w' := by
  unfold reportRetryable at done
  simp only [bind_ok] at done
  obtain ⟨attempt, moved, item, failed, rest⟩ := done
  obtain ⟨legal, status, slot, submittedAt, cleared⟩ := cleared_transition moved
  obtain ⟨owner, settled, action⟩ := QueueItem.fail_ok failed
  have targeted : r.target = .ready := by simp [ExecutionResult.target, retryable]
  have reopens : r.reopens w.item = decide (w.item.attempts < w.item.maxAttempts) := by
    simp [ExecutionResult.reopens, retryable]
  have owned : r.ownerless = false := by simp [ExecutionResult.ownerless, retryable]
  have running (t : Time) : ((w.run.record r).finish t .failedRetryable
      (some .retryableFailure) none none).status ≠ .running := by simp [ExecutionRun.finish]
  rcases settled with ⟨-, again, waits, free, -⟩ | ⟨spent, ended, kept, -⟩
  · rw [if_neg (by rw [waits]; decide)] at rest
    cases Except.ok.inj rest
    exact {
      legal := .inr (.inr (targeted ▸ legal))
      status := by simpa [ExecutionResult.finalStatus, retryable, reopens, again] using status
      slot := .inl ⟨by simp [retryable], slot, rfl⟩
      cleared := .inr (.inr (.inr cleared))
      submittedAt := by simpa [retryable] using submittedAt
      running := running now
      unknown := by simp [ExecutionRun.finish]
      submitInvoked := by simp [ExecutionRun.finish, ExecutionResult.invoked, retryable,
        ExecutionRun.record]
      owner := .inr owner
      item := by simp [reopens, again, waits, free, QueueState.waiting]
      ownerless := by simp [owned]
      succeeded := by simp [waits]
      claimedBy := .inl free
      action := action
      candidate := rfl }
  · rw [if_pos ended] at rest
    simp only [bind_ok] at rest
    obtain ⟨last, exhausted, rest⟩ := rest
    cases Except.ok.inj rest
    have tries : ¬ w.item.attempts < w.item.maxAttempts := fun h => spent ⟨rfl, h⟩
    exact {
      legal := .inr (.inr (targeted ▸ legal))
      status := by
        simpa [ExecutionResult.finalStatus, retryable, reopens, tries] using
          Application.transition_status exhausted
      slot := .inl ⟨by simp [retryable], slot.trans (Application.transition_sameSlot exhausted), rfl⟩
      cleared := .inr (.inr (.inr ((Application.transition_submissionKey exhausted).trans cleared)))
      submittedAt := by
        simpa [retryable, submittedAt] using Application.transition_submittedAt exhausted
      running := running now
      unknown := by simp [ExecutionRun.finish]
      submitInvoked := by simp [ExecutionRun.finish, ExecutionResult.invoked, retryable,
        ExecutionRun.record]
      owner := .inr owner
      item := by simp [reopens, tries, ended, QueueState.active]
      ownerless := by simp [owned]
      succeeded := by simp [ended]
      claimedBy := .inr kept
      action := action
      candidate := rfl }

theorem reportPermanent_reported (permanent : r.outcome = .permanentFailure)
    (done : reportPermanent now worker r { w with run := w.run.record r } = .ok w') :
    Reported now worker r w w' := by
  unfold reportPermanent at done
  simp only [bind_ok] at done
  obtain ⟨item, failed, rest⟩ := done
  obtain ⟨owner, settled, action⟩ := QueueItem.fail_ok failed
  cases Except.ok.inj rest
  have ended : item.state = .failed ∧ item.claimedBy = w.item.claimedBy := by
    rcases settled with ⟨again, -⟩ | ⟨-, ended, kept, -⟩
    · contradiction
    · exact ⟨ended, kept⟩
  have spec : (w.attempt.release now w.ledger .failed _).2.status = .failed ∧ _ :=
    Application.release_spec now w.attempt w.ledger .failed (textOr r.message "permanent failure")
  exact {
    legal := .inl permanent
    status := by
      simpa [ExecutionResult.finalStatus, ExecutionResult.target, permanent] using spec.1
    slot := .inr ⟨permanent, _, rfl, rfl⟩
    cleared := .inr (.inr (.inl permanent))
    submittedAt := by
      simp only [permanent, reduceCtorEq, if_false, Application.release]
      split
      · rfl
      · split <;> rfl
    running := by simp [ExecutionRun.finish]
    unknown := by simp [ExecutionRun.finish]
    submitInvoked := by simp [ExecutionRun.finish, ExecutionResult.invoked, permanent,
      ExecutionRun.record]
    owner := .inr owner
    item := by simp [ExecutionResult.reopens, permanent, ended.1, QueueState.active]
    ownerless := by simp [ExecutionResult.ownerless, permanent]
    succeeded := by simp [ended.1]
    claimedBy := .inr ended.2
    action := action
    candidate := rfl }

theorem reportHandoff_reported (paused : r.outcome = .handoff)
    (done : reportHandoff now worker r { w with run := w.run.record r } = .ok w') :
    Reported now worker r w w' := by
  unfold reportHandoff handoff at done
  simp only [bind_ok] at done
  obtain ⟨⟨attempt, item⟩, ⟨item', blocked, same⟩, rest⟩ := done
  cases Except.ok.inj same
  cases Except.ok.inj rest
  obtain ⟨owner, rfl⟩ := QueueItem.block_ok blocked
  have blockedSlot (key : String) (text : Option String) : Application.SameSlot w.attempt
      (({ w.attempt with submissionKey := none, blockedReason := some key } : Application).forceTo
        now .blocked text) := by
    unfold Application.forceTo
    split <;> exact ⟨rfl, rfl, rfl, rfl⟩
  exact {
    legal := .inr (.inl paused)
    status := by simp [ExecutionResult.finalStatus, ExecutionResult.target, paused]
    slot := .inl ⟨by simp [paused], blockedSlot _ _, rfl⟩
    cleared := .inr (.inr (.inr Application.forceTo_submissionKey))
    submittedAt := by simp [paused]
    running := by simp [ExecutionRun.finish]
    unknown := by simp [ExecutionRun.finish]
    submitInvoked := by simp [ExecutionRun.finish, ExecutionResult.invoked, paused,
      ExecutionRun.record]
    owner := .inr owner
    item := by simp [ExecutionResult.reopens, paused]
    ownerless := by simp [ExecutionResult.ownerless, paused]
    succeeded := by simp
    claimedBy := .inr rfl
    action := rfl
    candidate := rfl }

theorem reportCapWait_reported {env : Env} {policy : ApplicationPolicy}
    (review : r.outcome = .needsReview) (wait : r.capWait = true)
    (done : reportCapWait now worker r { w with run := w.run.record r } env policy = .ok w') :
    Reported now worker r w w' := by
  unfold reportCapWait at done
  simp only [bind_ok] at done
  obtain ⟨attempt, moved, item, released, rest⟩ := done
  cases Except.ok.inj rest
  obtain ⟨legal, status, slot, submittedAt, cleared⟩ := cleared_transition moved
  obtain ⟨owner, rfl⟩ := QueueItem.release_ok released
  have targeted : r.target = .ready := by simp [ExecutionResult.target, review, wait]
  exact {
    legal := .inr (.inr (targeted ▸ legal))
    status := by simpa [ExecutionResult.finalStatus, review, targeted] using status
    slot := .inl ⟨by simp [review], slot, rfl⟩
    cleared := .inr (.inr (.inr cleared))
    submittedAt := by simpa [review] using submittedAt
    running := by simp [ExecutionRun.finish]
    unknown := by simp [ExecutionRun.finish]
    submitInvoked := by simp [ExecutionRun.finish, ExecutionResult.invoked, review,
      ExecutionRun.record]
    owner := .inr owner
    item := by simp [ExecutionResult.reopens, review, wait, QueueState.waiting]
    ownerless := by simp [ExecutionResult.ownerless, review, wait]
    succeeded := by simp
    claimedBy := .inl rfl
    action := rfl
    candidate := rfl }

theorem reportNeedsUserInput_reported (needed : r.outcome = .needsUserInput)
    (done : reportNeedsUserInput now worker r { w with run := w.run.record r } = .ok w') :
    Reported now worker r w w' := by
  unfold reportNeedsUserInput at done
  simp only [bind_ok] at done
  obtain ⟨attempt, moved, item, blocked, rest⟩ := done
  cases Except.ok.inj rest
  obtain ⟨legal, status, slot, submittedAt, cleared⟩ := cleared_transition moved
  obtain ⟨owner, rfl⟩ := QueueItem.block_ok blocked
  have targeted : r.target = .needsUserInput := by simp [ExecutionResult.target, needed]
  exact {
    legal := .inr (.inr (targeted ▸ legal))
    status := by simpa [ExecutionResult.finalStatus, needed, targeted] using status
    slot := .inl ⟨by simp [needed], slot, rfl⟩
    cleared := .inr (.inr (.inr cleared))
    submittedAt := by simpa [needed] using submittedAt
    running := by simp [ExecutionRun.finish]
    unknown := by simp [ExecutionRun.finish]
    submitInvoked := by simp [ExecutionRun.finish, ExecutionResult.invoked, needed,
      ExecutionRun.record]
    owner := .inr owner
    item := by simp [ExecutionResult.reopens, needed]
    ownerless := by simp [ExecutionResult.ownerless, needed]
    succeeded := by simp
    claimedBy := .inr rfl
    action := rfl
    candidate := rfl }

theorem reportNeedsReview_reported
    (review : (r.outcome = .needsReview ∧ r.capWait = false) ∨ r.outcome = .formChanged)
    (done : reportNeedsReview now r { w with run := w.run.record r } = .ok w') :
    Reported now worker r w w' := by
  unfold reportNeedsReview at done
  simp only [bind_ok] at done
  obtain ⟨attempt, moved, rest⟩ := done
  cases Except.ok.inj rest
  obtain ⟨legal, status, slot, submittedAt, cleared⟩ := cleared_transition moved
  have targeted : r.target = .needsReview := by
    rcases review with ⟨review, wait⟩ | changed
    · simp [ExecutionResult.target, review, wait]
    · simp [ExecutionResult.target, changed]
  have final : r.finalStatus w.item = .needsReview := by
    rcases review with ⟨review, -⟩ | changed
    · simpa [ExecutionResult.finalStatus, review] using targeted
    · simpa [ExecutionResult.finalStatus, changed] using targeted
  have permanent : r.outcome ≠ .permanentFailure := by
    rcases review with ⟨review, -⟩ | changed <;> simp [*]
  have unsent : r.outcome ≠ .submitted := by
    rcases review with ⟨review, -⟩ | changed <;> simp [*]
  have free : r.ownerless = true := by
    rcases review with ⟨review, wait⟩ | changed <;> simp [ExecutionResult.ownerless, *]
  have parked : r.reopens w.item = false := by
    rcases review with ⟨review, wait⟩ | changed <;> simp [ExecutionResult.reopens, *]
  exact {
    legal := .inr (.inr (targeted ▸ legal))
    status := final ▸ status
    slot := .inl ⟨permanent, slot, rfl⟩
    cleared := .inr (.inr (.inr cleared))
    submittedAt := by simpa [unsent] using submittedAt
    running := by simp [ExecutionRun.finish]
    unknown := by simp [ExecutionRun.finish]
    submitInvoked := by
      rcases review with ⟨review, -⟩ | changed <;>
        simp [ExecutionRun.finish, ExecutionResult.invoked, ExecutionRun.record, *]
    owner := .inl free
    item := by simp [parked, QueueItem.needsReview]
    ownerless := fun _ => ⟨rfl, rfl⟩
    succeeded := by simp [QueueItem.needsReview]
    claimedBy := .inl rfl
    action := rfl
    candidate := rfl }

/-- Every report that goes through is one of the table. -/
theorem report_reported {env : Env} {policy : ApplicationPolicy}
    (done : report now worker r w env policy = .ok w') : Reported now worker r w w' := by
  unfold report at done
  dsimp only at done
  split at done
  · exact reportSubmitted_reported ‹_› done
  · exact reportDryRun_reported ‹_› done
  · exact reportUnknown_reported ‹_› done
  · exact reportRetryable_reported ‹_› done
  · exact reportPermanent_reported ‹_› done
  · exact reportHandoff_reported ‹_› done
  · split at done
    · exact reportCapWait_reported ‹_› ‹_› done
    · rename_i review wait
      exact reportNeedsReview_reported (.inl ⟨review, by simpa using wait⟩) done
  · exact reportNeedsUserInput_reported ‹_› done
  · exact reportNeedsReview_reported (.inr ‹_›) done

end Branches

end RangeApply
