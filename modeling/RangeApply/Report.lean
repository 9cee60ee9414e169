import RangeApply.Queue
import RangeApply.Attempts

/-! What an executor reports and how the service records it: the result of a run, its
verification, and the hand-off to a person. The rows of one invocation travel together as a
`Work`; an error leaves all of them as they were. -/
namespace RangeApply

structure VerificationResult where
  status : VerificationStatus
  method : VerificationMethod
  detail : Option String
  externalApplicationId : Option String
  confirmationReference : Option String
  applicationUrl : Option String
  deriving DecidableEq

/-- What an executor returns from `execute`, or reports through the API. -/
structure ExecutionResult where
  outcome : ExecutionOutcome
  submitAttempted : Bool
  handoffReason : Option HandoffReason
  errorClass : Option ErrorClass
  message : Option String
  applicationUrl : Option String
  externalApplicationId : Option String
  confirmationReference : Option String
  verification : Option VerificationResult
  deriving DecidableEq

/-- The rows one executor invocation works on. -/
structure Work where
  attempt : Application
  item : QueueItem
  run : ExecutionRun
  candidate : Option CandidateOpportunity
  ledger : CapLedger

/-- `_finish_run`. -/
def ExecutionRun.finish (now : Time) (run : ExecutionRun) (status : ExecutionStatus)
    (outcome : Option ExecutionOutcome) (errorClass : Option ErrorClass)
    (message : Option String) : ExecutionRun :=
  { run with
    status := status
    outcome := outcome <|> run.outcome
    errorClass := errorClass <|> run.errorClass
    errorMessage := clipped 2000 message <|> run.errorMessage
    finishedAt := some now }

namespace CandidateOpportunity

/-- `transition(..., force=True)`. -/
def forceTo (now : Time) (co : CandidateOpportunity) (newState : OpportunityState)
    (reason : String) : CandidateOpportunity :=
  if co.state = newState then co
  else { co with
    state := newState, stateChangedAt := now,
    skippedReason :=
      if newState = .skipped then clipped 256 (some reason)
      else if co.state = .skipped then none else co.skippedReason }

/-- Guarded by `ALLOWED_TRANSITIONS`. -/
def transition (now : Time) (co : CandidateOpportunity) (newState : OpportunityState)
    (reason : String) : Res CandidateOpportunity :=
  if co.state = newState ∨ newState ∈ co.state.transitions then .ok (co.forceTo now newState reason)
  else .error (.conflict s!"Illegal opportunity transition {co.state.value} -> {newState.value}")

end CandidateOpportunity

/-- `_move_candidate`: guarded, forced when the table refuses, nothing without a row. -/
def moveCandidate (now : Time) (co : Option CandidateOpportunity) (state : OpportunityState)
    (reason : String) : Option CandidateOpportunity :=
  co.map fun co => co.forceTo now state reason

/-! ### Verification -/

/-- The rows a verification settles; the report passes no item, it has settled its own. -/
structure Verdicts where
  run : ExecutionRun
  attempt : Application
  item : Option QueueItem
  candidate : Option CandidateOpportunity

/-- The references a verification brings are copied on the run and the attempt. -/
def recordReferences (v : VerificationResult) (w : Verdicts) : Verdicts :=
  { w with
    run := { w.run with
      verificationStatus := v.status
      verificationMethod := some v.method
      verificationDetail := clipped 512 v.detail
      externalApplicationId := given v.externalApplicationId <|> w.run.externalApplicationId
      confirmationReference := given v.confirmationReference <|> w.run.confirmationReference
      applicationUrl := given v.applicationUrl <|> w.run.applicationUrl }
    attempt := { w.attempt with
      externalApplicationId := given v.externalApplicationId <|> w.attempt.externalApplicationId
      confirmation := given v.confirmationReference <|> w.attempt.confirmation
      resultUrl := given v.applicationUrl <|> w.attempt.resultUrl } }

/-- Settle the item unless it already succeeded. -/
def resolveItem (now : Time) (item : Option QueueItem) : Res (Option QueueItem) :=
  match item with
  | none => .ok none
  | some row => if row.state = .succeeded then .ok item else (row.resolve now).map some

/-- The attempt a verification starts from: SUBMITTED, by force when it is elsewhere. -/
def asSubmitted (now : Time) (attempt : Application) : Application :=
  if attempt.status = .submitted then attempt
  else { attempt.forceTo now .submitted (some "verified") with
    submittedAt := attempt.submittedAt <|> some now }

/-- The attempt and the candidate row of a verified submission. -/
def confirmAttempt (now : Time) (v : VerificationResult) (w : Verdicts) :
    Res (Application × Option CandidateOpportunity) :=
  if w.attempt.status = .verified then .ok (w.attempt, w.candidate)
  else do
    let verified ← (asSubmitted now w.attempt).transition now .verified
      (some (textOr v.detail "verified"))
    .ok ({ verified with verifiedAt := some now }, moveCandidate now w.candidate .verified "verified")

/-- VERIFIED: the attempt goes to VERIFIED, through a forced SUBMITTED when it is elsewhere. -/
def applyVerified (now : Time) (v : VerificationResult) (w : Verdicts) : Res Verdicts := do
  let confirmed ← confirmAttempt now v w
  let item ← resolveItem now w.item
  .ok ⟨w.run.finish now .verified none none none, confirmed.1, item, confirmed.2⟩

/-- LIKELY: the run counts as SUBMITTED, and so does an UNCERTAIN attempt. -/
def applyLikely (now : Time) (v : VerificationResult) (w : Verdicts) : Res Verdicts :=
  let run := w.run.finish now .submitted none none none
  if w.attempt.status = .uncertain then do
    let attempt ← w.attempt.transition now .submitted (some (textOr v.detail "likely submitted"))
    let item ← resolveItem now w.item
    .ok ⟨run, { attempt with submittedAt := attempt.submittedAt <|> some now }, item,
      moveCandidate now w.candidate .submitted "likely submitted"⟩
  else .ok { w with run := run }

/-- FAILED: never resubmitted automatically, a person decides. -/
def applyFailed (now : Time) (v : VerificationResult) (w : Verdicts) : Verdicts :=
  { w with
    run := w.run.finish now .verificationFailed none none none
    attempt := w.attempt.forceTo now .needsReview
      (some (clip 256 ("verification failed: " ++ v.detail.getD "")))
    item := w.item.map fun row =>
      if row.state = .needsReview ∨ row.state = .succeeded ∨ row.state = .cancelled then row
      else row.needsReview now "verification failed; a person must decide whether to retry" }

/-- Anything else leaves the statuses; an UNKNOWN answer on an UNKNOWN run stays PENDING. -/
def applyUndecided (v : VerificationResult) (w : Verdicts) : Verdicts :=
  { w with run := { w.run with
      verificationStatus :=
        if v.status = .unknown ∧ w.run.status = .unknown then .pending else v.status } }

def applyVerification (now : Time) (v : VerificationResult) (w : Verdicts) : Res Verdicts :=
  let w := recordReferences v w
  match v.status with
  | .verified => applyVerified now v w
  | .likely => applyLikely now v w
  | .failed => .ok (applyFailed now v w)
  | _ => .ok (applyUndecided v w)

/-! ### Reporting a result -/

/-- `_handoff`: the attempt is blocked for a person, whatever its status was. -/
def handoff (now : Time) (worker : WorkerId) (reason : HandoffReason) (message : String)
    (attempt : Application) (item : QueueItem) : Res (Application × QueueItem) := do
  let blocked := ({ attempt with
      submissionKey := none, blockedReason := some reason.value } : Application).forceTo now .blocked
    (some (clip 256 s!"{reason.value}: {message}"))
  let item ← item.block now worker s!"{reason.value}: {message}"
  .ok (blocked, item)

/-- The end of the period a cap code speaks of. -/
def periodEnd (env : Env) (policy : ApplicationPolicy) (now : Time) (code : PreconditionCode) :
    Time :=
  let keys := env.periodKeys now policy.timezone
  if code = .dailyCapReached then keys.day.endsAt else keys.week.endsAt

/-- The pre-submit gate found no capacity: the result waits for the next period. -/
def ExecutionResult.capWait (r : ExecutionResult) : Bool :=
  decide (r.outcome = .needsReview) && decide (r.errorClass = some .policy) &&
    occurs "CAP_REACHED" (r.message.getD "")

/-- What every report writes on the run first. -/
def ExecutionRun.record (run : ExecutionRun) (r : ExecutionResult) : ExecutionRun :=
  { run with
    outcome := some r.outcome
    submitInvoked := run.submitInvoked || r.submitAttempted
    applicationUrl := r.applicationUrl
    externalApplicationId := r.externalApplicationId
    confirmationReference := r.confirmationReference
    errorClass := r.errorClass
    errorMessage := clipped 2000 r.message }

section Branches
variable (now : Time) (worker : WorkerId) (r : ExecutionResult) (w : Work)

def reportSubmitted : Res Work := do
  let run := w.run.finish now .submitted (some .submitted) none none
  let attempt ← w.attempt.transition now .submitted (some (textOr r.message "submitted"))
  let attempt := { attempt with
    submittedAt := some now
    resultUrl := r.applicationUrl
    externalApplicationId := r.externalApplicationId
    confirmation := r.confirmationReference }
  let item ← w.item.succeed now worker
  let candidate := moveCandidate now w.candidate .submitted "submitted"
  match r.verification with
  | none => .ok ⟨attempt, item, run, candidate, w.ledger⟩
  | some v => do
    let settled ← applyVerification now v ⟨run, attempt, none, candidate⟩
    .ok ⟨settled.attempt, item, settled.run, settled.candidate, w.ledger⟩

/-- Navigated, inspected, mapped; submit deliberately not pressed. -/
def reportDryRun : Res Work := do
  let run := { w.run with submitInvoked := false }.finish now .dryRun (some .dryRun) none none
  let attempt ← ({ w.attempt with submissionKey := none } : Application).transition now .ready
    (some (textOr r.message "dry run"))
  let item := w.item.needsReview now (clip 2000 ("dry run complete: " ++ r.message.getD ""))
  .ok ⟨attempt, item, run, w.candidate, w.ledger⟩

/-- The submit may have happened: never resubmitted automatically. -/
def reportUnknown : Res Work := do
  let run := { w.run with submitInvoked := true }.finish now .unknown (some .unknown) none none
  let attempt ← w.attempt.transition now .uncertain
    (some (textOr r.message "submit outcome unknown"))
  let item := w.item.needsReview now
    "submit outcome unknown: verify before anything else; never resubmitted automatically"
  .ok ⟨attempt, item, { run with verificationStatus := .pending }, w.candidate, w.ledger⟩

def reportRetryable : Res Work := do
  let run := w.run.finish now .failedRetryable (some .retryableFailure) none none
  let reason := textOr r.message "retryable failure"
  let attempt ← ({ w.attempt with submissionKey := none } : Application).transition now .ready
    (some reason)
  let item ← w.item.fail now worker reason true
  if item.state = .failed then do
    let attempt ← attempt.transition now .needsReview (some "retries exhausted")
    .ok ⟨attempt, item, run, w.candidate, w.ledger⟩
  else .ok ⟨attempt, item, run, w.candidate, w.ledger⟩

def reportPermanent : Res Work := do
  let run := w.run.finish now .failedPermanent (some .permanentFailure) none none
  let reason := textOr r.message "permanent failure"
  let released := w.attempt.release now w.ledger .failed reason
  let item ← w.item.fail now worker reason false
  .ok ⟨released.2, item, run, w.candidate, released.1⟩

def reportHandoff : Res Work := do
  let reason := r.handoffReason.getD .userConfirmationRequired
  let run := { w.run with handoffReason := some reason }.finish now .handoff (some .handoff) none none
  let paused ← handoff now worker reason (textOr r.message "human handoff") w.attempt w.item
  .ok ⟨paused.1, paused.2, run, w.candidate, w.ledger⟩

def reportCapWait (env : Env) (policy : ApplicationPolicy) : Res Work := do
  let run := w.run.finish now .preconditionFailed (some r.outcome) (some .policy) r.message
  let attempt ← ({ w.attempt with submissionKey := none } : Application).transition now .ready
    (some (textOr r.message "cap reached at submit"))
  let item ← w.item.release now worker
  let code := if occurs "WEEKLY_CAP_REACHED" (r.message.getD "") then
    PreconditionCode.weeklyCapReached else .dailyCapReached
  .ok ⟨attempt, { item with availableAt := periodEnd env policy now code }, run, w.candidate,
    w.ledger⟩

/-- The reason a parked attempt carries. -/
def parkedReason : String :=
  let reason := textOr r.message (match r.outcome with
    | .needsUserInput => "needs_user_input"
    | .needsReview => "needs_review"
    | _ => "form_changed")
  if r.outcome = .formChanged then s!"FORM_CHANGED: {reason}" else reason

/-- NEEDS_USER_INPUT: parked until the candidate answers. -/
def reportNeedsUserInput : Res Work := do
  let run := w.run.finish now .needsUserInput (some r.outcome) none none
  let attempt ← ({ w.attempt with submissionKey := none } : Application).transition now
    .needsUserInput (some (parkedReason r))
  let item ← w.item.block now worker s!"needs_user_input: {parkedReason r}"
  .ok ⟨attempt, item, run, w.candidate, w.ledger⟩

/-- NEEDS_REVIEW and FORM_CHANGED: parked for a person. -/
def reportNeedsReview : Res Work := do
  let run := w.run.finish now .needsReview (some r.outcome) none none
  let attempt ← ({ w.attempt with submissionKey := none } : Application).transition now
    .needsReview (some (parkedReason r))
  .ok ⟨attempt, w.item.needsReview now (parkedReason r), run, w.candidate, w.ledger⟩

def report (env : Env) (policy : ApplicationPolicy) : Res Work :=
  let w := { w with run := w.run.record r }
  match r.outcome with
  | .submitted => reportSubmitted now worker r w
  | .dryRun => reportDryRun now r w
  | .unknown => reportUnknown now r w
  | .retryableFailure => reportRetryable now worker r w
  | .permanentFailure => reportPermanent now worker r w
  | .handoff => reportHandoff now worker r w
  | .needsReview =>
    if r.capWait then reportCapWait now worker r w env policy else reportNeedsReview now r w
  | .needsUserInput => reportNeedsUserInput now worker r w
  | .formChanged => reportNeedsReview now r w

end Branches

end RangeApply
