/-! The enumerations of the application pipeline, with the transition tables the
repository keeps beside them. `value` is the text a member is stored and printed as. -/
namespace RangeApply

/-- Lifecycle of one application attempt. -/
inductive ApplicationStatus
  | discovered | qualified | shortlisted | preparing | ready | awaitingApproval | submitting
  | submitted | verified | uncertain | blocked | needsUserInput | needsReview | failed
  | cancelled | interviewing | rejected | closed
  deriving DecidableEq, Repr

namespace ApplicationStatus

def value : ApplicationStatus → String
  | discovered => "DISCOVERED" | qualified => "QUALIFIED" | shortlisted => "SHORTLISTED"
  | preparing => "PREPARING" | ready => "READY" | awaitingApproval => "AWAITING_APPROVAL"
  | submitting => "SUBMITTING" | submitted => "SUBMITTED" | verified => "VERIFIED"
  | uncertain => "UNCERTAIN" | blocked => "BLOCKED" | needsUserInput => "NEEDS_USER_INPUT"
  | needsReview => "NEEDS_REVIEW" | failed => "FAILED" | cancelled => "CANCELLED"
  | interviewing => "INTERVIEWING" | rejected => "REJECTED" | closed => "CLOSED"

/-- `SUBMITTED_STATUSES`: the attempt has, or may have, reached the employer. -/
def inSubmittedStatuses : ApplicationStatus → Bool
  | submitting | submitted | verified | uncertain | interviewing => true
  | _ => false

/-- `IN_FLIGHT_STATUSES`: on the way to a submission. -/
def inFlightStatuses : ApplicationStatus → Bool
  | qualified | shortlisted | preparing | ready | awaitingApproval | blocked | needsUserInput
  | needsReview => true
  | _ => false

/-- `ATTEMPT_TRANSITIONS`. -/
def transitions : ApplicationStatus → List ApplicationStatus
  | discovered => [qualified, ready, closed, cancelled]
  | qualified => [preparing, ready, failed, closed, cancelled]
  | shortlisted => [qualified, preparing, ready, closed, cancelled]
  | preparing => [ready, needsUserInput, needsReview, failed, closed, cancelled]
  | ready => [submitting, preparing, needsUserInput, needsReview, blocked, failed, closed, cancelled]
  | awaitingApproval => [submitting, ready, cancelled]
  | submitting => [submitted, uncertain, ready, blocked, needsUserInput, needsReview, failed]
  | submitted => [verified, needsReview, interviewing, rejected, closed]
  | verified => [interviewing, rejected, closed]
  | uncertain => [submitted, verified, needsReview]
  | blocked => [ready, cancelled, closed]
  | needsUserInput => [ready, preparing, cancelled, closed]
  | needsReview => [ready, preparing, submitted, verified, failed, cancelled, closed]
  | failed => [qualified, ready, closed]
  | cancelled => [qualified]
  | interviewing => [rejected, closed]
  | rejected => [closed]
  | closed => [qualified]

end ApplicationStatus

/-- Market-side status of the opening, shared by all candidates. -/
inductive OpportunityStatus
  | open | closed | reposted
  deriving DecidableEq, Repr

/-- Candidate-side relationship with an opening. -/
inductive OpportunityState
  | discovered | eligible | uncertain | ineligible | shortlisted | prepared | queued | inReview
  | approved | submitting | submitted | verificationPending | verified | rejected | interviewing
  | offer | closed | skipped
  deriving DecidableEq, Repr

namespace OpportunityState

def value : OpportunityState → String
  | discovered => "DISCOVERED" | eligible => "ELIGIBLE" | uncertain => "UNCERTAIN"
  | ineligible => "INELIGIBLE" | shortlisted => "SHORTLISTED" | prepared => "PREPARED"
  | queued => "QUEUED" | inReview => "IN_REVIEW" | approved => "APPROVED"
  | submitting => "SUBMITTING" | submitted => "SUBMITTED"
  | verificationPending => "VERIFICATION_PENDING" | verified => "VERIFIED"
  | rejected => "REJECTED" | interviewing => "INTERVIEWING" | offer => "OFFER"
  | closed => "CLOSED" | skipped => "SKIPPED"

/-- `ALLOWED_TRANSITIONS`. -/
def transitions : OpportunityState → List OpportunityState
  | discovered => [eligible, uncertain, ineligible, skipped, closed]
  | eligible => [uncertain, ineligible, shortlisted, prepared, queued, inReview, skipped, closed]
  | uncertain => [eligible, ineligible, shortlisted, prepared, queued, inReview, skipped, closed]
  | ineligible => [eligible, uncertain, skipped, closed]
  | shortlisted => [prepared, queued, inReview, skipped, closed]
  | prepared => [queued, inReview, skipped, closed]
  | queued => [prepared, inReview, approved, submitting, skipped, closed]
  | inReview => [approved, prepared, queued, skipped, closed]
  | approved => [submitting, queued, skipped, closed]
  | submitting => [submitted, verificationPending, queued, inReview, closed]
  | submitted => [verificationPending, verified, rejected, interviewing, closed]
  | verificationPending => [verified, submitted, rejected, interviewing, closed]
  | verified => [interviewing, rejected, offer, closed]
  | interviewing => [offer, rejected, closed]
  | offer => [rejected, closed]
  | rejected => [closed]
  | closed => []
  | skipped => [discovered, eligible, uncertain]

/-- `APPLIED_STATES`: the candidate applied, even without an attempt row. -/
def applied : OpportunityState → Bool
  | submitted | verificationPending | verified | interviewing | offer | rejected => true
  | _ => false

/-- `_QUEUED_FROM`: the states admission moves to QUEUED. -/
def queuedFrom : OpportunityState → Bool
  | eligible | uncertain | shortlisted | prepared | inReview => true
  | _ => false

end OpportunityState

inductive EligibilityDecision
  | eligible | likely | uncertain | ineligible | review
  deriving DecidableEq, Repr

namespace EligibilityDecision

def value : EligibilityDecision → String
  | eligible => "ELIGIBLE" | likely => "LIKELY" | uncertain => "UNCERTAIN"
  | ineligible => "INELIGIBLE" | review => "REVIEW"

/-- `ELIGIBILITY_RANK`, for `minimum_eligibility`. -/
def rank : EligibilityDecision → Nat
  | eligible => 4 | likely => 3 | uncertain => 2 | review => 2 | ineligible => 0

end EligibilityDecision

inductive FitBand
  | high | medium | low
  deriving DecidableEq, Repr

def FitBand.value : FitBand → String
  | high => "HIGH" | medium => "MEDIUM" | low => "LOW"

/-- Why the policy or the scheduler admitted or refused an opportunity. -/
inductive AdmissionReason
  | admitted | notEvaluated | notScored | ineligible | belowMinimumEligibility | bandDisabled
  | belowFitThreshold | companyBlocked | outsideTargetGeography | irrelevantRole | cooldownActive
  | duplicateApplication | duplicateOpportunity | alreadyInProgress | alreadySubmitted
  | userBlocked | opportunityClosed | needsUserInput | needsReview | dailyCapReached
  | weeklyCapReached | windowDeferred
  deriving DecidableEq, Repr

def AdmissionReason.value : AdmissionReason → String
  | admitted => "ADMITTED" | notEvaluated => "NOT_EVALUATED" | notScored => "NOT_SCORED"
  | ineligible => "INELIGIBLE" | belowMinimumEligibility => "BELOW_MINIMUM_ELIGIBILITY"
  | bandDisabled => "BAND_DISABLED" | belowFitThreshold => "BELOW_FIT_THRESHOLD"
  | companyBlocked => "COMPANY_BLOCKED" | outsideTargetGeography => "OUTSIDE_TARGET_GEOGRAPHY"
  | irrelevantRole => "IRRELEVANT_ROLE" | cooldownActive => "COOLDOWN_ACTIVE"
  | duplicateApplication => "DUPLICATE_APPLICATION" | duplicateOpportunity => "DUPLICATE_OPPORTUNITY"
  | alreadyInProgress => "ALREADY_IN_PROGRESS" | alreadySubmitted => "ALREADY_SUBMITTED"
  | userBlocked => "USER_BLOCKED" | opportunityClosed => "OPPORTUNITY_CLOSED"
  | needsUserInput => "NEEDS_USER_INPUT" | needsReview => "NEEDS_REVIEW"
  | dailyCapReached => "DAILY_CAP_REACHED" | weeklyCapReached => "WEEKLY_CAP_REACHED"
  | windowDeferred => "WINDOW_DEFERRED"

inductive TailoringLevel
  | l0 | l1 | l2
  deriving DecidableEq, Repr

inductive Lane
  | auto | review | manual
  deriving DecidableEq, Repr

inductive DuplicatePolicy
  | block | allowRepostAfterCooldown
  deriving DecidableEq, Repr

inductive QueueAction
  | prepare | submit
  deriving DecidableEq, Repr

def QueueAction.value : QueueAction → String
  | prepare => "PREPARE" | submit => "SUBMIT"

inductive QueueState
  | pending | claimed | processing | succeeded | failed | retryWait | blocked | needsReview
  | cancelled
  deriving DecidableEq, Repr

namespace QueueState

def value : QueueState → String
  | pending => "PENDING" | claimed => "CLAIMED" | processing => "PROCESSING"
  | succeeded => "SUCCEEDED" | failed => "FAILED" | retryWait => "RETRY_WAIT"
  | blocked => "BLOCKED" | needsReview => "NEEDS_REVIEW" | cancelled => "CANCELLED"

/-- `ACTIVE_QUEUE_STATES`. -/
def active : QueueState → Bool
  | succeeded | failed | cancelled => false
  | _ => true

/-- A worker holds the item: CLAIMED or PROCESSING. -/
def held : QueueState → Bool
  | claimed | processing => true
  | _ => false

/-- The states `claim` takes an item from once its time has come. -/
def waiting : QueueState → Bool
  | pending | retryWait => true
  | _ => false

/-- `_PARKED` of the execution service. -/
def parked : QueueState → Bool
  | blocked | needsReview | failed | cancelled => true
  | _ => false

end QueueState

inductive ExecutorKind
  | mock | manual | playwrightLocal | browserExtension
  deriving DecidableEq, Repr

def ExecutorKind.value : ExecutorKind → String
  | mock => "MOCK" | manual => "MANUAL" | playwrightLocal => "PLAYWRIGHT_LOCAL"
  | browserExtension => "BROWSER_EXTENSION"

/-- What one executor invocation reports. -/
inductive ExecutionOutcome
  | submitted | retryableFailure | permanentFailure | handoff | needsUserInput | needsReview
  | formChanged | unknown | dryRun
  deriving DecidableEq, Repr

/-- Stored status of one execution run. -/
inductive ExecutionStatus
  | running | dryRun | submitted | verified | verificationFailed | failedRetryable
  | failedPermanent | handoff | needsUserInput | needsReview | preconditionFailed | stale
  | unknown | cancelled
  deriving DecidableEq, Repr

def ExecutionStatus.value : ExecutionStatus → String
  | running => "RUNNING" | dryRun => "DRY_RUN" | submitted => "SUBMITTED"
  | verified => "VERIFIED" | verificationFailed => "VERIFICATION_FAILED"
  | failedRetryable => "FAILED_RETRYABLE" | failedPermanent => "FAILED_PERMANENT"
  | handoff => "HANDOFF" | needsUserInput => "NEEDS_USER_INPUT" | needsReview => "NEEDS_REVIEW"
  | preconditionFailed => "PRECONDITION_FAILED" | stale => "STALE" | unknown => "UNKNOWN"
  | cancelled => "CANCELLED"

inductive HandoffReason
  | captchaRequired | authRequired | mfaRequired | ambiguousForm | unknownRequiredField
  | userConfirmationRequired | artifactFileRequired | unsupportedForm
  deriving DecidableEq, Repr

def HandoffReason.value : HandoffReason → String
  | captchaRequired => "CAPTCHA_REQUIRED" | authRequired => "AUTH_REQUIRED"
  | mfaRequired => "MFA_REQUIRED" | ambiguousForm => "AMBIGUOUS_FORM"
  | unknownRequiredField => "UNKNOWN_REQUIRED_FIELD"
  | userConfirmationRequired => "USER_CONFIRMATION_REQUIRED"
  | artifactFileRequired => "ARTIFACT_FILE_REQUIRED" | unsupportedForm => "UNSUPPORTED_FORM"

inductive ErrorClass
  | transientNetwork | timeout | targetGone | formChanged | executorCrash | browserCrash
  | navigation | validation | policy | unknown
  deriving DecidableEq, Repr

inductive VerificationStatus
  | notAttempted | pending | verified | likely | failed | unknown
  deriving DecidableEq, Repr

inductive VerificationMethod
  | confirmationPage | confirmationText | applicationId | redirectUrl | applicationHistory
  | userConfirmation | executorReport | confirmationEmail | none
  deriving DecidableEq, Repr

inductive PreconditionCode
  | attemptNotReady | preparationMissing | tenantMismatch | opportunityMismatch
  | preparationNotReady | preparationInvalidated | preparationNotCurrent | preparationStale
  | validationFailed | userInputRequired | opportunityClosed | companyBlocked | cooldownActive
  | alreadySubmitted | duplicateApplication | duplicateOpportunity | dailyCapReached
  | weeklyCapReached | slotReleased | paused
  deriving DecidableEq, Repr

def PreconditionCode.value : PreconditionCode → String
  | attemptNotReady => "ATTEMPT_NOT_READY" | preparationMissing => "PREPARATION_MISSING"
  | tenantMismatch => "TENANT_MISMATCH" | opportunityMismatch => "OPPORTUNITY_MISMATCH"
  | preparationNotReady => "PREPARATION_NOT_READY"
  | preparationInvalidated => "PREPARATION_INVALIDATED"
  | preparationNotCurrent => "PREPARATION_NOT_CURRENT" | preparationStale => "PREPARATION_STALE"
  | validationFailed => "VALIDATION_FAILED" | userInputRequired => "USER_INPUT_REQUIRED"
  | opportunityClosed => "OPPORTUNITY_CLOSED" | companyBlocked => "COMPANY_BLOCKED"
  | cooldownActive => "COOLDOWN_ACTIVE" | alreadySubmitted => "ALREADY_SUBMITTED"
  | duplicateApplication => "DUPLICATE_APPLICATION" | duplicateOpportunity => "DUPLICATE_OPPORTUNITY"
  | dailyCapReached => "DAILY_CAP_REACHED" | weeklyCapReached => "WEEKLY_CAP_REACHED"
  | slotReleased => "SLOT_RELEASED" | paused => "PAUSED"

inductive PreparationStatus
  | pending | ready | needsReview | needsUserInput | failed | superseded | invalidated
  deriving DecidableEq, Repr

def PreparationStatus.value : PreparationStatus → String
  | pending => "PENDING" | ready => "READY" | needsReview => "NEEDS_REVIEW"
  | needsUserInput => "NEEDS_USER_INPUT" | failed => "FAILED" | superseded => "SUPERSEDED"
  | invalidated => "INVALIDATED"

inductive ValidationStatus
  | pending | passed | failed
  deriving DecidableEq, Repr

def ValidationStatus.value : ValidationStatus → String
  | pending => "PENDING" | passed => "PASSED" | failed => "FAILED"

end RangeApply
