import RangeApply.Status
import RangeApply.Table

/-! The rows one tenant's pipeline works on. What the unique constraints say is built in:
one attempt, one candidate row and one queue item of each action to an opening, so the rows
are kept by opening. A run's id is its position among the runs of its attempt (runs are
added, never deleted). Columns that no modelled operation reads are left out. -/
namespace RangeApply

/-- An instant, in microseconds. -/
abbrev Time := Int
abbrev OpportunityId := Nat
abbrev PreparationId := Nat
abbrev RunId := Nat
abbrev WorkerId := String

def seconds (n : Int) : Time := n * 1000000
def minutes (n : Int) : Time := seconds (n * 60)
def days (n : Int) : Time := seconds (n * 86400)

/-- `text[:n]`. -/
def clip (n : Nat) (text : String) : String := String.ofList (text.toList.take n)

/-- `text[:n] or None`. -/
def clipped (n : Nat) (text : Option String) : Option String :=
  match text with
  | none => none
  | some t => if t = "" then none else some (clip n t)

/-- `needle in text`. -/
def occurs (needle text : String) : Bool :=
  text.toList.tails.any fun rest => needle.toList.isPrefixOf rest

def startsWith (lead text : String) : Bool := lead.toList.isPrefixOf text.toList

/-- `value or default` for a text that may be missing. -/
def textOr (text : Option String) (default : String) : String :=
  match text with
  | none => default
  | some t => if t = "" then default else t

/-- A text that is there and not empty. -/
def given (text : Option String) : Option String :=
  match text with
  | none => none
  | some t => if t = "" then none else some t

/-- The domain errors a service call raises; the caller's transaction is rolled back. -/
inductive Error
  | conflict (message : String)
  | notFound (message : String)
  | validationFailed (message : String)
  deriving DecidableEq, Repr

abbrev Res (α : Type) := Except Error α

/-- A day or an ISO week of the tenant's zone. -/
structure Period where
  key : String
  startsAt : Time
  endsAt : Time
  deriving DecidableEq

structure PeriodKeys where
  day : Period
  week : Period
  deriving DecidableEq

/-- What the code takes from the platform and the settings: the ASCII folding of a name
(Unicode decomposition, non-ASCII dropped), the title normalisation of opportunity identity,
the printing of an instant, the tenant-local periods of an instant, and two settings. -/
structure Env where
  asciiFold : String → String
  normalizeTitle : String → String
  isoformat : Time → String
  periodKeys : Time → String → PeriodKeys
  leaseSeconds : Int
  maxAttempts : Nat

/-- An environment to run the model in: ASCII names, periods of one and seven days from the
epoch, the settings' defaults. -/
def Env.utc : Env where
  asciiFold := id
  normalizeTitle := id
  isoformat := toString
  periodKeys := fun t _ =>
    ⟨⟨toString (t / days 1), days (t / days 1), days (t / days 1 + 1)⟩,
      ⟨toString (t / days 7), days 7 * (t / days 7), days 7 * (t / days 7 + 1)⟩⟩
  leaseSeconds := 900
  maxAttempts := 3

structure Opportunity where
  id : OpportunityId
  company : String
  title : String
  status : OpportunityStatus
  firstSeenAt : Option Time
  deadline : Option Time
  repostedAt : Option Time
  deriving DecidableEq

/-- The canonical posting against the candidate's location preference. -/
structure GeoAssessment where
  inPolicy : Bool
  tier : String
  detail : String
  deriving DecidableEq

/-- The canonical posting against the candidate's target role families. -/
structure RoleAssessment where
  inPolicy : Bool
  label : String
  detail : String
  relevanceRank : Nat
  deriving DecidableEq

structure CandidateOpportunity where
  state : OpportunityState
  stateChangedAt : Time
  eligibilityStatus : Option EligibilityDecision
  fitScore : Option Int
  fitBand : Option FitBand
  priorityScore : Option Int
  policyAdmitted : Option Bool
  policyReason : Option String
  admissionPolicyVersion : Option Nat
  gateRulesetVersion : Option String
  skippedReason : Option String
  schedulerCode : Option AdmissionReason
  schedulerReason : Option String
  schedulerDecidedAt : Option Time
  linked : Bool
  deriving DecidableEq

/-- A row that passes every gate of the initial policy, for evaluating the model. -/
def CandidateOpportunity.strong (state : OpportunityState) : CandidateOpportunity where
  state := state
  stateChangedAt := 0
  eligibilityStatus := some .eligible
  fitScore := some 80
  fitBand := some .high
  priorityScore := some 10
  policyAdmitted := none
  policyReason := none
  admissionPolicyVersion := none
  gateRulesetVersion := none
  skippedReason := none
  schedulerCode := none
  schedulerReason := none
  schedulerDecidedAt := none
  linked := false

/-- `tenant:application:attempt_number:run_number` of the executor that holds the attempt;
the tenant and the application are those of the row it stands in. -/
structure SubmissionKey where
  attemptNumber : Nat
  runNumber : Nat
  deriving DecidableEq

/-- One application attempt: the `applications` row of the opening. -/
structure Application where
  attemptNumber : Nat
  status : ApplicationStatus
  statusReason : Option String
  blockedReason : Option String
  submissionKey : Option SubmissionKey
  executionCount : Nat
  lastExecutionId : Option RunId
  preparationId : Option PreparationId
  lane : Option Lane
  tailoringLevel : Option TailoringLevel
  capDay : Option String
  capWeek : Option String
  reservedAt : Option Time
  releasedAt : Option Time
  submittedAt : Option Time
  verifiedAt : Option Time
  updatedAt : Time
  externalApplicationId : Option String
  resultUrl : Option String
  confirmation : Option String
  deriving DecidableEq

structure QueueItem where
  action : QueueAction
  state : QueueState
  lane : Lane
  priority : Int
  availableAt : Time
  attempts : Nat
  maxAttempts : Nat
  claimedBy : Option WorkerId
  claimedAt : Option Time
  leaseExpiresAt : Option Time
  lastError : Option String
  completedAt : Option Time
  createdAt : Time
  updatedAt : Time
  deriving DecidableEq

inductive PreparedAnswerStatus
  | answered | needsUserInput | needsReview
  deriving DecidableEq, Repr

structure PreparedAnswer where
  question : String
  required : Bool
  status : PreparedAnswerStatus
  deriving DecidableEq

structure Preparation where
  id : PreparationId
  version : Nat
  opportunityId : OpportunityId
  status : PreparationStatus
  validationStatus : ValidationStatus
  answers : List PreparedAnswer
  deriving DecidableEq

/-- One executor invocation; `executorKind` is missing on a run that only records failed
preconditions (kind "NONE" in the store). -/
structure ExecutionRun where
  executorKind : Option ExecutorKind
  workerId : WorkerId
  runNumber : Nat
  status : ExecutionStatus
  outcome : Option ExecutionOutcome
  submitInvoked : Bool
  startedAt : Time
  finishedAt : Option Time
  applicationUrl : Option String
  externalApplicationId : Option String
  confirmationReference : Option String
  verificationStatus : VerificationStatus
  verificationMethod : Option VerificationMethod
  verificationDetail : Option String
  errorClass : Option ErrorClass
  errorMessage : Option String
  handoffReason : Option HandoffReason
  deriving DecidableEq

/-- Everything the tenant's store holds about one opening. `source` is the job source of the
posting, `legacy` a pre-tenancy row of the same job, `jobTaken` says that another tenant's
row already carries the job's id, which is unique in the table. -/
structure Opening where
  opportunity : Opportunity
  source : Option String
  geography : Option GeoAssessment
  role : Option RoleAssessment
  jobTaken : Bool
  candidate : Option CandidateOpportunity
  attempt : Option Application
  legacy : Option Application
  prepare : Option QueueItem
  submit : Option QueueItem
  preparations : List Preparation
  runs : List ExecutionRun
  deriving DecidableEq

def Opening.strong (i : OpportunityId) (company title : String) : Opening where
  opportunity := ⟨i, company, title, .open, none, none, none⟩
  source := none
  geography := none
  role := none
  jobTaken := false
  candidate := some (.strong .eligible)
  attempt := none
  legacy := none
  prepare := none
  submit := none
  preparations := []
  runs := []

structure ApplicationPolicy where
  enabledBands : List FitBand
  dailyCap : Int
  weeklyCap : Int
  tailoringByBand : List (FitBand × TailoringLevel)
  laneByBand : List (FitBand × Lane)
  cooldownDays : Int
  blockedCompanies : List String
  minimumEligibility : EligibilityDecision
  duplicatePolicy : DuplicatePolicy
  minimumFitScore : Option Int
  timezone : String
  version : Nat
  deriving DecidableEq

def ApplicationPolicy.initial : ApplicationPolicy where
  enabledBands := [.high, .medium, .low]
  dailyCap := 50
  weeklyCap := 300
  tailoringByBand := [(.high, .l2), (.medium, .l1), (.low, .l0)]
  laneByBand := [(.high, .review), (.medium, .review), (.low, .review)]
  cooldownDays := 90
  blockedCompanies := []
  minimumEligibility := .uncertain
  duplicatePolicy := .block
  minimumFitScore := none
  timezone := "UTC"
  version := 1

/-- `_context` looks a preparation up by its id. -/
def Opening.preparation (o : Opening) (id : Option PreparationId) : Option Preparation :=
  id.bind fun p => o.preparations.find? fun q => q.id = p

/-- `_latest_preparations`: the highest version. -/
def Opening.latestPreparation (o : Opening) : Option Preparation :=
  o.preparations.foldl (fun best p =>
    match best with
    | none => some p
    | some b => if b.version < p.version then some p else some b) none

/-- The kill switch: the global row or the row of the source is paused. -/
def isPaused (switches : List (String × Bool)) (source : Option String) : Bool :=
  switches.any fun row =>
    row.2 && (row.1 == "global" || (match source with
      | none => false
      | some s => s != "" && row.1 == s))

end RangeApply
