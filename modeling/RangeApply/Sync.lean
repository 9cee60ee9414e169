import RangeApply.Openings
import RangeApply.Policy

/-! The matches of a run, written onto one tenant's candidate opportunities: decision, fit, priority
and admission, each recorded when it differs from what is stored. -/
namespace RangeApply.Sync
open Postings

abbrev MatchId := Nat

inductive EligibilityStatus
  | eligible | likelyEligible | uncertain | ineligible
  deriving DecidableEq

structure JobMatch where
  id : MatchId
  job : JobId
  fitScore : Int
  eligibilityStatus : EligibilityStatus
  eligibilityConfidence : Option String
  eligibilityReasons : List String
  blockingReasons : List String
  uncertainties : List String
  deriving DecidableEq

/-! ### The rows of a candidate opportunity -/

structure Decision where
  job : JobId
  jobContentHash : String
  decision : EligibilityDecision
  confidence : String
  reasonCodes : List String
  matched : List String
  failed : List String
  uncertain : List String
  rulesetVersion : String
  deriving DecidableEq

structure Components where
  fit : Rat
  freshness : Rat
  deadline : Rat
  sourceReliability : Rat
  executionEase : Rat
  learnedPrior : Rat
  deriving DecidableEq

structure Learned where
  score : Rat
  snapshotId : Option String
  explanation : String
  deriving DecidableEq

structure PriorityResult where
  score : Int
  components : Components
  weights : Components
  deriving DecidableEq

/-- A row of `priority_scores`; its components say whether a learned signal was in play. -/
structure PriorityRow where
  result : PriorityResult
  learned : Option Learned
  deriving DecidableEq

/-- `co_snapshot`. -/
structure Snapshot where
  state : OpportunityState
  eligibilityStatus : Option EligibilityDecision
  fitScore : Option Int
  fitBand : Option FitBand
  priorityScore : Option Int
  applicationId : Option String
  policyAdmitted : Option Bool
  policyReason : Option String
  skippedReason : Option String
  fitPolicyVersion : Option Nat
  admissionPolicyVersion : Option Nat
  gateRulesetVersion : Option String
  deriving DecidableEq

structure AuditEvent where
  action : String
  before : Option Snapshot
  after : Snapshot
  gates : Option GateReport
  summary : Option String
  deriving DecidableEq

/-- A row of `candidate_opportunities`. A decision or a priority row is known by its place. -/
structure CandidateRow where
  shown : Snapshot
  stateChangedAt : Time
  matchId : Option MatchId
  decisionId : Option Nat
  priorityScoreId : Option Nat
  lastEvaluatedAt : Option Time
  deriving DecidableEq

/-- A candidate opportunity with the rows that hang on it, oldest first. -/
structure Candidate where
  row : CandidateRow
  decisions : List Decision
  priorities : List PriorityRow
  audit : List AuditEvent
  deriving DecidableEq

structure World where
  market : Market
  candidates : OpeningKey → Option Candidate

structure PriorityInputs where
  fitScore : Int
  postedAt : Option Time
  firstSeenAt : Time
  deadline : Option Time
  source : String
  learnedPrior : Option Rat
  now : Time

structure LearnedInputs where
  source : String
  company : String
  title : String
  fitBand : FitBand

/-- What one sync is given: the tenant's policy and preferences, and the instant. -/
structure Context where
  env : Env
  policy : ApplicationPolicy
  highThreshold : Int
  mediumThreshold : Int
  /-- The priority weights sum to a positive number. -/
  weighted : Bool
  computePriority : PriorityInputs → PriorityResult
  learned : LearnedInputs → Option Learned
  geography : JobRow → Option GeoAssessment
  role : JobRow → Option RoleAssessment
  identity : JobRow → OpeningKey
  /-- The id of a posting's row, as text. -/
  rowId : JobId → String
  now : Time

/-! ### Recording -/

section Record
variable (ctx : Context)

def Candidate.record (c : Candidate) (action : String) (before : Option Snapshot)
    (gates : Option GateReport) (summary : Option String) : Candidate :=
  { c with audit := c.audit ++ [⟨action, before, c.row.shown, gates, clipped 512 summary⟩] }

/-- `_STATE_FOR_DECISION`. -/
def stateFor : EligibilityDecision → OpportunityState
  | .eligible | .likely => .eligible
  | .uncertain | .review => .uncertain
  | .ineligible => .ineligible

/-- `EVALUATION_STATES`. -/
def evaluationState : OpportunityState → Bool
  | .discovered | .eligible | .uncertain | .ineligible => true
  | _ => false

def Candidate.recordEligibility (c : Candidate) (d : Decision) : Candidate :=
  let before := c.row.shown
  let target := stateFor d.decision
  let stateChanged := evaluationState before.state && decide (before.state ≠ target)
  let c := { c with
    decisions := c.decisions ++ [d]
    row := { c.row with
      decisionId := some c.decisions.length
      lastEvaluatedAt := some ctx.now
      stateChangedAt := if stateChanged then ctx.now else c.row.stateChangedAt
      shown := { before with
        eligibilityStatus := some d.decision
        state := if stateChanged then target else before.state } } }
  if stateChanged ∨ before.eligibilityStatus ≠ some d.decision then
    c.record s!"eligibility:{d.decision.value}" (some before) none
      (some (", ".intercalate d.reasonCodes))
  else c

def Candidate.recordFit (c : Candidate) (m : JobMatch) (band : FitBand) : Candidate :=
  let before := c.row.shown
  let c := { c with
    row := { c.row with
      matchId := some m.id
      lastEvaluatedAt := some ctx.now
      shown := { before with
        fitScore := some m.fitScore
        fitBand := some band
        fitPolicyVersion := some ctx.policy.version } } }
  if before.fitScore ≠ c.row.shown.fitScore ∨ before.fitBand ≠ c.row.shown.fitBand ∨
      before.fitPolicyVersion ≠ c.row.shown.fitPolicyVersion then
    c.record "fit" (some before) none none
  else c

def Candidate.recordPriority (c : Candidate) (p : PriorityRow) : Candidate :=
  let before := c.row.shown
  let c := { c with
    priorities := c.priorities ++ [p]
    row := { c.row with
      priorityScoreId := some c.priorities.length
      shown := { before with priorityScore := some p.result.score } } }
  if before.priorityScore ≠ some p.result.score then c.record "priority" (some before) none none
  else c

def Candidate.recordAdmission (c : Candidate) (a : Admission) : Candidate :=
  let before := c.row.shown
  let c := { c with
    row := { c.row with
      shown := { before with
        policyAdmitted := some a.admitted
        policyReason := some (clip 256 a.reason)
        admissionPolicyVersion := some ctx.policy.version
        gateRulesetVersion := some a.gates.rulesetVersion } } }
  if before.policyAdmitted ≠ some a.admitted ∨ before.policyReason ≠ c.row.shown.policyReason ∨
      before.admissionPolicyVersion ≠ c.row.shown.admissionPolicyVersion ∨
      before.gateRulesetVersion ≠ c.row.shown.gateRulesetVersion then
    c.record "admission" (some before) (some a.gates) (some a.reason)
  else c

/-- A new row of the tenant. -/
def Candidate.created : Candidate :=
  let row : CandidateRow :=
    { shown := ⟨.discovered, none, none, none, none, none, none, none, none, none, none, none⟩
      stateChangedAt := ctx.now
      matchId := none
      decisionId := none
      priorityScoreId := none
      lastEvaluatedAt := none }
  Candidate.record ⟨row, [], [], []⟩ "created" none none none

end Record

/-! ### One match -/

section Match
variable (ctx : Context) (m : JobMatch) (job : JobRow) (o : OpeningRow)

/-- `_DECISION_FOR_STATUS`. -/
def decisionFor : EligibilityStatus → EligibilityDecision
  | .eligible => .eligible
  | .likelyEligible => .likely
  | .uncertain => .uncertain
  | .ineligible => .ineligible

/-- `_code`. -/
def reasonCode (reason : String) : String :=
  let words := ((beforeColon reason).toList.splitOnP Char.isWhitespace).filter (· ≠ [])
  let head := "-".intercalate (words.map fun w => String.ofList (w.map Char.toLower))
  let code := clip 48 head
  if code = "" then "unspecified" else code

def reasonCodes : List String :=
  (m.blockingReasons.map (fun r => "blocked:" ++ reasonCode r) ++
    m.uncertainties.map (fun r => "uncertain:" ++ reasonCode r) ++
    m.eligibilityReasons.map (fun r => "ok:" ++ reasonCode r)).take 32

/-- `TIER1_RULESET_VERSION`. -/
def tier1RulesetVersion : String := "tier1-from-match-v1"

/-- The decision that the match stands for. -/
def JobMatch.decision : Decision where
  job := m.job
  jobContentHash := job.contentHash
  decision := decisionFor m.eligibilityStatus
  confidence := m.eligibilityConfidence.getD "UNKNOWN"
  reasonCodes := reasonCodes m
  matched := m.eligibilityReasons
  failed := m.blockingReasons
  uncertain := m.uncertainties
  rulesetVersion := tier1RulesetVersion

def bandFor (fitScore : Int) : FitBand :=
  if ctx.highThreshold < fitScore then .high
  else if ctx.mediumThreshold ≤ fitScore then .medium
  else .low

def JobMatch.learned : Option Learned :=
  ctx.learned ⟨m.job.source, o.company, o.title, bandFor ctx m.fitScore⟩

def JobMatch.priority : PriorityRow where
  result := ctx.computePriority
    { fitScore := m.fitScore
      postedAt := job.postedAt
      firstSeenAt := job.firstSeenAt
      deadline := job.deadline <|> o.deadline
      source := m.job.source
      learnedPrior := (m.learned ctx o).map Learned.score
      now := ctx.now }
  learned := m.learned ctx o

def syncEligibility (c : Candidate) : Candidate :=
  let d := m.decision job
  match c.decisions.getLast? with
  | none => c.recordEligibility ctx d
  | some latest =>
    if latest.jobContentHash ≠ d.jobContentHash ∨ latest.decision ≠ d.decision then
      c.recordEligibility ctx d
    else if c.row.decisionId ≠ some (c.decisions.length - 1) then
      { c with
        row := { c.row with
          decisionId := some (c.decisions.length - 1)
          shown := { c.row.shown with eligibilityStatus := some latest.decision } } }
    else c

/-- The learned component appeared, moved or disappeared. -/
def learnedChanged (c : Candidate) (p : PriorityRow) : Bool :=
  let previous := if c.row.priorityScoreId.isSome then c.priorities.getLast? else none
  match p.learned with
  | some _ => previous.all fun q =>
      decide (q.result.components.learnedPrior ≠ p.result.components.learnedPrior)
  | none => previous.any fun q => q.learned.isSome

def syncPriority (c : Candidate) : Candidate :=
  let p := m.priority ctx job o
  if c.row.shown.priorityScore ≠ some p.result.score ∨ c.row.priorityScoreId = none ∨
      learnedChanged c p then
    c.recordPriority p
  else c

def admission (c : Candidate) : Admission :=
  evaluateAdmission ctx.env ctx.policy
    { decision := some (decisionFor m.eligibilityStatus)
      band := some (bandFor ctx m.fitScore)
      company := o.company
      fitScore := some m.fitScore
      opportunityStatus := o.status
      candidateState := c.row.shown.state
      geography := ctx.geography job
      role := ctx.role job }

def syncAdmission (c : Candidate) : Candidate := c.recordAdmission ctx (admission ctx m job o c)

/-- Everything a match writes onto a candidate opportunity. -/
def evaluate (c : Candidate) : Candidate :=
  let c := syncEligibility ctx m job c
  let c := c.recordFit ctx m (bandFor ctx m.fitScore)
  let c := syncPriority ctx m job o c
  syncAdmission ctx m job o c

end Match

/-! ### The matches of a run -/

section Run
variable (ctx : Context)

structure SyncResult where
  opportunityCreated : Bool
  candidateCreated : Bool
  admitted : Bool

def syncMatch (w : World) (m : JobMatch) : Except String (World × SyncResult) :=
  match w.market.jobs.get m.job with
  | none => .error s!"ValueError: Job {ctx.rowId m.job} for match {m.id} no longer exists"
  | some job =>
    let (market, k, how) := resolveOpportunity ctx.identity ctx.now w.market m.job job none false
    match market.openings k with
    | none => .error "AttributeError"
    | some o =>
      if !ctx.weighted then
        .error "ValueError: Priority weights must sum to a positive number"
      else
        let c := evaluate ctx m job o ((w.candidates k).getD (Candidate.created ctx))
        .ok (⟨market, Function.update w.candidates k (some c)⟩,
          ⟨decide (how = .new), (w.candidates k).isNone, c.row.shown.policyAdmitted == some true⟩)

structure SyncReport where
  synced : Nat
  opportunitiesCreated : Nat
  candidateCreated : Nat
  admitted : Nat
  notAdmitted : Nat
  errors : List String

/-- One match in its savepoint: when it raises, nothing of it stays. -/
def syncNext (s : World × SyncReport) (m : JobMatch) : World × SyncReport :=
  match syncMatch ctx s.1 m with
  | .ok (w, r) =>
    (w, { s.2 with
      synced := s.2.synced + 1
      opportunitiesCreated := s.2.opportunitiesCreated + r.opportunityCreated.toNat
      candidateCreated := s.2.candidateCreated + r.candidateCreated.toNat
      admitted := s.2.admitted + r.admitted.toNat
      notAdmitted := s.2.notAdmitted + (!r.admitted).toNat })
  | .error e => (s.1, { s.2 with errors := s.2.errors ++ [s!"match {m.id}: {e}"] })

def syncRun (w : World) (matches_ : List JobMatch) : World × SyncReport :=
  matches_.foldl (syncNext ctx) (w, ⟨0, 0, 0, 0, 0, []⟩)

end Run

end RangeApply.Sync
