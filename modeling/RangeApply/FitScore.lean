import Mathlib.Data.Rat.Floor
import RangeApply.Mean
import RangeApply.Sync

/-! Deterministic fit scoring: the assessments of a job's requirements, its eligibility and the
preferences, combined under a policy of weights. The arithmetic is exact. -/
namespace RangeApply.Fit
open Sync (EligibilityStatus)

inductive RequirementCategory
  | eligibility | education | technicalSkill | domainKnowledge | experience | certification
  | workAuthorization | location | responsibility | behavioral | preference | unknown
  deriving DecidableEq

inductive Strictness
  | hard | required | preferred | niceToHave | signal | unknown
  deriving DecidableEq

inductive MatchStatus
  | matched | partial_ | missing | unknown | notApplicable
  deriving DecidableEq

inductive ConfidenceLevel
  | high | medium | low | unknown
  deriving DecidableEq

inductive MatchType
  | core | stretch | poor | unknown
  deriving DecidableEq

inductive Relevance
  | relevant | adjacent | unknown | weak | unrelated | notAssessed
  deriving DecidableEq

structure Requirement where
  id : String
  category : RequirementCategory
  normalizedName : String
  strictness : Strictness
  confidence : ConfidenceLevel

structure RequirementAssessment where
  requirement : Requirement
  status : MatchStatus
  confidence : ConfidenceLevel
  explanation : String

structure EligibilityEvaluation where
  status : EligibilityStatus
  confidence : ConfidenceLevel
  uncertainties : List String

structure RoleAssessment where
  relevance : Relevance
  detail : String

/-- The score is a weighted average of signals between 0 and 1. -/
structure PreferenceAssessment where
  score : ℚ
  excluded : Bool
  exclusionReason : Option String
  role : Option RoleAssessment
  score_nonneg : 0 ≤ score
  score_le_one : score ≤ 1

structure JobContext where
  descriptionLength : Int
  technicalRequirementCount : Int

structure ScoreResult where
  fitScore : Int
  componentScores : List (String × ℚ)
  matchType : MatchType
  priority : String
  confidence : ConfidenceLevel
  strengths : List String
  gaps : List String
  uncertainties : List String
  requirementWeights : List (String × ℚ × ℚ)

/-! ### The tables -/

def unrelatedRoleFitCap : Int := 30

def weakRoleFitCap : Int := 55

def technicalEvidencePrior : ℚ := 3

def lowCoverageFitCap : Int := 60

def minMeaningfulDescription : Int := 60

def strictnessWeight : Strictness → ℚ
  | .hard => 3
  | .required => 3
  | .preferred => 1
  | .niceToHave => 1 / 2
  | .signal => 2 / 5
  | .unknown => 1 / 5

def statusCredit : MatchStatus → ℚ
  | .matched => 1
  | .partial_ => 1 / 2
  | .missing => 0
  | .unknown => 0
  | .notApplicable => 0

def eligibilityCredit : EligibilityStatus → ℚ
  | .eligible => 1
  | .likelyEligible => 4 / 5
  | .uncertain => 2 / 5
  | .ineligible => 0

def componentByCategory : RequirementCategory → Option String
  | .technicalSkill => some "technical"
  | .domainKnowledge => some "technical"
  | .certification => some "education"
  | .education => some "education"
  | .experience => some "experience"
  | _ => none

def confidenceFactor : ConfidenceLevel → ℚ
  | .high => 1
  | .medium => 3 / 4
  | .low => 1 / 2
  | .unknown => 1 / 2

/-! ### The policy -/

/-- A policy of weights as the laws take it: not negative, and with a positive sum. -/
structure PolicyWeights where
  weights : List (String × ℚ)
  named : (weights.map Prod.fst).Nodup
  nonneg : ∀ e ∈ weights, 0 ≤ e.2
  positive : 0 < (weights.map Prod.snd).sum

def defaultPolicyWeights : PolicyWeights where
  weights := [("technical", 2 / 5), ("experience", 3 / 20), ("education", 1 / 10),
    ("preferences", 1 / 5), ("eligibility", 3 / 20)]
  named := by decide
  nonneg := by decide +kernel
  positive := by decide +kernel

/-- `FitScoringEngine.__init__`: the weights the engine works with. -/
def engineWeights (policyWeights : Option (List (String × ℚ))) : Option (List (String × ℚ)) :=
  let weights := match policyWeights with
    | none | some [] => defaultPolicyWeights.weights
    | some weights => weights
  let total := (weights.map Prod.snd).sum
  if total ≤ 0 then none else some (weights.map fun e => (e.1, e.2 / total))

/-- The weights after normalisation. -/
def PolicyWeights.normalized (p : PolicyWeights) : List (String × ℚ) :=
  p.weights.map fun e => (e.1, e.2 / (p.weights.map Prod.snd).sum)

theorem engineWeights_eq (p : PolicyWeights) : engineWeights (some p.weights) = some p.normalized := by
  have positive := p.positive
  unfold engineWeights PolicyWeights.normalized
  cases weights : p.weights with
  | nil =>
    rw [weights] at positive
    simp at positive
  | cons e rest =>
    rw [weights] at positive
    exact if_neg (not_le.mpr positive)

/-! ### One assessment -/

namespace RequirementAssessment
variable (a : RequirementAssessment)

def weight : ℚ := strictnessWeight a.requirement.strictness * confidenceFactor a.requirement.confidence

def contribution : ℚ := a.weight * statusCredit a.status

/-- The component that scores it, when the policy has that. -/
def component (weights : List (String × ℚ)) : Option String :=
  (componentByCategory a.requirement.category).filter fun c => weights.any fun e => e.1 = c

def strength : Option String :=
  match a.status with
  | .matched => some a.requirement.normalizedName
  | .partial_ => some (a.requirement.normalizedName ++ " (partial)")
  | _ => none

def gap : Option String :=
  if a.status = .missing ∧ a.requirement.strictness ∈ [.hard, .required, .preferred] then
    some a.requirement.normalizedName
  else none

def uncertainty : Option String :=
  if a.status = .unknown then some s!"{a.requirement.normalizedName}: {a.explanation}" else none

end RequirementAssessment

/-- `round(value, places)` -/
def roundTo (places : Nat) (value : ℚ) : ℚ := (halfEven (value * 10 ^ places) : ℚ) / 10 ^ places

/-- `d[key] = value` -/
def assign {ν : Type} (d : List (String × ν)) (key : String) (value : ν) : List (String × ν) :=
  if d.any fun e => e.1 = key then d.map fun e => if e.1 = key then (key, value) else e
  else d ++ [(key, value)]

/-! ### The score -/

section Score
variable (weights : List (String × ℚ)) (assessments : List RequirementAssessment)
  (eligibility : EligibilityEvaluation) (preferences : Option PreferenceAssessment)
  (context : JobContext)

/-- The assessments that are counted for a component. What is unknown counts neither way. -/
def counted (component : String) : List RequirementAssessment :=
  assessments.filter fun a => a.component weights = some component && a.status ≠ .unknown

def possible (component : String) : ℚ :=
  ((counted weights assessments component).map RequirementAssessment.weight).sum

def earned (component : String) : ℚ :=
  ((counted weights assessments component).map RequirementAssessment.contribution).sum

/-- The score of a component; nothing when the description says nothing about it. -/
def componentScore (component : String) : Option ℚ :=
  let possible := possible weights assessments component
  let earned := earned weights assessments component
  if component = "eligibility" then some (eligibilityCredit eligibility.status)
  else if component = "preferences" then
    some (match preferences with
      | some p => p.score
      | none => 1 / 2)
  else if 0 < possible ∧ component = "technical" then
    some ((earned + 1 / 2 * technicalEvidencePrior) / (possible + technicalEvidencePrior))
  else if 0 < possible then some (earned / possible)
  else none

/-- The weighted average of the components that apply. -/
def raw : ℚ := Mean.mean weights (componentScore weights assessments eligibility preferences)

/-- Much was said, but no technical requirement was read. -/
def lowCoverage : Bool :=
  ((weights.lookup "technical").bind fun _ =>
    componentScore weights assessments eligibility preferences "technical").isNone &&
  context.technicalRequirementCount = 0 && minMeaningfulDescription ≤ context.descriptionLength

/-- The ceilings with their notes, the lowest first. -/
def caps : List (Int × String) :=
  (match preferences.bind PreferenceAssessment.role with
    | none => []
    | some role =>
      if role.relevance = .unrelated then
        [(unrelatedRoleFitCap, role.detail ++ ", so fit is capped at 30.")]
      else if role.relevance = .weak then
        [(weakRoleFitCap, role.detail ++ ", so fit is capped at 55.")]
      else []) ++
  if lowCoverage weights assessments eligibility preferences context then
    [(lowCoverageFitCap, "No technical requirement was read, so fit is capped at 60.")]
  else []

/-- The rounded average. An ineligible job stays at 20 or below. -/
def gatedScore : Int :=
  let fitScore := halfEven (raw weights assessments eligibility preferences * 100)
  if eligibility.status = .ineligible then min fitScore 20 else fitScore

/-- The score under its ceilings, and the notes of those that it exceeded. -/
def capped : Int × List String :=
  (caps weights assessments eligibility preferences context).foldl
    (fun fit cap => if cap.1 < fit.1 then (cap.1, fit.2 ++ [cap.2.capitalize]) else fit)
    (gatedScore weights assessments eligibility preferences, [])

def matchType (fitScore : Int) (eligibility : EligibilityStatus) : MatchType :=
  if eligibility = .ineligible then .poor
  else if 75 ≤ fitScore then .core
  else if 55 ≤ fitScore then .stretch
  else if 0 < fitScore then .poor
  else .unknown

def priority (fitScore : Int) (eligibility : EligibilityStatus) : String :=
  if eligibility = .ineligible then "IGNORE"
  else if eligibility = .uncertain ∧ 55 ≤ fitScore then "REVIEW"
  else if 85 ≤ fitScore then "P0"
  else if 70 ≤ fitScore then "P1"
  else if 55 ≤ fitScore then "P2"
  else "IGNORE"

def scoreConfidence (uncertainties : List String) : ConfidenceLevel :=
  let low := assessments.countP fun a => a.confidence = .low
  if assessments = [] then .low
  else if eligibility.confidence = .low ∨ 3 ≤ uncertainties.length then .low
  else if assessments.length < 2 * low then .low
  else if eligibility.confidence = .medium ∨ uncertainties ≠ [] then .medium
  else .high

def score : ScoreResult :=
  let scored := assessments.filter fun a => (a.component weights).isSome
  let scores := weights.filterMap fun e =>
    (componentScore weights assessments eligibility preferences e.1).map fun v => (e.1, v)
  let technical := possible weights assessments "technical"
  let coverage := lowCoverage weights assessments eligibility preferences context
  let fit := capped weights assessments eligibility preferences context
  let uncertainties :=
    scored.filterMap RequirementAssessment.uncertainty ++
    (if (weights.any fun e => e.1 = "technical") ∧ 0 < technical ∧
        technical < 3 * technicalEvidencePrior then
      ["Few technical requirements were read, so the technical score is weighted toward neutral."]
    else []) ++
    eligibility.uncertainties ++
    (if coverage then
      ["No recognizable technical requirements were extracted from this job description, so the " ++
        "score reflects only preferences and eligibility."]
    else []) ++
    fit.2
  let priority := priority fit.1 eligibility.status
  { fitScore := fit.1
    componentScores := scores.map fun e => (e.1, roundTo 4 e.2)
    matchType := matchType fit.1 eligibility.status
    priority := if coverage ∧ priority ∈ ["P0", "P1", "P2"] then "REVIEW" else priority
    confidence := if coverage then .low else scoreConfidence assessments eligibility uncertainties
    strengths := scored.filterMap RequirementAssessment.strength
    gaps := scored.filterMap RequirementAssessment.gap ++
      (preferences.bind fun p =>
        if p.excluded then p.exclusionReason.filter (· ≠ "") else none).toList
    uncertainties := uncertainties
    requirementWeights := scored.foldl (fun d a => assign d a.requirement.id
      (roundTo 3 a.weight, if a.status = .unknown then 0 else roundTo 3 a.contribution)) [] }

end Score

end RangeApply.Fit
