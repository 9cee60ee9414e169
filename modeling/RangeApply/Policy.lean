import RangeApply.Parted
import RangeApply.Rows

/-! The static policy: the company identity used by block list, cool-down and duplicates,
the Tier-1 gates in their fixed order, and the admission derived from them. -/
namespace RangeApply

/-- The maximal runs of letters and digits of a text, in lower case. -/
def words (text : List Char) : List (List Char) :=
  let ends := text.foldr (fun c (acc : List Char × List (List Char)) =>
    if c.isAlphanum then (c.toLower :: acc.1, acc.2)
    else if acc.1 = [] then acc
    else ([], acc.1 :: acc.2)) ([], [])
  if ends.1 = [] then ends.2 else ends.1 :: ends.2

/-- No piece of a split holds a character that ends one. -/
theorem not_of_mem_splitOnP {α : Type} {p : α → Bool} {text piece : List α}
    (member : piece ∈ text.splitOnP p) : ∀ c ∈ piece, p c = false := by
  induction text generalizing piece with
  | nil =>
    rw [List.splitOnP_nil, List.mem_singleton] at member
    simp [member]
  | cons c text ih =>
    obtain ⟨first, rest, parts⟩ :=
      List.exists_cons_of_ne_nil (List.splitOnP_ne_nil p text)
    have pieces : ∀ q ∈ first :: rest, ∀ d ∈ q, p d = false := fun q listed =>
      ih (parts ▸ listed)
    rw [List.splitOnP_cons_eq_if_modifyHead, parts] at member
    split at member
    · rcases List.mem_cons.mp member with rfl | later
      · simp
      · exact pieces piece later
    · rename_i kept
      rw [List.modifyHead_cons] at member
      rcases List.mem_cons.mp member with rfl | later
      · exact List.forall_mem_cons.mpr ⟨Bool.eq_false_iff.mpr kept, pieces first List.mem_cons_self⟩
      · exact pieces piece (List.mem_cons_of_mem _ later)

theorem words_eq (text : List Char) : words text =
    ((text.splitOnP fun c => !c.isAlphanum).map (List.map Char.toLower)).filter (· ≠ []) := by
  have ends : ∀ acc : List Char × List (List Char),
      acc = text.foldr (fun c (acc : List Char × List (List Char)) =>
        if c.isAlphanum then (c.toLower :: acc.1, acc.2)
        else if acc.1 = [] then acc
        else ([], acc.1 :: acc.2)) ([], []) →
      ∃ rest, (text.splitOnP fun c => !c.isAlphanum).map (List.map Char.toLower) = acc.1 :: rest ∧
        acc.2 = rest.filter (· ≠ []) := by
    rintro _ rfl
    induction text with
    | nil => exact ⟨[], rfl, rfl⟩
    | cons c text ih =>
      rw [List.foldr_cons, List.splitOnP_cons_eq_if_modifyHead]
      generalize List.foldr _ _ text = acc at ih ⊢
      obtain ⟨rest, split, done⟩ := ih
      obtain ⟨word, more, parts⟩ :=
        List.exists_cons_of_ne_nil (List.splitOnP_ne_nil (fun c => !c.isAlphanum) text)
      rw [parts, List.map_cons] at split
      obtain ⟨first, others⟩ := List.cons.inj split
      rw [parts]
      cases alnum : c.isAlphanum with
      | true =>
        refine ⟨rest, ?_, done⟩
        simp [first, others]
      | false =>
        by_cases blank : acc.1 = []
        · refine ⟨[] :: rest, ?_, ?_⟩
          · simp [first, others, blank]
          · simp [blank, done]
        · refine ⟨acc.1 :: rest, ?_, ?_⟩
          · simp [first, others, blank]
          · simp [blank, done]
  obtain ⟨rest, split, done⟩ := ends _ rfl
  rw [split]
  unfold words
  dsimp only
  rw [done]
  split
  · rename_i blank
    simp [blank]
  · rename_i word
    simp [word]

theorem isAlphanum_toLower {c : Char} (alnum : c.isAlphanum = true) :
    c.toLower.isAlphanum = true := by
  unfold Char.toLower
  split
  · rename_i upper
    have low : 65 ≤ c.toNat := UInt32.le_iff_toNat_le.mp upper.1
    have high : c.toNat ≤ 90 := UInt32.le_iff_toNat_le.mp upper.2
    have shifted : (c.val + 32).toNat = c.toNat + 32 := by
      rw [UInt32.toNat_add]
      exact Nat.mod_eq_of_lt (by change c.toNat + 32 < _; omega)
    refine Char.isAlphanum_iff.mpr (.inr (.inr ?_))
    change 97 ≤ (c.val + 32).toNat ∧ (c.val + 32).toNat ≤ 122
    omega
  · exact alnum

theorem words_alnum {text word : List Char} (member : word ∈ words text) :
    ∀ c ∈ word, c.isAlphanum = true := by
  rw [words_eq] at member
  obtain ⟨piece, split, rfl⟩ := List.mem_map.mp (List.mem_filter.mp member).1
  intro c listed
  obtain ⟨d, found, rfl⟩ := List.mem_map.mp listed
  exact isAlphanum_toLower (by simpa using not_of_mem_splitOnP split d found)

def companySuffixes : List String :=
  ["inc", "llc", "ltd", "limited", "gmbh", "bv", "plc", "corp", "corporation", "co", "pvt",
    "private"]

/-- Normalised company identity: lower case, punctuation folded to spaces, white space
collapsed, legal suffixes dropped. -/
def companyKey (env : Env) (name : String) : String :=
  " ".intercalate <|
    ((words (env.asciiFold name).toList).map String.ofList).filter fun w => w ∉ companySuffixes

/-- A company key has letters, digits and spaces only. -/
theorem companyKey_chars {env : Env} {name : String} {c : Char}
    (member : c ∈ (companyKey env name).toList) : c = ' ' ∨ c.isAlphanum = true := by
  rw [companyKey, String.toList_intercalate] at member
  rcases Parted.mem_of_mem_intercalate member with space | ⟨part, listed, found⟩
  · exact .inl (by simpa using space)
  · obtain ⟨word, kept, rfl⟩ := List.mem_map.mp listed
    obtain ⟨w, split, rfl⟩ := List.mem_map.mp (List.mem_filter.mp kept).1
    rw [String.toList_ofList] at found
    exact .inr (words_alnum split c found)

def ApplicationPolicy.blocks (policy : ApplicationPolicy) (env : Env) (company : String) : Bool :=
  companyKey env company ∈ policy.blockedCompanies.map (companyKey env)

def gateRulesetVersion : String := "tier1-gates-v3"

/-- The static gates, in evaluation order. -/
inductive Gate
  | candidateSkip | openingOpen | evaluated | hardEligibility | minimumEligibility
  | companyBlocklist | geography | roleRelevance | fitScored | bandEnabled | fitFloor
  deriving DecidableEq, Repr

structure GateResult where
  gate : Gate
  passed : Bool
  code : AdmissionReason
  detail : String
  deriving DecidableEq

structure GateReport where
  rulesetVersion : String
  policyVersion : Nat
  results : List GateResult
  deriving DecidableEq

namespace GateReport

def passed (r : GateReport) : Bool := r.results.all (·.passed)

def failed (r : GateReport) : Option GateResult := r.results.find? fun g => !g.passed

def code (r : GateReport) : AdmissionReason :=
  match r.failed with
  | some g => g.code
  | none => .admitted

theorem passed_iff_failed_none (r : GateReport) : r.passed = true ↔ r.failed = none := by
  simp [passed, failed, List.find?_eq_none]

end GateReport

/-- What `evaluate_admission` is told about one candidate opportunity. -/
structure Candidacy where
  decision : Option EligibilityDecision
  band : Option FitBand
  company : String
  fitScore : Option Int
  opportunityStatus : OpportunityStatus
  candidateState : OpportunityState
  geography : Option GeoAssessment
  role : Option RoleAssessment

section Gates
variable (env : Env) (policy : ApplicationPolicy) (c : Candidacy)

/-- Run every static gate in order. A gate whose prerequisite failed passes as "n/a". -/
def evaluateGates : GateReport where
  rulesetVersion := gateRulesetVersion
  policyVersion := policy.version
  results :=
    let skipped := c.candidateState = .skipped
    let closed := c.opportunityStatus = .closed ∨ c.candidateState = .closed
    let ineligible := c.decision = some .ineligible
    let belowMin := match c.decision with
      | none => false
      | some d => decide (d ≠ .ineligible) && decide (d.rank < policy.minimumEligibility.rank)
    let blocked := decide (c.company ≠ "") && policy.blocks env c.company
    let outside := match c.geography with
      | none => false
      | some g => !g.inPolicy
    let irrelevant := match c.role with
      | none => false
      | some r => !r.inPolicy
    let bandOff := match c.band with
      | none => false
      | some b => decide (b ∉ policy.enabledBands)
    let belowFloor := match policy.minimumFitScore, c.fitScore with
      | some floor, some score => decide (score < floor)
      | _, _ => false
    [ ⟨.candidateSkip, !decide skipped, .userBlocked,
        if skipped then "skipped by the candidate" else "not skipped"⟩,
      ⟨.openingOpen, !decide closed, .opportunityClosed,
        if closed then "opening is closed at the source" else "open"⟩,
      ⟨.evaluated, c.decision.isSome, .notEvaluated,
        match c.decision with
        | none => "no Tier 1 decision yet"
        | some d => s!"decision {d.value}"⟩,
      ⟨.hardEligibility, !decide ineligible, .ineligible,
        if ineligible then "INELIGIBLE"
        else if c.decision = none then "n/a (not evaluated)" else "not ineligible"⟩,
      ⟨.minimumEligibility, !belowMin, .belowMinimumEligibility,
        match c.decision with
        | none => "n/a"
        | some d =>
          if belowMin then
            s!"{d.value} is below minimum_eligibility={policy.minimumEligibility.value}"
          else if ineligible then "n/a"
          else s!"{d.value} >= {policy.minimumEligibility.value}"⟩,
      ⟨.companyBlocklist, !blocked, .companyBlocked,
        if blocked then "company is on the blocklist" else "not blocked"⟩,
      ⟨.geography, !outside, .outsideTargetGeography,
        clip 300 (match c.geography with
          | none => "n/a (no location assessment)"
          | some g => s!"{g.tier}: {g.detail}")⟩,
      ⟨.roleRelevance, !irrelevant, .irrelevantRole,
        clip 300 (match c.role with
          | none => "n/a (no role assessment)"
          | some r => s!"{r.label}: {r.detail}")⟩,
      ⟨.fitScored, c.band.isSome, .notScored,
        match c.band with
        | none => "no fit score / band yet"
        | some b => s!"band {b.value}" ++ (match c.fitScore with
          | none => ""
          | some score => s!", score {score}")⟩,
      ⟨.bandEnabled, !bandOff, .bandDisabled,
        match c.band with
        | none => "n/a"
        | some b =>
          if bandOff then s!"band {b.value} is disabled by the policy"
          else s!"band {b.value} enabled"⟩,
      ⟨.fitFloor, !belowFloor, .belowFitThreshold,
        match policy.minimumFitScore, c.fitScore with
        | none, _ => "no floor set"
        | some floor, some score =>
          if belowFloor then s!"fit {score} < minimum_fit_score {floor}"
          else s!"fit {score} >= {floor}"
        | some floor, none => s!"fit None >= {floor}"⟩ ]

/-- `text.split(':')[0]`. -/
def beforeColon (text : String) : String := String.ofList (text.toList.takeWhile (· ≠ ':'))

/-- The stable reason strings of an admission. -/
def reasonFor (report : GateReport) : String :=
  let decided := (c.decision.map EligibilityDecision.value).getD "None"
  let banded := (c.band.map FitBand.value).getD "None"
  match report.failed with
  | none => s!"admitted:{decided}:{banded}"
  | some failed =>
    match failed.code with
    | .notEvaluated => "not_evaluated"
    | .ineligible => "ineligible"
    | .belowMinimumEligibility => s!"below_minimum_eligibility:{decided}"
    | .companyBlocked => "company_blocked"
    | .outsideTargetGeography => s!"outside_target_geography:{beforeColon failed.detail}"
    | .irrelevantRole =>
      "irrelevant_role:" ++ String.ofList
        ((beforeColon failed.detail).toList.map fun ch => if ch = ' ' then '/' else ch)
    | .notScored => "not_scored"
    | .bandDisabled => s!"band_disabled:{banded}"
    | .belowFitThreshold =>
      let score := (c.fitScore.map toString).getD "None"
      let floor := (policy.minimumFitScore.map toString).getD "None"
      s!"below_fit_threshold:{score}<{floor}"
    | .opportunityClosed => "opportunity_closed"
    | .userBlocked => "skipped_by_candidate"
    | code => code.value.toLower

structure Admission where
  admitted : Bool
  reason : String
  lane : Option Lane
  tailoringLevel : Option TailoringLevel
  code : AdmissionReason
  gates : GateReport

/-- Whether an opportunity may enter the candidate's pipeline: the static gates decide. -/
def evaluateAdmission : Admission :=
  if (evaluateGates env policy c).passed then
    { admitted := true
      reason := reasonFor policy c (evaluateGates env policy c)
      lane := some ((c.band.bind fun b => policy.laneByBand.lookup b).getD .review)
      tailoringLevel := some ((c.band.bind fun b => policy.tailoringByBand.lookup b).getD .l0)
      code := .admitted
      gates := evaluateGates env policy c }
  else
    { admitted := false
      reason := reasonFor policy c (evaluateGates env policy c)
      lane := none
      tailoringLevel := none
      code := (evaluateGates env policy c).code
      gates := evaluateGates env policy c }

def gateCodes : List AdmissionReason :=
  [.userBlocked, .opportunityClosed, .notEvaluated, .ineligible, .belowMinimumEligibility,
    .companyBlocked, .outsideTargetGeography, .irrelevantRole, .notScored, .bandDisabled,
    .belowFitThreshold]

theorem gate_codes : (evaluateGates env policy c).results.map GateResult.code = gateCodes := rfl

theorem code_of_refused (refused : (evaluateAdmission env policy c).admitted = false) :
    (evaluateAdmission env policy c).code ∈ gateCodes := by
  unfold evaluateAdmission at refused ⊢
  split at refused
  · contradiction
  · rename_i notPassed
    rw [if_neg notPassed]
    have some_failed := mt (GateReport.passed_iff_failed_none _).mpr notPassed
    obtain ⟨g, hg⟩ := Option.ne_none_iff_exists'.mp some_failed
    simp only [GateReport.code, hg]
    rw [← gate_codes env policy c]
    exact List.mem_map_of_mem (List.mem_of_find?_eq_some hg)

end Gates

end RangeApply
