import RangeApply.Composer

/-! One application package: what is built for an opportunity at a tailoring level and for a list
of questions, and the inputs by which a package that is still current is recognised. -/
namespace RangeApply

structure TargetJob where
  id : String
  contentHash : String
  title : Text
  company : Text

/-- A candidate opportunity with its job and its match. -/
structure Target where
  co : CandidateOpportunity
  opportunityTitle : Text
  opportunityCompany : Text
  job : Option TargetJob
  matchId : Option String
  assessments : List RequirementAssessment

namespace Target
variable (t : Target)

def jobTitle : Text := (t.job.map (·.title)).getD t.opportunityTitle

def company : Text := (t.job.map (·.company)).getD t.opportunityCompany

def matchedKeys : List String := t.assessments.flatMap (·.evidenceReferences)

end Target

/-- The policy, with the cover letter mode of each band as it is stored. -/
structure PackagePolicy extends ApplicationPolicy where
  coverLetterByBand : List (FitBand × String)

def CoverLetterMode.ofValue : String → CoverLetterMode
  | "TEMPLATE" => .template
  | "LIGHT" => .light
  | "TARGETED" => .targeted
  | _ => .disabled

namespace PackagePolicy
variable (policy : PackagePolicy) (band : Option FitBand)

def level : TailoringLevel := (band.bind fun b => policy.tailoringByBand.lookup b).getD .l0

def lane : Lane := (band.bind fun b => policy.laneByBand.lookup b).getD .review

def coverMode : CoverLetterMode :=
  .ofValue ((band.bind fun b => policy.coverLetterByBand.lookup b).getD "DISABLED")

end PackagePolicy

/-- What one instance of the service has loaded. -/
structure PreparationContext where
  snapshot : BrainSnapshot
  policy : PackagePolicy
  polisher : String

/-! ### The package -/

structure Build where
  level : TailoringLevel
  lane : Lane
  coverMode : CoverLetterMode
  variant : Option PositioningVariant
  selection : SelectedEvidence
  resume : List Block
  cover : Option (List Block)
  answers : List PreparationAnswer
  report : ValidationReport
  validationStatus : ValidationStatus
  status : PreparationStatus

namespace PreparationAnswer

/-- A required question that only the candidate can answer. -/
def asksUser (a : PreparationAnswer) : Bool := a.status = .needsUserInput && a.required

def asksReview (a : PreparationAnswer) : Bool := a.status = .needsReview

end PreparationAnswer

/-- The status of a package, from its validation and its answers. -/
def packageStatus (validation : ValidationStatus) (lossy : Bool)
    (answers : List PreparationAnswer) : PreparationStatus :=
  if validation = .failed then .needsReview
  else if answers.any (·.asksUser) then .needsUserInput
  else if lossy || answers.any (·.asksReview) then .needsReview
  else .ready

section Build
variable (env : ComposerEnv) (ctx : PreparationContext) (t : Target)

def chooseVariant : Option PositioningVariant :=
  selectVariant env ctx.snapshot.variants t.jobTitle t.matchedKeys

/-- `_context_text`. -/
def contextText (variant : Option PositioningVariant) : Text :=
  let parts := t.jobTitle :: t.company :: t.assessments.map (·.requirementName) ++
    (variant.map fun v => [v.headline, v.summary]).getD []
  joined "\n" (parts.filter (· ≠ []))

/-- The codes of what the gate finds wrong with a generated answer. -/
def answerIssues (answerContext : ValidationContext) (text : Text) (keys : List String) :
    List String :=
  (validateBlock env.unicode ctx.snapshot.toGateEvidence (claimBlock "answer" text keys none) none
    answerContext).map (·.code)

/-- The blocks that stay, and whether any went. -/
def gated (context : ValidationContext) (resume : List Block) (cover : Option (List Block)) :
    List Block × Option (List Block) × ValidationReport × Bool :=
  let check := dropFailing env.unicode ctx.snapshot.toGateEvidence
  let report := validateBlocks env.unicode ctx.snapshot.toGateEvidence
    (resume ++ cover.getD []) context
  if report.passed then (resume, cover, report, false)
  else
    let kept := check resume context
    let keptCover := cover.map fun blocks => check blocks context
    let issues := kept.2.issues ++ ((keptCover.map (·.2.issues)).getD [])
    let dropped := kept.2.droppedBlocks + (keptCover.map (·.2.droppedBlocks)).getD 0
    (kept.1, keptCover.map (·.1), ⟨false, kept.2.checkedBlocks, issues, dropped⟩, true)

/-- `_resolve_answers`, each generated answer checked against the context and the statement. -/
def packageAnswers (context : ValidationContext) (selection : SelectedEvidence)
    (questions : List Text) : List PreparationAnswer :=
  let answerContext := ValidationContext.fromText env.unicode
    (context.text ++ ['\n'] ++ positioningStatement ctx.snapshot)
  resolveAnswers env.unicode ⟨ctx.snapshot.toCareerBrain, ctx.snapshot.bank⟩
    (answerIssues env ctx answerContext) selection.toSelection t.jobTitle t.company 0 [] questions

def packageContext : ValidationContext :=
  .fromText env.unicode (contextText t (chooseVariant env ctx t))

def packageSelection (level : TailoringLevel) : SelectedEvidence :=
  ctx.snapshot.selectEvidence t.assessments (chooseVariant env ctx t) level

/-- The blocks of the resume and of the cover letter, once the gate has seen them. -/
def packageBlocks (level : TailoringLevel) :
    List Block × Option (List Block) × ValidationReport × Bool :=
  let variant := chooseVariant env ctx t
  let selection := packageSelection env ctx t level
  gated env ctx (packageContext env ctx t) (composeResume ctx.snapshot selection variant level)
    (composeCoverLetter ctx.snapshot (ctx.policy.coverMode t.co.fitBand) selection variant
      t.company t.jobTitle)

/-- A resume that claims nothing does not pass. -/
def packageValidation (level : TailoringLevel) : ValidationStatus :=
  if (packageBlocks env ctx t level).1.any (·.kind = .claim) then .passed else .failed

/-- `_build`, without a polisher. -/
def build (level : TailoringLevel) (questions : List Text) : Build :=
  let selection := packageSelection env ctx t level
  let blocks := packageBlocks env ctx t level
  let answers := packageAnswers env ctx t (packageContext env ctx t) selection questions
  { level
    lane := ctx.policy.lane t.co.fitBand
    coverMode := ctx.policy.coverMode t.co.fitBand
    variant := chooseVariant env ctx t
    selection
    resume := blocks.1
    cover := blocks.2.1
    answers
    report := blocks.2.2.1
    validationStatus := packageValidation env ctx t level
    status := packageStatus (packageValidation env ctx t level) blocks.2.2.2 answers }

theorem build_status (level : TailoringLevel) (questions : List Text) :
    (build env ctx t level questions).status =
      packageStatus (build env ctx t level questions).validationStatus
        (packageBlocks env ctx t level).2.2.2 (build env ctx t level questions).answers := by
  simp only [build]

/-- The evidence keys stored with a package. -/
def Build.evidenceKeys (b : Build) : List String :=
  ((b.resume ++ b.cover.getD []).flatMap (·.evidenceKeys)).foldl
    (fun seen key => if key ∈ seen then seen else seen ++ [key]) b.selection.allKeys

end Build

/-! ### The inputs -/

/-- What the digest of a snapshot is taken of. -/
structure EvidenceDigest where
  nodes : List (String × Nat × EvidenceVerification × Bool)
  profile : Nat
  variants : List (String × Nat)
  answers : List (String × Nat)
  deriving DecidableEq

def BrainSnapshot.fingerprint (s : BrainSnapshot) : EvidenceDigest where
  nodes := (s.nodes.insertionSort fun a b => a.key ≤ b.key).map fun n =>
    (n.key, s.nodeVersion n.key, n.verificationStatus, n.allowedForApplication)
  profile := if s.profile.isSome then s.profileVersion else 0
  variants := (s.variants.insertionSort fun v w => v.id ≤ w.id).map fun v => (v.id, v.version)
  answers := (s.bank.approved.insertionSort fun a b => a.id ≤ b.id).map fun a =>
    (a.id, s.answerVersion a.id)

/-- What the digest of a match is taken of. -/
structure MatchDigest where
  evidenceReferences : List String
  requirements : List (Text × String)
  deriving DecidableEq

/-- `_match_fingerprint`. -/
def Target.matchFingerprint (t : Target) : Option MatchDigest :=
  if t.matchId = none ∧ t.assessments = [] then none
  else some {
    evidenceReferences := t.matchedKeys.insertionSort (· ≤ ·)
    requirements := (t.assessments.map fun a => (a.requirementName, a.status)).insertionSort
      fun a b => a.1 < b.1 ∨ a.1 = b.1 ∧ a.2 ≤ b.2 }

/-- The fingerprinted inputs; two digests are the same when these are. -/
structure Inputs where
  evidenceFingerprint : EvidenceDigest
  jobId : Option String
  jobContentHash : Option String
  matchId : Option String
  matchFingerprint : Option MatchDigest
  tailoringLevel : TailoringLevel
  lane : Lane
  coverLetterMode : CoverLetterMode
  positioningVariantId : Option String
  positioningVariantVersion : Option Nat
  policyVersion : Nat
  templateVersion : String
  questions : List Text
  ai : Option String
  deriving DecidableEq

/-- The questions as they are fingerprinted. -/
def questionKeys (u : Unicode) (questions : List Text) : List Text :=
  (questions.map (normalizeQuestion u)).insertionSort (· ≤ ·)

/-- `_fingerprint`. -/
def fingerprint (env : ComposerEnv) (ctx : PreparationContext) (t : Target)
    (level : TailoringLevel) (questions : List Text) : Inputs :=
  let variant := chooseVariant env ctx t
  { evidenceFingerprint := ctx.snapshot.fingerprint
    jobId := t.job.map (·.id)
    jobContentHash := t.job.map (·.contentHash)
    matchId := t.matchId
    matchFingerprint := t.matchFingerprint
    tailoringLevel := level
    lane := ctx.policy.lane t.co.fitBand
    coverLetterMode := ctx.policy.coverMode t.co.fitBand
    positioningVariantId := variant.map (·.id)
    positioningVariantVersion := variant.map (·.version)
    policyVersion := ctx.policy.version
    templateVersion := "prep-v1"
    questions := questionKeys env.unicode questions
    ai := if level = .l2 then some ctx.polisher else none }

end RangeApply
