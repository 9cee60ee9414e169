import Mathlib.Algebra.Order.Ring.Rat
import RangeApply.Gate

/-! What a package is made of: the positioning variant that fits the job, the confirmed evidence in
order of relevance, and the blocks of the resume and of the cover letter. -/
namespace RangeApply

/-- A row of `positioning_variants` that is active, with the keys of its evidence in order. -/
structure PositioningVariant where
  id : String
  version : Nat
  roleFamily : Text
  name : Text
  headline : Text
  summary : Text
  evidence : List String
  updatedAt : Time

/-- A row of `requirement_assessments`; a missing name is an empty one. -/
structure RequirementAssessment where
  requirementName : Text
  status : String
  contribution : ℚ
  evidenceReferences : List String

/-- All that a preparation reads of the Career Brain. Relationships come in the order of their
positions, nodes in their own order. The version of a node and its attribute `value`, as text, are
found under its key, the version of an answer under its id. -/
structure BrainSnapshot extends GateEvidence where
  bank : AnswerBank
  candidateName : Text
  metricValue : String → Text
  variants : List PositioningVariant
  nodeVersion : String → Nat
  profileVersion : Nat
  answerVersion : String → Nat

/-- What the composition takes from the platform: the characters, and the floating point score of
a variant from its two overlaps, of words and of evidence. -/
structure ComposerEnv where
  unicode : Unicode
  variantScore : (overlap familyWords covered cited : Nat) → ℚ

namespace Text

/-- `" ".join(text.split())`. -/
def words (t : Text) : Text := strip (spaced t)

def stripMarks (marks : List Char) (t : Text) : Text := rstrip marks (t.dropWhile (· ∈ marks))

/-- `_trim`: cut with an ellipsis. -/
def trimmed (limit : Nat) (t : Text) : Text :=
  if t.words.length ≤ limit then t.words
  else (t.words.take (limit - 1)).rdropWhile Char.isBlank ++ [Char.ofNat 0x2026]

end Text

/-! ### The positioning variant -/

def stopWords : List Text :=
  ["and", "or", "of", "the", "a", "an", "for", "in", "to", "at", "with", "engineer", "engineering",
    "role", "roles"].map String.ascii

def tokenRe : Pattern := .of false false "[a-z0-9+#]+".ascii

/-- `_tokens`. -/
def tokensOf (u : Unicode) (text : Text) : List Text :=
  ((tokenRe.all u (u.lower text)).map Match.text).dedup.filter (· ∉ stopWords)

section Variant
variable (env : ComposerEnv)

def scoreVariant (jobTitle : Text) (matchedKeys : List String) (v : PositioningVariant) : ℚ :=
  let titleTokens := tokensOf env.unicode jobTitle
  let family := (tokensOf env.unicode v.roleFamily ++ tokensOf env.unicode v.name).dedup
  let keys := v.evidence.dedup
  env.variantScore (family.countP (· ∈ titleTokens)) family.length
    (keys.countP (· ∈ matchedKeys)) keys.length

/-- The first of the best. -/
def bestOf (score : PositioningVariant → ℚ) :
    List PositioningVariant → Option PositioningVariant → Option PositioningVariant
  | [], best => best
  | v :: vs, none => bestOf score vs (some v)
  | v :: vs, some best => bestOf score vs (if score best < score v then some v else some best)

/-- `select_variant`, the latest updated first. -/
def selectVariant (variants : List PositioningVariant) (jobTitle : Text)
    (matchedKeys : List String) : Option PositioningVariant :=
  bestOf (scoreVariant env jobTitle matchedKeys)
    (variants.insertionSort fun v w =>
      w.updatedAt < v.updatedAt ∨ w.updatedAt = v.updatedAt ∧ w.id ≤ v.id) none

end Variant

/-! ### The evidence -/

/-- `LEVEL_LIMITS`. -/
structure LevelLimits where
  skills : Nat
  projects : Nat
  experiences : Nat
  responsibilities : Nat
  metrics : Nat

def levelLimits : TailoringLevel → LevelLimits
  | .l0 => ⟨10, 2, 2, 2, 2⟩
  | .l1 => ⟨14, 3, 3, 3, 3⟩
  | .l2 => ⟨18, 4, 3, 5, 4⟩

/-- `EvidenceSelection`, with the keys that satisfied each requirement. -/
structure SelectedEvidence where
  skills : List String
  projects : List String
  experiences : List String
  education : List String
  matchedRequirements : List (Text × List String)

namespace SelectedEvidence

def empty : SelectedEvidence := ⟨[], [], [], [], []⟩

/-- `matched_requirements.setdefault(requirement, []).append(key)`. -/
def addMatch (requirement : Text) (key : String) :
    List (Text × List String) → List (Text × List String)
  | [] => [(requirement, [key])]
  | (name, keys) :: more =>
    if name = requirement then (name, keys ++ [key]) :: more
    else (name, keys) :: addMatch requirement key more

def noteMatch (s : SelectedEvidence) (requirement : Text) (key : String) : SelectedEvidence :=
  if requirement = [] then s
  else { s with matchedRequirements := addMatch requirement key s.matchedRequirements }

def add (s : SelectedEvidence) (key : String) : EvidenceKind → SelectedEvidence
  | .skill => { s with skills := s.skills ++ [key] }
  | .project => { s with projects := s.projects ++ [key] }
  | .experience => { s with experiences := s.experiences ++ [key] }
  | .education => { s with education := s.education ++ [key] }
  | _ => s

def allKeys (s : SelectedEvidence) : List String :=
  (s.skills ++ s.projects ++ s.experiences ++ s.education).foldl
    (fun seen key => if key ∈ seen then seen else seen ++ [key]) []

/-- What the resolver of the questions reads. -/
def toSelection (s : SelectedEvidence) : EvidenceSelection :=
  ⟨s.skills, s.projects, s.matchedRequirements.map Prod.fst⟩

end SelectedEvidence

structure Selecting where
  selection : SelectedEvidence
  seen : List String

namespace BrainSnapshot
variable (s : BrainSnapshot)

def consider (requirement : Text) (state : Selecting) (key : String) : Selecting :=
  if key ∈ state.seen then
    { state with selection := state.selection.noteMatch requirement key }
  else match (s.node key).filter CareerBrain.safe with
    | none => state
    | some node => ⟨(state.selection.noteMatch requirement key).add key node.kind, key :: state.seen⟩

def safeChildren (parent : String) (relation : RelationType) : List EvidenceNode :=
  s.relationships.filterMap fun r =>
    if r.parent = parent ∧ r.relation = relation then (s.node r.child).filter CareerBrain.safe
    else none

/-- A reference of an assessment; a confirmed skill brings the projects that demonstrate it. -/
def considerReference (requirement : Text) (state : Selecting) (key : String) : Selecting :=
  let state := s.consider requirement state key
  match (s.node key).filter CareerBrain.safe with
  | some node =>
    if node.kind = .skill then
      ((s.projectsDemonstrating key).map (·.key)).foldl (s.consider []) state
    else state
  | none => state

/-- The assessments that found evidence, the largest contribution first. -/
def satisfied (assessments : List RequirementAssessment) : List RequirementAssessment :=
  (assessments.filter fun a => a.status = "MATCHED" ∨ a.status = "PARTIAL").insertionSort fun a b =>
    b.contribution ≤ a.contribution

def keysOf (kind : EvidenceKind) : List String := (s.ofKind kind).map (·.key)

/-- `select_evidence`. -/
def selectEvidence (assessments : List RequirementAssessment)
    (variant : Option PositioningVariant) (level : TailoringLevel) : SelectedEvidence :=
  let limits := levelLimits level
  let matched := (satisfied assessments).foldl (fun state a =>
    a.evidenceReferences.foldl (s.considerReference a.requirementName) state) ⟨.empty, []⟩
  let rest := (variant.map (·.evidence)).getD [] ++ s.keysOf .skill ++ s.keysOf .project ++
    s.keysOf .experience ++ s.keysOf .education
  let all := (rest.foldl (s.consider []) matched).selection
  { all with
    skills := all.skills.take limits.skills
    projects := all.projects.take limits.projects
    experiences := all.experiences.take limits.experiences }

end BrainSnapshot

/-! ### The blocks -/

section Blocks
variable (s : BrainSnapshot)

def framing (section_ : String) (text : Text) (source : String) : Block :=
  ⟨.framing, section_, text, [], source, none⟩

def claimBlock (section_ : String) (text : Text) (evidenceKeys : List String)
    (requirement : Option Text) : Block :=
  ⟨.claim, section_, text, evidenceKeys, "template", requirement⟩

/-- `_requirement_for`. -/
def requirementFor (selection : SelectedEvidence) (key : String) : Option Text :=
  (selection.matchedRequirements.find? fun entry => key ∈ entry.2).map Prod.fst

def labelsOf (nodes : List EvidenceNode) : Text := joined ", " (nodes.map (·.label))

def positioningStatement : Text := (s.profile.map (·.positioningStatement)).getD []

def summaryBlock (variant : Option PositioningVariant) : List Block :=
  match variant.filter fun v => v.headline ≠ [] ∨ v.summary ≠ [] with
  | some v =>
    let headline := Text.strip v.headline
    let summary := Text.strip v.summary
    let text :=
      if headline ≠ [] ∧ summary ≠ [] then
        Text.strip (Text.stripMarks ['.', ' '] (headline ++ ". ".ascii ++ summary))
      else if headline ≠ [] then headline else summary
    [framing "summary" text ("variant:" ++ v.id)]
  | none =>
    if positioningStatement s = [] then []
    else [framing "summary" (positioningStatement s) "profile"]

def skillsBlock (skills : List EvidenceNode) : List Block :=
  if skills = [] then []
  else [claimBlock "skills" ("Skills: ".ascii ++ labelsOf skills) (skills.map (·.key)) none]

def projectBlocks (limits : LevelLimits) (selection : SelectedEvidence) (project : EvidenceNode) :
    List Block :=
  let technologies :=
    if project.technologies = [] then []
    else " Technologies: ".ascii ++ joined ", " project.technologies ++ ['.']
  claimBlock "projects" (project.label ++ ": ".ascii ++ project.claim.trimmed 220 ++ technologies)
      [project.key] (requirementFor selection project.key) ::
    ((s.safeChildren project.key .hasMetric).take limits.metrics).map fun metric =>
      claimBlock "projects" (project.label ++ [' ', Char.ofNat 0x2014, ' '] ++ metric.label ++
        ": ".ascii ++ s.metricValue metric.key) [metric.key] none

def experienceBlocks (limits : LevelLimits) (experience : EvidenceNode) : List Block :=
  claimBlock "experience" experience.label [experience.key] none ::
    ((s.safeChildren experience.key .hasResponsibility).take limits.responsibilities).map fun r =>
      claimBlock "experience" (r.claim.trimmed 220) [r.key] none

/-- `compose_resume`. -/
def composeResume (selection : SelectedEvidence) (variant : Option PositioningVariant)
    (level : TailoringLevel) : List Block :=
  let limits := levelLimits level
  summaryBlock s variant ++ skillsBlock (selection.skills.filterMap s.node) ++
    (selection.projects.filterMap s.node).flatMap (projectBlocks s limits selection) ++
    (selection.experiences.filterMap s.node).flatMap (experienceBlocks s limits) ++
    (selection.education.filterMap s.node).map fun n => claimBlock "education" n.claim [n.key] none

inductive CoverLetterMode
  | disabled | template | light | targeted
  deriving DecidableEq

def fitBlocks (selection : SelectedEvidence) : List Block :=
  (selection.matchedRequirements.take 4).flatMap fun (requirement, keys) =>
    let nodes := keys.filterMap s.node
    if nodes = [] then []
    else [claimBlock "fit" ("Your posting asks for ".ascii ++ requirement ++ "; I bring ".ascii ++
      labelsOf nodes ++ ['.']) (nodes.map (·.key)) (some requirement)]

def bodyBlocks (selection : SelectedEvidence) : List Block :=
  if selection.projects = [] ∧ selection.skills ≠ [] then
    let skills := (selection.skills.take 6).filterMap s.node
    [claimBlock "body" ("Relevant skills: ".ascii ++ labelsOf skills) (selection.skills.take 6) none]
  else ((selection.projects.take 2).filterMap s.node).map fun project =>
    claimBlock "body" (project.label ++ ": ".ascii ++ project.claim.trimmed 200) [project.key] none

/-- `compose_cover_letter`. -/
def composeCoverLetter (mode : CoverLetterMode) (selection : SelectedEvidence)
    (variant : Option PositioningVariant) (company jobTitle : Text) : Option (List Block) :=
  if mode = .disabled then none
  else
    let name := if s.profile.isSome then s.candidateName else []
    let statement := match variant with
      | some v => if v.summary ≠ [] then v.summary else v.headline
      | none => positioningStatement s
    let intro := "I am applying for the ".ascii ++ jobTitle ++ " position at ".ascii ++ company ++
      ['.'] ++ (if statement = [] then [] else ' ' :: Text.strip statement)
    let fit :=
      if mode = .light ∨ mode = .targeted then fitBlocks s selection else []
    let closing := "Thank you for your consideration. I would welcome the chance to discuss how ".ascii ++
      "I can contribute to ".ascii ++ company ++ ['.'] ++
      (if name = [] then [] else "\n\n".ascii ++ name)
    some (framing "greeting" ("Dear ".ascii ++ company ++ " Hiring Team,".ascii) "job" ::
      framing "intro" intro "job+profile" :: fit ++ bodyBlocks s selection ++
      [framing "closing" closing "job+profile"])

end Blocks
end RangeApply
