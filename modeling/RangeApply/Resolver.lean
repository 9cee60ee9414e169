import Mathlib.Data.List.Sort
import RangeApply.Questions
import RangeApply.Rows

/-! Truthful answers to application questions: the approved bank first, then a fact of the profile,
then a text built from confirmed evidence; else the question is left to the candidate. -/
namespace RangeApply

inductive EvidenceKind
  | skill | project | experience | achievement | education | credential | metric
  | responsibility | link | fact | other
  deriving DecidableEq

/-- How well a node of evidence is verified. -/
inductive EvidenceVerification
  | verified | unverified | inferred | conflict | needsReview
  deriving DecidableEq

inductive RelationType
  | demonstrates | hasMetric | hasResponsibility | about | partOf | supports
  deriving DecidableEq

/-- An active row of `evidence_nodes`. -/
structure EvidenceNode where
  key : String
  kind : EvidenceKind
  label : Text
  claim : Text
  technologies : List Text
  verificationStatus : EvidenceVerification
  allowedForApplication : Bool
  sortOrder : Int
  createdAt : Time

/-- A row of `evidence_relationships`, between the nodes of two keys. -/
structure EvidenceRelationship where
  parent : String
  child : String
  relation : RelationType

structure Profile where
  workAuthorization : Option Text
  location : Option Text
  positioningStatement : Text
  remotePreference : Option Text

/-- What a snapshot holds beside the answer bank. The key of a node is its own in a tenant. -/
structure CareerBrain where
  nodes : List EvidenceNode
  relationships : List EvidenceRelationship
  profile : Option Profile
  keys_nodup : (nodes.map EvidenceNode.key).Nodup

structure EvidenceSnapshot extends CareerBrain where
  bank : AnswerBank

namespace CareerBrain
variable (u : Unicode) (brain : CareerBrain)

/-- Confirmed and allowed: the node may back a claim. -/
def safe (node : EvidenceNode) : Bool :=
  node.verificationStatus = .verified && node.allowedForApplication

def node (key : String) : Option EvidenceNode := brain.nodes.find? (·.key = key)

def isSafe (key : String) : Bool := (brain.node key).any safe

def ofKind (kind : EvidenceKind) : List EvidenceNode :=
  (brain.nodes.filter fun n => n.kind = kind && safe n).insertionSort fun a b =>
    a.sortOrder < b.sortOrder ∨ a.sortOrder = b.sortOrder ∧ a.createdAt ≤ b.createdAt

/-- `projects_demonstrating`: the confirmed nodes that a relationship says demonstrate a skill. -/
def projectsDemonstrating (skill : String) : List EvidenceNode :=
  brain.relationships.filterMap fun r =>
    if r.child = skill ∧ r.relation = .demonstrates then
      (brain.node r.parent).filter safe
    else none

def skillByLabel (label : Text) : Option EvidenceNode :=
  let wanted := u.lower (Text.strip label)
  (brain.ofKind .skill).find? fun n => u.lower (Text.strip n.label) = wanted

/-- `_skill_containing`. -/
def skillContaining (topic : Text) : Option EvidenceNode :=
  let wanted := u.lower topic
  (brain.ofKind .skill).find? fun n =>
    Text.occurs wanted (u.lower n.label) || Text.occurs (u.lower n.label) wanted

end CareerBrain

/-- The evidence chosen for one opening; `matchedRequirements` are the names of the requirements
that some of it satisfies. -/
structure EvidenceSelection where
  skills : List String
  projects : List String
  matchedRequirements : List Text

inductive AnswerSource
  | answerBank | profile | generated | user | unanswered
  deriving DecidableEq

structure ResolvedAnswer where
  status : PreparedAnswerStatus
  source : AnswerSource
  category : QuestionCategory
  answer : Option Text
  evidenceKeys : List String
  entryId : Option String
  reason : String

namespace ResolvedAnswer

def answered (source : AnswerSource) (category : QuestionCategory) (answer : Text)
    (evidenceKeys : List String) (reason : String) : ResolvedAnswer :=
  ⟨.answered, source, category, some answer, evidenceKeys, none, reason⟩

def unanswered (status : PreparedAnswerStatus) (category : QuestionCategory) (reason : String) :
    ResolvedAnswer :=
  ⟨status, .unanswered, category, none, [], none, reason⟩

end ResolvedAnswer

section Resolve
variable (u : Unicode)

def joined (by_ : String) (texts : List Text) : Text := by_.ascii.intercalate texts

/-- `_from_profile`. -/
def fromProfile (brain : CareerBrain) (category : QuestionCategory) : Option ResolvedAnswer :=
  brain.profile.bind fun profile =>
    match category with
    | .workAuthorization =>
      (profile.workAuthorization.bind Text.orNone).map fun text =>
        .answered .profile category text ["profile:work_authorization"] "profile field"
    | .location =>
      (profile.location.bind Text.orNone).map fun text =>
        .answered .profile category text ["profile:location"] "profile field"
    | .education =>
      (brain.ofKind .education).head?.map fun node =>
        .answered .generated category node.claim [node.key] "education evidence"
    | .workMode =>
      (profile.remotePreference.bind Text.orNone).map fun text =>
        .answered .profile category text ["profile:remote_preference"] "preference"
    | _ => none

/-- A question about experience with a topic is answered from the skill of that name. -/
def experienceAnswer (brain : CareerBrain) (category : QuestionCategory) (topic : Text) :
    ResolvedAnswer :=
  let found := (brain.skillByLabel u topic).or (brain.skillContaining u topic)
  match found.filter fun n => brain.isSafe n.key with
  | none =>
    .unanswered .needsUserInput category
      ("no confirmed evidence for '" ++ String.ofList topic ++ "'")
  | some node =>
    let demonstrating := (brain.projectsDemonstrating node.key).take 3
    let used :=
      if demonstrating = [] then []
      else " Used in ".ascii ++ joined ", " (demonstrating.map (·.label)) ++ ['.']
    .answered .generated category (node.label ++ ": ".ascii ++ node.claim ++ ['.'] ++ used)
      (node.key :: demonstrating.map (·.key)) "templated from confirmed skill evidence"

/-- A project as it stands in a list: its label, a dash and its claim. -/
def projectLine (p : EvidenceNode) : Text := p.label ++ [' ', Char.ofNat 0x2014, ' '] ++ p.claim

def projectAnswer (category : QuestionCategory) (project : EvidenceNode) : ResolvedAnswer :=
  let built :=
    if project.technologies = [] then []
    else " Built with ".ascii ++ joined ", " project.technologies ++ ['.']
  .answered .generated category (project.label ++ ": ".ascii ++ project.claim ++ built)
    [project.key] "templated from project evidence"

def motivationAnswer (category : QuestionCategory) (selection : EvidenceSelection)
    (jobTitle company : Text) (skills projects : List EvidenceNode) : ResolvedAnswer :=
  let requirements := selection.matchedRequirements.take 3
  let role := "The ".ascii ++ jobTitle ++ " role at ".ascii ++ company
  let first :=
    if requirements = [] then role ++ " matches my background.".ascii
    else role ++ " calls for ".ascii ++ joined ", " requirements ++ ['.']
  let bring :=
    if skills = [] then []
    else ["I bring ".ascii ++ joined ", " (skills.map (·.label)) ++ ['.']]
  let relevant :=
    if projects = [] then []
    else ["Most relevant: ".ascii ++ joined "; " (projects.map projectLine) ++ ['.']]
  .answered .generated category (joined " " (first :: bring ++ relevant))
    (skills.map (·.key) ++ projects.map (·.key))
    "templated from matched requirements and evidence"

def aboutAnswer (brain : CareerBrain) (category : QuestionCategory)
    (skills projects : List EvidenceNode) : ResolvedAnswer :=
  let statement := (brain.profile.bind fun p => Text.orNone p.positioningStatement).toList
  let core :=
    if skills = [] then []
    else ["Core skills: ".ascii ++ joined ", " (skills.map (·.label)) ++ ['.']]
  let recent :=
    if projects = [] then []
    else ["Recent work: ".ascii ++ joined "; " (projects.map projectLine)]
  .answered .generated category (Text.strip (joined " " (statement ++ core ++ recent)))
    (skills.map (·.key) ++ projects.map (·.key))
    "templated from profile statement and evidence"

/-- `_generate`. -/
def generate (brain : CareerBrain) (classified : ClassifiedQuestion)
    (selection : EvidenceSelection) (jobTitle company : Text) : Option ResolvedAnswer :=
  let category := classified.category
  let skills := (selection.skills.take 6).filterMap brain.node
  let projects := (selection.projects.take 2).filterMap brain.node
  match category, classified.topic.bind Text.orNone with
  | .experienceWith, some topic => some (experienceAnswer u brain category topic)
  | _, _ =>
    if skills = [] ∧ projects = [] then none
    else match category, projects with
      | .relevantProject, project :: _ => some (projectAnswer category project)
      | .whyRole, _ | .whyCompany, _ =>
        some (motivationAnswer category selection jobTitle company skills projects)
      | .aboutYou, _ => some (aboutAnswer brain category skills projects)
      | _, _ => none

/-- The entry that answers a question: that of the question itself, unless it was written for an
employer that the question does not name as this one; else the first of a shared category. -/
def bankEntry (bank : AnswerBank) (classified : ClassifiedQuestion) (company : Text) :
    Option AnswerBankEntry :=
  let own :=
    if classified.category ∈ employerSpecific ∧ namesCompany u classified.key company = false
    then none
    else bank.byKey u classified.key
  match own with
  | some entry => some entry
  | none =>
    if classified.category ∈ categorySharedAnswers then
      (bank.byCategory classified.category.value).head?
    else none

/-- `AnswerResolver.resolve`. -/
def resolve (snapshot : EvidenceSnapshot) (question : Text) (selection : EvidenceSelection)
    (jobTitle company : Text) : ResolvedAnswer :=
  let classified := classifyQuestion u question
  let category := classified.category
  match bankEntry u snapshot.bank classified company with
  | some entry =>
    ⟨.answered, .answerBank, category, some entry.answer, entry.evidenceKeys, some entry.id,
      "approved answer bank entry"⟩
  | none =>
    match fromProfile snapshot.toCareerBrain category with
    | some answer => answer
    | none =>
      if category ∈ factCategories then
        .unanswered .needsUserInput category
          (category.value ++ ": not recorded in the Career Brain or answer bank")
      else match generate u snapshot.toCareerBrain classified selection jobTitle company with
        | some answer => answer
        | none =>
          .unanswered .needsReview category
            "cannot be grounded in stored evidence; needs a human draft"

end Resolve

/-! ### The answers of a preparation -/

/-- A row of `preparation_answers`; its position in the preparation stands for its id. -/
structure PreparationAnswer where
  position : Nat
  question : Text
  questionKey : Text
  category : String
  answer : Option Text
  evidenceKeys : List String
  source : AnswerSource
  status : PreparedAnswerStatus
  required : Bool
  answerBankEntryId : Option String
  reason : String

/-- A generated answer that the truth gate finds fault with is left to a review. -/
def preparationAnswer (u : Unicode) (validate : Text → List String → List String)
    (position : Nat) (question : Text) (resolved : ResolvedAnswer) : PreparationAnswer :=
  let issues := match resolved.source, resolved.answer.bind Text.orNone with
    | .generated, some text => validate text resolved.evidenceKeys
    | _, _ => []
  let status := if issues = [] then resolved.status else .needsReview
  let reason :=
    if issues = [] then resolved.reason
    else "generated answer failed validation: " ++ "; ".intercalate issues
  { position
    question := question.take 512
    questionKey := normalizeQuestion u question
    category := resolved.category.value
    answer := if status = .answered then resolved.answer else none
    evidenceKeys := resolved.evidenceKeys
    source := if status = .answered then resolved.source else .unanswered
    status
    required := resolved.category ≠ .voluntary
    answerBankEntryId := resolved.entryId
    reason := String.ofList (reason.toList.take 256) }

/-- `_resolve_answers`: one answer for each question that is not blank and not asked before. -/
def resolveAnswers (u : Unicode) (snapshot : EvidenceSnapshot)
    (validate : Text → List String → List String) (selection : EvidenceSelection)
    (jobTitle company : Text) : Nat → List Text → List Text → List PreparationAnswer
  | _, _, [] => []
  | position, seen, question :: questions =>
    let key := normalizeQuestion u question
    if key = [] ∨ key ∈ seen then
      resolveAnswers u snapshot validate selection jobTitle company (position + 1) seen questions
    else
      preparationAnswer u validate position question
          (resolve u snapshot question selection jobTitle company) ::
        resolveAnswers u snapshot validate selection jobTitle company (position + 1)
          (key :: seen) questions

end RangeApply
