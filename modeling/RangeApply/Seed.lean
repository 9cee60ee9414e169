import RangeApply.Nodes

/-! The seed importer: every record of the candidate's document becomes a node of the evidence
graph, under a key of its own. A record whose hash is stored already is skipped. -/
namespace RangeApply.Evidence

/-! ### The document -/

structure SkillRecord where
  id : Text
  name : Text
  category : Option Text
  evidence : Option Text
  resumeRelevance : Option Text
  notes : Option Text
  verificationStatus : Option Text
  projects : List Text
  rest : Dict
  deriving DecidableEq

structure MetricRecord where
  name : Text
  value : Option Text
  verificationStatus : Option Text
  rest : Dict
  deriving DecidableEq

structure ProjectRecord where
  id : Text
  name : Text
  summary : Option Text
  status : Option Text
  problem : Option Text
  solution : Option Text
  technologies : List Text
  primaryDomain : Option Text
  relevantRoles : List Text
  features : List Text
  technicalConcepts : List Text
  resumeWorthyFacts : List Text
  verifiedClaims : List Text
  unverifiedClaims : List Text
  documentationPath : Option Text
  metrics : List MetricRecord
  rest : Dict
  deriving DecidableEq

structure ExperienceRecord where
  id : Text
  role : Option Text
  organization : Option Text
  startDate : Option Text
  endDate : Option Text
  isEmployment : Bool
  technologies : List Text
  achievements : List Text
  verifiedClaims : List Text
  notes : Option Text
  verificationStatus : Option Text
  responsibilities : List Text
  rest : Dict
  deriving DecidableEq

structure AchievementRecord where
  id : Text
  title : Text
  description : Option Text
  category : Option Text
  date : Option Text
  relatedProject : Option Text
  notes : Option Text
  verificationStatus : Option Text
  rest : Dict
  deriving DecidableEq

structure FactRecord where
  id : Text
  statement : Text
  category : Option Text
  source : Option Text
  relatedEntityId : Option Text
  verificationStatus : Option Text
  confidence : Option ℚ
  allowedForResume : Option Bool
  allowedForApplication : Option Bool
  rest : Dict
  deriving DecidableEq

structure SeedDocument where
  profile : Dict
  preferences : Dict
  skills : List SkillRecord
  projects : List ProjectRecord
  experience : List ExperienceRecord
  achievements : List AchievementRecord
  facts : List FactRecord

/-- What `record_hash` is taken of. -/
inductive SeedRecord
  | profile (profile preferences : Dict)
  | skill (r : SkillRecord)
  | project (r : ProjectRecord)
  | metric (r : MetricRecord)
  | experience (r : ExperienceRecord)
  | responsibility (text : Text) (status : EvidenceVerification)
  | achievement (r : AchievementRecord)
  | fact (r : FactRecord)
  | education (r : Dict)
  | link (url : Value)
  deriving DecidableEq

/-- An importer of one file, with the hashes and the texts of values that it takes from the
library. -/
structure Importer where
  source : Text
  actor : Text
  unicode : Unicode
  recordHash : SeedRecord → String
  /-- `hashlib.sha1(text).hexdigest()[:10]` -/
  sha1 : Text → Text
  str : Value → Text
  sha1_length : ∀ text, (sha1 text).length = 10

/-! ### Its nodes -/

/-- The arguments of `_upsert`. -/
structure Entry where
  key : Text
  kind : EvidenceKind
  label : Text
  claim : Text
  attributes : Dict
  status : EvidenceVerification
  collection : Text
  record : SeedRecord
  confidence : ℚ := 1
  allowedForResume : Option Bool := none
  allowedForApplication : Option Bool := none
  sourceType : EvidenceSourceType := .seedFile

/-- `_status` -/
def statusOf (value : Option Text) (default_ : EvidenceVerification) : EvidenceVerification :=
  if value = some "VERIFIED".ascii then .verified
  else if value = some "UNVERIFIED".ascii then .unverified
  else if value = some "INFERRED".ascii then .inferred
  else if value = some "CONFLICT".ascii then .conflict
  else if value = some "NEEDS_REVIEW".ascii then .needsReview
  else default_

/-- `value or default` -/
def orElse (value : Option Text) (default_ : Text) : Text :=
  match value with
  | none | some [] => default_
  | some text => text

def optional (value : Option Text) : Value := value.elim .null .text

/-- ` — ` -/
def dash : Text := [' ', Char.ofNat 0x2014, ' ']

namespace SkillRecord
variable (r : SkillRecord)

/-- `_skill_claim` -/
def claim : Text :=
  match r.evidence with
  | none | some [] => r.name
  | some evidence => r.name ++ " (".ascii ++ evidence ++ ")".ascii

def entry : Entry where
  key := r.id
  kind := .skill
  label := r.name
  claim := r.claim
  attributes := [("category".ascii, .text (r.category.getD "Other".ascii)),
    ("evidence".ascii, .text (r.evidence.getD [])),
    ("resume_relevance".ascii, .text (r.resumeRelevance.getD "medium".ascii)),
    ("notes".ascii, .text (r.notes.getD []))]
  status := statusOf r.verificationStatus .unverified
  collection := "skills".ascii
  record := .skill r

end SkillRecord

namespace ProjectRecord
variable (i : Importer) (r : ProjectRecord)

def entry : Entry where
  key := r.id
  kind := .project
  label := r.name
  claim := orElse r.summary r.name
  attributes := [("status".ascii, .text (r.status.getD "UNKNOWN".ascii)),
    ("problem".ascii, .text (r.problem.getD [])), ("solution".ascii, .text (r.solution.getD [])),
    ("technologies".ascii, .texts r.technologies),
    ("primary_domain".ascii, .text (r.primaryDomain.getD [])),
    ("relevant_roles".ascii, .texts r.relevantRoles), ("features".ascii, .texts r.features),
    ("technical_concepts".ascii, .texts r.technicalConcepts),
    ("resume_worthy_facts".ascii, .texts r.resumeWorthyFacts),
    ("verified_claims".ascii, .texts r.verifiedClaims),
    ("unverified_claims".ascii, .texts r.unverifiedClaims),
    ("documentation_path".ascii, .text (r.documentationPath.getD []))]
  status := .verified
  collection := "projects".ascii
  record := .project { r with metrics := [] }

def metricKey (m : MetricRecord) : Text :=
  "metric:".ascii ++ r.id ++ ':' :: slugify i.unicode m.name

def metricEntry (m : MetricRecord) : Entry where
  key := r.metricKey i m
  kind := .metric
  label := m.name
  claim := r.name ++ dash ++ m.name ++ ": ".ascii ++ m.value.getD []
  attributes := [("name".ascii, .text m.name), ("value".ascii, .text (m.value.getD []))]
  status := statusOf m.verificationStatus .unverified
  collection := "projects/".ascii ++ r.id ++ "/metrics".ascii
  record := .metric m

end ProjectRecord

namespace ExperienceRecord
variable (i : Importer) (r : ExperienceRecord)

def label : Text :=
  Text.stripMarks [' ', Char.ofNat 0x2014] (r.role.getD [] ++ dash ++ r.organization.getD [])

def status : EvidenceVerification := statusOf r.verificationStatus .verified

def entry : Entry where
  key := r.id
  kind := .experience
  label := orElse (some r.label) r.id
  claim := orElse (some r.label) r.id
  attributes := [("organization".ascii, .text (r.organization.getD [])),
    ("role".ascii, .text (r.role.getD [])), ("start_date".ascii, optional r.startDate),
    ("end_date".ascii, optional r.endDate), ("is_employment".ascii, .flag r.isEmployment),
    ("technologies".ascii, .texts r.technologies), ("achievements".ascii, .texts r.achievements),
    ("verified_claims".ascii, .texts r.verifiedClaims),
    ("notes".ascii, .text (r.notes.getD []))]
  status := r.status
  collection := "experience".ascii
  record := .experience { r with responsibilities := [] }

def responsibilityKey (text : Text) : Text := "resp:".ascii ++ r.id ++ ':' :: i.sha1 text

def responsibilityEntry (text : Text) : Entry where
  key := r.responsibilityKey i text
  kind := .responsibility
  label := text.take 256
  claim := text
  attributes := [("experience".ascii, .text r.id)]
  status := r.status
  collection := "experience/".ascii ++ r.id ++ "/responsibilities".ascii
  record := .responsibility text r.status

end ExperienceRecord

def AchievementRecord.entry (r : AchievementRecord) : Entry where
  key := r.id
  kind := .achievement
  label := r.title
  claim := orElse r.description r.title
  attributes := [("category".ascii, .text (r.category.getD "other".ascii)),
    ("description".ascii, .text (r.description.getD [])), ("date".ascii, optional r.date),
    ("related_project".ascii, optional r.relatedProject), ("notes".ascii, .text (r.notes.getD []))]
  status := statusOf r.verificationStatus .unverified
  collection := "achievements".ascii
  record := .achievement r

def FactRecord.entry (r : FactRecord) : Entry where
  key := r.id
  kind := .fact
  label := r.statement.take 256
  claim := r.statement
  attributes := [("category".ascii, .text (r.category.getD "skill".ascii)),
    ("source".ascii, .text (r.source.getD [])),
    ("related_entity_id".ascii, optional r.relatedEntityId)]
  status := statusOf r.verificationStatus .unverified
  collection := "facts".ascii
  record := .fact r
  confidence := r.confidence.getD 1
  allowedForResume := r.allowedForResume
  allowedForApplication := r.allowedForApplication
  sourceType := if statusOf r.verificationStatus .unverified = .inferred then .inferred else .seedFile

namespace Importer
variable (i : Importer)

/-- A value within a text. -/
def format : Value → Text
  | .text t => t
  | v => i.str v

def educationEntry (profile : Dict) : Option Entry :=
  if profile.truthy "degree".ascii && profile.truthy "college".ascii then
    let read (field : Text) : Value := (profile.get field).getD .null
    let record : Dict := ["degree".ascii, "branch".ascii, "college".ascii, "graduation_year".ascii,
      "cgpa".ascii, "backlogs".ascii].map fun field => (field, read field)
    let year := i.format ((profile.get "graduation_year".ascii).getD (.text []))
    let cgpa := if profile.truthy "cgpa".ascii then
      ", CGPA ".ascii ++ i.format (read "cgpa".ascii) else []
    some
      { key := "education:primary".ascii
        kind := .education
        label := (i.format (read "degree".ascii)).take 256
        claim := i.format (read "degree".ascii) ++ ", ".ascii ++ i.format (read "college".ascii) ++
          ", graduating ".ascii ++ year ++ cgpa
        attributes := record
        status := .verified
        collection := "profile/education".ascii
        record := .education record }
  else none

def linkEntry (profile : Dict) (name : Text) : Option Entry :=
  if profile.truthy name then
    let url := (profile.get name).getD .null
    some
      { key := "link:".ascii ++ name
        kind := .link
        label := name
        claim := i.format url
        attributes := [("url".ascii, url), ("kind".ascii, .text name)]
        status := .verified
        collection := "profile/links".ascii
        record := .link url }
  else none

end Importer

/-! ### The steps of an import -/

inductive Step
  | upsert (e : Entry)
  | link (source target : Text) (relation : RelationType) (position : Nat)
  | linkIfExists (source target : Text) (relation : RelationType) (position : Nat)

/-- The link to what a record refers to. -/
def aboutSteps (id : Text) : Option Text → List Step
  | none | some [] => []
  | some target => [.linkIfExists id target .about 0]

namespace SeedDocument
variable (i : Importer) (doc : SeedDocument)

def projectSteps (r : ProjectRecord) : List Step :=
  .upsert r.entry :: r.metrics.zipIdx.flatMap fun m =>
    [.upsert (r.metricEntry i m.1), .link r.id (r.metricKey i m.1) .hasMetric m.2]

def experienceSteps (r : ExperienceRecord) : List Step :=
  .upsert r.entry :: r.responsibilities.zipIdx.flatMap fun t =>
    [.upsert (r.responsibilityEntry i t.1),
      .link r.id (r.responsibilityKey i t.1) .hasResponsibility t.2]

/-- The records, and then the projects that each skill lists. -/
def recordSteps : List Step :=
  doc.skills.map (fun r => .upsert r.entry) ++
  doc.projects.flatMap (projectSteps i) ++
  doc.experience.flatMap (experienceSteps i) ++
  doc.achievements.flatMap (fun r => .upsert r.entry :: aboutSteps r.id r.relatedProject) ++
  doc.facts.flatMap (fun r => .upsert r.entry :: aboutSteps r.id r.relatedEntityId) ++
  doc.skills.flatMap fun r => r.projects.zipIdx.map fun p =>
    .linkIfExists p.1 r.id .demonstrates p.2

def profileEntries : List Entry :=
  (i.educationEntry doc.profile).toList ++
    profileLinkFields.filterMap (i.linkEntry doc.profile)

def steps : List Step := doc.recordSteps i ++ (doc.profileEntries i).map .upsert

end SeedDocument

/-! ### The run -/

structure ImportReport where
  profile : ProfileAction
  created : List Text
  updated : List Text
  skipped : List Text
  relationshipsCreated : Nat

structure Importing where
  graph : Graph
  order : Nat
  report : ImportReport

namespace Importer
variable (i : Importer) (now : Time) (force : Bool)

def sourceRef (e : Entry) : Text := i.source ++ '#' :: e.collection ++ '/' :: e.key

def createData (e : Entry) (order : Nat) : EvidenceNodeCreate where
  key := some e.key
  kind := e.kind
  label := e.label
  claim := e.claim
  attributes := e.attributes
  verificationStatus := e.status
  confidence := e.confidence
  allowedForResume := e.allowedForResume
  allowedForApplication := e.allowedForApplication
  sourceType := e.sourceType
  sourceRef := some (i.sourceRef e)
  artifactRef := none
  sortOrder := order

def updateData (e : Entry) (order : Nat) : EvidenceNodeUpdate where
  label := some e.label
  claim := some e.claim
  attributes := some e.attributes
  verificationStatus := some e.status
  confidence := some e.confidence
  allowedForResume := e.allowedForResume
  allowedForApplication := e.allowedForApplication
  sourceType := some e.sourceType
  sourceRef := some (i.sourceRef e)
  artifactRef := none
  sortOrder := some order

/-- `_upsert` -/
def upsert (s : Importing) (e : Entry) : Option Importing :=
  let order := s.order + 1
  let hash := i.recordHash e.record
  match found : s.graph.nodes.get e.key with
  | none =>
    (createNode i.unicode i.actor now s.graph (i.createData e order) (some hash)).map fun g =>
      ⟨g, order, { s.report with created := s.report.created ++ [e.key] }⟩
  | some row =>
    if row.sourceHash = some hash ∧ force = false then
      -- the order alone is no change of content
      some ⟨s.graph.setNode e.key (s.graph.key_ne found) { row with sortOrder := order }, order,
        { s.report with skipped := s.report.skipped ++ [e.key] }⟩
    else
      (updateNode i.actor now s.graph e.key (i.updateData e order) (some hash)).map fun g =>
        ⟨g, order, { s.report with updated := s.report.updated ++ [e.key] }⟩

/-- `_link` -/
def link (s : Importing) (source target : Text) (relation : RelationType) (position : Nat) :
    Option Importing :=
  (addRelationship s.graph source target relation position).map fun g =>
    ⟨g.1, s.order, { s.report with
      relationshipsCreated := s.report.relationshipsCreated + if g.2 then 1 else 0 }⟩

def step (s : Importing) : Step → Option Importing
  | .upsert e => i.upsert now force s e
  | .link source target relation position => link s source target relation position
  | .linkIfExists source target relation position =>
    if (s.graph.nodes.get source).isNone ∨ (s.graph.nodes.get target).isNone then some s
    else link s source target relation position

/-- `_import_profile` -/
def importProfile (doc : SeedDocument) (row : Option ProfileRow) :
    Option (Option ProfileRow × ProfileAction) :=
  let hash := i.recordHash (.profile doc.profile doc.preferences)
  if doc.profile = [] then some (row, .skipped)
  else if (row.any fun r => r.sourceHash = some hash) && !force then some (row, .skipped)
  else (upsertProfile i.unicode doc.profile doc.preferences hash row).map fun r => (some r.1, r.2)

/-- `import_data`: the rows afterwards and the report; nothing when a record is refused. -/
def importData (doc : SeedDocument) (g : Graph) : Option (Graph × ImportReport) := do
  let (profile, action) ← i.importProfile force doc g.profile
  let s ← (doc.steps i).foldlM (i.step now force)
    ⟨{ g with profile := profile }, 0, ⟨action, [], [], [], 0⟩⟩
  return (s.graph, s.report)

end Importer

end RangeApply.Evidence
