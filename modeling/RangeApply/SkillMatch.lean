import RangeApply.FitScore
import RangeApply.Table
import RangeApply.Taxonomy

/-! A required skill against the candidate's vocabulary: the matcher with its layers, and the
evidence that stands behind the term it finds. Semantic matching is off. -/
namespace RangeApply.Fit

inductive EvidenceStrength
  | directVerified | strongDemonstrated | supporting | indirect | adjacent | none_
  deriving DecidableEq

namespace EvidenceStrength

/-- How defensible a claim is, the strongest with the greatest rank. -/
def rank : EvidenceStrength → Nat
  | directVerified => 5
  | strongDemonstrated => 4
  | supporting => 3
  | indirect => 2
  | adjacent => 1
  | none_ => 0

/-- `_status_from_strength`. -/
def status (s : EvidenceStrength) : MatchStatus :=
  if s = directVerified ∨ s = strongDemonstrated then .matched
  else if s = supporting ∨ s = indirect ∨ s = adjacent then .partial_
  else .missing

end EvidenceStrength

/-- The order of the three statuses that evidence can give. -/
def MatchStatus.rank : MatchStatus → Nat
  | matched => 2
  | partial_ => 1
  | missing => 0
  | unknown => 0
  | notApplicable => 0

/-- The layer that found a match. -/
inductive MatchMethod
  | exact_ | alias_ | related | lexical | none_
  deriving DecidableEq

structure SkillMatch where
  requirement : Text
  matchedSkill : Option Text
  strength : EvidenceStrength
  method : MatchMethod
  similarity : ℚ

/-- What a taxonomy tells of a term: the skill it means, and the skills beside that one. -/
structure TaxonomyProvider where
  canonicalize : Text → Option Text
  related : Text → List Text

/-- The matcher, with the taxonomy and the similarity of two texts that it is given. -/
structure SkillMatcher where
  unicode : Unicode
  taxonomy : TaxonomyProvider
  ratio : Text → Text → ℚ

/-- `LEXICAL_THRESHOLD`. -/
def lexicalThreshold : ℚ := 22 / 25

namespace SkillMatcher
variable (m : SkillMatcher) (requirement : Text)

/-- `_normalize`. -/
def normalize (term : Text) : Text :=
  (m.unicode.lower (Text.strip term)).filter fun c => !c.isBlank && c ∉ ['.', '_', '/', '-']

/-- The skill that the requirement means, if the taxonomy knows one. -/
def canonical (term : Text) : Option Text := (m.taxonomy.canonicalize term).bind Text.orNone

/-- Layer 1: equal when normalized. -/
def exact (skill : Text) : Bool := m.normalize skill = m.normalize requirement

/-- Layer 2: another name of the same skill. -/
def alias_ (skill : Text) : Bool :=
  (m.canonical requirement).any fun canonical => m.taxonomy.canonicalize skill = some canonical

/-- Layer 3: a curated edge, in either direction. -/
def adjacent (skill : Text) : Bool :=
  (m.canonical requirement).any fun canonical => (m.canonical skill).any fun other =>
    ((m.taxonomy.related canonical).map m.unicode.lower).contains (m.unicode.lower other) ||
      ((m.taxonomy.related other).map m.unicode.lower).contains (m.unicode.lower canonical)

/-- How much a term looks like the requirement. -/
def likeness (skill : Text) : ℚ := m.ratio (m.normalize requirement) (m.normalize skill)

def nearer (best : Option Text × ℚ) (skill : Text) : Option Text × ℚ :=
  if best.2 < m.likeness requirement skill then (some skill, m.likeness requirement skill) else best

/-- Layer 4: the first of the terms that look most like the requirement. -/
def closest (candidates : List Text) : Option Text × ℚ :=
  candidates.foldl (m.nearer requirement) (none, 0)

def match_ (candidateSkills : List Text) : SkillMatch :=
  let candidates := candidateSkills.filter (· ≠ [])
  if requirement = [] ∨ candidates = [] then ⟨requirement, none, .none_, .none_, 0⟩
  else
    match candidates.find? (m.exact requirement) with
    | some skill => ⟨requirement, some skill, .directVerified, .exact_, 1⟩
    | none =>
      match candidates.find? (m.alias_ requirement) with
      | some skill => ⟨requirement, some skill, .directVerified, .alias_, 1⟩
      | none =>
        match candidates.find? (m.adjacent requirement) with
        | some skill => ⟨requirement, some skill, .adjacent, .related, 3 / 5⟩
        | none =>
          let best := m.closest requirement candidates
          if best.1.isSome ∧ lexicalThreshold ≤ best.2 then
            ⟨requirement, best.1, .supporting, .lexical, best.2⟩
          else ⟨requirement, none, .none_, .none_, best.2⟩

end SkillMatcher

def SkillMatch.isMatch (r : SkillMatch) : Bool :=
  r.matchedSkill.isSome && r.strength ≠ .none_

/-- The curated edges of the default taxonomy. -/
def relatedSkills : List (String × List String) := [
  ("Python", ["FastAPI", "Django", "Flask"]), ("Go", ["gRPC", "Kubernetes"]),
  ("Java", ["Spring Boot"]), ("JavaScript", ["Node.js", "React"]),
  ("TypeScript", ["JavaScript", "React"]), ("C#", [".NET"]), ("Kotlin", ["Android"]),
  ("Swift", ["iOS"]), ("Ruby", ["Ruby on Rails"]), ("PHP", ["Laravel"]), ("Scala", ["Spark"]),
  ("Dart", ["Flutter"]), ("FastAPI", ["Python", "REST APIs"]), ("Django", ["Python"]),
  ("Flask", ["Python"]), ("Node.js", ["JavaScript", "Express"]), ("Express", ["Node.js"]),
  ("Spring Boot", ["Java"]), ("Ruby on Rails", ["Ruby"]), ("Laravel", ["PHP"]), (".NET", ["C#"]),
  ("NestJS", ["TypeScript"]), ("gRPC", ["Protocol Buffers"]),
  ("React", ["JavaScript", "TypeScript"]), ("Next.js", ["React"]), ("Redux", ["React"]),
  ("React Native", ["React"]), ("Flutter", ["Dart"]), ("Android", ["Kotlin", "Java"]),
  ("iOS", ["Swift"]), ("pgvector", ["PostgreSQL"]), ("GitHub Actions", ["CI/CD"]),
  ("Kafka", ["Event-Driven Architecture"]), ("Celery", ["Python"]),
  ("PyTorch", ["Deep Learning", "Python"]), ("TensorFlow", ["Deep Learning"]),
  ("Keras", ["TensorFlow"]), ("scikit-learn", ["Machine Learning"]), ("Pandas", ["Python"]),
  ("NumPy", ["Python"]), ("LangChain", ["LLMs"]), ("RAG", ["LLMs", "Vector Databases"]),
  ("Prompt Engineering", ["LLMs"])]

/-- The default taxonomy. -/
def defaultTaxonomy (u : Unicode) : TaxonomyProvider where
  canonicalize := canonicalize u
  related canonical :=
    (((relatedSkills.find? fun e => e.1.ascii = canonical).map Prod.snd).getD []).map String.ascii

/-! ### The Career Brain -/

structure Skill where
  id : String
  name : Text
  isVerified : Bool

/-- A project, or a time of work experience, with the technologies used in it. -/
structure TechnicalEntry where
  id : String
  technologies : List Text

structure CareerBrain where
  skills : List Skill
  projects : List TechnicalEntry
  experience : List TechnicalEntry

/-- The candidate's vocabulary, by lower case names. -/
structure SkillIndex where
  verifiedSkills : Table Text String
  unverifiedSkills : Table Text String
  projectTech : Table Text (List String)
  experienceTech : Table Text (List String)

namespace SkillIndex

def register (u : Unicode) (index : Table Text String) (skills : List Skill) : Table Text String :=
  skills.foldl (fun t skill => t.set (u.lower skill.name) skill.id) index

def collect (u : Unicode) (index : Table Text (List String)) (entries : List TechnicalEntry) :
    Table Text (List String) :=
  entries.foldl (fun t entry => entry.technologies.foldl (fun t tech =>
    t.set (u.lower tech) ((t.get (u.lower tech)).getD [] ++ [entry.id])) t) index

/-- `_build_index`. -/
def build (u : Unicode) (brain : CareerBrain) : SkillIndex where
  verifiedSkills := register u .empty (brain.skills.filter Skill.isVerified)
  unverifiedSkills := register u .empty (brain.skills.filter fun skill => !skill.isVerified)
  projectTech := collect u .empty brain.projects
  experienceTech := collect u .empty brain.experience

def keys (index : SkillIndex) : List Text :=
  index.verifiedSkills.rows.map Prod.fst ++ index.unverifiedSkills.rows.map Prod.fst ++
    index.projectTech.rows.map Prod.fst ++ index.experienceTech.rows.map Prod.fst

/-- `all_terms`: each once, in order. -/
def allTerms (index : SkillIndex) : List Text := index.keys.dedup.insertionSort (· ≤ ·)

end SkillIndex

structure ResolvedEvidence where
  strength : EvidenceStrength
  references : List String
  description : String
  method : MatchMethod
  similarity : ℚ

def MatchMethod.value : MatchMethod → String
  | exact_ => "exact"
  | alias_ => "alias"
  | related => "related"
  | lexical => "lexical"
  | none_ => "none"

/-- A claim of that strength when the term is the requirement's own, and a signal otherwise. -/
def SkillMatch.claim (r : SkillMatch) (strength : EvidenceStrength) : EvidenceStrength :=
  if r.method = .exact_ ∨ r.method = .alias_ then strength else .supporting

/-- `resolve_skill`. -/
def resolveSkill (m : SkillMatcher) (brain : CareerBrain) (skillName : Text) : ResolvedEvidence :=
  let index := SkillIndex.build m.unicode brain
  let r := m.match_ skillName index.allTerms
  if r.isMatch = false then
    ⟨.none_, [], "No evidence found in the Career Brain.", .none_, 0⟩
  else
    let found := r.matchedSkill.getD []
    let name := String.ofList found
    let key := m.unicode.lower found
    if r.method = .related then
      let named (skills : Table Text String) := (skills.get key).filter (· ≠ "")
      let reference := ((named index.verifiedSkills).or (named index.unverifiedSkills)).or
        ((index.projectTech.get key).bind List.head?)
      ⟨r.strength, (reference.filter (· ≠ "")).toList,
        s!"No direct evidence for '{String.ofList skillName}'; adjacent experience with " ++
          s!"'{name}' ({r.method.value}).", r.method, r.similarity⟩
    else
      match index.verifiedSkills.get key with
      | some id =>
        let projects := (index.projectTech.get key).getD []
        let used := (index.projectTech.get key).elim "" fun ids =>
          s!" (used in {ids.length} project(s))"
        ⟨r.claim .directVerified, id :: projects, s!"Verified skill: {name}" ++ used, r.method,
          r.similarity⟩
      | none =>
        match index.projectTech.get key with
        | some projects =>
          ⟨r.claim .strongDemonstrated, projects,
            "Demonstrated in project(s): " ++ ", ".intercalate projects, r.method, r.similarity⟩
        | none =>
          match index.experienceTech.get key with
          | some experiences =>
            ⟨r.claim .strongDemonstrated, experiences,
              "Used in experience: " ++ ", ".intercalate experiences, r.method, r.similarity⟩
          | none =>
            match index.unverifiedSkills.get key with
            | some id =>
              ⟨.supporting, [id], s!"Declared but unverified skill: {name}", r.method,
                r.similarity⟩
            | none =>
              ⟨r.strength, [], s!"Related to '{name}' ({r.method.value})", r.method,
                r.similarity⟩

end RangeApply.Fit
