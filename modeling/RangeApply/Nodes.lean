import RangeApply.Composer

/-! A candidate's evidence graph as it is stored: the profile, the nodes by their key and the
relationships between them. -/
namespace RangeApply.Evidence

/-- A value of a JSON document. Of a nested one only a text is kept that equal values share. -/
inductive Value
  | null
  | flag (b : Bool)
  | int (n : Int)
  | float (q : ℚ)
  | text (t : Text)
  | texts (ts : List Text)
  | nested (canonical : Text)
  deriving DecidableEq

namespace Value

def truthy : Value → Bool
  | null => false
  | flag b => b
  | int n => n ≠ 0
  | float q => q ≠ 0
  | text t => t ≠ []
  | texts ts => ts ≠ []
  | nested _ => true

def number : Value → Option ℚ
  | flag b => some (if b then 1 else 0)
  | int n => some n
  | float q => some q
  | _ => none

/-- `==`: numbers are compared as such. -/
def same (a b : Value) : Bool :=
  match a.number, b.number with
  | some x, some y => x = y
  | _, _ => a = b

end Value

abbrev Dict := List (Text × Value)

namespace Dict

def get (d : Dict) (key : Text) : Option Value := d.lookup key

def truthy (d : Dict) (key : Text) : Bool := (d.get key).any Value.truthy

def same (d d' : Dict) : Bool :=
  d.all (fun e => (d'.get e.1).any e.2.same) && d'.all fun e => (d.get e.1).isSome

end Dict

/-! ### Slugs -/

def slugChar (c : Char) : Bool := ('a' ≤ c && c ≤ 'z') || ('0' ≤ c && c ≤ '9')

/-- `_SLUG_RE.sub("-", text)`: one dash for a run of other characters. -/
def dashed : Text → Text
  | [] => []
  | c :: rest =>
    if slugChar c then c :: dashed rest
    else match dashed rest with
      | '-' :: more => '-' :: more
      | more => '-' :: more

def slugify (u : Unicode) (text : Text) : Text :=
  match Text.stripMarks ['-'] ((Text.stripMarks ['-'] (dashed (u.lower text))).take 60) with
  | [] => "item".ascii
  | slug => slug

/-! ### The profile -/

structure ProfileRow where
  fields : Dict
  preferences : Dict
  sourceHash : Option String
  version : Nat

def profileFields : List Text :=
  ["name".ascii, "email".ascii, "phone".ascii, "location".ascii, "work_authorization".ascii,
    "degree".ascii, "branch".ascii, "college".ascii, "graduation_year".ascii,
    "current_academic_status".ascii, "cgpa".ascii, "backlogs".ascii, "github".ascii,
    "linkedin".ascii, "portfolio".ascii, "positioning_statement".ascii, "long_term_goal".ascii]

def profileLinkFields : List Text := ["github".ascii, "linkedin".ascii, "portfolio".ascii]

/-- The columns that may be null. -/
def nullableFields : List Text :=
  ["email".ascii, "phone".ascii, "location".ascii, "work_authorization".ascii] ++ profileLinkFields

/-- What a column holds that was not given. -/
def columnDefault (field : Text) : Value :=
  if field ∈ nullableFields then .null
  else if field = "graduation_year".ascii then .int 0
  else if field = "cgpa".ascii then .float 0
  else .text []

def ProfileRow.get (row : ProfileRow) (field : Text) : Value :=
  (row.fields.get field).getD (columnDefault field)

def linkSchemeRe : Pattern := .of false false "^\\s*([a-zA-Z][a-zA-Z0-9+.-]*):".ascii

def linkHostRe : Pattern := .of true false "^\\s*[\\w.-]+\\.[a-z]\x7b2,\x7d:\\d".ascii

def badLink (u : Unicode) : Value → Bool
  | .text link =>
    match linkSchemeRe.matchStart u link with
    | none => false
    | some scheme =>
      u.lower (scheme.group 1) ∉ ["http".ascii, "https".ascii] &&
        (linkHostRe.matchStart u link).isNone
  | _ => false

/-- `_check_profile_values`: the values that no real profile can hold are refused. -/
def checkProfileValues (u : Unicode) (fields : Dict) : Bool :=
  (match fields.get "graduation_year".ascii with
    | none | some .null => true
    | some (.int year) => 1950 ≤ year && year ≤ 2100
    | some _ => false) &&
  (match fields.get "cgpa".ascii with
    | none | some .null => true
    | some (.int n) => 0 ≤ n && n ≤ 100
    | some (.float q) => 0 ≤ q && q ≤ 100
    | some _ => false) &&
  profileLinkFields.all fun field => !(fields.get field).any (badLink u)

inductive ProfileAction
  | created | updated | skipped
  deriving DecidableEq

/-- `upsert_profile`: the row afterwards and what was done. -/
def upsertProfile (u : Unicode) (fields preferences : Dict) (sourceHash : String) :
    Option ProfileRow → Option (ProfileRow × ProfileAction)
  | row => do
    let clean : Dict := fields.filter fun e => e.1 ∈ profileFields
    guard (checkProfileValues u clean)
    match row with
    | none =>
      guard (clean.truthy "name".ascii)
      guard (clean.all fun e => e.2 ≠ .null || e.1 ∈ nullableFields)
      return (⟨clean, preferences, some sourceHash, 1⟩, .created)
    | some row =>
      if clean.all (fun e => (row.get e.1).same e.2) && row.preferences.same preferences then
        return ({ row with sourceHash := some sourceHash }, .skipped)
      else
        guard (clean.all fun e => e.2 ≠ .null || e.1 ∈ nullableFields)
        return (⟨clean ++ row.fields, preferences, some sourceHash, row.version + 1⟩, .updated)

/-! ### Nodes -/

inductive EvidenceSourceType
  | candidateEntered | seedFile | resume | linkedinExport | portfolio | github | importedDocument
  | manualConfirmation | inferred | llmExtracted | other
  deriving DecidableEq

/-- A row of `evidence_nodes`, beside its key. -/
structure NodeRow where
  kind : EvidenceKind
  label : Text
  claim : Text
  attributes : Dict
  verificationStatus : EvidenceVerification
  confidence : ℚ
  allowedForResume : Bool
  allowedForApplication : Bool
  sourceType : EvidenceSourceType
  sourceRef : Option Text
  sourceHash : Option String
  artifactRef : Option Text
  verifiedBy : Option Text
  verifiedAt : Option Time
  removed : Bool
  sortOrder : Int
  version : Nat
  deriving DecidableEq

/-- The two keys and the relation. -/
abbrev Link := Text × Text × RelationType

/-- The rows of a tenant. A relationship holds between nodes that are there, and no node has the
empty key. -/
structure Graph where
  profile : Option ProfileRow
  nodes : Table Text NodeRow
  relationships : Table Link Nat
  ends : ∀ r ∈ relationships.rows, (nodes.get r.1.1).isSome ∧ (nodes.get r.1.2.1).isSome
  named : nodes.get [] = none

namespace Graph

def empty : Graph := ⟨none, .empty, .empty, nofun, rfl⟩

def setNode (g : Graph) (key : Text) (given : key ≠ []) (row : NodeRow) : Graph where
  profile := g.profile
  nodes := g.nodes.set key row
  relationships := g.relationships
  ends r here := by
    have kept (k : Text) (there : (g.nodes.get k).isSome) :
        ((g.nodes.set key row).get k).isSome := by
      by_cases same : k = key
      · rw [same, Table.get_set_self]
        rfl
      · rwa [Table.get_set_other _ _ same]
    exact ⟨kept _ (g.ends r here).1, kept _ (g.ends r here).2⟩
  named := by rw [Table.get_set_other _ _ given.symm, g.named]

theorem key_ne (g : Graph) {key : Text} {row : NodeRow} (found : g.nodes.get key = some row) :
    key ≠ [] := by
  rintro rfl
  rw [g.named] at found
  cases found

end Graph

/-- `check_truth_rules` lets the flags pass. -/
def checkTruthRules (status : EvidenceVerification) (resume application : Bool) : Bool :=
  !(status = .conflict && (resume || application)) &&
  !(status = .inferred && (resume || application)) &&
  !(status ≠ .verified && application)

structure EvidenceNodeCreate where
  key : Option Text
  kind : EvidenceKind
  label : Text
  claim : Text
  attributes : Dict
  verificationStatus : EvidenceVerification
  confidence : ℚ
  allowedForResume : Option Bool
  allowedForApplication : Option Bool
  sourceType : EvidenceSourceType
  sourceRef : Option Text
  artifactRef : Option Text
  sortOrder : Int

/-- A field that is omitted and one that is null are treated alike. -/
structure EvidenceNodeUpdate where
  label : Option Text
  claim : Option Text
  attributes : Option Dict
  verificationStatus : Option EvidenceVerification
  confidence : Option ℚ
  allowedForResume : Option Bool
  allowedForApplication : Option Bool
  sourceType : Option EvidenceSourceType
  sourceRef : Option Text
  artifactRef : Option Text
  sortOrder : Option Int

/-! The bounds of the fields. -/

def validLabel (label : Text) : Bool := 1 ≤ label.length && label.length ≤ 256

def validConfidence (confidence : ℚ) : Bool := 0 ≤ confidence && confidence ≤ 1

def EvidenceNodeCreate.valid (d : EvidenceNodeCreate) : Bool :=
  validLabel d.label && d.claim ≠ [] && validConfidence d.confidence

def EvidenceNodeUpdate.valid (d : EvidenceNodeUpdate) : Bool :=
  d.label.all validLabel && d.claim ≠ some [] && d.confidence.all validConfidence

/-- `UNTRUSTED_SOURCE_TYPES` -/
def untrustedSourceTypes : List EvidenceSourceType := [.inferred, .llmExtracted]

def kindValue : EvidenceKind → Text
  | .skill => "skill".ascii
  | .project => "project".ascii
  | .experience => "experience".ascii
  | .achievement => "achievement".ascii
  | .education => "education".ascii
  | .credential => "credential".ascii
  | .metric => "metric".ascii
  | .responsibility => "responsibility".ascii
  | .link => "link".ascii
  | .fact => "fact".ascii
  | .other => "other".ascii

/-- The key of a new node: the one that is given, or else one made from the kind and the label. -/
def EvidenceNodeCreate.nodeKey (u : Unicode) (d : EvidenceNodeCreate) : Text :=
  match d.key with
  | none | some [] => kindValue d.kind ++ ':' :: slugify u d.label
  | some key => key

theorem nodeKey_ne (u : Unicode) (d : EvidenceNodeCreate) : d.nodeKey u ≠ [] := by
  unfold EvidenceNodeCreate.nodeKey
  split
  · exact List.append_ne_nil_of_right_ne_nil _ (List.cons_ne_nil _ _)
  · exact List.append_ne_nil_of_right_ne_nil _ (List.cons_ne_nil _ _)
  · assumption

section Write
variable (u : Unicode) (actor : Text) (now : Time)

/-- The row that `create_node` adds. -/
def EvidenceNodeCreate.row (d : EvidenceNodeCreate) (sourceHash : Option String) : NodeRow :=
  let verified := decide (d.verificationStatus = .verified)
  { kind := d.kind
    label := d.label.take 256
    claim := d.claim
    attributes := d.attributes
    verificationStatus := d.verificationStatus
    confidence := d.confidence
    allowedForResume := d.allowedForResume.getD verified
    allowedForApplication := d.allowedForApplication.getD verified
    sourceType := d.sourceType
    sourceRef := d.sourceRef
    sourceHash := sourceHash
    artifactRef := d.artifactRef
    verifiedBy := if verified then some actor else none
    verifiedAt := if verified then some now else none
    removed := false
    sortOrder := d.sortOrder
    version := 1 }

/-- `create_node`: nothing when the data is refused or the key is taken. -/
def createNode (g : Graph) (d : EvidenceNodeCreate) (sourceHash : Option String) : Option Graph :=
  let row := d.row actor now sourceHash
  if !d.valid then none
  else if (g.nodes.get (d.nodeKey u)).isSome then none
  else if d.sourceType ∈ untrustedSourceTypes ∧ d.verificationStatus = .verified then none
  else if !checkTruthRules d.verificationStatus row.allowedForResume row.allowedForApplication then
    none
  else some (g.setNode (d.nodeKey u) (nodeKey_ne u d) row)

/-- The row with the changes, its version aside. -/
def EvidenceNodeUpdate.row (d : EvidenceNodeUpdate) (sourceHash : Option String) (row : NodeRow) :
    NodeRow :=
  let newStatus := d.verificationStatus.getD row.verificationStatus
  let statusChanged := decide (newStatus ≠ row.verificationStatus)
  let verifiedNow := decide (newStatus = .verified)
  { row with
    label := (d.label.map (·.take 256)).getD row.label
    claim := d.claim.getD row.claim
    attributes := d.attributes.getD row.attributes
    verificationStatus := newStatus
    confidence := d.confidence.getD row.confidence
    allowedForResume := d.allowedForResume.getD
      (if statusChanged then verifiedNow else row.allowedForResume)
    allowedForApplication := d.allowedForApplication.getD
      (if statusChanged then verifiedNow else row.allowedForApplication)
    sourceType := d.sourceType.getD row.sourceType
    sourceRef := d.sourceRef.or row.sourceRef
    sourceHash := sourceHash.or row.sourceHash
    artifactRef := d.artifactRef.or row.artifactRef
    verifiedBy := if statusChanged then if verifiedNow then some actor else none else row.verifiedBy
    verifiedAt := if statusChanged then if verifiedNow then some now else none else row.verifiedAt
    sortOrder := d.sortOrder.getD row.sortOrder }

/-- The snapshots of a row before and after differ in nothing. -/
def NodeRow.unchanged (before after : NodeRow) : Bool :=
  { after with attributes := before.attributes, sourceHash := before.sourceHash } = before &&
    after.attributes.same before.attributes

/-- `update_node`: nothing when the key is unknown or the data is refused. A row that nothing changes
keeps its version. -/
def updateNode (g : Graph) (key : Text) (d : EvidenceNodeUpdate) (sourceHash : Option String) :
    Option Graph :=
  match found : g.nodes.get key with
  | none => none
  | some row =>
    let after := d.row actor now sourceHash row
    if !d.valid then none
    else if !checkTruthRules after.verificationStatus after.allowedForResume
        after.allowedForApplication then none
    else some (g.setNode key (g.key_ne found)
      (if row.unchanged after then after else { after with version := row.version + 1 }))

end Write

/-- The row in the other state, and one version on. -/
def NodeRow.withRemoved (row : NodeRow) (removed : Bool) : NodeRow :=
  if row.removed = removed then row
  else { row with removed := removed, version := row.version + 1 }

def setRemoved (removed : Bool) (g : Graph) (key : Text) : Option Graph :=
  match found : g.nodes.get key with
  | none => none
  | some row => some (g.setNode key (g.key_ne found) (row.withRemoved removed))

def removeNode : Graph → Text → Option Graph := setRemoved true

def restoreNode : Graph → Text → Option Graph := setRemoved false

/-! ### Relationships -/

/-- `add_relationship`: a link between two nodes that are there, and whether it is new. -/
def addRelationship (g : Graph) (source target : Text) (relation : RelationType) (position : Nat) :
    Option (Graph × Bool) :=
  if there : (g.nodes.get source).isSome ∧ (g.nodes.get target).isSome then
    some ({ g with
      relationships := g.relationships.set (source, target, relation) position
      ends := by
        have all : g.relationships.All fun l _ =>
          (g.nodes.get l.1).isSome ∧ (g.nodes.get l.2.1).isSome := g.ends
        exact Table.all_set all there },
      (g.relationships.get (source, target, relation)).isNone)
  else none

end RangeApply.Evidence
