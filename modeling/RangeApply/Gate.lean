import RangeApply.Taxonomy

/-! The truth gate: a claim passes when it cites confirmed evidence only, and when its numbers and
its skills are found there or in the wording of the job. A claim that fails is dropped. -/
namespace RangeApply

inductive BlockKind
  | framing | claim
  deriving DecidableEq

/-- One unit of generated content with what backs it. -/
structure Block where
  kind : BlockKind
  section_ : String
  text : Text
  evidenceKeys : List String
  source : String
  requirement : Option Text
  deriving DecidableEq

structure ValidationIssue where
  code : String
  message : String
  blockIndex : Option Nat
  evidenceKeys : List String
  deriving DecidableEq

structure ValidationReport where
  passed : Bool
  checkedBlocks : Nat
  issues : List ValidationIssue
  droppedBlocks : Nat
  deriving DecidableEq

/-- The evidence that the gate consults: the active nodes, the keys of the removed ones, and the
JSON text of each node's attributes. -/
structure GateEvidence extends CareerBrain where
  removedKeys : List String
  attributesText : String → Text

/-! ### What a text contains -/

def numberPattern : Pattern :=
  .of false false "(?<![\\w.])\\d(?:[\\d,]*\\d)?(?:\\.\\d+)?\\+?%?".ascii

def yearRe : Pattern := .of false false "\\b(19|20)\\d\x7b2\x7d\\b".ascii

/-- The numbers of a text in lower case. -/
def numbersIn (u : Unicode) (lowered : Text) : List Text :=
  (numberPattern.all u lowered).map Match.text

/-- Text that may stand in a claim without being evidence. -/
structure ValidationContext where
  text : Text
  numbers : List Text
  skills : List Text

def ValidationContext.fromText (u : Unicode) (text : Text) : ValidationContext :=
  ⟨u.lower text, numbersIn u (u.lower text), findSkillsInText u text⟩

namespace GateEvidence
variable (u : Unicode) (evidence : GateEvidence)

def fullText (n : EvidenceNode) : Text :=
  joined "\n" [n.label, n.claim, evidence.attributesText n.key]

/-- `node_text`. -/
def nodeText (key : String) : Option Text :=
  (evidence.node key).map fun n => u.lower (evidence.fullText n)

def nodeNumbers (key : String) : List Text :=
  ((evidence.nodeText u key).map (numbersIn u)).getD []

def nodeSkills (key : String) : List Text :=
  ((evidence.node key).map fun n => findSkillsInText u (evidence.fullText n)).getD []

/-- `_confirmed_skill_canon`. -/
def confirmedSkills : List Text :=
  (evidence.ofKind .skill).flatMap fun n =>
    (canonicalize u n.label).getD (u.lower n.label) :: evidence.nodeSkills u n.key

end GateEvidence

/-! ### The checks -/

def EvidenceVerification.value : EvidenceVerification → String
  | .verified => "VERIFIED"
  | .unverified => "UNVERIFIED"
  | .inferred => "INFERRED"
  | .conflict => "CONFLICT"
  | .needsReview => "NEEDS_REVIEW"

/-- `TruthValidator.validate_claim` of a claim meant for an application: its complaint, if any. -/
def validateClaim (statement : Text) : EvidenceVerification → Option String
  | .conflict => some ("Conflicting claim rejected: " ++ String.ofList statement)
  | .inferred => some ("Inferred claim cannot be application-safe: " ++ String.ofList statement)
  | .unverified | .needsReview =>
    some ("Unsupported claim rejected: " ++ String.ofList statement)
  | .verified => none

section Validate
variable (u : Unicode) (evidence : GateEvidence)

/-- What is wrong with one cited key. -/
def keyIssue (block : Block) (index : Option Nat) (key : String) : Option ValidationIssue :=
  match evidence.node key with
  | none =>
    if key ∈ evidence.removedKeys then
      some ⟨"removed_evidence", "evidence " ++ key ++ " is removed evidence", index, [key]⟩
    else some ⟨"unresolved_evidence", "evidence " ++ key ++ " is unresolved evidence", index, [key]⟩
  | some node =>
    match validateClaim block.text node.verificationStatus with
    | some complaint => some ⟨"truth_validator_rejected", complaint, index, [key]⟩
    | none =>
      if evidence.isSafe key then none
      else some ⟨"unsafe_evidence",
        "evidence " ++ key ++ " is " ++ node.verificationStatus.value ++
          " and not application-safe", index, [key]⟩

/-- The context and what the cited nodes say, one below the other. -/
def corpus (block : Block) (context : ValidationContext) : Text :=
  joined "\n" (context.text :: block.evidenceKeys.map fun key => (evidence.nodeText u key).getD [])

def numberIssue (block : Block) (index : Option Nat) (context : ValidationContext)
    (number : Text) : Option ValidationIssue :=
  let allowed := context.numbers ++ block.evidenceKeys.flatMap (evidence.nodeNumbers u)
  if number ∈ allowed ∨ Text.rstrip ['+', '%'] number ∈ allowed then none
  else
    let code := if yearRe.fullMatch u number then "unsupported_date" else "unsupported_number"
    some ⟨code, "'" ++ String.ofList number ++ "' does not appear in the cited evidence", index,
      block.evidenceKeys⟩

def skillIssue (block : Block) (index : Option Nat) (context : ValidationContext)
    (skill : Text) : Option ValidationIssue :=
  let canon := (canonicalize u skill).getD (u.lower skill)
  let allowed := context.skills ++ block.evidenceKeys.flatMap (evidence.nodeSkills u)
  if canon ∈ evidence.confirmedSkills u ∨ skill ∈ allowed ∨
      Text.occurs (u.lower skill) (corpus u evidence block context) then none
  else some ⟨"unsupported_skill",
    "skill '" ++ String.ofList skill ++ "' is not confirmed evidence", index, block.evidenceKeys⟩

/-- `PreparationValidator.validate_block`. -/
def validateBlock (block : Block) (index : Option Nat) (context : ValidationContext) :
    List ValidationIssue :=
  if block.kind = .framing then []
  else if block.evidenceKeys = [] then
    [⟨"missing_evidence", "claim cites no evidence", index, []⟩]
  else
    let issues := block.evidenceKeys.filterMap (keyIssue evidence block index)
    if issues ≠ [] then issues
    else
      (numbersIn u (u.lower block.text)).filterMap (numberIssue u evidence block index context) ++
        (findSkillsInText u block.text).filterMap (skillIssue u evidence block index context)

/-- Every block with what is wrong with it. -/
def validated (blocks : List Block) (context : ValidationContext) :
    List (Block × List ValidationIssue) :=
  blocks.zipIdx.map fun (block, i) => (block, validateBlock u evidence block (some i) context)

def claimsOf (blocks : List Block) : Nat := blocks.countP (·.kind = .claim)

/-- `validate_blocks`. -/
def validateBlocks (blocks : List Block) (context : ValidationContext) : ValidationReport :=
  let issues := (validated u evidence blocks context).flatMap (·.2)
  ⟨issues = [], claimsOf blocks, issues, 0⟩

/-- `drop_failing`: the blocks that validate, and a report of what went. -/
def dropFailing (blocks : List Block) (context : ValidationContext) :
    List Block × ValidationReport :=
  let checked := validated u evidence blocks context
  let kept := (checked.filter (·.2 = [])).map (·.1)
  let dropped := checked.countP (·.2 ≠ [])
  (kept, ⟨dropped = 0, claimsOf kept, checked.flatMap (·.2), dropped⟩)

end Validate
end RangeApply
