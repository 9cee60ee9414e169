import Mathlib.Data.List.Infix
import RangeApply.Gate

/-! What the truth gate lets through. A claim that is kept rests on confirmed evidence, and what it
says of numbers and skills is found in what it cites or in the wording of the job. -/
namespace RangeApply

/-! ### Whole terms -/

/-- The term stands in the text with no part of a word next to it. -/
def WholeTerm (u : Unicode) (term text : Text) : Prop :=
  ∃ before after, text = before ++ term ++ after ∧
    (∀ c ∈ before.getLast?, leadingChar.has u true c = false) ∧
    ∀ c ∈ after.head?, termChar.has u true c = false

/-- The term stands in the text as a part of a longer word. -/
def InsideWord (u : Unicode) (term text : Text) : Prop :=
  ∃ before after, text = before ++ term ++ after ∧
    ((∃ c ∈ before.getLast?, leadingChar.has u true c = true) ∨
      ∃ c ∈ after.head?, termChar.has u true c = true)

theorem Text.split_of_occurs {term text : Text} (found : Text.occurs term text = true) :
    ∃ before after, text = before ++ term ++ after := by
  simp only [Text.occurs, List.any_eq_true, List.mem_tails, List.isPrefixOf_iff_prefix] at found
  obtain ⟨rest, ⟨before, suffix⟩, ⟨after, here⟩⟩ := found
  refine ⟨before, after, ?_⟩
  rw [List.append_assoc, here, suffix]

theorem whole_or_inside (u : Unicode) {term text : Text} (found : Text.occurs term text = true) :
    WholeTerm u term text ∨ InsideWord u term text := by
  obtain ⟨before, after, split⟩ := Text.split_of_occurs found
  by_cases free : (∀ c ∈ before.getLast?, leadingChar.has u true c = false) ∧
      ∀ c ∈ after.head?, termChar.has u true c = false
  · exact .inl ⟨before, after, split, free⟩
  · refine .inr ⟨before, after, split, ?_⟩
    rw [not_and_or] at free
    apply free.imp
    · intro attached
      push Not at attached
      obtain ⟨c, last, bound⟩ := attached
      exact ⟨c, last, by simpa using bound⟩
    · intro attached
      push Not at attached
      obtain ⟨c, first, bound⟩ := attached
      exact ⟨c, first, by simpa using bound⟩

/-! ### What a passing check shows -/

section Passing
variable {u : Unicode} {evidence : GateEvidence} {block : Block} {index : Option Nat}

theorem keyIssue_none {key : String} :
    keyIssue evidence block index key = none ↔ evidence.isSafe key = true := by
  cases found : evidence.node key with
  | none =>
    by_cases removed : key ∈ evidence.removedKeys <;>
      simp [keyIssue, found, removed, CareerBrain.isSafe]
  | some node =>
    cases status : node.verificationStatus <;>
      simp [keyIssue, found, status, validateClaim, CareerBrain.isSafe, CareerBrain.safe]

theorem numberIssue_none {context : ValidationContext} {number : Text} :
    numberIssue u evidence block index context number = none ↔
      let allowed := context.numbers ++ block.evidenceKeys.flatMap (evidence.nodeNumbers u)
      number ∈ allowed ∨ Text.rstrip ['+', '%'] number ∈ allowed := by
  dsimp only [numberIssue]
  split
  · simp only [*]
  · simp only [*, reduceCtorEq]

theorem skillIssue_none {context : ValidationContext} {skill : Text} :
    skillIssue u evidence block index context skill = none ↔
      (canonicalize u skill).getD (u.lower skill) ∈ evidence.confirmedSkills u ∨
        skill ∈ context.skills ++ block.evidenceKeys.flatMap (evidence.nodeSkills u) ∨
        Text.occurs (u.lower skill) (corpus u evidence block context) = true := by
  dsimp only [skillIssue]
  split
  · simp only [*]
  · simp only [*, reduceCtorEq]

/-- A claim without an issue has passed every one of the checks. -/
theorem validateBlock_nil {context : ValidationContext} (claim : block.kind = .claim)
    (valid : validateBlock u evidence block index context = []) :
    block.evidenceKeys ≠ [] ∧
      (∀ key ∈ block.evidenceKeys, keyIssue evidence block index key = none) ∧
      (∀ number ∈ numbersIn u (u.lower block.text),
        numberIssue u evidence block index context number = none) ∧
      ∀ skill ∈ findSkillsInText u block.text,
        skillIssue u evidence block index context skill = none := by
  have stated : block.kind ≠ .framing := by simp [claim]
  simp only [validateBlock, stated, if_false] at valid
  split at valid
  · cases valid
  · rename_i cites
    split at valid
    · contradiction
    · rename_i sound
      simp only [ne_eq, not_not, List.filterMap_eq_nil_iff] at sound
      simp only [List.append_eq_nil_iff, List.filterMap_eq_nil_iff] at valid
      exact ⟨cites, sound, valid.1, valid.2⟩

/-- What is kept was there before, and validates. -/
theorem mem_dropFailing {blocks : List Block} {context : ValidationContext}
    (kept : block ∈ (dropFailing u evidence blocks context).1) :
    block ∈ blocks ∧ ∃ i, validateBlock u evidence block (some i) context = [] := by
  simp only [dropFailing, validated, List.mem_map, List.mem_filter, decide_eq_true_eq] at kept
  obtain ⟨_, ⟨⟨⟨b, i⟩, member, rfl⟩, valid⟩, rfl⟩ := kept
  exact ⟨List.fst_mem_of_mem_zipIdx member, i, valid⟩

end Passing

/-! ### Grounded claims -/

section Grounded
variable (u : Unicode) (evidence : GateEvidence) (context : Text) (block : Block)

/-- The texts that a claim may rest on: the context and what each cited node says. -/
def citedTexts : List Text :=
  context :: (block.evidenceKeys.filterMap evidence.node).map evidence.fullText

def NumberCited (number : Text) : Prop :=
  ∃ text ∈ citedTexts evidence context block, number ∈ numbersIn u (u.lower text)

def SkillCited (skill : Text) : Prop :=
  ∃ text ∈ citedTexts evidence context block, skill ∈ findSkillsInText u text

instance (number : Text) : Decidable (NumberCited u evidence context block number) :=
  inferInstanceAs (Decidable (∃ text ∈ citedTexts evidence context block, _))

/-- The candidate's confirmed skills name it, or mention it. -/
def SkillConfirmed (skill : Text) : Prop :=
  (canonicalize u skill).getD (u.lower skill) ∈ evidence.confirmedSkills u

structure Grounded : Prop where
  cites : block.evidenceKeys ≠ []
  confirmed : ∀ key ∈ block.evidenceKeys, ∃ node, evidence.node key = some node ∧
    node.verificationStatus = .verified ∧ node.allowedForApplication = true
  numbers : ∀ number ∈ numbersIn u (u.lower block.text),
    NumberCited u evidence context block number ∨
      NumberCited u evidence context block (Text.rstrip ['+', '%'] number)
  skills : ∀ skill ∈ findSkillsInText u block.text,
    let cited := corpus u evidence block (.fromText u context)
    ¬InsideWord u (u.lower skill) cited →
      SkillConfirmed u evidence skill ∨ SkillCited u evidence context block skill ∨
        WholeTerm u (u.lower skill) cited

variable {u evidence context block}

theorem numberCited_iff {number : Text} :
    NumberCited u evidence context block number ↔
      number ∈ (ValidationContext.fromText u context).numbers ++
        block.evidenceKeys.flatMap (evidence.nodeNumbers u) := by
  simp only [NumberCited, citedTexts, List.exists_mem_cons_iff, List.mem_append,
    List.mem_flatMap, List.mem_map, List.mem_filterMap, ValidationContext.fromText,
    GateEvidence.nodeNumbers, GateEvidence.nodeText]
  apply or_congr_right
  constructor
  · rintro ⟨_, ⟨node, ⟨key, cited, found⟩, rfl⟩, here⟩
    exact ⟨key, cited, by simpa [found] using here⟩
  · rintro ⟨key, cited, here⟩
    cases found : evidence.node key with
    | none => simp [found] at here
    | some node => exact ⟨_, ⟨node, ⟨key, cited, found⟩, rfl⟩, by simpa [found] using here⟩

theorem skillCited_iff {skill : Text} :
    SkillCited u evidence context block skill ↔
      skill ∈ (ValidationContext.fromText u context).skills ++
        block.evidenceKeys.flatMap (evidence.nodeSkills u) := by
  simp only [SkillCited, citedTexts, List.exists_mem_cons_iff, List.mem_append,
    List.mem_flatMap, List.mem_map, List.mem_filterMap, ValidationContext.fromText,
    GateEvidence.nodeSkills]
  apply or_congr_right
  constructor
  · rintro ⟨_, ⟨node, ⟨key, cited, found⟩, rfl⟩, here⟩
    exact ⟨key, cited, by simpa [found] using here⟩
  · rintro ⟨key, cited, here⟩
    cases found : evidence.node key with
    | none => simp [found] at here
    | some node => exact ⟨_, ⟨node, ⟨key, cited, found⟩, rfl⟩, by simpa [found] using here⟩

theorem confirmed_of_safe {key : String} (safe : evidence.isSafe key = true) :
    ∃ node, evidence.node key = some node ∧ node.verificationStatus = .verified ∧
      node.allowedForApplication = true := by
  simpa [CareerBrain.isSafe, CareerBrain.safe, Option.any_eq_true] using safe

/-- Every claim that the gate keeps is grounded. -/
theorem kept_grounded (u : Unicode) (evidence : GateEvidence) (context : Text)
    (blocks : List Block) (block : Block)
    (kept : block ∈ (dropFailing u evidence blocks (.fromText u context)).1)
    (claim : block.kind = .claim) : Grounded u evidence context block := by
  obtain ⟨-, i, valid⟩ := mem_dropFailing kept
  obtain ⟨cites, keys, numbers, skills⟩ := validateBlock_nil claim valid
  constructor
  · exact cites
  · intro key cited
    exact confirmed_of_safe (keyIssue_none.mp (keys key cited))
  · intro number stated
    have allowed := numberIssue_none.mp (numbers number stated)
    exact allowed.imp numberCited_iff.mpr numberCited_iff.mpr
  · intro skill stated cited alone
    rcases skillIssue_none.mp (skills skill stated) with confirmed | allowed | found
    · exact .inl confirmed
    · exact .inr (.inl (skillCited_iff.mpr allowed))
    · exact .inr (.inr ((whole_or_inside u found).resolve_right alone))

end Grounded

/-! A rate that was never stated as one. -/

/-- A confirmed measure without its unit. -/
def coverageNode : EvidenceNode :=
  ⟨"metric:coverage", .metric, "Coverage".ascii, "99".ascii, [], .verified, true, 0, 0⟩

def coverageEvidence : GateEvidence :=
  ⟨⟨[coverageNode], [], none, by decide⟩, [], fun _ => "\x7b\x7d".ascii⟩

def coverageClaim : Block :=
  ⟨.claim, "projects", "99%".ascii, ["metric:coverage"], "template", none⟩

theorem coverage_passes :
    coverageClaim ∈ (dropFailing .ascii coverageEvidence [coverageClaim] (.fromText .ascii [])).1 := by
  decide +kernel

theorem coverage_grounded : Grounded .ascii coverageEvidence [] coverageClaim :=
  kept_grounded .ascii coverageEvidence [] [coverageClaim] coverageClaim coverage_passes rfl

theorem coverage_kept :
    coverageClaim ∈ (dropFailing .ascii coverageEvidence [coverageClaim] (.fromText .ascii [])).1 ∧
      coverageClaim.kind = .claim ∧
      ¬∀ number ∈ numbersIn .ascii (Unicode.ascii.lower coverageClaim.text),
        NumberCited .ascii coverageEvidence [] coverageClaim number :=
  ⟨coverage_passes, rfl, by decide +kernel⟩

end RangeApply
