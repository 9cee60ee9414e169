import Mathlib.Algebra.Order.Archimedean.Basic
import RangeApply.FitLaws

/-! Whether an ineligible job stays below every job that the candidate can take: what the policy's
weights have to do with it. -/
namespace RangeApply.Fit
open Sync (EligibilityStatus)

/-- The arguments of one call of `score`. -/
structure Call where
  eligibility : EligibilityEvaluation
  preferences : Option PreferenceAssessment
  context : JobContext
  assessments : List RequirementAssessment

namespace PolicyWeights
variable (p : PolicyWeights)

def fitOf (call : Call) : Int :=
  p.fit call.eligibility call.preferences call.context call.assessments

/-- No ineligible job outranks another under the policy. -/
def NeverOutranked : Prop :=
  ∀ ineligible other : Call, ineligible.eligibility.status = .ineligible →
    other.eligibility.status ≠ .ineligible → p.fitOf ineligible ≤ p.fitOf other

def weightOf (component : String) : ℚ := (p.weights.lookup component).getD 0

def total : ℚ := (p.weights.map Prod.snd).sum

/-- The weight after normalisation. -/
def share (component : String) : ℚ := (p.normalized.lookup component).getD 0

end PolicyWeights

/-- The components that can be scored. -/
def scoredComponents : List String :=
  ["technical", "experience", "education", "preferences", "eligibility"]

def PolicyWeights.scoredWeight (p : PolicyWeights) : ℚ := (scoredComponents.map p.weightOf).sum

/-! ### Sums over the weights -/

/-- A sum over weights of distinct names, when only the given names count. -/
theorem sum_named (names : List String) (distinct : names.Nodup) (h : String → ℚ)
    (entries : List (String × ℚ)) (named : (entries.map Prod.fst).Nodup)
    (off : ∀ c, c ∉ names → h c = 0) :
    (entries.map fun e => e.2 * h e.1).sum =
      (names.map fun c => (entries.lookup c).getD 0 * h c).sum := by
  induction entries with
  | nil => simp
  | cons e rest ih =>
    obtain ⟨c, w⟩ := e
    obtain ⟨fresh, named⟩ := List.nodup_cons.mp named
    have absent : rest.lookup c = none := by
      rw [List.lookup_eq_none_iff]
      intro e member
      refine bne_iff_ne.mpr ?_
      rintro rfl
      exact fresh (List.mem_map.mpr ⟨e, member, rfl⟩)
    have look (c' : String) : (((c, w) :: rest).lookup c').getD 0 * h c' =
        (rest.lookup c').getD 0 * h c' + if c' = c then w * h c else 0 := by
      by_cases same : c' = c
      · subst same
        simp [absent]
      · have differs : (c' == c) = false := beq_eq_false_iff_ne.mpr same
        simp [List.lookup_cons, differs, same]
    have own : (names.map fun c' => if c' = c then w * h c else 0).sum = w * h c := by
      by_cases member : c ∈ names
      · rw [List.sum_map_ite_eq, List.count_eq_one_of_mem distinct member]
        simp
      · rw [off c member, mul_zero]
        simp
    rw [List.map_cons, List.sum_cons, ih named]
    simp only [look, List.sum_map_add, own]
    ring

namespace PolicyWeights
variable (p : PolicyWeights)

theorem normalized_named : (p.normalized.map Prod.fst).Nodup := by
  unfold normalized
  rw [List.map_map]
  exact p.named

theorem share_eq (c : String) : p.share c = p.weightOf c / p.total := by
  have all (entries : List (String × ℚ)) :
      ((entries.map fun e => (e.1, e.2 / p.total)).lookup c).getD 0 =
        (entries.lookup c).getD 0 / p.total := by
    induction entries with
    | nil => simp
    | cons e rest ih =>
      rw [List.map_cons, List.lookup_cons, List.lookup_cons]
      cases c == e.1 with
      | true => rfl
      | false => exact ih
  exact all p.weights

theorem share_nonneg (c : String) : 0 ≤ p.share c := by
  unfold share
  cases found : p.normalized.lookup c with
  | none => exact le_rfl
  | some w =>
    obtain ⟨before, after, split, -⟩ := List.lookup_eq_some_iff.mp found
    exact p.normalized_nonneg (c, w) (by rw [split]; simp)

/-- The law of the policy, in shares. -/
theorem scored_le_iff : 39 * p.scoredWeight ≤ 80 * p.weightOf "eligibility" ↔
    39 * (scoredComponents.map p.share).sum ≤ 80 * p.share "eligibility" := by
  have scaled : (scoredComponents.map p.share).sum = p.scoredWeight / p.total := by
    simp only [scoredWeight, scoredComponents, List.map_cons, List.map_nil, List.sum_cons,
      List.sum_nil, share_eq]
    ring
  rw [scaled, share_eq, ← mul_div_assoc, ← mul_div_assoc]
  exact (div_le_div_iff_of_pos_right p.positive).symm

end PolicyWeights

section Parts
variable {p : PolicyWeights} {weights : List (String × ℚ)}
  {assessments others : List RequirementAssessment}
  {eligibility : EligibilityEvaluation} {preferences : Option PreferenceAssessment} {c : String}

/-- Nothing else is ever scored. -/
theorem componentScore_off (off : c ∉ scoredComponents) :
    componentScore weights assessments eligibility preferences c = none := by
  simp only [scoredComponents, List.mem_cons, List.not_mem_nil, or_false, not_or] at off
  rw [componentScore_of_requirements ⟨off.2.2.2.2, off.2.2.2.1⟩, if_neg]
  rw [possible_pos_iff, not_not]
  refine List.filter_eq_nil_iff.mpr fun a _ counts => ?_
  simp only [Bool.and_eq_true, decide_eq_true_eq] at counts
  obtain ⟨found, -⟩ := Option.filter_eq_some_iff.mp counts.1
  revert found
  unfold componentByCategory
  split <;> intro found <;> cases found <;> simp_all

theorem num_eq : Mean.num p.normalized (componentScore weights assessments eligibility preferences) =
    (scoredComponents.map fun c => p.share c *
      (componentScore weights assessments eligibility preferences c).getD 0).sum := by
  refine sum_named scoredComponents (by decide) (fun c =>
    (componentScore weights assessments eligibility preferences c).getD 0) _ p.normalized_named
    fun c off => ?_
  simp only [componentScore_off off, Option.getD_none]

theorem den_eq : Mean.den p.normalized (componentScore weights assessments eligibility preferences) =
    (scoredComponents.map fun c => p.share c *
      if (componentScore weights assessments eligibility preferences c).isSome then 1 else 0).sum := by
  have named := sum_named scoredComponents (by decide) (fun c =>
    if (componentScore weights assessments eligibility preferences c).isSome then (1 : ℚ) else 0)
    _ p.normalized_named fun c off => by simp [componentScore_off off]
  unfold Mean.den
  simpa only [mul_ite, mul_one, mul_zero, PolicyWeights.share] using named

/-! ### The least score of a job that can be taken -/

theorem eligibility_scored : componentScore weights assessments eligibility preferences
    "eligibility" = some (eligibilityCredit eligibility.status) := by
  simp [componentScore]

/-- The shares of all that can be scored bound the weights that are counted. -/
theorem den_le : Mean.den p.normalized
    (componentScore weights assessments eligibility preferences) ≤
      (scoredComponents.map p.share).sum := by
  rw [den_eq]
  refine List.sum_le_sum fun c _ => ?_
  have nonneg := p.share_nonneg c
  split
  · rw [mul_one]
  · rwa [mul_zero]

/-- A job that can be taken earns two fifths of the share of eligibility. -/
theorem le_num (taken : eligibility.status ≠ .ineligible) : p.share "eligibility" * (2 / 5) ≤
    Mean.num p.normalized (componentScore weights assessments eligibility preferences) := by
  have credit : 2 / 5 ≤ eligibilityCredit eligibility.status := by
    cases status : eligibility.status with
    | ineligible => exact absurd status taken
    | eligible => norm_num [eligibilityCredit]
    | likelyEligible => norm_num [eligibilityCredit]
    | uncertain => norm_num [eligibilityCredit]
  have part (c : String) : 0 ≤ p.share c *
      (componentScore weights assessments eligibility preferences c).getD 0 := by
    refine mul_nonneg (p.share_nonneg c) ?_
    cases value : componentScore weights assessments eligibility preferences c with
    | none => exact le_rfl
    | some v => exact (componentScore_unit c v value).1
  have own := mul_le_mul_of_nonneg_left credit (p.share_nonneg "eligibility")
  rw [num_eq]
  simp only [scoredComponents, List.map_cons, List.map_nil, List.sum_cons, List.sum_nil,
    eligibility_scored, Option.getD_some]
  linarith [part "technical", part "experience", part "education", part "preferences"]

/-! ### Assessments that were all settled the same way -/

/-- A plain requirement of the category. -/
def assessed (category : RequirementCategory) (status : MatchStatus) : RequirementAssessment where
  requirement := ⟨"r", category, "", .required, .high⟩
  status := status
  confidence := .high
  explanation := ""

/-- `n` technical requirements, beside one of experience and one of education. -/
def uniform (status : MatchStatus) (n : ℕ) : List RequirementAssessment :=
  assessed .experience status :: assessed .education status ::
    List.replicate n (assessed .technicalSkill status)

theorem assessed_weight (category : RequirementCategory) (status : MatchStatus) :
    (assessed category status).weight = 3 := by
  norm_num [assessed, RequirementAssessment.weight, strictnessWeight, confidenceFactor]

theorem uniform_status {status : MatchStatus} {n : ℕ} :
    ∀ a ∈ uniform status n, a.status = status := by
  intro a member
  rcases List.mem_cons.mp member with rfl | member
  · rfl
  · rcases List.mem_cons.mp member with rfl | member
    · rfl
    · rw [List.eq_of_mem_replicate member]
      rfl

theorem earned_of_status {status : MatchStatus} (same : ∀ a ∈ assessments, a.status = status) :
    earned weights assessments c = possible weights assessments c * statusCredit status := by
  induction assessments with
  | nil => simp [earned, possible, counted]
  | cons a others ih =>
    rw [earned_cons, possible_cons, ih fun b member => same b (List.mem_cons_of_mem a member)]
    have own : a.contribution = a.weight * statusCredit status := by
      rw [← same a List.mem_cons_self]
      rfl
    split
    · rw [own]
      ring
    · ring

theorem counts_assessed {status : MatchStatus} {d : String} (known : status ≠ .unknown)
    (weighed : weights.any fun e => e.1 = c) (category : RequirementCategory)
    (category_eq : componentByCategory category = some d) :
    Counts weights (assessed category status) c ↔ d = c := by
  unfold Counts RequirementAssessment.component assessed
  rw [category_eq, Option.filter_eq_some_iff, Option.some.injEq]
  constructor
  · exact fun counts => counts.1.1
  · rintro rfl
    exact ⟨⟨rfl, weighed⟩, known⟩

theorem possible_replicate {status : MatchStatus} (known : status ≠ .unknown)
    (weighed : weights.any fun e => e.1 = c) (n : ℕ) :
    possible weights (List.replicate n (assessed .technicalSkill status)) c =
      if c = "technical" then 3 * (n : ℚ) else 0 := by
  induction n with
  | zero => simp [possible, counted]
  | succ n ih =>
    rw [List.replicate_succ, possible_cons, ih, assessed_weight]
    simp only [counts_assessed known weighed .technicalSkill rfl, eq_comm (a := "technical")]
    split
    · push_cast
      ring
    · ring

theorem possible_uniform {status : MatchStatus} (known : status ≠ .unknown)
    (weighed : weights.any fun e => e.1 = c) (n : ℕ) :
    possible weights (uniform status n) c =
      (if c = "technical" then 3 * (n : ℚ) else 0) + (if c = "education" then 3 else 0) +
        if c = "experience" then 3 else 0 := by
  unfold uniform
  rw [possible_cons, possible_cons, possible_replicate known weighed, assessed_weight,
    assessed_weight]
  simp only [counts_assessed known weighed .experience rfl,
    counts_assessed known weighed .education rfl, eq_comm (b := c)]

/-- What such assessments score for a component of requirements that the policy weighs. -/
theorem componentScore_uniform {n : ℕ} (status : MatchStatus) (known : status ≠ .unknown)
    (some_ : 0 < n) (weighed : weights.any fun e => e.1 = c)
    (own : c ∈ ["technical", "experience", "education"]) :
    componentScore weights (uniform status n) eligibility preferences c =
      some (if c = "technical" then (n * statusCredit status + 1 / 2) / (n + 1)
        else statusCredit status) := by
  have count : (0 : ℚ) < n := by exact_mod_cast some_
  have requirements : c ≠ "eligibility" ∧ c ≠ "preferences" := by
    constructor
    · rintro rfl
      exact absurd own (by decide)
    · rintro rfl
      exact absurd own (by decide)
  rw [componentScore_of_requirements requirements, earned_of_status uniform_status,
    possible_uniform known weighed]
  simp only [List.mem_cons, List.not_mem_nil, or_false] at own
  rcases own with rfl | rfl | rfl
  · rw [if_pos (by simpa using count)]
    simp only [ratio, technicalEvidencePrior, if_true]
    congr 1
    rw [div_eq_div_iff (by simp; positivity) (by positivity)]
    simp
    ring
  · simp [ratio]
  · simp [ratio]

end Parts

/-! ### Rounding below a half -/

theorem halfEven_le_of_lt {x : ℚ} {n : ℤ} (below : x < n + 1 / 2) : halfEven x ≤ n := by
  have floor_le : ⌊x⌋ ≤ n := Int.floor_le_iff.mpr (by linarith)
  rcases floor_le.lt_or_eq with less | same
  · have upper := halfEven_le_floor x
    omega
  · have fract : Int.fract x < 1 / 2 := by
      unfold Int.fract
      rw [same]
      linarith
    unfold halfEven
    rw [if_pos fract]
    omega

namespace PolicyWeights
variable (p : PolicyWeights)

/-! ### Weight enough for eligibility -/

theorem ineligible_le_twenty (call : Call) (ineligible : call.eligibility.status = .ineligible) :
    p.fitOf call ≤ 20 := by
  refine (le_capped.mp le_rfl).1.trans ?_
  unfold gatedScore
  rw [if_pos ineligible]
  exact min_le_right _ _

theorem neverOutranked_of_weighed
    (enough : 39 * (scoredComponents.map p.share).sum ≤ 80 * p.share "eligibility") :
    p.NeverOutranked := by
  intro below above ineligible taken
  let score := componentScore p.normalized above.assessments above.eligibility above.preferences
  have den_le : Mean.den p.normalized score ≤ (scoredComponents.map p.share).sum := den_le
  have le_num : p.share "eligibility" * (2 / 5) ≤ Mean.num p.normalized score := le_num taken
  by_cases counted : 0 < Mean.den p.normalized score
  · -- the average is at least 39 / 200, which rounds to what an ineligible job has at most
    have least : 39 / 200 ≤ raw p.normalized above.assessments above.eligibility
        above.preferences := by
      unfold raw Mean.mean
      rw [if_pos counted, le_div_iff₀ counted]
      linarith
    have twenty : 20 ≤ halfEven (raw p.normalized above.assessments above.eligibility
        above.preferences * 100) := by
      have half : halfEven ((39 : ℚ) / 2) = 20 := by norm_num [halfEven]
      rw [← half]
      exact halfEven_mono (by linarith)
    refine (p.ineligible_le_twenty below ineligible).trans ?_
    refine le_capped.mpr ⟨?_, fun cap member => le_trans (by decide) (cap_bounds member)⟩
    unfold gatedScore
    rwa [if_neg taken]
  · -- nothing that is scored weighs anything
    have own : p.share "eligibility" * (2 / 5) ≤ 0 :=
      le_num.trans ((Mean.num_le_den p.normalized_nonneg componentScore_unit).trans
        (not_lt.mp counted))
    have nothing : Mean.den p.normalized (componentScore p.normalized below.assessments
        below.eligibility below.preferences) ≤ 0 := by
      refine le_trans Fit.den_le ?_
      linarith
    have zero : p.fitOf below ≤ 0 := by
      refine (fit_le_rounded _ _ _ _ _).trans ?_
      unfold raw Mean.mean
      rw [if_neg (not_lt.mpr nothing), zero_mul]
      norm_num [halfEven]
    exact zero.trans (fit_nonneg _ _ _ _ _)

/-! ### Too little weight for eligibility -/

theorem share_eq_zero {c : String} (unweighed : ¬ p.normalized.any fun e => e.1 = c) :
    p.share c = 0 := by
  have absent : p.normalized.lookup c = none := by
    rw [List.lookup_eq_none_iff]
    intro e member
    refine bne_iff_ne.mpr ?_
    rintro rfl
    exact unweighed (List.any_eq_true.mpr ⟨e, member, by simp⟩)
  unfold share
  rw [absent]
  rfl

end PolicyWeights

/-- A preference score of all or nothing. -/
def preferring (score : ℚ) (nonneg : 0 ≤ score) (le_one : score ≤ 1) : PreferenceAssessment where
  score := score
  excluded := false
  exclusionReason := none
  role := none
  score_nonneg := nonneg
  score_le_one := le_one

/-- Ineligible, and full marks in all else. -/
def barred : Call where
  eligibility := ⟨.ineligible, .high, []⟩
  preferences := some (preferring 1 zero_le_one le_rfl)
  context := ⟨0, 1⟩
  assessments := uniform .matched 1

/-- Uncertain, and no marks in anything else: `n` technical requirements are missing. -/
def open_ (n : ℕ) : Call where
  eligibility := ⟨.uncertain, .high, []⟩
  preferences := some (preferring 0 le_rfl zero_le_one)
  context := ⟨0, 1⟩
  assessments := uniform .missing n

theorem open_uncertain (n : ℕ) : (open_ n).eligibility.status ≠ .ineligible := by
  intro status
  cases status

namespace PolicyWeights
variable (p : PolicyWeights)

/-- The average when every component that is weighed has the given score. -/
theorem raw_eq {assessments : List RequirementAssessment} {eligibility : EligibilityEvaluation}
    {preferences : Option PreferenceAssessment} (value : String → ℚ)
    (scored : ∀ c ∈ scoredComponents, (p.normalized.any fun e => e.1 = c) →
      componentScore p.normalized assessments eligibility preferences c = some (value c))
    (positive : 0 < (scoredComponents.map p.share).sum) :
    raw p.normalized assessments eligibility preferences =
      (scoredComponents.map fun c => p.share c * value c).sum /
        (scoredComponents.map p.share).sum := by
  have num : Mean.num p.normalized
      (componentScore p.normalized assessments eligibility preferences) =
      (scoredComponents.map fun c => p.share c * value c).sum := by
    rw [num_eq]
    refine congrArg List.sum (List.map_congr_left fun c member => ?_)
    by_cases weighed : p.normalized.any fun e => e.1 = c
    · rw [scored c member weighed]
      rfl
    · rw [p.share_eq_zero weighed, zero_mul, zero_mul]
  have den : Mean.den p.normalized
      (componentScore p.normalized assessments eligibility preferences) =
      (scoredComponents.map p.share).sum := by
    rw [den_eq]
    refine congrArg List.sum (List.map_congr_left fun c member => ?_)
    by_cases weighed : p.normalized.any fun e => e.1 = c
    · rw [scored c member weighed]
      exact mul_one _
    · rw [p.share_eq_zero weighed, zero_mul]
  unfold raw Mean.mean
  rw [num, den, if_pos positive]

theorem raw_barred (positive : 0 < (scoredComponents.map p.share).sum) :
    raw p.normalized barred.assessments barred.eligibility barred.preferences =
      (p.share "technical" * (3 / 4) + p.share "experience" + p.share "education" +
        p.share "preferences") / (scoredComponents.map p.share).sum := by
  rw [p.raw_eq (fun c => if c = "technical" then 3 / 4
    else if c = "eligibility" then 0 else 1) ?_ positive]
  · simp [scoredComponents]
    ring
  · intro c member weighed
    simp only [scoredComponents, List.mem_cons, List.not_mem_nil, or_false] at member
    rcases member with rfl | rfl | rfl | rfl | rfl
    · refine (componentScore_uniform .matched nofun one_pos weighed (by decide)).trans ?_
      norm_num [statusCredit]
    · exact componentScore_uniform .matched nofun one_pos weighed (by decide)
    · exact componentScore_uniform .matched nofun one_pos weighed (by decide)
    · rfl
    · rfl

theorem raw_open {n : ℕ} (some_ : 0 < n) (positive : 0 < (scoredComponents.map p.share).sum) :
    raw p.normalized (open_ n).assessments (open_ n).eligibility (open_ n).preferences =
      (p.share "technical" * (1 / 2 / (n + 1)) + p.share "eligibility" * (2 / 5)) /
        (scoredComponents.map p.share).sum := by
  rw [p.raw_eq (fun c => if c = "technical" then 1 / 2 / (n + 1)
    else if c = "eligibility" then 2 / 5 else 0) ?_ positive]
  · simp [scoredComponents]
  · intro c member weighed
    simp only [scoredComponents, List.mem_cons, List.not_mem_nil, or_false] at member
    rcases member with rfl | rfl | rfl | rfl | rfl
    · refine (componentScore_uniform .missing nofun some_ weighed (by decide)).trans ?_
      norm_num [statusCredit]
    · exact componentScore_uniform .missing nofun some_ weighed (by decide)
    · exact componentScore_uniform .missing nofun some_ weighed (by decide)
    · rfl
    · rfl

theorem weighed_of_neverOutranked (never : p.NeverOutranked) :
    39 * (scoredComponents.map p.share).sum ≤ 80 * p.share "eligibility" := by
  by_contra short
  rw [not_le] at short
  have technical := p.share_nonneg "technical"
  have experience := p.share_nonneg "experience"
  have education := p.share_nonneg "education"
  have preferences := p.share_nonneg "preferences"
  have eligible := p.share_nonneg "eligibility"
  have sum : (scoredComponents.map p.share).sum = p.share "technical" + p.share "experience" +
      p.share "education" + p.share "preferences" + p.share "eligibility" := by
    simp only [scoredComponents, List.map_cons, List.map_nil, List.sum_cons, List.sum_nil]
    ring
  have positive : 0 < (scoredComponents.map p.share).sum := by linarith
  -- the ineligible job is held back by its ceiling only
  have top : 20 ≤ p.fitOf barred := by
    refine le_capped.mpr ⟨?_, fun cap member => le_trans (by decide) (cap_bounds member)⟩
    refine le_min ?_ le_rfl
    have twenty : halfEven (20 : ℚ) = 20 := by norm_num [halfEven]
    rw [← twenty]
    refine halfEven_mono ?_
    rw [p.raw_barred positive, div_mul_eq_mul_div, le_div_iff₀ positive]
    linarith
  -- with requirements enough, what the other earns beside its eligibility fades away
  obtain ⟨n, large⟩ := exists_nat_gt (100 * p.share "technical" /
    (39 * (scoredComponents.map p.share).sum - 80 * p.share "eligibility"))
  have bottom : p.fitOf (open_ (n + 1)) ≤ 19 := by
    refine (fit_le_rounded _ _ _ _ _).trans (halfEven_le_of_lt ?_)
    have count : (0 : ℚ) < (n + 1 : ℕ) + 1 := by positivity
    have fades : p.share "technical" * (1 / 2 / ((n + 1 : ℕ) + 1)) <
        (39 * (scoredComponents.map p.share).sum - 80 * p.share "eligibility") / 200 := by
      rw [div_lt_iff₀ (by linarith)] at large
      rw [div_div, mul_one_div, div_lt_div_iff₀ (by positivity) (by norm_num)]
      push_cast
      nlinarith
    have average := p.raw_open n.succ_pos positive
    refine lt_of_eq_of_lt (congrArg (· * 100) average) ?_
    rw [div_mul_eq_mul_div, div_lt_iff₀ positive]
    push_cast at fades ⊢
    linarith
  have outranked := never barred (open_ (n + 1)) rfl (open_uncertain (n + 1))
  omega

end PolicyWeights

/-! ### The law -/

/-- No ineligible job outranks another exactly when the weight of eligibility is at least 39/80 of
the weights that are scored: what a job has for being uncertain then rounds to the 20 at which an
ineligible one is held. -/
theorem ineligible_below_iff (p : PolicyWeights) :
    p.NeverOutranked ↔ 39 * p.scoredWeight ≤ 80 * p.weightOf "eligibility" := by
  rw [p.scored_le_iff]
  exact ⟨p.weighed_of_neverOutranked, p.neverOutranked_of_weighed⟩

/-- Under the default policy a job that the candidate cannot take comes before one that is
uncertain. -/
theorem ineligible_outranks : ¬ defaultPolicyWeights.NeverOutranked := by
  intro never
  have outranked := never barred (open_ 10) rfl (open_uncertain 10)
  exact absurd outranked (by decide +kernel)

end RangeApply.Fit
