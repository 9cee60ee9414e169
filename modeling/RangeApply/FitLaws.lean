import Mathlib.Tactic.FieldSimp
import Mathlib.Tactic.Positivity
import RangeApply.FitScore

/-! What the fit score keeps to: its bounds, the order of the assessments, and what a requirement
that comes to be matched does to it. -/
namespace RangeApply.Fit
open Sync (EligibilityStatus)

/-! ### Weights and credits -/

namespace RequirementAssessment
variable (a : RequirementAssessment)

theorem weight_pos : 0 < a.weight := by
  unfold weight
  refine mul_pos ?_ ?_
  · cases a.requirement.strictness <;> norm_num [strictnessWeight]
  · cases a.requirement.confidence <;> norm_num [confidenceFactor]

theorem contribution_nonneg : 0 ≤ a.contribution := by
  refine mul_nonneg a.weight_pos.le ?_
  cases a.status <;> norm_num [statusCredit]

theorem contribution_le : a.contribution ≤ a.weight := by
  refine mul_le_of_le_one_right a.weight_pos.le ?_
  cases a.status <;> norm_num [statusCredit]

end RequirementAssessment

theorem eligibilityCredit_bounds (status : EligibilityStatus) :
    0 ≤ eligibilityCredit status ∧ eligibilityCredit status ≤ 1 := by
  cases status <;> norm_num [eligibilityCredit]

section Parts
variable {weights : List (String × ℚ)} {assessments others : List RequirementAssessment}
  {eligibility : EligibilityEvaluation} {preferences : Option PreferenceAssessment}
  {context : JobContext} {a : RequirementAssessment} {c : String}

/-! ### What is counted -/

/-- The assessment is counted for the component. -/
def Counts (weights : List (String × ℚ)) (a : RequirementAssessment) (c : String) : Prop :=
  a.component weights = some c ∧ a.status ≠ .unknown

instance : Decidable (Counts weights a c) := inferInstanceAs (Decidable (_ ∧ _))

theorem possible_cons : possible weights (a :: others) c =
    possible weights others c + if Counts weights a c then a.weight else 0 := by
  unfold possible counted
  by_cases counts : Counts weights a c
  · rw [List.filter_cons_of_pos (by simpa [Counts] using counts), List.map_cons, List.sum_cons,
      if_pos counts, add_comm]
  · rw [List.filter_cons_of_neg (by simpa [Counts] using counts), if_neg counts, add_zero]

theorem earned_cons : earned weights (a :: others) c =
    earned weights others c + if Counts weights a c then a.contribution else 0 := by
  unfold earned counted
  by_cases counts : Counts weights a c
  · rw [List.filter_cons_of_pos (by simpa [Counts] using counts), List.map_cons, List.sum_cons,
      if_pos counts, add_comm]
  · rw [List.filter_cons_of_neg (by simpa [Counts] using counts), if_neg counts, add_zero]

theorem earned_nonneg : 0 ≤ earned weights assessments c := by
  induction assessments with
  | nil => exact le_rfl
  | cons a others ih =>
    rw [earned_cons]
    have more := a.contribution_nonneg
    split
    · linarith
    · linarith

theorem earned_le_possible : earned weights assessments c ≤ possible weights assessments c := by
  induction assessments with
  | nil => exact le_rfl
  | cons a others ih =>
    rw [earned_cons, possible_cons]
    have more := a.contribution_le
    split
    · linarith
    · linarith

theorem possible_nonneg : 0 ≤ possible weights assessments c :=
  earned_nonneg.trans earned_le_possible

theorem possible_pos_iff : 0 < possible weights assessments c ↔
    counted weights assessments c ≠ [] := by
  induction assessments with
  | nil => simp [possible, counted]
  | cons a others ih =>
    rw [possible_cons]
    unfold counted
    by_cases counts : Counts weights a c
    · rw [if_pos counts, List.filter_cons_of_pos (by simpa [Counts] using counts)]
      refine iff_of_true ?_ (List.cons_ne_nil _ _)
      have rest : 0 ≤ possible weights others c := possible_nonneg
      have own := a.weight_pos
      linarith
    · rw [if_neg counts, List.filter_cons_of_neg (by simpa [Counts] using counts), add_zero]
      exact ih

/-! ### The components -/

/-- The score of a component of requirements, from what was earned of what was possible. -/
def ratio (c : String) (earned possible : ℚ) : ℚ :=
  if c = "technical" then
    (earned + 1 / 2 * technicalEvidencePrior) / (possible + technicalEvidencePrior)
  else earned / possible

theorem componentScore_of_requirements (own : c ≠ "eligibility" ∧ c ≠ "preferences") :
    componentScore weights assessments eligibility preferences c =
      if 0 < possible weights assessments c then
        some (ratio c (earned weights assessments c) (possible weights assessments c))
      else none := by
  unfold componentScore ratio
  simp only [if_neg own.1, if_neg own.2]
  by_cases technical : c = "technical"
  · subst technical
    by_cases there : 0 < possible weights assessments "technical"
    · simp [there]
    · simp [there]
  · simp [technical]

theorem ratio_bounds {e p : ℚ} (c : String) (nonneg : 0 ≤ e) (le : e ≤ p) (there : 0 < p) :
    0 ≤ ratio c e p ∧ ratio c e p ≤ 1 := by
  unfold ratio technicalEvidencePrior
  split
  · exact ⟨by positivity, by rw [div_le_one (by positivity)]; linarith⟩
  · exact ⟨by positivity, by rwa [div_le_one there]⟩

/-- More earned of the same, or as much more of both. -/
theorem ratio_mono {e p e' p' : ℚ} (c : String) (le : e ≤ p) (there : 0 < p)
    (better : p' = p ∧ e ≤ e' ∨ ∃ w, 0 < w ∧ p' = p + w ∧ e' = e + w) :
    ratio c e p ≤ ratio c e' p' := by
  unfold ratio technicalEvidencePrior
  rcases better with ⟨rfl, more⟩ | ⟨w, positive, rfl, rfl⟩
  · split
    · gcongr
    · gcongr
  · split
    · rw [div_le_div_iff₀ (by positivity) (by positivity)]
      nlinarith
    · rw [div_le_div_iff₀ (by positivity) (by positivity)]
      nlinarith

theorem componentScore_unit :
    Mean.Unit (componentScore weights assessments eligibility preferences) := by
  intro c v scored
  by_cases eligible : c = "eligibility"
  · unfold componentScore at scored
    rw [if_pos eligible] at scored
    cases scored
    exact eligibilityCredit_bounds _
  · by_cases preferred : c = "preferences"
    · unfold componentScore at scored
      rw [if_neg eligible, if_pos preferred] at scored
      cases scored
      cases preferences with
      | none => norm_num
      | some p => exact ⟨p.score_nonneg, p.score_le_one⟩
    · rw [componentScore_of_requirements ⟨eligible, preferred⟩] at scored
      split at scored
      · rename_i there
        cases scored
        exact ratio_bounds c earned_nonneg earned_le_possible there
      · cases scored

/-! ### The ceilings -/

theorem le_capped {x : Int} : x ≤ (capped weights assessments eligibility preferences context).1 ↔
    x ≤ gatedScore weights assessments eligibility preferences ∧
      ∀ cap ∈ caps weights assessments eligibility preferences context, x ≤ cap.1 := by
  have all (caps : List (Int × String)) (fit : Int × List String) :
      x ≤ (caps.foldl (fun fit cap =>
        if cap.1 < fit.1 then (cap.1, fit.2 ++ [cap.2.capitalize]) else fit) fit).1 ↔
        x ≤ fit.1 ∧ ∀ cap ∈ caps, x ≤ cap.1 := by
    induction caps generalizing fit with
    | nil => simp
    | cons cap caps ih =>
      rw [List.foldl_cons, ih, List.forall_mem_cons]
      split
      · constructor
        · rintro ⟨below, rest⟩
          exact ⟨by omega, below, rest⟩
        · rintro ⟨-, below, rest⟩
          exact ⟨below, rest⟩
      · constructor
        · rintro ⟨below, rest⟩
          exact ⟨below, by omega, rest⟩
        · rintro ⟨below, -, rest⟩
          exact ⟨below, rest⟩
  exact all _ _

theorem cap_bounds {cap : Int × String}
    (member : cap ∈ caps weights assessments eligibility preferences context) : 30 ≤ cap.1 := by
  unfold caps at member
  rcases List.mem_append.mp member with role | coverage
  · split at role
    · cases role
    · split_ifs at role
      · cases List.mem_singleton.mp role
        norm_num [unrelatedRoleFitCap, weakRoleFitCap]
      · cases List.mem_singleton.mp role
        norm_num [unrelatedRoleFitCap, weakRoleFitCap]
      · cases role
  · split at coverage
    · cases List.mem_singleton.mp coverage
      norm_num [lowCoverageFitCap]
    · cases coverage

/-- The ceilings depend on the assessments through the coverage only. -/
theorem caps_subset {assessments' : List RequirementAssessment}
    (covered : lowCoverage weights assessments' eligibility preferences context = true →
      lowCoverage weights assessments eligibility preferences context = true) :
    caps weights assessments' eligibility preferences context ⊆
      caps weights assessments eligibility preferences context := by
  unfold caps
  refine List.append_subset.mpr ⟨List.subset_append_left _ _, ?_⟩
  split
  · rename_i low
    rw [if_pos (covered low)]
    exact List.subset_append_right _ _
  · exact List.nil_subset _

/-! ### A requirement that comes to be matched -/

/-- The requirement is the first to be counted for the technical component. -/
def JoinsTechnical (weights : List (String × ℚ)) (a : RequirementAssessment)
    (others : List RequirementAssessment) : Prop :=
  a.status = .unknown ∧ a.component weights = some "technical" ∧
    counted weights others "technical" = []

/-- The assessment, matched. -/
def RequirementAssessment.match_ (a : RequirementAssessment) : RequirementAssessment :=
  { a with status := .matched }

theorem matched_component : a.match_.component weights = a.component weights := rfl

/-- For each component, either as much was possible and no less earned, or as much more of both. -/
theorem matched_better (weights : List (String × ℚ)) (a : RequirementAssessment)
    (others : List RequirementAssessment) (c : String) :
    possible weights (a.match_ :: others) c = possible weights (a :: others) c ∧
      earned weights (a :: others) c ≤ earned weights (a.match_ :: others) c ∨
    ∃ w, 0 < w ∧ possible weights (a.match_ :: others) c = possible weights (a :: others) c + w ∧
      earned weights (a.match_ :: others) c = earned weights (a :: others) c + w := by
  rw [possible_cons, possible_cons, earned_cons, earned_cons]
  have full : a.match_.contribution = a.weight := mul_one _
  have same : a.match_.weight = a.weight := rfl
  by_cases here : a.component weights = some c
  · have after : Counts weights a.match_ c := ⟨here, nofun⟩
    rw [if_pos after, if_pos after, full, same]
    by_cases unknown : a.status = .unknown
    · have before : ¬ Counts weights a c := fun counts => counts.2 unknown
      rw [if_neg before, if_neg before, add_zero, add_zero]
      exact .inr ⟨a.weight, a.weight_pos, rfl, rfl⟩
    · have before : Counts weights a c := ⟨here, unknown⟩
      rw [if_pos before, if_pos before]
      have le := a.contribution_le
      exact .inl ⟨rfl, by linarith⟩
  · have before : ¬ Counts weights a c := fun counts => here counts.1
    have after : ¬ Counts weights a.match_ c := fun counts => here counts.1
    rw [if_neg before, if_neg before, if_neg after, if_neg after]
    exact .inl ⟨rfl, le_rfl⟩

theorem matched_grown (c : String) (v : ℚ)
    (scored : componentScore weights (a :: others) eligibility preferences c = some v) :
    ∃ v', componentScore weights (a.match_ :: others) eligibility preferences c = some v' ∧
      v ≤ v' := by
  by_cases own : c ≠ "eligibility" ∧ c ≠ "preferences"
  · rw [componentScore_of_requirements own] at scored ⊢
    split at scored
    · rename_i there
      cases scored
      have better := matched_better weights a others c
      have still : 0 < possible weights (a.match_ :: others) c := by
        rcases better with ⟨same, -⟩ | ⟨w, positive, more, -⟩
        · rwa [same]
        · rw [more]
          linarith
      rw [if_pos still]
      exact ⟨_, rfl, ratio_mono c earned_le_possible there better⟩
    · cases scored
  · refine ⟨v, ?_, le_rfl⟩
    rw [← scored]
    rcases not_and_or.mp own with eligible | preferred
    · simp [componentScore, not_not.mp eligible]
    · simp [componentScore, not_not.mp preferred]

/-- A component that joins is scored in full, or is the technical one and at least a half. -/
theorem matched_joined (c : String) (v : ℚ)
    (unscored : componentScore weights (a :: others) eligibility preferences c = none)
    (scored : componentScore weights (a.match_ :: others) eligibility preferences c = some v) :
    v = 1 ∨ 1 / 2 ≤ v ∧ JoinsTechnical weights a others := by
  have own : c ≠ "eligibility" ∧ c ≠ "preferences" := by
    constructor
    · rintro rfl
      simp [componentScore] at unscored
    · rintro rfl
      simp [componentScore] at unscored
  rw [componentScore_of_requirements own] at unscored scored
  split at unscored
  · cases unscored
  · rename_i absent
    split at scored
    · rename_i there
      cases scored
      have none_ : possible weights (a :: others) c = 0 :=
        le_antisymm (not_lt.mp absent) possible_nonneg
      have nothing : earned weights (a :: others) c = 0 :=
        le_antisymm (earned_le_possible.trans none_.le) earned_nonneg
      rcases matched_better weights a others c with ⟨same, -⟩ | ⟨w, positive, p, e⟩
      · rw [same, none_] at there
        exact absurd there (lt_irrefl _)
      · rw [none_, zero_add] at p
        rw [nothing, zero_add] at e
        rw [p, e]
        unfold ratio technicalEvidencePrior
        split
        · rename_i technical
          refine .inr ⟨?_, ?_⟩
          · rw [le_div_iff₀ (by positivity)]
            linarith
          · subst technical
            rw [possible_cons] at absent there
            have rest : 0 ≤ possible weights others "technical" := possible_nonneg
            have uncounted : ¬ Counts weights a "technical" := by
              intro counts
              rw [if_pos counts] at absent
              have own := a.weight_pos
              linarith
            rw [if_neg uncounted, add_zero] at absent
            have counts : Counts weights a.match_ "technical" := by
              by_contra uncounted'
              rw [if_neg uncounted', add_zero] at there
              exact absent there
            refine ⟨?_, counts.1, ?_⟩
            · by_contra known
              exact uncounted ⟨counts.1, known⟩
            · by_contra some_
              exact absent (possible_pos_iff.mpr some_)
        · exact .inl (div_self positive.ne')
    · cases scored

/-! ### The order of the assessments -/

theorem possible_perm (perm : others.Perm assessments) (c : String) :
    possible weights others c = possible weights assessments c :=
  ((perm.filter _).map _).sum_eq

theorem earned_perm (perm : others.Perm assessments) (c : String) :
    earned weights others c = earned weights assessments c :=
  ((perm.filter _).map _).sum_eq

theorem componentScore_perm (perm : others.Perm assessments) :
    componentScore weights others eligibility preferences =
      componentScore weights assessments eligibility preferences := by
  funext c
  unfold componentScore
  rw [possible_perm perm, earned_perm perm]

theorem capped_perm (perm : others.Perm assessments) :
    capped weights others eligibility preferences context =
      capped weights assessments eligibility preferences context := by
  unfold capped caps gatedScore lowCoverage raw
  rw [componentScore_perm perm]

/-! ### Rounding and the gate -/

/-- What bounds the average bounds the score before the ceilings, save for an ineligible job. -/
theorem gatedScore_mono {assessments' : List RequirementAssessment} {x : Int}
    (below : x ≤ gatedScore weights assessments eligibility preferences)
    (rounded : x ≤ halfEven (raw weights assessments' eligibility preferences * 100)) :
    x ≤ gatedScore weights assessments' eligibility preferences := by
  unfold gatedScore at below ⊢
  split
  · rename_i ineligible
    rw [if_pos ineligible] at below
    exact le_min rounded (below.trans (min_le_right _ _))
  · exact rounded

theorem gatedScore_le : gatedScore weights assessments eligibility preferences ≤
    halfEven (raw weights assessments eligibility preferences * 100) := by
  unfold gatedScore
  split
  · exact min_le_left _ _
  · exact le_rfl

theorem lowCoverage_matched
    (low : lowCoverage weights (a.match_ :: others) eligibility preferences context = true) :
    lowCoverage weights (a :: others) eligibility preferences context = true := by
  unfold lowCoverage at *
  simp only [Bool.and_eq_true] at low ⊢
  refine ⟨⟨?_, low.1.2⟩, low.2⟩
  have unscored := low.1.1
  cases weighed : weights.lookup "technical" with
  | none => rfl
  | some w =>
    rw [weighed, Option.bind_some, Option.isNone_iff_eq_none] at unscored
    rw [Option.bind_some, Option.isNone_iff_eq_none]
    by_contra scored
    obtain ⟨v, scored⟩ := Option.ne_none_iff_exists'.mp scored
    obtain ⟨v', later, -⟩ := matched_grown "technical" v scored
    rw [unscored] at later
    cases later

/-- What the average is rounded to comes down only when a technical component joins, and then to
half at most. -/
theorem rounded_matched (nonneg : ∀ e ∈ weights, 0 ≤ e.2) {x : Int}
    (below : x ≤ halfEven (raw weights (a :: others) eligibility preferences * 100))
    (half : JoinsTechnical weights a others → x ≤ 50) :
    x ≤ halfEven (raw weights (a.match_ :: others) eligibility preferences * 100) := by
  have unit : Mean.Unit (componentScore weights (a :: others) eligibility preferences) :=
    componentScore_unit
  have improved {m : ℚ} (le : m ≤ raw weights (a :: others) eligibility preferences)
      (joined : m ≤ 1 / 2 ∨ ¬ JoinsTechnical weights a others) :
      m ≤ raw weights (a.match_ :: others) eligibility preferences := by
    refine Mean.le_mean_of_improved nonneg unit le (fun e _ v => matched_grown e.1 v)
      fun e _ v unscored scored => ?_
    rcases matched_joined e.1 v unscored scored with rfl | ⟨bound, joins⟩
    · exact le.trans (Mean.mean_le_one nonneg unit)
    · exact (joined.resolve_right (not_not.mpr joins)).trans bound
  by_cases joins : JoinsTechnical weights a others ∧
      1 / 2 ≤ raw weights (a :: others) eligibility preferences
  · have more := improved joins.2 (.inl le_rfl)
    have fifty : halfEven ((1 / 2 : ℚ) * 100) = 50 := by norm_num [halfEven]
    calc x ≤ 50 := half joins.1
      _ = halfEven ((1 / 2 : ℚ) * 100) := fifty.symm
      _ ≤ _ := halfEven_mono (by linarith)
  · refine below.trans (halfEven_mono ?_)
    have more := improved le_rfl (by
      by_cases technical : JoinsTechnical weights a others
      · exact .inl (not_le.mp fun le => joins ⟨technical, le⟩).le
      · exact .inr technical)
    linarith

end Parts

/-! ### The law -/

theorem PolicyWeights.normalized_nonneg (p : PolicyWeights) : ∀ e ∈ p.normalized, 0 ≤ e.2 := by
  intro e member
  obtain ⟨e', there, rfl⟩ := List.mem_map.mp member
  exact div_nonneg (p.nonneg e' there) p.positive.le

/-- `score(...).fit_score` -/
def PolicyWeights.fit (p : PolicyWeights) (eligibility : EligibilityEvaluation)
    (preferences : Option PreferenceAssessment) (context : JobContext)
    (assessments : List RequirementAssessment) : Int :=
  (score p.normalized assessments eligibility preferences context).fitScore

section Bounds
variable (p : PolicyWeights) (assessments : List RequirementAssessment)
  (eligibility : EligibilityEvaluation) (preferences : Option PreferenceAssessment)
  (context : JobContext)

theorem halfEven_raw_nonneg :
    0 ≤ halfEven (raw p.normalized assessments eligibility preferences * 100) := by
  have least : 0 ≤ raw p.normalized assessments eligibility preferences :=
    Mean.mean_nonneg p.normalized_nonneg componentScore_unit
  have none_ : halfEven (0 : ℚ) = 0 := by norm_num [halfEven]
  rw [← none_]
  exact halfEven_mono (by linarith)

theorem fit_nonneg : 0 ≤ p.fit eligibility preferences context assessments := by
  refine le_capped.mpr ⟨?_, fun cap member => le_trans (by decide) (cap_bounds member)⟩
  have zero := halfEven_raw_nonneg p assessments eligibility preferences
  unfold gatedScore
  split
  · exact le_min zero (by decide)
  · exact zero

theorem fit_le_rounded : p.fit eligibility preferences context assessments ≤
    halfEven (raw p.normalized assessments eligibility preferences * 100) :=
  (le_capped.mp le_rfl).1.trans gatedScore_le

theorem fit_le_hundred : p.fit eligibility preferences context assessments ≤ 100 := by
  refine (fit_le_rounded p assessments eligibility preferences context).trans ?_
  have most : raw p.normalized assessments eligibility preferences ≤ 1 :=
    Mean.mean_le_one p.normalized_nonneg componentScore_unit
  have full : halfEven (100 : ℚ) = 100 := by norm_num [halfEven]
  rw [← full]
  exact halfEven_mono (by linarith)

end Bounds

/-- The fit score lies between 0 and 100 and takes no notice of the order of the assessments. A
requirement that comes to be matched never lowers it, save that the first technical requirement to
be counted may pull it towards the neutral prior, and not below a half. -/
theorem fit_score_law (p : PolicyWeights) (assessments : List RequirementAssessment)
    (eligibility : EligibilityEvaluation) (preferences : Option PreferenceAssessment)
    (context : JobContext) :
    (0 ≤ p.fit eligibility preferences context assessments ∧
      p.fit eligibility preferences context assessments ≤ 100) ∧
    (∀ others : List RequirementAssessment, others.Perm assessments →
      p.fit eligibility preferences context others =
        p.fit eligibility preferences context assessments) ∧
    ∀ before a after, assessments = before ++ a :: after →
      a.status ∈ [.missing, .partial_, .unknown] →
      (¬ JoinsTechnical p.normalized a (before ++ after) →
        p.fit eligibility preferences context assessments ≤
          p.fit eligibility preferences context (before ++ a.match_ :: after)) ∧
      min (p.fit eligibility preferences context assessments) 50 ≤
        p.fit eligibility preferences context (before ++ a.match_ :: after) := by
  have nonneg := p.normalized_nonneg
  refine ⟨⟨fit_nonneg _ _ _ _ _, fit_le_hundred _ _ _ _ _⟩, fun others perm => ?_, ?_⟩
  · exact congrArg Prod.fst (capped_perm perm)
  · rintro before a after rfl -
    have first : p.fit eligibility preferences context (before ++ a :: after) =
        p.fit eligibility preferences context (a :: (before ++ after)) :=
      congrArg Prod.fst (capped_perm List.perm_middle)
    have later : p.fit eligibility preferences context (before ++ a.match_ :: after) =
        p.fit eligibility preferences context (a.match_ :: (before ++ after)) :=
      congrArg Prod.fst (capped_perm List.perm_middle)
    rw [first, later]
    have law {x : Int} (below : x ≤ p.fit eligibility preferences context (a :: (before ++ after)))
        (half : JoinsTechnical p.normalized a (before ++ after) → x ≤ 50) :
        x ≤ p.fit eligibility preferences context (a.match_ :: (before ++ after)) := by
      obtain ⟨gated, under⟩ := le_capped.mp below
      exact le_capped.mpr ⟨gatedScore_mono gated
        (rounded_matched nonneg (gated.trans gatedScore_le) half),
        fun cap member => under cap (caps_subset lowCoverage_matched member)⟩
    exact ⟨fun alone => law le_rfl fun joins => absurd joins alone,
      law (min_le_left _ _) fun _ => min_le_right _ _⟩

/-- One technical requirement that could not be determined, beside full marks in all else. -/
def unknownTechnical : RequirementAssessment where
  requirement := ⟨"r1", .technicalSkill, "python", .required, .high⟩
  status := .unknown
  confidence := .high
  explanation := ""

/-- Matching it brings a full score down to 87. -/
theorem first_technical_match_lowers :
    ¬ ∀ (p : PolicyWeights) (eligibility : EligibilityEvaluation)
      (preferences : Option PreferenceAssessment) (context : JobContext)
      (before : List RequirementAssessment) (a : RequirementAssessment)
      (after : List RequirementAssessment), a.status ∈ [.missing, .partial_, .unknown] →
      p.fit eligibility preferences context (before ++ a :: after) ≤
        p.fit eligibility preferences context (before ++ a.match_ :: after) := by
  intro law
  have lowered := law defaultPolicyWeights ⟨.eligible, .high, []⟩
    (some ⟨1, false, none, none, by decide +kernel, by decide +kernel⟩) ⟨500, 1⟩ []
    unknownTechnical [] (by decide)
  exact absurd lowered (by decide +kernel)

end RangeApply.Fit
