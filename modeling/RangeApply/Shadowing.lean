import Mathlib.Tactic.Linarith
import Mathlib.Algebra.Order.Ring.Rat
import RangeApply.SkillMatch

/-! One more skill, project or experience: when the evidence for a required skill is no weaker. -/
namespace RangeApply.Fit

/-! ### The vocabulary -/

section Vocabulary
variable {u : Unicode} {k t : Text}

theorem isSome_set {ρ : Type*} (table : Table Text ρ) (k' : Text) (v : ρ) :
    ((table.set k' v).get k).isSome ↔ k' = k ∨ (table.get k).isSome := by
  by_cases same : k' = k
  · subst same
    simp
  · rw [Table.get_set_other table v (Ne.symm same)]
    simp [same]

theorem mem_keys {ρ : Type*} {table : Table Text ρ} :
    k ∈ table.rows.map Prod.fst ↔ (table.get k).isSome := by
  rw [Option.isSome_iff_exists, List.mem_map]
  constructor
  · rintro ⟨⟨k, v⟩, member, rfl⟩
    exact ⟨v, Table.get_eq_some.mpr member⟩
  · rintro ⟨v, found⟩
    exact ⟨(k, v), Table.get_eq_some.mp found, rfl⟩

def TechnicalEntry.uses (u : Unicode) (e : TechnicalEntry) (t : Text) : Bool :=
  e.technologies.any fun tech => u.lower tech = t

namespace CareerBrain

def verifies (u : Unicode) (b : CareerBrain) (t : Text) : Bool :=
  b.skills.any fun s => s.isVerified && u.lower s.name = t

def declares (u : Unicode) (b : CareerBrain) (t : Text) : Bool :=
  b.skills.any fun s => !s.isVerified && u.lower s.name = t

def builds (u : Unicode) (b : CareerBrain) (t : Text) : Bool := b.projects.any fun e => e.uses u t

def practises (u : Unicode) (b : CareerBrain) (t : Text) : Bool :=
  b.experience.any fun e => e.uses u t

/-- A project or the work experience shows the term. -/
def demonstrates (u : Unicode) (b : CareerBrain) (t : Text) : Bool :=
  b.builds u t || b.practises u t

end CareerBrain

namespace SkillIndex

theorem get_register (index : Table Text String) (skills : List Skill) :
    ((register u index skills).get k).isSome ↔
      (index.get k).isSome ∨ ∃ s ∈ skills, u.lower s.name = k := by
  induction skills generalizing index with
  | nil => simp [register]
  | cons s skills ih =>
    have step := ih (index.set (u.lower s.name) s.id)
    unfold register at step ⊢
    rw [List.foldl_cons, step, isSome_set]
    simp only [List.mem_cons, exists_eq_or_imp]
    tauto

theorem get_techs (index : Table Text (List String)) (id : String) (techs : List Text) :
    ((techs.foldl (fun t tech =>
      t.set (u.lower tech) ((t.get (u.lower tech)).getD [] ++ [id])) index).get k).isSome ↔
      (index.get k).isSome ∨ ∃ tech ∈ techs, u.lower tech = k := by
  induction techs generalizing index with
  | nil => simp
  | cons tech techs ih =>
    rw [List.foldl_cons, ih, isSome_set]
    simp only [List.mem_cons, exists_eq_or_imp]
    tauto

theorem get_collect (index : Table Text (List String)) (entries : List TechnicalEntry) :
    ((collect u index entries).get k).isSome ↔
      (index.get k).isSome ∨ ∃ e ∈ entries, e.uses u k := by
  induction entries generalizing index with
  | nil => simp [collect]
  | cons e entries ih =>
    have step := ih (e.technologies.foldl (fun t tech =>
      t.set (u.lower tech) ((t.get (u.lower tech)).getD [] ++ [e.id])) index)
    unfold collect at step ⊢
    rw [List.foldl_cons, step, get_techs]
    simp only [List.mem_cons, exists_eq_or_imp, TechnicalEntry.uses, List.any_eq_true,
      decide_eq_true_iff]
    exact or_assoc

variable {b : CareerBrain}

theorem verified_iff : ((build u b).verifiedSkills.get k).isSome ↔ b.verifies u k := by
  refine (get_register _ _).trans ?_
  simp [CareerBrain.verifies, Table.empty, Table.get, and_assoc]

theorem unverified_iff : ((build u b).unverifiedSkills.get k).isSome ↔ b.declares u k := by
  refine (get_register _ _).trans ?_
  simp [CareerBrain.declares, Table.empty, Table.get, and_assoc]

theorem projectTech_iff : ((build u b).projectTech.get k).isSome ↔ b.builds u k := by
  refine (get_collect _ _).trans ?_
  simp [CareerBrain.builds, Table.empty, Table.get]

theorem experienceTech_iff : ((build u b).experienceTech.get k).isSome ↔ b.practises u k := by
  refine (get_collect _ _).trans ?_
  simp [CareerBrain.practises, Table.empty, Table.get]

theorem mem_allTerms : t ∈ (build u b).allTerms ↔
    b.verifies u t ∨ b.declares u t ∨ b.demonstrates u t := by
  unfold allTerms keys
  rw [List.mem_insertionSort, List.mem_dedup]
  simp only [List.mem_append, mem_keys, verified_iff, unverified_iff, projectTech_iff,
    experienceTech_iff, CareerBrain.demonstrates, Bool.or_eq_true]
  tauto

end SkillIndex

end Vocabulary

/-! ### The matcher, layer by layer -/

section Layers
variable {l : List Text} {p : Text → Bool} {t : Text}

/-- The first of a sorted list is the least. -/
theorem find_least (sorted : l.Pairwise (· ≤ ·)) (found : l.find? p = some t) {t' : Text}
    (member : t' ∈ l) (holds : p t' = true) : t ≤ t' := by
  induction l with
  | nil => cases member
  | cons x l ih =>
    obtain ⟨above, rest⟩ := List.pairwise_cons.mp sorted
    rw [List.find?_cons] at found
    cases here : p x with
    | true =>
      rw [here] at found
      cases found
      rcases List.mem_cons.mp member with rfl | later
      · exact le_rfl
      · exact above t' later
    | false =>
      rw [here] at found
      rcases List.mem_cons.mp member with rfl | later
      · rw [here] at holds
        cases holds
      · exact ih rest found later

namespace SkillMatcher
variable {m : SkillMatcher} {requirement : Text}

theorem closest_max (candidates : List Text) (best : Option Text × ℚ) :
    best.2 ≤ (candidates.foldl (m.nearer requirement) best).2 ∧
      (∀ t ∈ candidates,
        m.likeness requirement t ≤ (candidates.foldl (m.nearer requirement) best).2) ∧
      (candidates.foldl (m.nearer requirement) best = best ∨ ∃ t ∈ candidates,
        candidates.foldl (m.nearer requirement) best = (some t, m.likeness requirement t)) := by
  induction candidates generalizing best with
  | nil => exact ⟨le_rfl, nofun, .inl rfl⟩
  | cons skill candidates ih =>
    obtain ⟨above, all, here⟩ := ih (m.nearer requirement best skill)
    rw [List.foldl_cons]
    have step : best.2 ≤ (m.nearer requirement best skill).2 ∧
        m.likeness requirement skill ≤ (m.nearer requirement best skill).2 ∧
        (m.nearer requirement best skill = best ∨
          m.nearer requirement best skill = (some skill, m.likeness requirement skill)) := by
      unfold nearer
      split
      · rename_i better
        exact ⟨better.le, le_rfl, .inr rfl⟩
      · rename_i worse
        exact ⟨le_rfl, not_lt.mp worse, .inl rfl⟩
    refine ⟨step.1.trans above, ?_, ?_⟩
    · intro t member
      rcases List.mem_cons.mp member with rfl | later
      · exact step.2.1.trans above
      · exact all t later
    · rcases here with first | ⟨t, member, later⟩
      · rw [first]
        exact step.2.2.imp_right fun same => ⟨skill, List.mem_cons_self, same⟩
      · exact .inr ⟨t, List.mem_cons_of_mem skill member, later⟩

/-- A term that is spelt much like the requirement. -/
def Close (m : SkillMatcher) (requirement t : Text) : Prop :=
  lexicalThreshold ≤ m.likeness requirement t

theorem closest_iff {candidates : List Text} :
    ((m.closest requirement candidates).1.isSome ∧
      lexicalThreshold ≤ (m.closest requirement candidates).2) ↔
      ∃ t ∈ candidates, m.Close requirement t := by
  have spec := @closest_max m requirement candidates (none, 0)
  have all : ∀ t ∈ candidates, m.likeness requirement t ≤ (m.closest requirement candidates).2 :=
    spec.2.1
  have here : m.closest requirement candidates = (none, 0) ∨ ∃ t ∈ candidates,
      m.closest requirement candidates = (some t, m.likeness requirement t) := spec.2.2
  constructor
  · rintro ⟨some_, above⟩
    rcases here with none_ | ⟨t, member, same⟩
    · rw [none_] at some_
      cases some_
    · rw [same] at above
      exact ⟨t, member, above⟩
  · rintro ⟨t, member, close⟩
    have above := close.trans (all t member)
    rcases here with none_ | ⟨t', -, same⟩
    · rw [none_] at above
      exact absurd above (by decide +kernel)
    · exact ⟨by rw [same]; rfl, above⟩

section Match
variable {terms : List Text} (asked : requirement ≠ [])
include asked

theorem match_exact (found : (terms.filter (· ≠ [])).find? (m.exact requirement) = some t) :
    m.match_ requirement terms = ⟨requirement, some t, .directVerified, .exact_, 1⟩ := by
  have some_ : terms.filter (· ≠ []) ≠ [] := List.ne_nil_of_mem (List.mem_of_find?_eq_some found)
  unfold match_
  simp only [asked, some_, or_self, if_false, found]

variable (exact : (terms.filter (· ≠ [])).find? (m.exact requirement) = none)
include exact

theorem match_alias (found : (terms.filter (· ≠ [])).find? (m.alias_ requirement) = some t) :
    m.match_ requirement terms = ⟨requirement, some t, .directVerified, .alias_, 1⟩ := by
  have some_ : terms.filter (· ≠ []) ≠ [] := List.ne_nil_of_mem (List.mem_of_find?_eq_some found)
  unfold match_
  simp only [asked, some_, or_self, if_false, exact, found]

variable (alias_ : (terms.filter (· ≠ [])).find? (m.alias_ requirement) = none)
include alias_

theorem match_adjacent (found : (terms.filter (· ≠ [])).find? (m.adjacent requirement) = some t) :
    m.match_ requirement terms = ⟨requirement, some t, .adjacent, .related, 3 / 5⟩ := by
  have some_ : terms.filter (· ≠ []) ≠ [] := List.ne_nil_of_mem (List.mem_of_find?_eq_some found)
  unfold match_
  simp only [asked, some_, or_self, if_false, exact, alias_, found]

variable (adjacent : (terms.filter (· ≠ [])).find? (m.adjacent requirement) = none)
include adjacent

theorem match_close (close : ∃ t ∈ terms.filter (· ≠ []), m.Close requirement t) :
    ∃ t r, m.match_ requirement terms = ⟨requirement, some t, .supporting, .lexical, r⟩ := by
  have some_ : terms.filter (· ≠ []) ≠ [] := List.ne_nil_of_mem close.choose_spec.1
  have best := closest_iff.mpr close
  obtain ⟨t, same⟩ := Option.isSome_iff_exists.mp best.1
  refine ⟨t, (m.closest requirement (terms.filter (· ≠ []))).2, ?_⟩
  unfold match_
  simp only [asked, some_, or_self, if_false, exact, alias_, adjacent]
  rw [if_pos best, same]

theorem match_far (far : ¬ ∃ t ∈ terms.filter (· ≠ []), m.Close requirement t) :
    (m.match_ requirement terms).isMatch = false := by
  unfold match_
  by_cases some_ : terms.filter (· ≠ []) = []
  · rw [if_pos (.inr some_)]
    rfl
  · simp only [asked, some_, or_self, if_false, exact, alias_, adjacent]
    rw [if_neg fun best => far (closest_iff.mp best)]
    rfl

end Match

end SkillMatcher

/-! ### The evidence -/

section Evidence
variable {m : SkillMatcher} {b : CareerBrain} {name t : Text}

/-- What stands behind a term of the vocabulary. -/
def CareerBrain.backing (u : Unicode) (b : CareerBrain) (t : Text) : EvidenceStrength :=
  if b.verifies u t then .directVerified
  else if b.demonstrates u t then .strongDemonstrated
  else .supporting

def SkillMatcher.terms (m : SkillMatcher) (b : CareerBrain) : List Text :=
  (SkillIndex.build m.unicode b).allTerms.filter (· ≠ [])

theorem mem_terms : t ∈ m.terms b ↔ t ≠ [] ∧
    (b.verifies m.unicode t ∨ b.declares m.unicode t ∨ b.demonstrates m.unicode t) := by
  unfold SkillMatcher.terms
  rw [List.mem_filter, SkillIndex.mem_allTerms, decide_eq_true_iff, and_comm]

theorem terms_sorted : (m.terms b).Pairwise (· ≤ ·) :=
  List.Pairwise.filter _ (List.pairwise_insertionSort _ _)

theorem lower_term (settled : ∀ t, m.unicode.lower (m.unicode.lower t) = m.unicode.lower t)
    (member : t ∈ m.terms b) : m.unicode.lower t = t := by
  have lowered : ∃ name, m.unicode.lower name = t := by
    obtain ⟨-, verified | declared | shown⟩ := mem_terms.mp member
    · obtain ⟨s, -, here⟩ := List.any_eq_true.mp verified
      exact ⟨s.name, of_decide_eq_true (Bool.and_eq_true_iff.mp here).2⟩
    · obtain ⟨s, -, here⟩ := List.any_eq_true.mp declared
      exact ⟨s.name, of_decide_eq_true (Bool.and_eq_true_iff.mp here).2⟩
    · rcases Bool.or_eq_true_iff.mp shown with used | used
      · obtain ⟨e, -, here⟩ := List.any_eq_true.mp used
        obtain ⟨tech, -, same⟩ := List.any_eq_true.mp here
        exact ⟨tech, of_decide_eq_true same⟩
      · obtain ⟨e, -, here⟩ := List.any_eq_true.mp used
        obtain ⟨tech, -, same⟩ := List.any_eq_true.mp here
        exact ⟨tech, of_decide_eq_true same⟩
  obtain ⟨name, rfl⟩ := lowered
  exact settled name

theorem resolve_nothing
    (nothing : (m.match_ name (SkillIndex.build m.unicode b).allTerms).isMatch = false) :
    (resolveSkill m b name).strength = .none_ := by
  unfold resolveSkill
  rw [if_pos nothing]

theorem resolve_adjacent {r : ℚ}
    (found : m.match_ name (SkillIndex.build m.unicode b).allTerms =
      ⟨name, some t, .adjacent, .related, r⟩) :
    (resolveSkill m b name).strength = .adjacent := by
  unfold resolveSkill
  simp [found, SkillMatch.isMatch]

theorem resolve_lexical {r : ℚ}
    (found : m.match_ name (SkillIndex.build m.unicode b).allTerms =
      ⟨name, some t, .supporting, .lexical, r⟩) :
    (resolveSkill m b name).strength = .supporting := by
  unfold resolveSkill
  simp only [found, SkillMatch.isMatch, SkillMatch.claim]
  repeat' split
  all_goals first | rfl | simp_all

theorem resolve_own (settled : ∀ t, m.unicode.lower (m.unicode.lower t) = m.unicode.lower t)
    {method : MatchMethod} (own : method = .exact_ ∨ method = .alias_) (member : t ∈ m.terms b)
    (found : m.match_ name (SkillIndex.build m.unicode b).allTerms =
      ⟨name, some t, .directVerified, method, 1⟩) :
    (resolveSkill m b name).strength = b.backing m.unicode t := by
  have key := lower_term settled member
  have layer : method ≠ .related := by
    rintro rfl
    rcases own with own | own <;> cases own
  have claim (s : EvidenceStrength) :
      SkillMatch.claim ⟨name, some t, .directVerified, method, 1⟩ s = s := if_pos own
  have match_ : SkillMatch.isMatch ⟨name, some t, .directVerified, method, 1⟩ = true := rfl
  unfold resolveSkill CareerBrain.backing
  simp only [found, match_, Option.getD_some, key, layer, Bool.true_eq_false, if_false]
  cases verified : (SkillIndex.build m.unicode b).verifiedSkills.get t with
  | some id =>
    rw [if_pos (SkillIndex.verified_iff.mp (by rw [verified]; rfl))]
    exact claim _
  | none =>
    have plain : ¬ b.verifies m.unicode t = true := fun holds => by
      have some_ := SkillIndex.verified_iff.mpr holds
      rw [verified] at some_
      cases some_
    rw [if_neg plain]
    cases project : (SkillIndex.build m.unicode b).projectTech.get t with
    | some projects =>
      have built := SkillIndex.projectTech_iff.mp (show Option.isSome _ from by rw [project]; rfl)
      have shown : b.demonstrates m.unicode t = true := Bool.or_eq_true_iff.mpr (.inl built)
      rw [if_pos shown]
      exact claim _
    | none =>
      cases experience : (SkillIndex.build m.unicode b).experienceTech.get t with
      | some experiences =>
        have used := SkillIndex.experienceTech_iff.mp
          (show Option.isSome _ from by rw [experience]; rfl)
        have shown : b.demonstrates m.unicode t = true := Bool.or_eq_true_iff.mpr (.inr used)
        rw [if_pos shown]
        exact claim _
      | none =>
        have shown : ¬ b.demonstrates m.unicode t = true := fun holds => by
          rcases Bool.or_eq_true_iff.mp holds with built | used
          · have some_ := SkillIndex.projectTech_iff.mpr built
            rw [project] at some_
            cases some_
          · have some_ := SkillIndex.experienceTech_iff.mpr used
            rw [experience] at some_
            cases some_
        have declared : b.declares m.unicode t := by
          obtain ⟨-, verifies | declares | demonstrates⟩ := mem_terms.mp member
          · exact absurd verifies plain
          · exact declares
          · exact absurd demonstrates shown
        obtain ⟨id, unverified⟩ := Option.isSome_iff_exists.mp
          (SkillIndex.unverified_iff.mpr declared)
        rw [if_neg shown]
        simp only [unverified]

end Evidence

/-! ### The term that decides -/

section First
variable {m : SkillMatcher} {b : CareerBrain} {requirement t t' : Text}

namespace SkillMatcher

/-- A term that names the requirement: the same when normalized, or another name of the skill. -/
def Names (m : SkillMatcher) (requirement t : Text) : Prop :=
  m.exact requirement t = true ∨ m.alias_ requirement t = true

/-- The order in which terms are tried: equal ones before other names, each in their order. -/
def Before (m : SkillMatcher) (requirement t t' : Text) : Prop :=
  (m.exact requirement t = true ∧ m.exact requirement t' = false) ∨
    (m.exact requirement t = m.exact requirement t' ∧ t < t')

/-- The term of the vocabulary that names the requirement and comes before the others. -/
structure First (m : SkillMatcher) (b : CareerBrain) (requirement t : Text) : Prop where
  member : t ∈ m.terms b
  names : m.Names requirement t
  least : ∀ t' ∈ m.terms b, m.Names requirement t' → ¬ m.Before requirement t' t

theorem before_total (m : SkillMatcher) (requirement : Text) (differ : t ≠ t') :
    m.Before requirement t t' ∨ m.Before requirement t' t := by
  unfold Before
  cases m.exact requirement t <;> cases m.exact requirement t'
  · exact (lt_or_gt_of_ne differ).imp (fun less => .inr ⟨rfl, less⟩) fun less => .inr ⟨rfl, less⟩
  · exact .inr (.inl ⟨rfl, rfl⟩)
  · exact .inl (.inl ⟨rfl, rfl⟩)
  · exact (lt_or_gt_of_ne differ).imp (fun less => .inr ⟨rfl, less⟩) fun less => .inr ⟨rfl, less⟩

theorem First.unique (first : m.First b requirement t) (other : m.First b requirement t') :
    t = t' := by
  by_contra differ
  rcases m.before_total requirement differ with before | before
  · exact other.least t first.member first.names before
  · exact first.least t' other.member other.names before

theorem first_exact (found : (m.terms b).find? (m.exact requirement) = some t) :
    m.First b requirement t := by
  have here : m.exact requirement t = true := List.find?_some found
  refine ⟨List.mem_of_find?_eq_some found, .inl here, fun t' member _ before => ?_⟩
  rcases before with ⟨-, other⟩ | ⟨same, less⟩
  · rw [here] at other
    cases other
  · exact (find_least terms_sorted found member (same.trans here)).not_gt less

theorem first_alias (none_ : (m.terms b).find? (m.exact requirement) = none)
    (found : (m.terms b).find? (m.alias_ requirement) = some t) : m.First b requirement t := by
  have here : m.alias_ requirement t = true := List.find?_some found
  have no {t' : Text} (member : t' ∈ m.terms b) : ¬ m.exact requirement t' = true :=
    List.find?_eq_none.mp none_ t' member
  refine ⟨List.mem_of_find?_eq_some found, .inr here, fun t' member names before => ?_⟩
  rcases before with ⟨exact_, -⟩ | ⟨-, less⟩
  · exact no member exact_
  · have other := names.resolve_left (no member)
    exact (find_least terms_sorted found member other).not_gt less

end SkillMatcher

theorem exists_first (named : ∃ t ∈ m.terms b, m.Names requirement t) :
    ∃ t, m.First b requirement t := by
  cases exact_ : (m.terms b).find? (m.exact requirement) with
  | some t => exact ⟨t, SkillMatcher.first_exact exact_⟩
  | none =>
    cases alias_ : (m.terms b).find? (m.alias_ requirement) with
    | some t => exact ⟨t, SkillMatcher.first_alias exact_ alias_⟩
    | none =>
      obtain ⟨t, member, same | other⟩ := named
      · exact (List.find?_eq_none.mp exact_ t member same).elim
      · exact (List.find?_eq_none.mp alias_ t member other).elim

theorem no_names (unnamed : ∀ t ∈ m.terms b, ¬ m.Names requirement t) :
    (m.terms b).find? (m.exact requirement) = none ∧
    (m.terms b).find? (m.alias_ requirement) = none :=
  ⟨List.find?_eq_none.mpr fun t member same => unnamed t member (.inl same),
    List.find?_eq_none.mpr fun t member other => unnamed t member (.inr other)⟩

variable (settled : ∀ t, m.unicode.lower (m.unicode.lower t) = m.unicode.lower t)
  (asked : requirement ≠ [])
include asked

section
include settled

theorem strength_first (first : m.First b requirement t) :
    (resolveSkill m b requirement).strength = b.backing m.unicode t := by
  cases exact_ : (m.terms b).find? (m.exact requirement) with
  | some t' =>
    have found := SkillMatcher.first_exact exact_
    obtain rfl := first.unique found
    exact resolve_own settled (.inl rfl) first.member (SkillMatcher.match_exact asked exact_)
  | none =>
    cases alias_ : (m.terms b).find? (m.alias_ requirement) with
    | some t' =>
      have found := SkillMatcher.first_alias exact_ alias_
      obtain rfl := first.unique found
      exact resolve_own settled (.inr rfl) first.member
        (SkillMatcher.match_alias asked exact_ alias_)
    | none =>
      rcases first.names with same | other
      · exact (List.find?_eq_none.mp exact_ t first.member same).elim
      · exact (List.find?_eq_none.mp alias_ t first.member other).elim

end

variable (unnamed : ∀ t ∈ m.terms b, ¬ m.Names requirement t)
include unnamed

theorem strength_adjacent (near : ∃ t ∈ m.terms b, m.adjacent requirement t = true) :
    (resolveSkill m b requirement).strength = .adjacent := by
  obtain ⟨exact_, alias_⟩ := no_names unnamed
  obtain ⟨t, found⟩ := Option.isSome_iff_exists.mp (List.find?_isSome.mpr near)
  exact resolve_adjacent (SkillMatcher.match_adjacent asked exact_ alias_ found)

variable (apart : ∀ t ∈ m.terms b, ¬ m.adjacent requirement t = true)
include apart

theorem strength_close (close : ∃ t ∈ m.terms b, m.Close requirement t) :
    (resolveSkill m b requirement).strength = .supporting := by
  obtain ⟨exact_, alias_⟩ := no_names unnamed
  have adjacent := List.find?_eq_none.mpr apart
  obtain ⟨t, r, found⟩ := SkillMatcher.match_close asked exact_ alias_ adjacent close
  exact resolve_lexical found

theorem strength_far (far : ¬ ∃ t ∈ m.terms b, m.Close requirement t) :
    (resolveSkill m b requirement).strength = .none_ := by
  obtain ⟨exact_, alias_⟩ := no_names unnamed
  have adjacent := List.find?_eq_none.mpr apart
  exact resolve_nothing (SkillMatcher.match_far asked exact_ alias_ adjacent far)

end First

/-! ### One more entry -/

/-- What is added to the Career Brain. -/
inductive Entry
  | skill (s : Skill)
  | project (e : TechnicalEntry)
  | experience (e : TechnicalEntry)

/-- With one more entry, at some place of its list. -/
def CareerBrain.add (b : CareerBrain) (n : Nat) : Entry → CareerBrain
  | .skill s => { b with skills := b.skills.take n ++ s :: b.skills.drop n }
  | .project e => { b with projects := b.projects.take n ++ e :: b.projects.drop n }
  | .experience e => { b with experience := b.experience.take n ++ e :: b.experience.drop n }

namespace Entry

def verifies (u : Unicode) (t : Text) : Entry → Bool
  | skill s => s.isVerified && u.lower s.name = t
  | _ => false

def declares (u : Unicode) (t : Text) : Entry → Bool
  | skill s => !s.isVerified && u.lower s.name = t
  | _ => false

def demonstrates (u : Unicode) (t : Text) : Entry → Bool
  | skill _ => false
  | project e => e.uses u t
  | experience e => e.uses u t

/-- What a term stands on that only the entry brings. -/
def strength : Entry → EvidenceStrength
  | skill s => if s.isVerified then .directVerified else .supporting
  | project _ => .strongDemonstrated
  | experience _ => .strongDemonstrated

/-- The entry backs its terms less than the Career Brain backs a term of its own: a skill that is
not verified against one that is or that was used, or a use against a verified skill. -/
def Weaker (u : Unicode) (b : CareerBrain) (t : Text) : Entry → Prop
  | skill s => s.isVerified = false ∧ (b.verifies u t ∨ b.demonstrates u t)
  | project _ => b.verifies u t
  | experience _ => b.verifies u t

end Entry

theorem any_insert {α : Type*} (l : List α) (n : Nat) (x : α) (p : α → Bool) :
    (l.take n ++ x :: l.drop n).any p = (l.any p || p x) := by
  conv_rhs => rw [← List.take_append_drop n l]
  rw [List.any_append, List.any_append, List.any_cons, Bool.or_comm (p x), Bool.or_assoc]

section Added
variable {u : Unicode} {b : CareerBrain} {n : Nat} {e : Entry} {t : Text}

theorem verifies_add : (b.add n e).verifies u t = (b.verifies u t || e.verifies u t) := by
  cases e with
  | skill s => exact any_insert ..
  | project e => exact (Bool.or_false _).symm
  | experience e => exact (Bool.or_false _).symm

theorem declares_add : (b.add n e).declares u t = (b.declares u t || e.declares u t) := by
  cases e with
  | skill s => exact any_insert ..
  | project e => exact (Bool.or_false _).symm
  | experience e => exact (Bool.or_false _).symm

theorem demonstrates_add :
    (b.add n e).demonstrates u t = (b.demonstrates u t || e.demonstrates u t) := by
  unfold CareerBrain.demonstrates
  cases e with
  | skill s => exact (Bool.or_false _).symm
  | project e =>
    rw [Bool.or_right_comm]
    exact congrArg (· || _) (any_insert ..)
  | experience e =>
    rw [Bool.or_assoc]
    exact congrArg (_ || ·) (any_insert ..)

theorem mem_terms_add {m : SkillMatcher} (member : t ∈ m.terms b) : t ∈ m.terms (b.add n e) := by
  rw [mem_terms] at member ⊢
  rw [verifies_add, declares_add, demonstrates_add]
  simp only [Bool.or_eq_true]
  tauto

theorem backing_new (fresh : t ∉ (SkillIndex.build u b).allTerms)
    (member : t ∈ (SkillIndex.build u (b.add n e)).allTerms) :
    (b.add n e).backing u t = e.strength := by
  rw [SkillIndex.mem_allTerms] at fresh member
  push Not at fresh
  obtain ⟨verifies, declares, demonstrates⟩ := fresh
  rw [verifies_add, declares_add, demonstrates_add] at member
  unfold CareerBrain.backing
  rw [verifies_add, demonstrates_add]
  simp only [Bool.not_eq_true] at verifies declares demonstrates
  rw [verifies, declares, demonstrates] at member
  rw [verifies, demonstrates]
  cases e with
  | skill s =>
    cases verified : s.isVerified <;> simp_all [Entry.verifies, Entry.declares, Entry.demonstrates, Entry.strength]
  | project e => simp_all [Entry.verifies, Entry.declares, Entry.demonstrates, Entry.strength]
  | experience e => simp_all [Entry.verifies, Entry.declares, Entry.demonstrates, Entry.strength]

/-- A term of the vocabulary stands on no less with the entry. -/
theorem backing_add : (b.backing u t).rank ≤ ((b.add n e).backing u t).rank := by
  unfold CareerBrain.backing
  rw [verifies_add, demonstrates_add]
  cases b.verifies u t <;> cases b.demonstrates u t <;> cases e.verifies u t <;>
    cases e.demonstrates u t <;> decide

theorem weaker_iff (fresh : t ∉ (SkillIndex.build u b).allTerms) {old : Text}
    (member : t ∈ (SkillIndex.build u (b.add n e)).allTerms) :
    (b.backing u old).rank ≤ ((b.add n e).backing u t).rank ↔ ¬ e.Weaker u b old := by
  rw [backing_new fresh member]
  unfold CareerBrain.backing Entry.Weaker Entry.strength
  cases e with
  | skill s =>
    obtain ⟨id, name, verified⟩ := s
    cases verified <;> cases b.verifies u old <;> cases b.demonstrates u old <;>
      simp [EvidenceStrength.rank]
  | project e =>
    cases b.verifies u old <;> cases b.demonstrates u old <;> simp [EvidenceStrength.rank]
  | experience e =>
    cases b.verifies u old <;> cases b.demonstrates u old <;> simp [EvidenceStrength.rank]

end Added

section Monotone
variable {m : SkillMatcher} {b : CareerBrain} {n : Nat} {e : Entry} {requirement : Text}

/-- The evidence for the requirement, and the status it gives, are no lower with the entry. -/
def NoLower (m : SkillMatcher) (b : CareerBrain) (n : Nat) (e : Entry) (requirement : Text) : Prop :=
  let old := (resolveSkill m b requirement).strength
  let new := (resolveSkill m (b.add n e) requirement).strength
  old.rank ≤ new.rank ∧ old.status.rank ≤ new.status.rank

/-- A term that the entry brings comes before the terms that name the requirement, on less than
the first of them stands on. -/
def Overtaken (m : SkillMatcher) (b : CareerBrain) (n : Nat) (e : Entry) (requirement : Text) : Prop :=
  ∃ old new, m.First b requirement old ∧ m.First (b.add n e) requirement new ∧
    new ∉ m.terms b ∧ e.Weaker m.unicode b old

/-- No term names the requirement, one is spelt much like it, and the entry brings the first that
is adjacent to it. -/
def Sidelined (m : SkillMatcher) (b : CareerBrain) (n : Nat) (e : Entry) (requirement : Text) : Prop :=
  (∀ t ∈ m.terms (b.add n e), ¬ m.Names requirement t) ∧
    (∀ t ∈ m.terms b, ¬ m.adjacent requirement t = true) ∧
    (∃ t ∈ m.terms b, m.Close requirement t) ∧
    ∃ t ∈ m.terms (b.add n e), m.adjacent requirement t = true

theorem status_mono {s s' : EvidenceStrength} (less : s.rank ≤ s'.rank) :
    s.status.rank ≤ s'.status.rank := by
  revert less
  cases s <;> cases s' <;> decide

theorem supporting_le_backing (u : Unicode) (b : CareerBrain) (t : Text) :
    EvidenceStrength.supporting.rank ≤ (b.backing u t).rank := by
  unfold CareerBrain.backing
  split
  · decide
  · split <;> decide

/-- Where no term names the requirement the evidence is a signal at most. -/
theorem unnamed_le_supporting (asked : requirement ≠ [])
    (unnamed : ∀ t ∈ m.terms b, ¬ m.Names requirement t) :
    (resolveSkill m b requirement).strength.rank ≤ EvidenceStrength.supporting.rank := by
  by_cases near : ∃ t ∈ m.terms b, m.adjacent requirement t = true
  · rw [strength_adjacent asked unnamed near]
    decide
  push Not at near
  by_cases close : ∃ t ∈ m.terms b, m.Close requirement t
  · rw [strength_close asked unnamed near close]
  · rw [strength_far asked unnamed near close]
    decide

theorem noLower_iff : NoLower m b n e requirement ↔
    (resolveSkill m b requirement).strength.rank ≤
      (resolveSkill m (b.add n e) requirement).strength.rank :=
  ⟨And.left, fun less => ⟨less, status_mono less⟩⟩

/-- More evidence does not hurt if and only if the entry neither overtakes a term that stands on
more nor brings adjacency where spelling counted. -/
theorem more_evidence_iff (m : SkillMatcher)
    (settled : ∀ t, m.unicode.lower (m.unicode.lower t) = m.unicode.lower t) (b : CareerBrain)
    (n : Nat) (e : Entry) (requirement : Text) :
    NoLower m b n e requirement ↔
      requirement = [] ∨ (¬ Overtaken m b n e requirement ∧ ¬ Sidelined m b n e requirement) := by
  by_cases empty : requirement = []
  · subst empty
    refine iff_of_true ?_ (.inl rfl)
    have nothing (b : CareerBrain) : (resolveSkill m b []).strength = .none_ :=
      resolve_nothing (by rfl)
    unfold NoLower
    rw [nothing, nothing]
    exact ⟨Nat.le_refl _, Nat.le_refl _⟩
  rw [noLower_iff]
  refine Iff.trans ?_ (or_iff_right empty).symm
  by_cases named : ∃ t ∈ m.terms b, m.Names requirement t
  · -- the first term decides, before and after
    obtain ⟨old, first⟩ := exists_first named
    obtain ⟨t, member, names⟩ := named
    obtain ⟨new, second⟩ := exists_first ⟨t, mem_terms_add (n := n) (e := e) member, names⟩
    have aside : ¬ Sidelined m b n e requirement := fun sidelined =>
      sidelined.1 t (mem_terms_add member) names
    rw [strength_first settled empty first, strength_first settled empty second]
    by_cases known : new ∈ m.terms b
    · have same : old = new := first.unique ⟨known, second.names, fun t' member names =>
        second.least t' (mem_terms_add member) names⟩
      subst same
      refine iff_of_true backing_add ⟨?_, aside⟩
      rintro ⟨-, new', -, other, fresh, -⟩
      exact fresh (second.unique other ▸ known)
    · have fresh : new ∉ (SkillIndex.build m.unicode b).allTerms := fun member =>
        known (List.mem_filter.mpr ⟨member, (List.mem_filter.mp second.member).2⟩)
      rw [weaker_iff fresh (List.mem_filter.mp second.member).1]
      constructor
      · rintro strong
        refine ⟨?_, aside⟩
        rintro ⟨old', new', first', -, -, weaker⟩
        exact strong (first.unique first' ▸ weaker)
      · rintro ⟨front, -⟩ weaker
        exact front ⟨old, new, first, second, known, weaker⟩
  · push Not at named
    have front : ¬ Overtaken m b n e requirement := by
      rintro ⟨old, -, first, -⟩
      exact named old first.member first.names
    by_cases later : ∃ t ∈ m.terms (b.add n e), m.Names requirement t
    · obtain ⟨new, second⟩ := exists_first later
      have strong := supporting_le_backing m.unicode (b.add n e) new
      have weak := unnamed_le_supporting empty named
      rw [strength_first settled empty second]
      exact iff_of_true (weak.trans strong)
        ⟨front, fun sidelined => sidelined.1 new second.member second.names⟩
    push Not at later
    by_cases near : ∃ t ∈ m.terms b, m.adjacent requirement t = true
    · obtain ⟨t, member, adjacent⟩ := near
      rw [strength_adjacent empty named ⟨t, member, adjacent⟩,
        strength_adjacent empty later ⟨t, mem_terms_add member, adjacent⟩]
      exact iff_of_true (Nat.le_refl _) ⟨front, fun sidelined => sidelined.2.1 t member adjacent⟩
    push Not at near
    by_cases close : ∃ t ∈ m.terms b, m.Close requirement t
    · rw [strength_close empty named near close]
      by_cases brought : ∃ t ∈ m.terms (b.add n e), m.adjacent requirement t = true
      · rw [strength_adjacent empty later brought]
        exact iff_of_false (by decide) fun both => both.2 ⟨later, near, close, brought⟩
      · obtain ⟨t, member, here⟩ := close
        push Not at brought
        rw [strength_close empty later brought ⟨t, mem_terms_add member, here⟩]
        exact iff_of_true (Nat.le_refl _) ⟨front, fun sidelined =>
          sidelined.2.2.2.elim fun t adjacent => brought t adjacent.1 adjacent.2⟩
    · rw [strength_far empty named near close]
      exact iff_of_true (Nat.zero_le _) ⟨front, fun sidelined => close sidelined.2.2.1⟩

/-- A matcher with the default taxonomy that takes equal texts only for alike. -/
def literalMatcher : SkillMatcher :=
  ⟨.ascii, defaultTaxonomy .ascii, fun a b => if a = b then 1 else 0⟩

theorem more_evidence_iff_verified :
    NoLower literalMatcher ⟨[⟨"s1", "python3".ascii, true⟩], [], []⟩ 0
        (.skill ⟨"s2", "Python".ascii, true⟩) "Python".ascii ↔
      "Python".ascii = [] ∨
        (¬ Overtaken literalMatcher ⟨[⟨"s1", "python3".ascii, true⟩], [], []⟩ 0
          (.skill ⟨"s2", "Python".ascii, true⟩) "Python".ascii ∧
        ¬ Sidelined literalMatcher ⟨[⟨"s1", "python3".ascii, true⟩], [], []⟩ 0
          (.skill ⟨"s2", "Python".ascii, true⟩) "Python".ascii) :=
  more_evidence_iff literalMatcher Unicode.lower_ascii_idem _ 0 _ _

/-- A skill that is declared under the requirement's own name hides the verified one. -/
theorem declared_hides_verified :
    ¬ ∀ (m : SkillMatcher), (∀ t, m.unicode.lower (m.unicode.lower t) = m.unicode.lower t) →
      ∀ (b : CareerBrain) (n : Nat) (e : Entry) (requirement : Text),
        NoLower m b n e requirement := by
  intro never
  have less := never literalMatcher Unicode.lower_ascii_idem ⟨[⟨"s1", "python3".ascii, true⟩], [], []⟩ 0
    (.skill ⟨"s2", "Python".ascii, false⟩) "Python".ascii
  revert less
  unfold NoLower
  decide +kernel

end Monotone

end Layers

end RangeApply.Fit
