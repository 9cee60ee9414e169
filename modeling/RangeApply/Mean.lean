import Mathlib.Algebra.Order.BigOperators.Group.List
import Mathlib.Algebra.Order.Floor.Ring
import Mathlib.Tactic.Linarith
import Mathlib.Tactic.NormNum

/-! Weighted means in which a value may be missing, with its weight, and rounding to the nearest
integer with ties to the even one. -/

/-! ### Rounding -/

section Rounding
variable {K : Type*} [Field K] [LinearOrder K] [FloorRing K]

/-- The nearest integer, the even one of two. -/
def halfEven (x : K) : ℤ :=
  if Int.fract x < 1 / 2 then ⌊x⌋
  else if 1 / 2 < Int.fract x then ⌊x⌋ + 1
  else if ⌊x⌋ % 2 = 0 then ⌊x⌋
  else ⌊x⌋ + 1

theorem floor_le_halfEven (x : K) : ⌊x⌋ ≤ halfEven x := by
  unfold halfEven
  split_ifs <;> omega

theorem halfEven_le_floor (x : K) : halfEven x ≤ ⌊x⌋ + 1 := by
  unfold halfEven
  split_ifs <;> omega

variable [IsStrictOrderedRing K]

theorem halfEven_mono {x y : K} (le : x ≤ y) : halfEven x ≤ halfEven y := by
  rcases (Int.floor_mono le).lt_or_eq with below | same
  · have upper := halfEven_le_floor x
    have lower := floor_le_halfEven y
    omega
  · have fract : Int.fract x ≤ Int.fract y := by
      unfold Int.fract
      rw [same]
      linarith
    unfold halfEven
    rw [same]
    split_ifs <;> first | omega | (exfalso; linarith)

@[simp] theorem halfEven_intCast (n : ℤ) : halfEven (n : K) = n := by
  unfold halfEven
  rw [Int.fract_intCast, Int.floor_intCast, if_pos (by norm_num)]

end Rounding

/-! ### Means -/

namespace Mean
variable {ι K : Type*} [Field K] [LinearOrder K]

/-- The weighted sum of the values that are there. -/
def num (entries : List (ι × K)) (value : ι → Option K) : K :=
  (entries.map fun e => e.2 * (value e.1).getD 0).sum

/-- The sum of the weights of the values that are there. -/
def den (entries : List (ι × K)) (value : ι → Option K) : K :=
  (entries.map fun e => if (value e.1).isSome then e.2 else 0).sum

def mean (entries : List (ι × K)) (value : ι → Option K) : K :=
  if 0 < den entries value then num entries value / den entries value else 0

section Laws
variable [IsStrictOrderedRing K] {entries : List (ι × K)} {f g : ι → Option K} {m : K}

/-- The values there are lie between 0 and 1. -/
def Unit (f : ι → Option K) : Prop := ∀ i v, f i = some v → 0 ≤ v ∧ v ≤ 1

theorem den_nonneg (weights : ∀ e ∈ entries, 0 ≤ e.2) : 0 ≤ den entries f := by
  refine List.sum_nonneg fun w here => ?_
  obtain ⟨e, member, rfl⟩ := List.mem_map.mp here
  split
  · exact weights e member
  · exact le_rfl

theorem num_nonneg (weights : ∀ e ∈ entries, 0 ≤ e.2) (unit : Unit f) : 0 ≤ num entries f := by
  refine List.sum_nonneg fun w here => ?_
  obtain ⟨e, member, rfl⟩ := List.mem_map.mp here
  refine mul_nonneg (weights e member) ?_
  cases value : f e.1 with
  | none => exact le_rfl
  | some v => exact (unit _ v value).1

theorem num_le_den (weights : ∀ e ∈ entries, 0 ≤ e.2) (unit : Unit f) :
    num entries f ≤ den entries f := by
  refine List.sum_le_sum fun e member => ?_
  cases value : f e.1 with
  | none => simp
  | some v => simpa using mul_le_of_le_one_right (weights e member) (unit _ v value).2

theorem mean_mul_den (weights : ∀ e ∈ entries, 0 ≤ e.2) (unit : Unit f) :
    mean entries f * den entries f = num entries f := by
  unfold mean
  split
  · rename_i positive
    exact div_mul_cancel₀ _ positive.ne'
  · rename_i empty
    have zero := le_antisymm (not_lt.mp empty) (den_nonneg weights)
    have none_ := le_antisymm ((num_le_den weights unit).trans zero.le) (num_nonneg weights unit)
    rw [zero_mul, none_]

theorem mean_nonneg (weights : ∀ e ∈ entries, 0 ≤ e.2) (unit : Unit f) : 0 ≤ mean entries f := by
  unfold mean
  split
  · exact div_nonneg (num_nonneg weights unit) (den_nonneg weights)
  · exact le_rfl

theorem mean_le_one (weights : ∀ e ∈ entries, 0 ≤ e.2) (unit : Unit f) : mean entries f ≤ 1 := by
  unfold mean
  split
  · rename_i positive
    exact (div_le_one positive).mpr (num_le_den weights unit)
  · exact zero_le_one

theorem den_mono (weights : ∀ e ∈ entries, 0 ≤ e.2)
    (kept : ∀ e ∈ entries, (f e.1).isSome → (g e.1).isSome) : den entries f ≤ den entries g := by
  refine List.sum_le_sum fun e member => ?_
  by_cases there : (f e.1).isSome
  · rw [if_pos there, if_pos (kept e member there)]
  · rw [if_neg there]
    split
    · exact weights e member
    · exact le_rfl

theorem num_sub_mul_den (entries : List (ι × K)) (f : ι → Option K) (m : K) :
    num entries f - m * den entries f = (entries.map fun e =>
      e.2 * (f e.1).getD 0 - m * if (f e.1).isSome then e.2 else 0).sum := by
  unfold num den
  induction entries with
  | nil => simp
  | cons e rest ih =>
    simp only [List.map_cons, List.sum_cons]
    linarith

/-- Values that grow, and values that join at `m` or above, keep the mean at `m` or above. -/
theorem le_mean_of_improved (weights : ∀ e ∈ entries, 0 ≤ e.2) (unit : Unit f)
    (below : m ≤ mean entries f)
    (grown : ∀ e ∈ entries, ∀ v, f e.1 = some v → ∃ v', g e.1 = some v' ∧ v ≤ v')
    (joined : ∀ e ∈ entries, ∀ v, f e.1 = none → g e.1 = some v → m ≤ v) :
    m ≤ mean entries g := by
  have excess : num entries f - m * den entries f ≤ num entries g - m * den entries g := by
    rw [num_sub_mul_den, num_sub_mul_den]
    refine List.sum_le_sum fun e member => ?_
    have weight := weights e member
    cases old : f e.1 with
    | some v =>
      obtain ⟨v', new, le⟩ := grown e member v old
      have more := mul_le_mul_of_nonneg_left le weight
      simpa [new] using more
    | none =>
      cases new : g e.1 with
      | none => simp
      | some v =>
        have more := mul_le_mul_of_nonneg_left (joined e member v old new) weight
        simpa [mul_comm m] using more
  have start := mul_le_mul_of_nonneg_right below (den_nonneg weights (f := f))
  rw [mean_mul_den weights unit] at start
  have kept : den entries f ≤ den entries g := den_mono weights fun e member there => by
    obtain ⟨v, old⟩ := Option.isSome_iff_exists.mp there
    obtain ⟨v', new, -⟩ := grown e member v old
    rw [new]
    rfl
  by_cases positive : 0 < den entries g
  · unfold mean
    rw [if_pos positive, le_div_iff₀ positive]
    linarith
  · have empty : ¬ 0 < den entries f := fun there => positive (there.trans_le kept)
    unfold mean at below ⊢
    rw [if_neg empty] at below
    rwa [if_neg positive]

end Laws

end Mean
