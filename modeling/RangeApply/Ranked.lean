import Mathlib.Data.List.Nodup
import Mathlib.Data.List.Perm.Subperm
import Mathlib.Tactic.Push

/-! Rows sought level by level: the first level that some row matches decides. When only so many of
the matching rows are seen, in whatever order they come, the rows of later levels may crowd out
those of the deciding one. -/
namespace Ranked

variable {ρ ℓ : Type*}

/-- The levels, best first, and what a row has to meet at each. -/
abbrev Levels (ρ ℓ : Type*) := List (ℓ × (ρ → Bool))

namespace Levels
variable (levels : Levels ρ ℓ) (rows : List ρ)

def matched (r : ρ) : Bool := levels.any fun l => l.2 r

def deciding : Option (ℓ × (ρ → Bool)) := levels.find? fun l => rows.any l.2

/-- The first row of the deciding level, with the level. -/
def find : Option (ρ × ℓ) :=
  levels.findSome? fun l => (rows.find? l.2).map fun r => (r, l.1)

/-- The rows that are matched, but not at the deciding level. -/
def crowd : List ρ :=
  match levels.deciding rows with
  | none => []
  | some l => rows.filter fun r => levels.matched r && !l.2 r

end Levels

variable {levels : Levels ρ ℓ} {rows rows' : List ρ} {l : ℓ × (ρ → Bool)}

theorem find_level (levels : Levels ρ ℓ) (rows : List ρ) :
    (levels.find rows).map Prod.snd = (levels.deciding rows).map Prod.fst := by
  unfold Levels.find Levels.deciding
  induction levels with
  | nil => rfl
  | cons l rest ih =>
    rw [List.findSome?_cons, List.find?_cons]
    cases found : rows.find? l.2 with
    | none =>
      have unmatched : rows.any l.2 = false := by
        rw [List.any_eq_false]
        exact List.find?_eq_none.mp found
      rw [unmatched]
      exact ih
    | some r =>
      have here : rows.any l.2 = true :=
        List.any_eq_true.mpr ⟨r, List.mem_of_find?_eq_some found, List.find?_some found⟩
      rw [here]
      rfl

theorem matched_of_deciding (decides : levels.deciding rows = some l) :
    ∃ r ∈ rows, l.2 r = true := by
  have meets := List.find?_some (p := fun l : ℓ × (ρ → Bool) => rows.any l.2) decides
  exact List.any_eq_true.mp meets

theorem deciding_mem (decides : levels.deciding rows = some l) : l ∈ levels :=
  List.mem_of_find?_eq_some decides

theorem deciding_eq_none :
    levels.deciding rows = none ↔ ∀ r ∈ rows, levels.matched r = false := by
  simp only [Levels.deciding, Levels.matched, List.find?_eq_none, List.any_eq_true, List.any_eq_false,
    not_exists, not_and]
  exact ⟨fun none_ r here l level => none_ l level r here, fun none_ l level r here =>
    none_ r here l level⟩

/-- A part of the rows that has one of the deciding level is decided alike. -/
theorem deciding_of_subset (decides : levels.deciding rows = some l) (sub : rows' ⊆ rows)
    (seen : ∃ r ∈ rows', l.2 r = true) : levels.deciding rows' = some l := by
  unfold Levels.deciding at *
  obtain ⟨-, before, after, split, earlier⟩ := List.find?_eq_some_iff_append.mp decides
  refine List.find?_eq_some_iff_append.mpr
    ⟨List.any_eq_true.mpr seen, before, after, split, fun l' here => ?_⟩
  have unmatched := earlier l' here
  rw [Bool.not_eq_true', List.any_eq_false] at unmatched ⊢
  exact fun r member => unmatched r (sub member)

/-- When the levels have names of their own, the limit hides the deciding level of no order of the
rows just when the other matching rows are fewer than it lets pass. -/
theorem limited_iff (rows : List ρ) (named : (levels.map Prod.fst).Nodup) (limit : Nat)
    (positive : 0 < limit) :
    (∀ order : List ρ, order.Perm (rows.filter levels.matched) →
      (levels.find (order.take limit)).map Prod.snd = (levels.deciding rows).map Prod.fst) ↔
      (levels.crowd rows).length < limit := by
  unfold Levels.crowd
  cases decides : levels.deciding rows with
  | none =>
    refine iff_of_true (fun order perm => ?_) positive
    rw [find_level, deciding_eq_none.mpr fun r here => ?_]
    have member := perm.subset (List.mem_of_mem_take here)
    exact deciding_eq_none.mp decides r (List.mem_filter.mp member).1
  | some l =>
    have own : ∀ {l'}, l' ∈ levels → l'.1 = l.1 → l' = l := fun level same =>
      List.inj_on_of_nodup_map named level (deciding_mem decides) same
    dsimp only
    constructor
    · intro agrees
      by_contra many
      have many := Nat.le_of_not_lt many
      let others := rows.filter fun r => levels.matched r && !l.2 r
      let best := rows.filter fun r => levels.matched r && l.2 r
      have perm : (others ++ best).Perm (rows.filter levels.matched) := by
        have parted := List.filter_append_perm (fun r => !l.2 r) (rows.filter levels.matched)
        simpa only [List.filter_filter, Bool.not_not, Bool.and_comm] using parted
      have crowded := agrees _ perm
      rw [List.take_append_of_le_length many, find_level] at crowded
      obtain ⟨l', decides', same⟩ := Option.map_eq_some_iff.mp crowded
      obtain ⟨r, here, meets⟩ := matched_of_deciding decides'
      rw [own (deciding_mem decides') same] at meets
      have unmet := (List.mem_filter.mp (List.mem_of_mem_take here)).2
      simp [meets] at unmet
    · intro few order perm
      rw [find_level]
      have seen : ∃ r ∈ order.take limit, l.2 r = true := by
        by_contra unseen
        push Not at unseen
        obtain ⟨r, here, meets⟩ := matched_of_deciding decides
        have short : order.take limit ≠ order := by
          intro all
          rw [all] at unseen
          have listed : r ∈ order := perm.symm.subset (List.mem_filter.mpr
            ⟨here, List.any_eq_true.mpr ⟨l, deciding_mem decides, meets⟩⟩)
          exact unseen r listed meets
        have full : (order.take limit).length = limit := by
          rw [List.length_take]
          have := mt List.take_of_length_le short
          omega
        have crowded : (order.take limit).Subperm
            (rows.filter fun r => levels.matched r && !l.2 r) := by
          have kept : ((order.take limit).filter fun r => !l.2 r) = order.take limit :=
            List.filter_eq_self.mpr fun r here => by simpa using unseen r here
          have sub := ((List.take_sublist limit order).filter fun r => !l.2 r).subperm
          rw [kept] at sub
          have same := (perm.filter fun r => !l.2 r).subperm
          rw [List.filter_filter] at same
          simpa only [Bool.and_comm] using sub.trans same
        have bound := crowded.length_le
        omega
      have sub : order.take limit ⊆ rows := fun r here =>
        (List.mem_filter.mp (perm.subset (List.mem_of_mem_take here))).1
      rw [deciding_of_subset decides sub seen]

end Ranked
