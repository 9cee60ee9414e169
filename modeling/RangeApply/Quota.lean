import Mathlib.Data.Finset.Card
import Mathlib.Tactic.Common

/-! A period with a cap: clients hold slots of it, give them back and use them, and a book counts
the slots that are out. Nobody counts the uses; what bounds them is that a new slot is given out
only while every client that has used one still holds its slot. -/
namespace Quota

variable {ι : Type*} [DecidableEq ι]

/-- The clients with a slot, those that have used one, and the slots the book has out. -/
structure Account (ι : Type*) where
  holders : Finset ι
  used : Finset ι
  balance : Int

/-- The book has a slot for every holder and stays within the cap, and so do the clients that
hold or have used a slot, taken together. -/
structure Sound (cap : Int) (a : Account ι) : Prop where
  covered : (a.holders.card : Int) ≤ a.balance
  capped : a.balance ≤ cap
  bounded : ((a.used ∪ a.holders).card : Int) ≤ cap

/-- The slot of one client changes. It is entered in the book at least, and a new one is given out
below the cap, while all users hold theirs. -/
structure Move (cap : Int) (i : ι) (a a' : Account ι) : Prop where
  used : a'.used = a.used
  others : ∀ j, j ≠ i → (j ∈ a'.holders ↔ j ∈ a.holders)
  booked : (if i ∈ a'.holders then 1 else 0) - (if i ∈ a.holders then 1 else 0) ≤
    a'.balance - a.balance
  capped : a'.balance ≤ max a.balance cap
  fresh : i ∈ a'.holders → i ∈ a.holders ∨ (a.balance < cap ∧ a.used ⊆ a.holders)

section Rules
variable {cap : Int} {i : ι} {a a' : Account ι}

theorem sound_empty (positive : 0 ≤ cap) : Sound cap (⟨∅, ∅, 0⟩ : Account ι) :=
  ⟨by simp, positive, by simpa using positive⟩

theorem card_erase_add (h : Finset ι) (i : ι) :
    ((h.erase i).card : Int) + (if i ∈ h then 1 else 0) = h.card := by
  split
  · rename_i member
    exact_mod_cast Finset.card_erase_add_one member
  · rename_i absent
    rw [Finset.erase_eq_of_notMem absent, Int.add_zero]

/-- A book that enters what one client does goes on having a slot for every holder. -/
theorem covered_of_booked {h h' : Finset ι} {b b' : Int} (covered : (h.card : Int) ≤ b)
    (others : ∀ j, j ≠ i → (j ∈ h' ↔ j ∈ h))
    (booked : (if i ∈ h' then 1 else 0) - (if i ∈ h then 1 else 0) ≤ b' - b) :
    (h'.card : Int) ≤ b' := by
  have before := card_erase_add h i
  have after := card_erase_add h' i
  have same : h'.erase i = h.erase i := by
    ext j
    simp only [Finset.mem_erase]
    exact and_congr_right fun other => others j other
  rw [same] at after
  omega

theorem Sound.move (sound : Sound cap a) (move : Move cap i a a') : Sound cap a' := by
  refine ⟨?_, ?_, ?_⟩
  · exact covered_of_booked sound.covered move.others move.booked
  · exact Int.le_trans move.capped (max_le sound.capped (Int.le_refl _))
  · rw [move.used]
    by_cases old : i ∈ a'.holders → i ∈ a.holders
    · have fewer : a.used ∪ a'.holders ⊆ a.used ∪ a.holders := by
        refine Finset.union_subset_union_right fun j member => ?_
        by_cases mine : j = i
        · exact mine ▸ old (mine ▸ member)
        · exact (move.others j mine).mp member
      exact Int.le_trans (by exact_mod_cast Finset.card_le_card fewer) sound.bounded
    · -- a new slot: users are holders, and the book has room
      obtain ⟨member, absent⟩ := Classical.not_imp.mp old
      obtain ⟨room, users⟩ := (move.fresh member).resolve_left absent
      have within : a.used ∪ a'.holders ⊆ insert i a.holders := by
        refine Finset.union_subset (users.trans (Finset.subset_insert _ _)) fun j held => ?_
        by_cases mine : j = i
        · exact mine ▸ Finset.mem_insert_self _ _
        · exact Finset.mem_insert_of_mem ((move.others j mine).mp held)
      have count := Finset.card_le_card within
      rw [Finset.card_insert_of_notMem absent] at count
      have covered := sound.covered
      omega

theorem Sound.use (sound : Sound cap a) (holds : i ∈ a.holders) :
    Sound cap { a with used := insert i a.used } := by
  refine ⟨sound.covered, sound.capped, ?_⟩
  have same : insert i a.used ∪ a.holders = a.used ∪ a.holders := by
    rw [Finset.insert_union, Finset.insert_eq_of_mem (Finset.mem_union_right _ holds)]
  simpa only [same] using sound.bounded

theorem Sound.used_le (sound : Sound cap a) : (a.used.card : Int) ≤ cap :=
  Int.le_trans (by exact_mod_cast Finset.card_le_card Finset.subset_union_left) sound.bounded

end Rules

end Quota
