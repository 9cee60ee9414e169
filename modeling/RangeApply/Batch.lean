import Mathlib.Data.List.Basic

/-! A loop over one transaction that is committed every so many items, and rolled back as a whole
when an item fails. -/

/-- The data as last committed and as it stands, and how many items were saved since. -/
structure Batch (σ : Type*) where
  stored : σ
  working : σ
  pending : Nat

namespace Batch
variable {σ : Type*}

def clean (data : σ) : Batch σ := ⟨data, data, 0⟩

/-- An item is saved; with `every` of them the transaction is committed. -/
def save (every : Nat) (data : σ) (b : Batch σ) : Batch σ :=
  if every ≤ b.pending + 1 then clean data else ⟨b.stored, data, b.pending + 1⟩

def rollback (b : Batch σ) : Batch σ := clean b.stored

def commit (b : Batch σ) : Batch σ := clean b.working

/-- With nothing pending there is nothing to lose. -/
def Lossless (b : Batch σ) : Prop := b.pending = 0 → b.working = b.stored

theorem clean_lossless (data : σ) : Lossless (clean data) := fun _ => rfl

theorem save_lossless (every : Nat) (data : σ) (b : Batch σ) : Lossless (b.save every data) := by
  unfold save
  split
  · exact clean_lossless data
  · intro nothing
    cases nothing

theorem rollback_of_settled {b : Batch σ} (sound : Lossless b) (settled : b.pending = 0) :
    b.rollback = b := by
  obtain ⟨stored, working, pending⟩ := b
  cases settled
  cases sound rfl
  rfl

@[simp] theorem clean_working (data : σ) : (clean data).working = data := rfl
@[simp] theorem clean_stored (data : σ) : (clean data).stored = data := rfl
@[simp] theorem clean_pending (data : σ) : (clean data).pending = 0 := rfl
@[simp] theorem commit_stored (b : Batch σ) : b.commit.stored = b.working := rfl

@[simp] theorem save_working (every : Nat) (data : σ) (b : Batch σ) :
    (b.save every data).working = data := by
  unfold save
  split <;> rfl

/-- A property of the data as committed and as it stands. -/
structure Holds (p : σ → Prop) (b : Batch σ) : Prop where
  stored : p b.stored
  working : p b.working

namespace Holds
variable {p : σ → Prop} {b : Batch σ}

theorem clean {data : σ} (here : p data) : Holds p (clean data) := ⟨here, here⟩

theorem save (every : Nat) {data : σ} (holds : Holds p b) (here : p data) :
    Holds p (b.save every data) := by
  unfold Batch.save
  split
  · exact clean here
  · exact ⟨holds.stored, here⟩

theorem mono {q : σ → Prop} (holds : Holds p b) (weaker : ∀ data, p data → q data) : Holds q b :=
  ⟨weaker _ holds.stored, weaker _ holds.working⟩

theorem rollback (holds : Holds p b) : Holds p b.rollback := clean holds.stored

theorem commit (holds : Holds p b) : Holds p b.commit := clean holds.working

end Holds

/-! ### What becomes of the items -/

inductive Verdict
  | saved
  | passed
  | failed
  deriving DecidableEq

/-- How many are pending after one more is saved. -/
def advance (every pending : Nat) : Nat := if every ≤ pending + 1 then 0 else pending + 1

theorem save_pending (every : Nat) (data : σ) (b : Batch σ) :
    (b.save every data).pending = advance every b.pending := by
  unfold save advance
  split <;> rfl

/-- How many saved items later failures take with them. -/
def lost (every : Nat) : Nat → List Verdict → Nat
  | _, [] => 0
  | pending, .saved :: more => lost every (advance every pending) more
  | pending, .passed :: more => lost every pending more
  | pending, .failed :: more => pending + lost every 0 more

/-- Every failure comes right after a commit, or after another failure. -/
def Aligned (every : Nat) : Nat → List Verdict → Prop
  | _, [] => True
  | pending, .saved :: more => Aligned every (advance every pending) more
  | pending, .passed :: more => Aligned every pending more
  | pending, .failed :: more => pending = 0 ∧ Aligned every 0 more

/-- How many are pending after an item. -/
def Verdict.pending (every before : Nat) : Verdict → Nat
  | .saved => advance every before
  | .passed => before
  | .failed => 0

theorem aligned_cons {every pending : Nat} {verdict : Verdict} {more : List Verdict} :
    Aligned every pending (verdict :: more) ↔
      (verdict = .failed → pending = 0) ∧ Aligned every (verdict.pending every pending) more := by
  cases verdict <;> simp [Aligned, Verdict.pending]

instance decidableAligned (every : Nat) :
    (pending : Nat) → (verdicts : List Verdict) → Decidable (Aligned every pending verdicts)
  | _, [] => .isTrue trivial
  | pending, .saved :: more => decidableAligned every (advance every pending) more
  | pending, .passed :: more => decidableAligned every pending more
  | pending, .failed :: more =>
    have := decidableAligned every 0 more
    inferInstanceAs (Decidable (pending = 0 ∧ Aligned every 0 more))

theorem lost_cons (every pending : Nat) (verdict : Verdict) (more : List Verdict) :
    lost every pending (verdict :: more) =
      (if verdict = .failed then pending else 0) + lost every (verdict.pending every pending) more := by
  cases verdict <;> simp [lost, Verdict.pending]

theorem lost_eq_zero (every pending : Nat) (verdicts : List Verdict) :
    lost every pending verdicts = 0 ↔ Aligned every pending verdicts := by
  induction verdicts generalizing pending with
  | nil => simp [lost, Aligned]
  | cons verdict more ih =>
    cases verdict with
    | saved => exact ih _
    | passed => exact ih _
    | failed => simp only [lost, Aligned, Nat.add_eq_zero_iff, ih]

theorem aligned_of_no_failure {verdicts : List Verdict} (every pending : Nat)
    (kept : .failed ∉ verdicts) : Aligned every pending verdicts := by
  induction verdicts generalizing pending with
  | nil => trivial
  | cons verdict more ih =>
    rw [List.mem_cons, not_or] at kept
    exact aligned_cons.mpr ⟨fun failed => absurd failed.symm kept.1, ih _ kept.2⟩

end Batch
