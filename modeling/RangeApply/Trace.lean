import Mathlib.Logic.Basic

/-! Runs of a deterministic transition system under a guard on each step, and the
induction rules for what every state of such a run satisfies. -/
namespace Trace

variable {σ α : Type*} (step : σ → α → σ)

def run (s : σ) : List α → σ
  | [] => s
  | a :: as => run (step s a) as

/-- Every action of the list meets `ok` in the state it is taken in. -/
def Guarded (ok : σ → α → Prop) (s : σ) : List α → Prop
  | [] => True
  | a :: as => ok s a ∧ Guarded ok (step s a) as

instance decidableGuarded (ok : σ → α → Prop) [∀ s a, Decidable (ok s a)] (s : σ) :
    (as : List α) → Decidable (Guarded step ok s as)
  | [] => isTrue trivial
  | a :: as => @instDecidableAnd _ _ _ (decidableGuarded ok (step s a) as)

@[simp] theorem run_nil (s : σ) : run step s [] = s := rfl

@[simp] theorem run_cons (s : σ) (a : α) (as : List α) :
    run step s (a :: as) = run step (step s a) as := rfl

theorem run_eq_foldl (s : σ) (as : List α) : run step s as = as.foldl step s := by
  induction as generalizing s with
  | nil => rfl
  | cons a as ih => exact ih (step s a)

variable {step} {ok ok' : σ → α → Prop}

theorem guarded_of_forall {ok : α → Prop} {as : List α} (all : ∀ a ∈ as, ok a) (s : σ) :
    Guarded step (fun _ a => ok a) s as := by
  induction as generalizing s with
  | nil => trivial
  | cons a as ih =>
    exact ⟨all a List.mem_cons_self, ih (fun b member => all b (List.mem_cons_of_mem a member)) _⟩

theorem guarded_append {s : σ} {as bs : List α} :
    Guarded step ok s (as ++ bs) ↔ Guarded step ok s as ∧ Guarded step ok (run step s as) bs := by
  induction as generalizing s with
  | nil => simp [Guarded]
  | cons a as ih => simp [Guarded, ih, and_assoc]

/-- A run that is not guarded is guarded up to a step that does not meet its guard. -/
theorem first_failure {s : σ} {as : List α} (unguarded : ¬ Guarded step ok s as) :
    ∃ before a after, as = before ++ a :: after ∧ Guarded step ok s before ∧
      ¬ ok (run step s before) a := by
  induction as generalizing s with
  | nil => exact absurd trivial unguarded
  | cons a as ih =>
    by_cases here : ok s a
    · have later : ¬ Guarded step ok (step s a) as := fun guarded => unguarded ⟨here, guarded⟩
      obtain ⟨before, a', after, split, guarded, fails⟩ := ih later
      exact ⟨a :: before, a', after, congrArg (List.cons a) split, ⟨here, guarded⟩, fails⟩
    · exact ⟨[], a, as, rfl, trivial, here⟩

/-- What every guarded step preserves holds at the end of every guarded run. -/
theorem run_invariant (inv : σ → Prop)
    (preserved : ∀ s a, inv s → ok s a → inv (step s a))
    {s : σ} {as : List α} (initial : inv s) (guarded : Guarded step ok s as) :
    inv (run step s as) := by
  induction as generalizing s with
  | nil => exact initial
  | cons a as ih => exact ih (preserved s a initial guarded.1) guarded.2

theorem run_always (inv : σ → Prop) (preserved : ∀ s a, inv s → inv (step s a))
    {s : σ} (initial : inv s) (as : List α) : inv (run step s as) := by
  induction as generalizing s with
  | nil => exact initial
  | cons a as ih => exact ih (preserved s a initial)

/-- Two guards that agree wherever an invariant of all steps holds guard the same runs. -/
theorem guarded_congr (inv : σ → Prop) (preserved : ∀ s a, inv s → inv (step s a))
    (same : ∀ s a, inv s → (ok s a ↔ ok' s a)) {s : σ} (initial : inv s) (as : List α) :
    Guarded step ok s as ↔ Guarded step ok' s as := by
  induction as generalizing s with
  | nil => exact Iff.rfl
  | cons a as ih => exact and_congr (same s a initial) (ih (preserved s a initial))

theorem guarded_of_invariant (inv : σ → Prop)
    (preserved : ∀ s a, inv s → ok s a → inv (step s a))
    (here : ∀ s a, inv s → ok s a → ok' s a)
    {s : σ} {as : List α} (initial : inv s) (guarded : Guarded step ok s as) :
    Guarded step ok' s as := by
  induction as generalizing s with
  | nil => trivial
  | cons a as ih => exact ⟨here s a initial guarded.1, ih (preserved s a initial guarded.1) guarded.2⟩

/-- What holds of a step exactly under its guard, relative to an invariant of the guarded steps,
holds of every step of a run exactly when the run is guarded. -/
theorem guarded_iff (inv : σ → Prop) {s : σ} {as : List α}
    (preserved : ∀ a ∈ as, ∀ s, inv s → ok s a → inv (step s a))
    (exact_ : ∀ a ∈ as, ∀ s, inv s → (ok' s a ↔ ok s a)) (initial : inv s) :
    Guarded step ok' s as ↔ Guarded step ok s as := by
  induction as generalizing s with
  | nil => exact Iff.rfl
  | cons a as ih =>
    have rest {s : σ} (kept : inv s) : Guarded step ok' s as ↔ Guarded step ok s as :=
      ih (fun b member => preserved b (List.mem_cons_of_mem a member))
        (fun b member => exact_ b (List.mem_cons_of_mem a member)) kept
    have here := exact_ a List.mem_cons_self s initial
    constructor
    · rintro ⟨first, later⟩
      have guard := here.mp first
      exact ⟨guard, (rest (preserved a List.mem_cons_self s initial guard)).mp later⟩
    · rintro ⟨guard, later⟩
      exact ⟨here.mpr guard, (rest (preserved a List.mem_cons_self s initial guard)).mpr later⟩

/-- The property holds in every state of the run, the first and the last among them. -/
def Always (step : σ → α → σ) (p : σ → Prop) (s : σ) : List α → Prop
  | [] => p s
  | a :: as => p s ∧ Always step p (step s a) as

/-- A property that a step keeps exactly under its guard holds throughout exactly the guarded
runs. -/
theorem always_iff_guarded {p : σ → Prop} (kept : ∀ s a, p s → (p (step s a) ↔ ok s a)) {s : σ}
    {as : List α} (initial : p s) : Always step p s as ↔ Guarded step ok s as := by
  induction as generalizing s with
  | nil => exact iff_of_true initial trivial
  | cons a as ih =>
    constructor
    · rintro ⟨-, later⟩
      have next : p (step s a) := by
        cases as with
        | nil => exact later
        | cons b bs => exact later.1
      exact ⟨(kept s a initial).mp next, (ih next).mp later⟩
    · rintro ⟨guard, later⟩
      exact ⟨initial, (ih ((kept s a initial).mpr guard)).mpr later⟩

end Trace
