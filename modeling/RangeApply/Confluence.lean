import Mathlib.Data.List.Basic

/-! Steps that commute on the states of an invariant: the order of a list of them does not matter,
and doing the list again does nothing when each step done twice is done once. -/
namespace RangeApply

section Confluence
variable {σ α : Type} {step : σ → α → σ} {inv : σ → Prop}

/-- The steps of a list commute, on the states of an invariant that steps keep. -/
structure Commuting (step : σ → α → σ) (inv : σ → Prop) (l : List α) : Prop where
  keeps : ∀ s a, inv s → inv (step s a)
  swap : ∀ a ∈ l, ∀ b ∈ l, ∀ s, inv s → step (step s a) b = step (step s b) a

theorem Commuting.subset {l l' : List α} (commuting : Commuting step inv l) (subset : l' ⊆ l) :
    Commuting step inv l' :=
  ⟨commuting.keeps, fun a here b there => commuting.swap a (subset here) b (subset there)⟩

theorem Commuting.foldl_perm {l l' : List α} (perm : l.Perm l') (commuting : Commuting step inv l)
    {s : σ} (sound : inv s) : l.foldl step s = l'.foldl step s := by
  induction perm generalizing s with
  | nil => rfl
  | cons a _ ih =>
    exact ih (commuting.subset (List.subset_cons_self _ _)) (commuting.keeps s a sound)
  | swap a b l =>
    simp only [List.foldl_cons]
    rw [commuting.swap b List.mem_cons_self a (List.mem_cons_of_mem _ List.mem_cons_self) s sound]
  | trans first _ ih ih' =>
    exact (ih commuting sound).trans (ih' (commuting.subset first.symm.subset) sound)

theorem Commuting.foldl_twice {l : List α} (commuting : Commuting step inv l)
    (again : ∀ a ∈ l, ∀ s, inv s → step (step s a) a = step s a) {s : σ} (sound : inv s) :
    l.foldl step (l.foldl step s) = l.foldl step s := by
  induction l generalizing s with
  | nil => rfl
  | cons a l ih =>
    have rest : Commuting step inv (a :: (l ++ l)) := by
      refine commuting.subset fun b member => ?_
      simp only [List.mem_cons, List.mem_append] at member ⊢
      tauto
    -- the second occurrence of the step moves next to the first
    have moved : (l ++ a :: l).foldl step (step s a) = (a :: (l ++ l)).foldl step (step s a) :=
      (rest.subset (List.perm_middle.subset)).foldl_perm List.perm_middle
        (commuting.keeps s a sound)
    calc (a :: l).foldl step ((a :: l).foldl step s)
        = (l ++ a :: l).foldl step (step s a) := by rw [List.foldl_append]; rfl
      _ = (l ++ l).foldl step (step (step s a) a) := moved
      _ = l.foldl step (l.foldl step (step s a)) := by
        rw [again a List.mem_cons_self s sound, List.foldl_append]
      _ = l.foldl step (step s a) :=
        ih (commuting.subset (List.subset_cons_self _ _))
          (fun b member => again b (List.mem_cons_of_mem _ member)) (commuting.keeps s a sound)

end Confluence

end RangeApply
