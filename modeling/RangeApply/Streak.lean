import Mathlib.Data.List.DropRight

/-! Streaks: the events of a history that count since the last one that cleared the count. A state
that such an event clears, and that nothing else but a counted one changes, is a state of the
streak. -/
namespace Streak

/-- What an event does to a streak. -/
inductive Mark
  | counts | clears | passes
  deriving DecidableEq

variable {α σ : Type*} (mark : α → Mark)

/-- The events that count since the last one that clears, oldest first. -/
def since (history : List α) : List α :=
  (history.filter (mark · ≠ .passes)).rtakeWhile (mark · = .counts)

@[simp] theorem since_nil : since mark [] = [] := rfl

variable {mark} {history : List α} {e : α}

theorem since_counts (counts : mark e = .counts) :
    since mark (history ++ [e]) = since mark history ++ [e] := by
  have kept : [e].filter (mark · ≠ .passes) = [e] := by simp [counts]
  rw [since, List.filter_append, kept]
  exact List.rtakeWhile_concat_pos _ _ _ (by simp [counts])

theorem since_clears (clears : mark e = .clears) : since mark (history ++ [e]) = [] := by
  have kept : [e].filter (mark · ≠ .passes) = [e] := by simp [clears]
  rw [since, List.filter_append, kept]
  exact List.rtakeWhile_concat_neg _ _ _ (by simp [clears])

theorem since_passes (passes : mark e = .passes) :
    since mark (history ++ [e]) = since mark history := by
  have dropped : [e].filter (mark · ≠ .passes) = [] := by simp [passes]
  rw [since, List.filter_append, dropped, List.append_nil]
  rfl

theorem mem_since {a : α} (member : a ∈ since mark history) : mark a = .counts ∧ a ∈ history := by
  refine ⟨by simpa using List.mem_rtakeWhile_imp member, ?_⟩
  exact (List.mem_filter.mp ((List.rtakeWhile_suffix _ _).subset member)).1

/-- Without a clearing event since, the streak goes on. -/
theorem since_append {later : List α} (unbroken : ∀ a ∈ later, mark a ≠ .clears) :
    since mark (history ++ later) = since mark history ++ later.filter (mark · = .counts) := by
  induction later using List.reverseRecOn with
  | nil => simp
  | append_singleton later a ih =>
    have before := ih fun b member => unbroken b (List.mem_append_left _ member)
    have here := unbroken a (List.mem_append_right _ List.mem_cons_self)
    rw [← List.append_assoc, List.filter_append]
    cases kind : mark a with
    | counts => rw [since_counts kind, before]; simp [kind]
    | clears => exact absurd kind here
    | passes => rw [since_passes kind, before]; simp [kind]

variable {step : σ → α → σ} {start : σ}

/-- The state after a history is the state after its streak. -/
theorem run_since (clears : ∀ s a, mark a = .clears → step s a = start)
    (passes : ∀ s a, mark a = .passes → step s a = s) (history : List α) :
    history.foldl step start = (since mark history).foldl step start := by
  induction history using List.reverseRecOn with
  | nil => rfl
  | append_singleton history a ih =>
    rw [List.foldl_concat, ih]
    cases kind : mark a with
    | counts => rw [since_counts kind, List.foldl_concat]
    | clears => rw [since_clears kind, clears _ _ kind]; rfl
    | passes => rw [since_passes kind, passes _ _ kind]

end Streak
