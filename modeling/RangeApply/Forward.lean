import Mathlib.Logic.Basic

/-! Following pointers from node to node. A chain that ends goes on ending when some pointers are
dropped and one that ended is pointed at a node where chains end. -/
namespace Forward

variable {κ : Type*} {next next' : κ → Option κ} {stop stop' : κ → Prop} {i : κ}

/-- Finitely many pointers lead from the node to one where it stops. -/
inductive Ends (next : κ → Option κ) (stop : κ → Prop) : κ → Prop
  | here {i : κ} (at_ : stop i) : Ends next stop i
  | hop {i j : κ} (points : next i = some j) (rest : Ends next stop j) : Ends next stop i

/-- A node may become an end, keep its pointer, or be pointed at an end. -/
theorem Ends.redirect (ends : Ends next stop i)
    (moves : ∀ j, stop' j ∨ (¬ stop j ∧ next' j = next j) ∨ ∃ t, next' j = some t ∧ stop' t) :
    Ends next' stop' i := by
  induction ends with
  | @here i at_ =>
    rcases moves i with ended | ⟨going, -⟩ | ⟨t, points, ended⟩
    · exact .here ended
    · exact absurd at_ going
    · exact .hop points (.here ended)
  | @hop i j points _ ih =>
    rcases moves i with ended | ⟨-, same⟩ | ⟨t, points', ended⟩
    · exact .here ended
    · exact .hop (same.trans points) ih
    · exact .hop points' (.here ended)

end Forward
