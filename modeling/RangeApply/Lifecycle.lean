import RangeApply.Inbox

/-! How an outcome moves the lifecycle. The attempt is moved along its own table; its candidate
row follows it, by force where the table of the candidate has no such move. -/
namespace RangeApply

/-- The status is kept, or moved as `ATTEMPT_TRANSITIONS` allows. -/
def Application.Along (row row' : Application) : Prop :=
  row'.status = row.status ∨ row'.status ∈ row.status.transitions

/-- The state is kept, or moved as `ALLOWED_TRANSITIONS` allows. -/
def CandidateOpportunity.Along (co co' : CandidateOpportunity) : Prop :=
  co'.state = co.state ∨ co'.state ∈ co.state.transitions

namespace Opening

/-- Both rows of the opening move along their tables. -/
def Along (o o' : Opening) : Prop :=
  Option.Rel Application.Along o.attempt o'.attempt ∧
    Option.Rel CandidateOpportunity.Along o.candidate o'.candidate

/-- The candidate row is where the outcome would move it, or its table has that move. -/
def Follows (current : OutcomeKind) (o : Opening) : Prop :=
  ∀ row co target state, o.attempt = some row → o.candidate = some co →
    lifecycleTarget current row.status = some (target, state) →
    co.state = state ∨ state ∈ co.state.transitions

end Opening

theorem option_rel_refl {α : Type} {r : α → α → Prop} (refl : ∀ a, r a a) (a : Option α) :
    Option.Rel r a a := by
  cases a with
  | none => exact .none
  | some a => exact .some (refl a)

/-- Both moves of the attempt are edges of its table. -/
theorem lifecycleTarget_edge {current : OutcomeKind} {status target : ApplicationStatus}
    {state : OpportunityState} (moves : lifecycleTarget current status = some (target, state)) :
    target ∈ status.transitions ∧ status ≠ target := by
  unfold lifecycleTarget at moves
  split at moves <;> first | cases moves; decide | contradiction

/-- The move of the attempt is never refused. -/
theorem transition_target {current : OutcomeKind} {row : Application} {target : ApplicationStatus}
    {state : OpportunityState} (moves : lifecycleTarget current row.status = some (target, state))
    (now : Time) (reason : Option String) : row.transition now target reason =
      .ok { row with status := target, statusReason := clipped 256 reason, updatedAt := now } := by
  obtain ⟨edge, other⟩ := lifecycleTarget_edge moves
  simp only [Application.transition, if_neg other, if_pos edge]

theorem followCandidate_state (now : Time) (state : OpportunityState) (reason : String)
    (co : CandidateOpportunity) : (followCandidate now state reason co).state = state := by
  unfold followCandidate
  split
  · assumption
  · rename_i other
    by_cases edge : state ∈ co.state.transitions
    · simp [CandidateOpportunity.transition, CandidateOpportunity.forceTo, other, edge]
    · simp [CandidateOpportunity.transition, CandidateOpportunity.forceTo, other, edge]

theorem syncLifecycle_stays {now : Time} {current : OutcomeKind} {o : Opening}
    (stays : ∀ row, o.attempt = some row → lifecycleTarget current row.status = none) :
    syncLifecycle now current o = o := by
  unfold syncLifecycle
  cases attempt : o.attempt with
  | none => rfl
  | some row => simp only [stays row attempt]

theorem syncLifecycle_moves {now : Time} {current : OutcomeKind} {o : Opening} {row : Application}
    {target : ApplicationStatus} {state : OpportunityState} (attempt : o.attempt = some row)
    (moves : lifecycleTarget current row.status = some (target, state)) :
    syncLifecycle now current o = { o with
      attempt := some { row with
        status := target, statusReason := clipped 256 (some s!"outcome {current.value}"),
        updatedAt := now }
      candidate := o.candidate.map (followCandidate now state s!"outcome {current.value}") } := by
  simp only [syncLifecycle, attempt, moves, transition_target moves]

/-- An outcome moves attempt and candidate along their tables exactly when the candidate row
could follow the attempt. -/
theorem syncLifecycle_along_iff (now : Time) (current : OutcomeKind) (o : Opening) :
    o.Along (syncLifecycle now current o) ↔ o.Follows current := by
  by_cases stays : ∀ row, o.attempt = some row → lifecycleTarget current row.status = none
  · rw [syncLifecycle_stays stays]
    constructor
    · intro _ row co target state found _ moves
      rw [stays row found] at moves
      contradiction
    · intro _
      exact ⟨option_rel_refl (fun _ => .inl rfl) _, option_rel_refl (fun _ => .inl rfl) _⟩
  · simp only [not_forall] at stays
    obtain ⟨row, attempt, moving⟩ := stays
    obtain ⟨⟨target, state⟩, moves⟩ := Option.ne_none_iff_exists'.mp moving
    rw [syncLifecycle_moves attempt moves, Opening.Along, attempt]
    constructor
    · rintro ⟨-, candidate⟩ row' co target' state' found here moves'
      cases Option.some.inj (attempt.symm.trans found)
      cases Option.some.inj (moves.symm.trans moves')
      simp only [here, Option.map_some] at candidate
      cases candidate with
      | some along =>
        simp only [CandidateOpportunity.Along, followCandidate_state] at along
        exact along.imp_left Eq.symm
    · intro follows
      refine ⟨.some (.inr (lifecycleTarget_edge moves).1), ?_⟩
      cases here : o.candidate with
      | none => exact .none
      | some co =>
        refine .some ?_
        simp only [CandidateOpportunity.Along, followCandidate_state]
        exact (follows row co target state attempt here moves).imp_left Eq.symm

/-- A verified attempt whose candidate row a person has moved to an offer. -/
def offeredOpening : Opening :=
  { Opening.strong 0 "Acme" "Engineer" with
    candidate := some (.strong .offer)
    attempt := some { Application.fresh 0 with status := .verified } }

/-- An interview request that comes in late forces the offer back to an interview. -/
theorem offer_forced_back :
    (syncLifecycle (days 1) .interviewRequested offeredOpening).candidate.map
        CandidateOpportunity.state = some .interviewing ∧
      OpportunityState.interviewing ∉ OpportunityState.offer.transitions := by
  decide

end RangeApply
