import RangeApply.Service

/-! What a report leaves behind once submit may have been pressed: nothing that an executor
would take up again by itself, unless the report itself hands the item back. -/
namespace RangeApply

namespace Work

/-- A person has to act: the item is in one of the states `retry` opens again, or the attempt
waits for a person. -/
def parked (w : Work) : Bool :=
  w.item.state.parked ||
    match w.attempt.status with
    | .blocked | .needsUserInput | .needsReview => true
    | _ => false

def sent (w : Work) : Bool :=
  match w.attempt.status with
  | .submitted | .verified | .uncertain => true
  | _ => false

def claimable (w : Work) : Bool :=
  decide (w.attempt.status = .ready) && (w.item.state.waiting || w.item.state.held)

structure Remembers (w : Work) : Prop where
  settled : w.sent = true ∨ w.parked = true
  closed : w.claimable = false
  flagged : w.run.submitInvoked = true

end Work

/-- The reports after which a pressed submit is forgotten: a dry run takes the flag back, a
retry with tries left and a cap wait put the item in the queue again. -/
def ExecutionResult.forgets (r : ExecutionResult) (item : QueueItem) : Bool :=
  decide (r.outcome = .dryRun) || r.reopens item

section Report
variable {env : Env} {policy : ApplicationPolicy} {now : Time} {worker : WorkerId}
  {r : ExecutionResult} {w w' : Work}

theorem invoked_of_pressed (pressed : w.run.submitInvoked = true ∨ r.submitAttempted = true)
    (real : r.outcome ≠ .dryRun) : r.invoked w.run = true := by
  have either : (w.run.submitInvoked || r.submitAttempted) = true := by
    rcases pressed with h | h <;> simp [h]
  unfold ExecutionResult.invoked
  split
  · contradiction
  · rfl
  · exact either

theorem finalStatus_of_reopens (reopens : r.reopens w.item = true) :
    r.finalStatus w.item = .ready := by
  unfold ExecutionResult.finalStatus
  split
  · rename_i submitted _
    simp [ExecutionResult.reopens, submitted] at reopens
  · rw [if_pos reopens]
  · rename_i notRetryable _
    unfold ExecutionResult.reopens at reopens
    split at reopens
    · rename_i retryable
      exact absurd retryable notRetryable
    · rename_i review
      simp [ExecutionResult.target, review, reopens]
    · contradiction

/-- A report that neither forgets nor reopens: the attempt is sent or parked. -/
theorem Reported.remembers (reported : Reported now worker r w w')
    (pressed : w.run.submitInvoked = true ∨ r.submitAttempted = true)
    (kept : r.forgets w.item = false) : w'.Remembers := by
  simp only [ExecutionResult.forgets, Bool.or_eq_false_iff, decide_eq_false_iff_not] at kept
  obtain ⟨real, closes⟩ := kept
  have item := reported.item
  rw [if_neg (by simp [closes])] at item
  refine ⟨?_, ?_, ?_⟩
  · by_cases succeeded : w'.item.state = .succeeded
    · -- only a submission ends its item as SUCCEEDED; its verification may still have failed
      have submitted := reported.succeeded succeeded
      have status := reported.status
      simp only [ExecutionResult.finalStatus, submitted, ExecutionResult.target] at status
      split at status
      · rename_i v _ _
        cases outcome : v.status <;>
          simp_all [Work.sent, Work.parked, verifiedStatus]
      · simp_all
      · exact .inl (by simp [Work.sent, status])
    · right
      simp only [Work.parked, Bool.or_eq_true]
      left
      rcases item with h | h | h
      · cases state : w'.item.state <;> simp_all [QueueState.active, QueueState.parked]
      · simp [h, QueueState.parked]
      · simp [h, QueueState.parked]
  · simp only [Work.claimable, Bool.and_eq_false_iff]
    right
    rcases item with h | h | h
    · cases state : w'.item.state <;>
        simp_all [QueueState.active, QueueState.waiting, QueueState.held]
    · simp [h, QueueState.waiting, QueueState.held]
    · simp [h, QueueState.waiting, QueueState.held]
  · rw [reported.submitInvoked]
    exact invoked_of_pressed pressed real

/-- A report that forgets leaves no trace of the press, or puts the attempt back to READY with
its item in the queue. -/
theorem Reported.forgotten (reported : Reported now worker r w w')
    (forgets : r.forgets w.item = true) : ¬ w'.Remembers := by
  rintro ⟨-, closed, flagged⟩
  simp only [ExecutionResult.forgets, Bool.or_eq_true, decide_eq_true_eq] at forgets
  rcases forgets with dry | reopens
  · rw [reported.submitInvoked, ExecutionResult.invoked, dry] at flagged
    contradiction
  · have item := reported.item
    rw [if_pos reopens] at item
    have ready := reported.status.trans (finalStatus_of_reopens reopens)
    simp [Work.claimable, ready, item.1] at closed

/-- Whatever an executor reports of a run whose submit may have been pressed, the press is
remembered exactly when the report is no dry run and does not hand the item back. -/
theorem report_remembers_iff (pressed : w.run.submitInvoked = true ∨ r.submitAttempted = true)
    (done : report now worker r w env policy = .ok w') :
    w'.Remembers ↔ r.outcome ≠ .dryRun ∧
      ¬ (r.outcome = .retryableFailure ∧ w.item.attempts < w.item.maxAttempts) ∧
      ¬ (r.outcome = .needsReview ∧ r.capWait = true) := by
  have reported := report_reported done
  have kinds : r.forgets w.item = true ↔ r.outcome = .dryRun ∨
      (r.outcome = .retryableFailure ∧ w.item.attempts < w.item.maxAttempts) ∨
      (r.outcome = .needsReview ∧ r.capWait = true) := by
    cases outcome : r.outcome <;> simp [ExecutionResult.forgets, ExecutionResult.reopens, outcome]
  constructor
  · intro remembers
    have kept := mt reported.forgotten (not_not.mpr remembers)
    rwa [kinds, not_or, not_or] at kept
  · intro kept
    refine reported.remembers pressed ?_
    rwa [← Bool.not_eq_true, kinds, not_or, not_or]

end Report

/-- A run that has passed the gate and is being reported: one of three tries is used. -/
def pressedWork : Work where
  attempt := { Application.fresh 0 with status := .submitting }
  item := { QueueItem.fresh 0 .submit .auto 0 3 with
    state := .processing, claimedBy := some "w", attempts := 1 }
  run := (startedRun 0 "w" .browserExtension 1).press
  candidate := none
  ledger := .empty

/-- A submission that is reported is remembered. -/
theorem report_remembers_submitted :
    ∃ w', report 10 "w" (.plain .unknown true .timeout "no answer") pressedWork .utc .initial =
      .ok w' ∧ w'.Remembers := by
  have done : report 10 "w" (.plain .unknown true .timeout "no answer") pressedWork .utc .initial =
      .ok _ := rfl
  exact ⟨_, done, (report_remembers_iff (.inl rfl) done).mpr (by decide)⟩

/-- A timeout after the press, with tries left: the attempt is READY again and its item waits
in the queue for the next worker. -/
theorem retry_after_press_forgets :
    ¬ ∀ (env : Env) (policy : ApplicationPolicy) (now : Time) (worker : WorkerId)
      (r : ExecutionResult) (w w' : Work), w.run.submitInvoked = true →
      report now worker r w env policy = .ok w' → w'.Remembers := by
  intro all
  have remembers := all .utc .initial 10 "w" (.plain .retryableFailure true .timeout "timeout")
    pressedWork _ rfl rfl
  have closed := remembers.closed
  revert closed
  decide

end RangeApply
