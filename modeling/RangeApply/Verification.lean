import RangeApply.Served

/-! When a verification or a confirmation of one run only moves the attempt forward. -/
namespace RangeApply

inductive VerifyCall
  | verify (v : VerificationResult)
  | confirm (submitted : Bool) (reference note : Option String)

namespace VerifyCall

def result : VerifyCall → VerificationResult
  | .verify v => v
  | .confirm submitted reference note => confirmation submitted reference note

def apply (now : Time) (r : RunId) (o : Opening) : VerifyCall → Res Opening
  | .verify v => RangeApply.verify now v r o
  | .confirm submitted reference note => RangeApply.confirm now submitted reference note r o

end VerifyCall

def ApplicationStatus.confirmed : ApplicationStatus → Bool
  | .submitted | .verified => true
  | _ => false

def ApplicationStatus.answered : ApplicationStatus → Bool
  | .interviewing | .rejected => true
  | _ => false

/-- Another run established the attempt's status, or its own outcome is still open. -/
def ExecutionStatus.counts : ExecutionStatus → Bool
  | .submitted | .verified | .running | .unknown => true
  | _ => false

def Opening.otherCounts (o : Opening) (r : RunId) : Prop :=
  ∃ r' run, r' ≠ r ∧ o.runs[r']? = some run ∧ run.status.counts = true

/-- What it means that a call on run `r` moved the attempt from `row` to `row'`, and the run
from `run` to `run'`, forward only. -/
structure Forward (o : Opening) (r : RunId) (v : VerificationStatus) (row row' : Application)
    (run run' : ExecutionRun) : Prop where
  established : v = .failed ∨ v = .likely ∨ v = .unknown → row.status.confirmed = true →
    o.otherCounts r → row'.status.confirmed = true
  likely : v = .likely → (run.status = .verified → run'.status = .verified) ∧
    (row.status = .verified → row'.status = .verified)
  answered : row.status.answered = true → row'.status.confirmed = false ∧ row'.status ≠ .needsReview

/-- The calls that go backwards. -/
inductive Backward (o : Opening) (r : RunId) (v : VerificationStatus) (row : Application)
    (run : ExecutionRun) : Prop
  | failed (result : v = .failed) (status : row.status.confirmed = true) (other : o.otherCounts r)
  | likely (result : v = .likely) (verified : run.status = .verified)
  | answered (result : v = .failed ∨ v = .verified) (status : row.status.answered = true)

section Settles
variable {now : Time} {r : RunId} {o o' : Opening}

theorem putVerdicts_run {w : Verdicts} {run : ExecutionRun} (found : o.runs[r]? = some run) :
    (o.putVerdicts r w).runs[r]? = some w.run := by
  have bound : r < o.runs.length := (List.getElem?_eq_some_iff.mp found).1
  simp [Opening.putVerdicts, bound]

/-- A verification takes the attempt and its run where its table says. -/
theorem verify_moves {v : VerificationResult} (done : verify now v r o = .ok o') :
    ∃ run row run' row', o.runs[r]? = some run ∧ o.attempt = some row ∧
      o'.runs[r]? = some run' ∧ o'.attempt = some row' ∧
      row'.status = verifiedStatus v.status row.status ∧
      run'.status = verifiedRun v.status run.status := by
  obtain ⟨run, row, w, found, attempt, -, settled, rfl⟩ := verify_settled done
  exact ⟨run, row, w.run, w.attempt, found, attempt, putVerdicts_run found, rfl, settled.status,
    settled.runStatus⟩

theorem confirm_moves {submitted : Bool} {reference note : Option String}
    (done : confirm now submitted reference note r o = .ok o') :
    ∃ run row run' row', o.runs[r]? = some run ∧ o.attempt = some row ∧
      o'.runs[r]? = some run' ∧ o'.attempt = some row' ∧
      row'.status = verifiedStatus (confirmation submitted reference note).status row.status ∧
      run'.status = verifiedRun (confirmation submitted reference note).status run.status := by
  obtain ⟨run, row, found, attempt, verified⟩ := confirm_ok done
  split at verified
  · rename_i byHand
    obtain ⟨run₁, row₁, run', row', -, -, found', attempt', status, runStatus⟩ :=
      verify_moves verified
    have result : (confirmation submitted reference note).status = .verified := by
      simp [confirmation, byHand.1]
    exact ⟨run, row, run', row', found, attempt, found', attempt',
      by rw [status, result]; rfl, by rw [runStatus, result]; rfl⟩
  · obtain ⟨run₁, row₁, run', row', found₁, attempt₁, found', attempt', status, runStatus⟩ :=
      verify_moves verified
    cases Option.some.inj (found.symm.trans found₁)
    cases Option.some.inj (attempt.symm.trans attempt₁)
    exact ⟨run, row, run', row', found, attempt, found', attempt', status, runStatus⟩

theorem VerifyCall.moves {call : VerifyCall} (done : call.apply now r o = .ok o') :
    ∃ run row run' row', o.runs[r]? = some run ∧ o.attempt = some row ∧
      o'.runs[r]? = some run' ∧ o'.attempt = some row' ∧
      row'.status = verifiedStatus call.result.status row.status ∧
      run'.status = verifiedRun call.result.status run.status := by
  cases call with
  | verify v => exact verify_moves done
  | confirm submitted reference note => exact confirm_moves done

end Settles

/-- By the tables alone: forward is everything but the three backward kinds. -/
theorem forward_iff {o : Opening} {r : RunId} {v : VerificationStatus} {row row' : Application}
    {run run' : ExecutionRun} (status : row'.status = verifiedStatus v row.status)
    (runStatus : run'.status = verifiedRun v run.status) :
    Forward o r v row row' run run' ↔ ¬ Backward o r v row run := by
  constructor
  · rintro ⟨established, likely, answered⟩ backward
    cases backward with
    | failed result confirmed other =>
      have kept := established (.inl result) confirmed other
      rw [status, result] at kept
      contradiction
    | likely result verified =>
      have kept := (likely result).1 verified
      rw [runStatus, result] at kept
      contradiction
    | answered result closed =>
      obtain ⟨unconfirmed, elsewhere⟩ := answered closed
      rcases result with rfl | rfl
      · exact elsewhere status
      · rw [status] at unconfirmed
        contradiction
  · intro forward
    refine ⟨fun result confirmed other => ?_, fun result => ⟨fun verified => ?_, fun verified => ?_⟩,
      fun closed => ?_⟩
    · rcases result with rfl | rfl | rfl
      · exact absurd (.failed rfl confirmed other) forward
      · rw [status]
        cases before : row.status <;> simp_all [verifiedStatus, ApplicationStatus.confirmed]
      · rw [status]
        exact confirmed
    · exact absurd (.likely result verified) forward
    · rw [status, result, verified]
      rfl
    · have neither : v ≠ .failed ∧ v ≠ .verified :=
        ⟨fun h => forward (.answered (.inl h) closed), fun h => forward (.answered (.inr h) closed)⟩
      rw [status]
      cases v <;> cases before : row.status <;>
        simp_all [verifiedStatus, ApplicationStatus.confirmed, ApplicationStatus.answered]

/-- A verification or confirmation of any run of any attempt moves forward exactly when it is
none of the three backward kinds. -/
theorem verify_forward_iff {now : Time} {r : RunId} {o o' : Opening} {call : VerifyCall}
    (done : call.apply now r o = .ok o') :
    (∀ run row run' row', o.runs[r]? = some run → o.attempt = some row → o'.runs[r]? = some run' →
      o'.attempt = some row' → Forward o r call.result.status row row' run run') ↔
    ∀ run row, o.runs[r]? = some run → o.attempt = some row →
      ¬ Backward o r call.result.status row run := by
  obtain ⟨run, row, run', row', found, attempt, found', attempt', status, runStatus⟩ :=
    VerifyCall.moves done
  have same : Forward o r call.result.status row row' run run' ↔
      ¬ Backward o r call.result.status row run := forward_iff status runStatus
  constructor
  · intro forward run₀ row₀ found₀ attempt₀
    cases Option.some.inj (found.symm.trans found₀)
    cases Option.some.inj (attempt.symm.trans attempt₀)
    exact same.mp (forward run row run' row' found attempt found' attempt')
  · intro forward run₀ row₀ run₁ row₁ found₀ attempt₀ found₁ attempt₁
    cases Option.some.inj (found.symm.trans found₀)
    cases Option.some.inj (attempt.symm.trans attempt₀)
    cases Option.some.inj (found'.symm.trans found₁)
    cases Option.some.inj (attempt'.symm.trans attempt₁)
    exact same.mpr (forward run row found attempt)

/-- An attempt whose first run was lost after the press and whose second run is VERIFIED. -/
def twiceRunOpening : Opening :=
  { Opening.strong 1 "Acme" "Engineer" with
    attempt := some { Application.fresh 0 with status := .verified, executionCount := 2 }
    submit := some { QueueItem.fresh 0 .submit .auto 0 3 with state := .succeeded }
    runs := [(startedRun 0 "w" .mock 1).lostAfterSubmit 5 "lost",
      (startedRun 10 "w" .mock 2).finish 20 .verified none none none] }

/-- The candidate denies the lost run, and the VERIFIED attempt goes back to NEEDS_REVIEW. -/
theorem denied_run_undoes_verified :
    ∃ o', confirm 30 false none none 0 twiceRunOpening = .ok o' ∧
      twiceRunOpening.otherCounts 0 ∧ twiceRunOpening.attempt.map Application.status = some .verified ∧
      o'.attempt.map Application.status = some .needsReview := by
  have done : confirm 30 false none none 0 twiceRunOpening = .ok _ := rfl
  exact ⟨_, done, ⟨1, _, by decide, rfl, by decide⟩, by decide, by decide⟩

/-- Confirming the lost run instead keeps the attempt VERIFIED. -/
theorem confirmed_run_moves_forward :
    ∃ o', (VerifyCall.confirm true none none).apply 30 0 twiceRunOpening = .ok o' ∧
      ∀ run row run' row', twiceRunOpening.runs[0]? = some run → twiceRunOpening.attempt = some row →
        o'.runs[0]? = some run' → o'.attempt = some row' →
        Forward twiceRunOpening 0 .verified row row' run run' := by
  have done : (VerifyCall.confirm true none none).apply 30 0 twiceRunOpening = .ok _ := rfl
  refine ⟨_, done, (verify_forward_iff done).mpr fun run row found attempt backward => ?_⟩
  cases attempt
  cases backward with
  | failed result => contradiction
  | likely result => contradiction
  | answered _ status => contradiction

end RangeApply
