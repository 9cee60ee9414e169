import RangeApply.Scheduler

/-! When an attempt whose submit has no known outcome is admitted again: a repost under
ALLOW_REPOST_AFTER_COOLDOWN lets every submitted status through to the other checks. -/
namespace RangeApply

/-- SUBMITTING or UNCERTAIN: nobody knows whether the employer has it. -/
def Application.unresolved (row : Application) : Prop :=
  row.status = .submitting ∨ row.status = .uncertain

/-- Everything that has to come together for a submitted attempt to be admitted again. -/
structure Readmits (env : Env) (ctx : Context) (o : Opening) (co : CandidateOpportunity)
    (row : Application) : Prop where
  reposted : repostedAfter o row = true
  allowed : ctx.policy.duplicatePolicy = .allowRepostAfterCooldown
  opening : o.opportunity.status ≠ .closed
  candidate : co.state ≠ .skipped ∧ co.state ≠ .closed
  gates : (evaluateGates env ctx.policy (candidacy o co)).passed = true
  prepare : ∀ item, o.prepare = some item → item.state ≠ .cancelled ∧ item.state ≠ .failed
  duplicates : ctx.index.others (duplicateKey env o.opportunity.company o.opportunity.title)
    o.opportunity.id = []
  cooldown : ctx.index.cooldown.activeUntil env o.opportunity.company ctx.now = none
  caps : 0 < ctx.policy.dailyCap ∧ 0 < ctx.policy.weeklyCap

section Decide
variable {env : Env} {ctx : Context} {o : Opening} {co : CandidateOpportunity} {row : Application}

theorem attemptVerdict_submitted (submitted : row.isSubmitted = true) :
    attemptVerdict ctx o row = none ↔
      repostedAfter o row = true ∧ ctx.policy.duplicatePolicy = .allowRepostAfterCooldown := by
  unfold attemptVerdict
  rw [if_pos submitted]
  split
  · rename_i reposted
    cases policy : ctx.policy.duplicatePolicy <;> simp [reposted]
  · rename_i fresh
    simp [fresh]

theorem evaluateAdmission_admitted (policy : ApplicationPolicy) (c : Candidacy) :
    (evaluateAdmission env policy c).admitted = true ↔ (evaluateGates env policy c).passed = true := by
  unfold evaluateAdmission
  split <;> simp_all

theorem preparationVerdict_none (attempt : o.attempt = some row) :
    preparationVerdict o = none ↔
      ∀ item, o.prepare = some item → item.state ≠ .cancelled ∧ item.state ≠ .failed := by
  unfold preparationVerdict
  cases there : o.prepare with
  | none => simp [attempt]
  | some item => cases state : item.state <;> simp [attempt, state]

theorem statefulVerdict_none : statefulVerdict env ctx o = none ↔
    ctx.index.others (duplicateKey env o.opportunity.company o.opportunity.title) o.opportunity.id = [] ∧
      ctx.index.cooldown.activeUntil env o.opportunity.company ctx.now = none ∧
      0 < ctx.policy.dailyCap ∧ 0 < ctx.policy.weeklyCap := by
  unfold statefulVerdict
  dsimp only
  split
  · rename_i others
    simp [others]
  · rename_i alone
    rw [ne_eq, not_not] at alone
    cases until_ : ctx.index.cooldown.activeUntil env o.opportunity.company ctx.now with
    | some t => simp
    | none =>
      dsimp only
      split
      · rename_i paused
        simp only [reduceCtorEq, false_iff]
        omega
      split
      · rename_i paused
        simp only [reduceCtorEq, false_iff]
        omega
      · rename_i daily weekly
        simp only [alone, true_and, true_iff]
        omega

/-- For an attempt in a submitted status, ADMITTED is the repost exception and nothing else. -/
theorem decide_admitted_submitted (attempt : o.attempt = some row)
    (submitted : row.isSubmitted = true) :
    (decideOpening env ctx o co).code = .admitted ↔ Readmits env ctx o co row := by
  rw [decide_admitted, evaluateAdmission_admitted, preparationVerdict_none attempt,
    statefulVerdict_none]
  simp only [earlierVerdict, attempt, attemptVerdict_submitted submitted, not_or]
  constructor
  · rintro ⟨notSkipped, ⟨opening, notClosed⟩, ⟨reposted, allowed⟩, gates, prepare, duplicates,
      cooldown, caps⟩
    exact ⟨reposted, allowed, opening, ⟨notSkipped, notClosed⟩, gates, prepare, duplicates, cooldown,
      caps⟩
  · rintro ⟨reposted, allowed, opening, ⟨notSkipped, notClosed⟩, gates, prepare, duplicates, cooldown,
      caps⟩
    exact ⟨notSkipped, ⟨opening, notClosed⟩, ⟨reposted, allowed⟩, gates, prepare, duplicates,
      cooldown, caps⟩

theorem Application.unresolved.isSubmitted (unresolved : row.unresolved) : row.isSubmitted = true := by
  rcases unresolved with h | h <;> simp [Application.isSubmitted, h,
    ApplicationStatus.inSubmittedStatuses]

end Decide

/-! ### In a pass -/

def DB.attempt (db : DB) (i : OpportunityId) : Option Application :=
  (db.openings.get i).bind Opening.attempt

theorem DB.attempt_of_get {db : DB} {i : OpportunityId} {o : Opening}
    (found : db.openings.get i = some o) : db.attempt i = o.attempt := by
  simp [DB.attempt, found]

theorem Pass.stamp_attempt (p : Pass) (i j : OpportunityId) (code : AdmissionReason) (v : Verdict) :
    (p.stamp i code v).db.attempt j = p.db.attempt j := by
  unfold Pass.stamp
  dsimp only
  rcases p.db.update_cases (i := i) (fun s => { s with opening := { s.opening with
      candidate := s.opening.candidate.map (·.stamp p.db.now code v p.db.policy.version) } })
    with same | ⟨o, found, changed⟩
  · rw [same]
  · rw [changed]
    by_cases here : j = i
    · subst here
      rw [DB.attempt_of_get (DB.get_put_self _ found), DB.attempt_of_get found]
    · simp only [DB.attempt, DB.get_put_other _ here]

theorem Pass.consider_refused {env : Env} {window : Nat} {p : Pass} {i : OpportunityId} {o : Opening}
    {co : CandidateOpportunity} (found : p.db.openings.get i = some o) (candidate : o.candidate = some co)
    (refused : (decideOpening env p.context o co).code ≠ .admitted) :
    (p.consider env window i).db.attempt i = o.attempt := by
  have closed : (decideOpening env p.context o co).admissible = false := by
    simpa [Verdict.admissible] using refused
  simp only [Pass.consider, found, candidate, closed, if_true]
  rw [Pass.stamp_attempt, DB.attempt_of_get found]

/-- An unresolved attempt is not admitted, and no pass touches it, exactly when the repost
exception with all the other checks does not apply. -/
theorem unresolved_not_readmitted_iff {env : Env} {ctx : Context} {o : Opening}
    {co : CandidateOpportunity} {row : Application} (attempt : o.attempt = some row)
    (unresolved : row.unresolved) :
    ((decideOpening env ctx o co).code ≠ .admitted ∧
      ∀ (p : Pass) (window : Nat) (i : OpportunityId), p.context = ctx →
        p.db.openings.get i = some o → o.candidate = some co →
        (p.consider env window i).db.attempt i = some row) ↔ ¬ Readmits env ctx o co row := by
  rw [← decide_admitted_submitted attempt unresolved.isSubmitted]
  constructor
  · exact fun both => both.1
  · intro refused
    refine ⟨refused, fun p window i context found candidate => ?_⟩
    rw [Pass.consider_refused found candidate (by rwa [context]), attempt]

/-- An opening whose only attempt went UNCERTAIN, reposted five months after the reservation. -/
def repostedOpening : Opening :=
  { Opening.strong 1 "Acme" "Engineer" with
    opportunity := ⟨1, "Acme", "Engineer", .reposted, none, none, some (days 150)⟩
    candidate := some (.strong .queued)
    attempt := some { Application.fresh 0 with
      status := .uncertain, reservedAt := some 0, capDay := some "0", capWeek := some "0" } }

/-- Two hundred days on, under ALLOW_REPOST_AFTER_COOLDOWN, with the indexes built as a run
builds them. -/
def repostPass : Pass where
  db := {
    now := days 200
    policy := { ApplicationPolicy.initial with duplicatePolicy := .allowRepostAfterCooldown }
    switches := []
    live := true
    answersAt := none
    openings := ⟨[(1, repostedOpening)], by decide⟩
    ledger := .empty }
  index := Indexes.build .utc 90 [repostedOpening] [repostedOpening]
  admitted := 0
  capHit := none

/-- The attempt whose submit has no known outcome is admitted, and QUALIFIED again. -/
theorem uncertain_repost_readmitted :
    repostedOpening.attempt.map Application.status = some .uncertain ∧
      (decideOpening .utc repostPass.context repostedOpening (.strong .queued)).code = .admitted ∧
      ((repostPass.consider .utc 500 1).db.attempt 1).map Application.status = some .qualified := by
  decide

/-- Under the policy's default, BLOCK, the same attempt stays as it is. -/
theorem uncertain_repost_blocked :
    (decideOpening .utc ⟨.initial, days 200, repostPass.index⟩ repostedOpening
      (.strong .queued)).code ≠ .admitted :=
  ((unresolved_not_readmitted_iff rfl (.inr rfl)).mpr fun readmits =>
    absurd readmits.allowed (by decide)).1

end RangeApply
