import RangeApply.Attempts

/-! One scheduling decision, without I/O: the checks in their order, the first hit wins.
Priority is consulted by `orderingKey` alone, which decides order and never whether. -/
namespace RangeApply

structure Verdict where
  code : AdmissionReason
  reason : String
  lane : Option Lane
  level : Option TailoringLevel
  gates : Option GateReport

namespace Verdict

def refuse (code : AdmissionReason) (reason : String) : Verdict := ⟨code, reason, none, none, none⟩

def admissible (v : Verdict) : Bool := decide (v.code = .admitted)

end Verdict

/-- What a decision is taken against; the rows of the opening come with the opening. -/
structure Context where
  policy : ApplicationPolicy
  now : Time
  index : Indexes

/-- Eligibility, role relevance, fit band, then priority, earliest deadline, freshest posting
and id: compared from left to right. -/
def orderingKey (o : Opening) (co : CandidateOpportunity) : List Int :=
  [ match co.eligibilityStatus with
    | some .eligible | some .likely => 0
    | some .uncertain => 1
    | _ => 2,
    match o.role with
    | some role => role.relevanceRank
    | none => 2,
    match co.fitBand with
    | some .high => 0
    | some .medium => 1
    | some .low => 2
    | none => 3,
    -(co.priorityScore.getD (-1)),
    if o.opportunity.deadline.isSome then 0 else 1,
    o.opportunity.deadline.getD 0,
    -(o.opportunity.firstSeenAt.getD 0),
    o.opportunity.id ]

def keyLe : List Int → List Int → Bool
  | [], _ => true
  | _ :: _, [] => false
  | a :: as, b :: bs => if a = b then keyLe as bs else decide (a < b)

def repostedAfter (o : Opening) (row : Application) : Bool :=
  match o.opportunity.repostedAt, row.appliedAt with
  | some reposted, some applied => decide (applied < reposted)
  | _, _ => false

/-- A verdict when an existing attempt settles the matter, `none` to continue. -/
def attemptVerdict (ctx : Context) (o : Opening) (row : Application) : Option Verdict :=
  if row.isSubmitted then
    if repostedAfter o row then
      if ctx.policy.duplicatePolicy = .block then
        some (.refuse .duplicateOpportunity "applied before this repost; duplicate_policy=BLOCK")
      -- ALLOW_REPOST_AFTER_COOLDOWN falls through to the cool-down check
      else none
    else some (.refuse .alreadySubmitted s!"attempt {row.status.value.toLower}")
  else if row.holdsSlot || row.isInFlight then
    match row.status with
    | .blocked =>
      some (.refuse .needsReview (clip 200
        ("execution handed off: " ++ textOr row.blockedReason (textOr row.statusReason "blocked"))))
    | .needsUserInput =>
      some (.refuse .needsUserInput
        (clip 200 (textOr row.statusReason "execution needs the candidate")))
    | .needsReview =>
      some (.refuse .needsReview
        (clip 200 (textOr row.statusReason "execution needs a human look")))
    | status =>
      match o.prepare.map QueueItem.state with
      | some .blocked =>
        some (.refuse .needsUserInput
          (clip 200 (textOr (o.prepare.bind QueueItem.lastError) "blocked")))
      | some .needsReview =>
        some (.refuse .needsReview
          (clip 200 (textOr (o.prepare.bind QueueItem.lastError) "needs review")))
      | item =>
        if status = .ready then some (.refuse .alreadyInProgress "ready for execution")
        else
          let state := match item with
            | some s => s.value.toLower
            | none => status.value.toLower
          some (.refuse .alreadyInProgress s!"attempt in progress ({state})")
  else none

def candidacy (o : Opening) (co : CandidateOpportunity) : Candidacy where
  decision := co.eligibilityStatus
  band := co.fitBand
  company := o.opportunity.company
  fitScore := co.fitScore
  opportunityStatus := o.opportunity.status
  candidateState := co.state
  geography := o.geography
  role := o.role

section Decide
variable (env : Env) (ctx : Context) (o : Opening) (co : CandidateOpportunity)

/-- The verdict of the existing attempt, or of the candidate row when there is none. -/
def earlierVerdict : Option Verdict :=
  match o.attempt with
  | some row => attemptVerdict ctx o row
  | none =>
    if co.state.applied then
      some (.refuse .alreadySubmitted s!"candidate opportunity is {co.state.value}")
    else if co.state = .approved ∨ co.state = .submitting then
      some (.refuse .alreadyInProgress s!"candidate opportunity is {co.state.value}")
    else none

/-- A PREPARE item a human ended stays ended until a human re-queues it, and a preparation of
an opening without an attempt may wait on a human. -/
def preparationVerdict : Option Verdict :=
  match o.prepare.map QueueItem.state with
  | some .cancelled =>
    some (.refuse .userBlocked "PREPARE item cancelled; requeue to reconsider")
  | some .failed =>
    some (.refuse .needsReview "preparation failed permanently; requeue to retry")
  | _ =>
    match o.attempt, o.latestPreparation.map Preparation.status with
    | none, some .needsUserInput =>
      some (.refuse .needsUserInput "preparation needs answers from the candidate")
    | none, some .needsReview =>
      some (.refuse .needsReview "preparation needs a human look")
    | _, _ => none

/-- The stateful checks after the gates: duplicates, cool-down, paused caps. -/
def statefulVerdict : Option Verdict :=
  let others := ctx.index.others
    (duplicateKey env o.opportunity.company o.opportunity.title) o.opportunity.id
  if others ≠ [] then
    some (.refuse .duplicateApplication
      s!"already applied to the same title at this company ({others.length} other opening)")
  else match ctx.index.cooldown.activeUntil env o.opportunity.company ctx.now with
    | some until_ => some (.refuse .cooldownActive s!"company cool-down until {env.isoformat until_}")
    | none =>
      if ctx.policy.dailyCap ≤ 0 then
        some (.refuse .dailyCapReached "daily_cap is 0 (paused)")
      else if ctx.policy.weeklyCap ≤ 0 then
        some (.refuse .weeklyCapReached "weekly_cap is 0 (paused)")
      else none

/-- `decide`. -/
def decideOpening : Verdict :=
  if co.state = .skipped then
    .refuse .userBlocked (textOr co.skippedReason "skipped by candidate")
  else if o.opportunity.status = .closed ∨ co.state = .closed then
    .refuse .opportunityClosed "opening is closed at the source"
  else match earlierVerdict ctx o co with
    | some settled => settled
    | none =>
      let admission := evaluateAdmission env ctx.policy (candidacy o co)
      if admission.admitted = false then
        ⟨admission.code, admission.reason, none, none, some admission.gates⟩
      else match preparationVerdict o with
        | some settled => settled
        | none => match statefulVerdict env ctx o with
          | some settled => settled
          | none =>
            ⟨.admitted, admission.reason, admission.lane, admission.tailoringLevel,
              some admission.gates⟩

variable {env ctx o co}

/-- What an earlier attempt or preparation can settle. -/
def heldCodes : List AdmissionReason :=
  [.duplicateOpportunity, .alreadySubmitted, .alreadyInProgress, .needsUserInput, .needsReview,
    .userBlocked]

theorem attemptVerdict_code {row : Application} {v : Verdict}
    (settled : attemptVerdict ctx o row = some v) : v.code ∈ heldCodes := by
  unfold attemptVerdict at settled
  split at settled
  · split at settled
    · split at settled <;> cases settled
      simp [Verdict.refuse, heldCodes]
    · cases settled
      simp [Verdict.refuse, heldCodes]
  · split at settled
    · split at settled
      · cases settled; simp [Verdict.refuse, heldCodes]
      · cases settled; simp [Verdict.refuse, heldCodes]
      · cases settled; simp [Verdict.refuse, heldCodes]
      · split at settled
        · cases settled; simp [Verdict.refuse, heldCodes]
        · cases settled; simp [Verdict.refuse, heldCodes]
        · split at settled <;> cases settled <;> simp [Verdict.refuse, heldCodes]
    · cases settled

theorem earlierVerdict_code {v : Verdict} (settled : earlierVerdict ctx o co = some v) :
    v.code ∈ heldCodes := by
  unfold earlierVerdict at settled
  split at settled
  · exact attemptVerdict_code settled
  · split at settled
    · cases settled; simp [Verdict.refuse, heldCodes]
    · split at settled <;> cases settled
      simp [Verdict.refuse, heldCodes]

theorem preparationVerdict_code {v : Verdict} (settled : preparationVerdict o = some v) :
    v.code ∈ heldCodes := by
  unfold preparationVerdict at settled
  split at settled
  · cases settled; simp [Verdict.refuse, heldCodes]
  · cases settled; simp [Verdict.refuse, heldCodes]
  · split at settled <;> cases settled <;> simp [Verdict.refuse, heldCodes]

theorem statefulVerdict_code {v : Verdict} (settled : statefulVerdict env ctx o = some v) :
    v.code ≠ .admitted := by
  unfold statefulVerdict at settled
  dsimp only at settled
  split at settled
  · cases settled; simp [Verdict.refuse]
  · split at settled
    · cases settled; simp [Verdict.refuse]
    · split at settled
      · cases settled; simp [Verdict.refuse]
      · split at settled <;> cases settled
        simp [Verdict.refuse]

theorem decide_admitted : (decideOpening env ctx o co).code = .admitted ↔
    co.state ≠ .skipped ∧ ¬ (o.opportunity.status = .closed ∨ co.state = .closed) ∧
      earlierVerdict ctx o co = none ∧
      (evaluateAdmission env ctx.policy (candidacy o co)).admitted = true ∧
      preparationVerdict o = none ∧ statefulVerdict env ctx o = none := by
  unfold decideOpening
  split
  · simp_all [Verdict.refuse]
  split
  · simp_all [Verdict.refuse]
  rename_i notSkipped notClosed
  have held {v : Verdict} (code : v.code ∈ heldCodes) : v.code ≠ .admitted :=
    fun same => absurd (same ▸ code) (by decide)
  cases earlier : earlierVerdict ctx o co with
  | some v => simp [held (earlierVerdict_code earlier)]
  | none =>
    dsimp only
    split
    · rename_i refused
      have gate : (evaluateAdmission env ctx.policy (candidacy o co)).code ≠ .admitted :=
        fun same => absurd (same ▸ code_of_refused env ctx.policy _ refused) (by decide)
      simp [refused, gate]
    · rename_i admitted
      cases prepared : preparationVerdict o with
      | some v => simp [held (preparationVerdict_code prepared)]
      | none =>
        cases stateful : statefulVerdict env ctx o with
        | some v => simp [statefulVerdict_code stateful]
        | none => simp_all

end Decide

end RangeApply
