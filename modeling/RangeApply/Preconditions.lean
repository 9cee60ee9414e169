import RangeApply.Attempts

/-! Submission-time preconditions: everything is checked again immediately before an
executor may act. With `reserve` the check also takes or refreshes the cap slot. -/
namespace RangeApply

structure PreconditionFailure where
  code : PreconditionCode
  message : String
  detail : List (String × List String)
  deriving DecidableEq

def fail (code : PreconditionCode) (message : String)
    (detail : List (String × List String)) : PreconditionFailure :=
  ⟨code, message, detail⟩

structure PreconditionReport where
  failures : List PreconditionFailure
  staleInputs : List String
  capDayKey : Option String
  capWeekKey : Option String
  deriving DecidableEq

namespace PreconditionReport

def ok (r : PreconditionReport) : Bool := decide (r.failures = [])

def has (r : PreconditionReport) (code : PreconditionCode) : Bool :=
  r.failures.any fun f => f.code = code

end PreconditionReport

/-- A check with what it wrote: the ledger and the slot columns of the attempt. -/
structure Checked where
  report : PreconditionReport
  ledger : CapLedger
  attempt : Application

/-- What a check reads besides the rows of the attempt's opening. -/
structure CheckInputs where
  policy : ApplicationPolicy
  now : Time
  others : List Opening
  staleInputs : List String

section Check
variable (env : Env) (x : CheckInputs)

def CheckInputs.keys : PeriodKeys := env.periodKeys x.now x.policy.timezone

/-- The attempt itself: READY, or SUBMITTING at the pre-submit gate, with its slot. -/
def attemptFailures (expected : ApplicationStatus) (row : Application) :
    List PreconditionFailure :=
  (if row.status ≠ expected then
    [fail .attemptNotReady s!"attempt is {row.status.value}, not {expected.value}"
      [("status", [row.status.value])]] else []) ++
  (if row.releasedAt.isSome then
    [fail .slotReleased "the attempt's cap slot was released" []] else [])

def PreparedAnswer.unanswered (a : PreparedAnswer) : Bool :=
  a.required && decide (a.status = .needsUserInput)

def preparationFailures (o : Opening) (preparation : Option Preparation) :
    List PreconditionFailure :=
  match preparation with
  | none => [fail .preparationMissing "no preparation attached" []]
  | some p =>
    (if p.opportunityId ≠ o.opportunity.id then
      [fail .opportunityMismatch "preparation is for another opportunity" []] else []) ++
    (match p.status with
      | .invalidated => [fail .preparationInvalidated "preparation was invalidated" []]
      | .superseded =>
        [fail .preparationNotCurrent "a newer preparation version exists"
          [("version", [toString p.version])]]
      | .ready => []
      | status =>
        [fail .preparationNotReady s!"preparation is {status.value}"
          [("status", [status.value])]]) ++
    (if p.validationStatus ≠ .passed then
      [fail .validationFailed s!"truth validation is {p.validationStatus.value}" []] else []) ++
    (let unanswered := p.answers.filter PreparedAnswer.unanswered
      if unanswered ≠ [] then
        [fail .userInputRequired s!"{unanswered.length} required answer(s) missing"
          [("questions", (unanswered.map PreparedAnswer.question).take 10)]] else []) ++
    (if x.staleInputs ≠ [] then
      [fail .preparationStale
        ("inputs changed since preparation: " ++ ", ".intercalate x.staleInputs)
        [("inputs", x.staleInputs)]] else [])

def sameCompany (o : Opening) : List Opening :=
  x.others.filter fun p => p.attempt.isSome &&
    decide (companyKey env p.opportunity.company = companyKey env o.opportunity.company)

/-- Cool-down and duplicates from other attempts at this company. -/
def companyHistoryFailures (o : Opening) : List PreconditionFailure :=
  let same := sameCompany env x o
  if same = [] then []
  else
    let index := Indexes.build env x.policy.cooldownDays same []
    (match index.cooldown.activeUntil env o.opportunity.company x.now with
      | some until_ =>
        [fail .cooldownActive s!"company cool-down until {env.isoformat until_}"
          [("until", [env.isoformat until_])]]
      | none => []) ++
    (let others := index.others
        (duplicateKey env o.opportunity.company o.opportunity.title) o.opportunity.id
      if others ≠ [] then
        [fail .duplicateApplication "already applied to the same title at this company"
          [("opportunities", others.map toString)]] else []) ++
    (if o.opportunity.status = .reposted ∧ x.policy.duplicatePolicy = .block then
      match (same.find? fun p => p.opportunity.id = o.opportunity.id).bind Opening.attempt with
      | some previous =>
        if previous.status.inSubmittedStatuses then
          [fail .duplicateOpportunity "applied before this repost; duplicate_policy=BLOCK" []]
        else []
      | none => []
    else [])

def openingFailures (o : Opening) : List PreconditionFailure :=
  (if o.opportunity.status = .closed then
    [fail .opportunityClosed "opening is closed at the source" []] else []) ++
  (match o.candidate with
    | none => []
    | some co =>
      if co.state = .closed ∨ co.state = .skipped then
        [fail .opportunityClosed s!"candidate opportunity is {co.state.value}" []] else []) ++
  (if x.policy.blocks env o.opportunity.company then
    [fail .companyBlocked "company is on the blocklist"
      [("company", [o.opportunity.company])]] else []) ++
  companyHistoryFailures env x o

/-- The admission reservation is consumed when it is of the current period; otherwise a slot
of the current period is taken and the old one given back. -/
def checkCaps (keys : PeriodKeys) (reserve : Bool) (ledger : CapLedger) (row : Application) :
    Option PreconditionFailure × CapLedger × Application :=
  let policy := x.policy
  if policy.dailyCap ≤ 0 then
    (some (fail .dailyCapReached "daily_cap is 0 (paused)" []), ledger, row)
  else if policy.weeklyCap ≤ 0 then
    (some (fail .weeklyCapReached "weekly_cap is 0 (paused)" []), ledger, row)
  else if row.holdsSlot ∧ row.capDay = some keys.day.key ∧ row.capWeek = some keys.week.key then
    (none, ledger, row)
  else if reserve = false then
    if policy.dailyCap ≤ ledger.usage .day keys.day.key then
      (some (fail .dailyCapReached "no daily capacity left for a refreshed reservation"
        [("period", [keys.day.key])]), ledger, row)
    else if policy.weeklyCap ≤ ledger.usage .week keys.week.key then
      (some (fail .weeklyCapReached "no weekly capacity left for a refreshed reservation"
        [("period", [keys.week.key])]), ledger, row)
    else (none, ledger, row)
  else match ledger.reserve keys policy.dailyCap policy.weeklyCap with
    | (ledger', some .dailyCapReached) =>
      (some (fail .dailyCapReached s!"daily cap reached for {keys.day.key}"
        [("period", [keys.day.key])]), ledger', row)
    | (ledger', some _) =>
      (some (fail .weeklyCapReached s!"weekly cap reached for {keys.week.key}"
        [("period", [keys.day.key])]), ledger', row)
    | (ledger', none) =>
      (none, if row.holdsSlot then ledger'.release row.capDay row.capWeek else ledger',
        { row with
          capDay := some keys.day.key, capWeek := some keys.week.key,
          reservedAt := row.reservedAt <|> some x.now, releasedAt := none, updatedAt := x.now })

def expectedStatus (executing : Bool) : ApplicationStatus :=
  if executing then .submitting else .ready

/-- Every failure that does not concern caps. -/
def allFailures (o : Opening) (row : Application) (executing : Bool) :
    List PreconditionFailure :=
  attemptFailures (expectedStatus executing) row ++
    preparationFailures x o (o.preparation row.preparationId) ++ openingFailures env x o

/-- The report once the caps have answered. -/
def settleCaps (report : PreconditionReport)
    (caps : Option PreconditionFailure × CapLedger × Application) : Checked where
  report := match caps.1 with
    | none => report
    | some failure => { report with failures := report.failures ++ [failure] }
  ledger := caps.2.1
  attempt := caps.2.2

/-- `PreconditionChecker.check`; `executing` is the pre-submit gate, where the attempt is
legitimately SUBMITTING. -/
def check (o : Opening) (row : Application) (ledger : CapLedger) (reserve executing : Bool) :
    Checked :=
  if row.status.inSubmittedStatuses ∧ row.status ≠ expectedStatus executing then
    ⟨⟨[fail .alreadySubmitted s!"attempt is {row.status.value}"
        [("status", [row.status.value])]], [], none, none⟩, ledger, row⟩
  else
    let keys := x.keys env
    let report : PreconditionReport :=
      ⟨allFailures env x o row executing, x.staleInputs, some keys.day.key, some keys.week.key⟩
    if report.failures ≠ [] then ⟨report, ledger, row⟩
    else settleCaps report (checkCaps x keys reserve ledger row)

end Check

/-! ### What a check wrote -/

/-- Only the slot columns of the attempt may differ. -/
structure SlotOnly (before after : Application) : Prop where
  status : after.status = before.status
  submissionKey : after.submissionKey = before.submissionKey
  submittedAt : after.submittedAt = before.submittedAt
  preparationId : after.preparationId = before.preparationId
  executionCount : after.executionCount = before.executionCount
  attemptNumber : after.attemptNumber = before.attemptNumber
  reserved : after.reservedAt = before.reservedAt ∨ before.reservedAt = none

theorem SlotOnly.refl (row : Application) : SlotOnly row row := ⟨rfl, rfl, rfl, rfl, rfl, rfl, .inl rfl⟩

section Spec
variable {env : Env} {x : CheckInputs} {o : Opening} {row : Application} {ledger : CapLedger}
  {reserve executing : Bool}

/-- How a check may have moved the slot: not at all, or to the current period. -/
inductive SlotMove (x : CheckInputs) (keys : PeriodKeys) (ledger : CapLedger) (row : Application) :
    CapLedger → Application → Prop
  | kept (ledger' : CapLedger)
      (same : ∀ kind key, ledger'.balance kind key = ledger.balance kind key) :
      SlotMove x keys ledger row ledger' row
  | moved (ledger' : CapLedger)
      (granted : ledger.reserve keys x.policy.dailyCap x.policy.weeklyCap = (ledger', none)) :
      SlotMove x keys ledger row
        (if row.holdsSlot then ledger'.release row.capDay row.capWeek else ledger')
        { row with
          capDay := some keys.day.key, capWeek := some keys.week.key,
          reservedAt := row.reservedAt <|> some x.now, releasedAt := none, updatedAt := x.now }

theorem checkCaps_spec (keys : PeriodKeys) :
    SlotMove x keys ledger row (checkCaps x keys reserve ledger row).2.1
      (checkCaps x keys reserve ledger row).2.2 := by
  unfold checkCaps
  dsimp only
  split
  · exact .kept _ fun _ _ => rfl
  split
  · exact .kept _ fun _ _ => rfl
  split
  · exact .kept _ fun _ _ => rfl
  split
  · split
    · exact .kept _ fun _ _ => rfl
    · split <;> exact .kept _ fun _ _ => rfl
  · split
    · rename_i refused
      exact .kept _ (CapLedger.reserve_refused refused).2
    · rename_i refused
      exact .kept _ (CapLedger.reserve_refused refused).2
    · rename_i granted
      exact .moved _ granted

theorem checkCaps_passed {keys : PeriodKeys} (passed : (checkCaps x keys true ledger row).1 = none) :
    (checkCaps x keys true ledger row).2.2.holdsSlot = true ∧
      (checkCaps x keys true ledger row).2.2.capDay = some keys.day.key ∧
      (checkCaps x keys true ledger row).2.2.capWeek = some keys.week.key := by
  unfold checkCaps at passed ⊢
  dsimp only at passed ⊢
  split at passed
  · cases passed
  split at passed
  · cases passed
  rename_i daily weekly
  rw [if_neg daily, if_neg weekly]
  split at passed
  · rename_i same
    rw [if_pos same]
    exact same
  · rename_i other
    rw [if_neg other, if_neg (by simp)]
    rw [if_neg (by simp)] at passed
    split at passed
    · cases passed
    · cases passed
    · refine ⟨?_, rfl, rfl⟩
      unfold Application.holdsSlot
      cases row.reservedAt <;> rfl

theorem SlotMove.slotOnly {keys : PeriodKeys} {ledger' : CapLedger} {row' : Application}
    (move : SlotMove x keys ledger row ledger' row') : SlotOnly row row' := by
  cases move with
  | kept => exact .refl row
  | moved =>
    refine ⟨rfl, rfl, rfl, rfl, rfl, rfl, ?_⟩
    cases h : row.reservedAt <;> simp

theorem check_move (env : Env) (x : CheckInputs) (o : Opening) (row : Application)
    (ledger : CapLedger) (reserve executing : Bool) :
    SlotMove x (x.keys env) ledger row (check env x o row ledger reserve executing).ledger
      (check env x o row ledger reserve executing).attempt := by
  by_cases submitted : row.status.inSubmittedStatuses ∧ row.status ≠ expectedStatus executing
  · simp only [check, if_pos submitted]
    exact .kept _ fun _ _ => rfl
  by_cases failed : allFailures env x o row executing ≠ []
  · simp only [check, if_neg submitted, if_pos failed]
    exact .kept _ fun _ _ => rfl
  · simp only [check, if_neg submitted, if_neg failed, settleCaps]
    exact checkCaps_spec _

/-- What a check that passed has established. -/
structure Passed (env : Env) (x : CheckInputs) (o : Opening) (row row' : Application)
    (executing : Bool) : Prop where
  status : row.status = expectedStatus executing
  releasedAt : row.releasedAt = none
  opening : openingFailures env x o = []
  holds : row'.holdsSlot = true
  day : row'.capDay = some (x.keys env).day.key
  week : row'.capWeek = some (x.keys env).week.key

theorem check_ok_iff : (check env x o row ledger reserve executing).report.ok = true ↔
    ¬ (row.status.inSubmittedStatuses ∧ row.status ≠ expectedStatus executing) ∧
      allFailures env x o row executing = [] ∧
      (checkCaps x (x.keys env) reserve ledger row).1 = none := by
  by_cases submitted : row.status.inSubmittedStatuses ∧ row.status ≠ expectedStatus executing
  · simp [check, PreconditionReport.ok, submitted]
  by_cases failed : allFailures env x o row executing ≠ []
  · simp [check, if_neg submitted, PreconditionReport.ok, failed]
  simp only [check, settleCaps, not_not.mp failed, submitted]
  cases capped : (checkCaps x (x.keys env) reserve ledger row).1 with
  | none => simp [PreconditionReport.ok]
  | some failure => simp [PreconditionReport.ok]

theorem check_ok (ok : (check env x o row ledger reserve executing).report.ok = true) :
    ¬ (row.status.inSubmittedStatuses ∧ row.status ≠ expectedStatus executing) ∧
      allFailures env x o row executing = [] ∧
      (checkCaps x (x.keys env) reserve ledger row).1 = none :=
  check_ok_iff.mp ok

theorem attemptFailures_nil {expected : ApplicationStatus}
    (clear : attemptFailures expected row = []) :
    row.status = expected ∧ row.releasedAt = none := by
  simpa [attemptFailures] using clear

theorem check_passed (ok : (check env x o row ledger true executing).report.ok = true) :
    Passed env x o row (check env x o row ledger true executing).attempt executing := by
  obtain ⟨submitted, clear, capped⟩ := check_ok ok
  have after : (check env x o row ledger true executing).attempt =
      (checkCaps x (x.keys env) true ledger row).2.2 := by
    simp only [check, if_neg submitted, if_neg (not_not.mpr clear), settleCaps]
  obtain ⟨holds, day, week⟩ := checkCaps_passed capped
  simp only [allFailures, List.append_eq_nil_iff] at clear
  obtain ⟨status, releasedAt⟩ := attemptFailures_nil clear.1.1
  exact ⟨status, releasedAt, clear.2, after ▸ holds, after ▸ day, after ▸ week⟩

end Spec

end RangeApply
