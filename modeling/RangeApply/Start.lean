import RangeApply.Preconditions
import RangeApply.Report

/-! `start`: the guarded entry into execution for a claimed SUBMIT item. Everything it writes
is committed at once; the steps below are in the order of the source. -/
namespace RangeApply

/-- One opening with the tenant's ledger: what an operation on an attempt may write. -/
structure Slice where
  opening : Opening
  ledger : CapLedger

def Slice.settle (s : Slice) (row : Application) (item : QueueItem) : Slice :=
  { s with opening := { s.opening with attempt := some row, submit := some item } }

structure Executor where
  kind : ExecutorKind
  canHandle : Bool
  atsFamily : String

/-- What `start` reads besides the rows of the opening and the ledger: the registered executor
of the requested kind, and the problems met when the documents were rendered. -/
structure StartReads where
  check : CheckInputs
  switches : List (String × Bool)
  executorKind : ExecutorKind
  executor : Option Executor
  documentProblems : List String

inductive StartOutcome
  | noAttempt
  | alreadySubmitted
  | awaitingVerification
  | notReady (status : ApplicationStatus)
  | paused
  | preconditionFailed (codes : List PreconditionCode)
  | noExecutor
  | documentFailed (problems : List String)
  | handoff
  | lostRace
  | started (run : RunId)
  deriving DecidableEq

/-- `_stale_inputs`: only a READY preparation is compared with its inputs. -/
def CheckInputs.forPreparation (x : CheckInputs) (preparation : Option Preparation) : CheckInputs :=
  { x with staleInputs := match preparation with
      | none => []
      | some p => if p.status = .ready then x.staleInputs else [] }

/-! ### Runs left RUNNING -/

/-- The better of two candidates for the newest RUNNING run. -/
def newerRun (best : Option (RunId × ExecutionRun)) (entry : ExecutionRun × RunId) :
    Option (RunId × ExecutionRun) :=
  if entry.1.status = .running then
    match best with
    | none => some (entry.2, entry.1)
    | some b => if b.2.runNumber ≤ entry.1.runNumber then some (entry.2, entry.1) else best
  else best

/-- `_crashed_run`: the RUNNING run with the highest number. -/
def crashedRun (runs : List ExecutionRun) : Option (RunId × ExecutionRun) :=
  runs.zipIdx.foldl newerRun none

/-- The executor was lost after it may have pressed submit. -/
def ExecutionRun.lostAfterSubmit (now : Time) (message : String) (run : ExecutionRun) :
    ExecutionRun :=
  run.finish now .unknown (some .unknown) (some .executorCrash) (some message)

/-- The executor was lost before it could press submit. -/
def ExecutionRun.lostBeforeSubmit (now : Time) (message : String) (run : ExecutionRun) :
    ExecutionRun :=
  run.finish now .failedRetryable (some .retryableFailure) (some .executorCrash) (some message)

/-- A SUBMITTING attempt without a live executor goes back to READY. -/
def Application.reclaim (now : Time) (reason : String) (row : Application) : Application :=
  ({ row with submissionKey := none } : Application).forceTo now .ready (some reason)

section Start
variable (env : Env) (x : StartReads) (worker : WorkerId)

def parkItem (now : Time) (worker : WorkerId) (item : QueueItem) (status : ApplicationStatus)
    (reason : String) : Res QueueItem :=
  match status with
  | .needsUserInput | .blocked => item.block now worker reason
  | .failed | .cancelled | .closed => item.cancel now
  | _ => .ok (item.needsReview now reason)

/-! ### Failed preconditions -/

def PreconditionReport.codes (report : PreconditionReport) : List PreconditionCode :=
  report.failures.map PreconditionFailure.code

def PreconditionReport.message (report : PreconditionReport) : String :=
  clip 2000 ("; ".intercalate (report.failures.map fun f => s!"{f.code.value}: {f.message}"))

/-- The run that records failed preconditions; no executor is behind it. -/
def preconditionRun (now : Time) (worker : WorkerId) (row : Application)
    (status : ExecutionStatus) (message : String) : ExecutionRun where
  executorKind := none
  workerId := worker
  runNumber := row.executionCount
  status := status
  outcome := none
  submitInvoked := false
  startedAt := now
  finishedAt := some now
  applicationUrl := none
  externalApplicationId := none
  confirmationReference := none
  verificationStatus := .notAttempted
  verificationMethod := none
  verificationDetail := none
  errorClass := some .policy
  errorMessage := some message
  handoffReason := none

/-- The stale package is invalidated when it still is READY. -/
def invalidate (preparations : List Preparation) (stale : Option Preparation) : List Preparation :=
  match stale with
  | none => preparations
  | some p =>
    if p.status = .ready then
      preparations.map fun q => if q.id = p.id then { q with status := .invalidated } else q
    else preparations

/-- The PREPARE item is queued again, or for the first time. -/
def reprepareItem (now : Time) (row : Application) (o : Opening) : Res (Option QueueItem) :=
  match o.prepare with
  | some item =>
    if item.state.waiting || item.state.held then .ok (some item)
    else (item.requeue now true).map some
  | none =>
    match o.candidate with
    | none => .ok none
    | some co => .ok (some (.fresh now .prepare (row.lane.getD .review)
        (co.priorityScore.getD 0) QueueItem.defaultMaxAttempts))

/-- `_reprepare`: the attempt waits for a new package. -/
def Application.reprepare (now : Time) (message : String) (row : Application) : Application :=
  ({ row with submissionKey := none } : Application).forceTo now .preparing
    (some (clip 256 s!"re-preparing: {message}"))

def PreconditionReport.closes (report : PreconditionReport) : Bool :=
  report.has .companyBlocked || report.has .opportunityClosed || report.has .duplicateApplication ||
    report.has .duplicateOpportunity || report.has .alreadySubmitted

def PreconditionReport.stale (report : PreconditionReport) : Bool :=
  report.has .preparationStale || report.has .preparationNotCurrent

def PreconditionReport.capped (report : PreconditionReport) : Bool :=
  report.has .dailyCapReached || report.has .weeklyCapReached

def PreconditionReport.cooldownUntil (report : PreconditionReport) : String :=
  ((report.failures.find? fun f => f.code = .cooldownActive).bind fun f =>
    (f.detail.lookup "until").bind List.head?).getD "None"

/-- `_settle_preconditions`. The slice carries the ledger and the attempt as the check left
them; the branches are the source's, in its order. -/
def settlePreconditions (s : Slice) (item : QueueItem) (row : Application)
    (report : PreconditionReport) : Res Slice :=
  let now := x.check.now
  let message := report.message
  let row := { row with lastExecutionId := some s.opening.runs.length }
  let record (status : ExecutionStatus) : Slice := { s with opening := { s.opening with
    runs := s.opening.runs ++ [preconditionRun now worker row status message] } }
  if report.stale then do
    let prepare ← reprepareItem now row s.opening
    let settled := (record .stale).settle (row.reprepare now message)
      (item.needsReview now (clip 2000 s!"stale preparation: {message}"))
    .ok { settled with opening := { settled.opening with
      prepare := prepare
      preparations := invalidate s.opening.preparations (s.opening.preparation row.preparationId) } }
  else if report.closes then
    if report.has .alreadySubmitted then do
      let item ← item.succeed now worker
      .ok ((record .preconditionFailed).settle row item)
    else do
      let released := row.release now s.ledger .closed (clip 256 message)
      let item ← item.cancel now
      .ok { (record .preconditionFailed).settle released.2 item with ledger := released.1 }
  else if report.has .cooldownActive then do
    let item ← item.block now worker s!"cooldown active until {report.cooldownUntil}"
    .ok ((record .preconditionFailed).settle
      { row.forceTo now .blocked (some (clip 256 message)) with
        blockedReason := some "COOLDOWN_ACTIVE" } item)
  else if report.capped then do
    let item ← item.release now worker
    let code := if report.has .dailyCapReached then PreconditionCode.dailyCapReached
      else .weeklyCapReached
    .ok ((record .preconditionFailed).settle row
      { item with availableAt := periodEnd env x.check.policy now code })
  else if report.has .userInputRequired then do
    let item ← item.block now worker message
    .ok ((record .preconditionFailed).settle
      (row.forceTo now .needsUserInput (some (clip 256 message))) item)
  else
    .ok ((record .preconditionFailed).settle
      (row.forceTo now .needsReview (some (clip 256 message))) (item.needsReview now message))

/-! ### The run -/

def startedRun (now : Time) (worker : WorkerId) (kind : ExecutorKind) (number : Nat) :
    ExecutionRun where
  executorKind := some kind
  workerId := worker
  runNumber := number
  status := .running
  outcome := none
  submitInvoked := false
  startedAt := now
  finishedAt := none
  applicationUrl := none
  externalApplicationId := none
  confirmationReference := none
  verificationStatus := .notAttempted
  verificationMethod := none
  verificationDetail := none
  errorClass := none
  errorMessage := none
  handoffReason := none

/-- READY to SUBMITTING under a fresh submission key. -/
def Application.submitWith (now : Time) (kind : ExecutorKind) (run : RunId) (row : Application) :
    Application :=
  { row with
    status := .submitting
    submissionKey := some ⟨row.attemptNumber, row.executionCount + 1⟩
    executionCount := row.executionCount + 1
    statusReason := some s!"executing with {kind.value}"
    lastExecutionId := some run
    updatedAt := now }

/-- What follows once every check has passed: documents, the executor's capability, then the
mutex, whose guard is READY without a submission key. `before` and `original` are the rows the
failed guard rolls back to. -/
def launch (before : Slice) (original : QueueItem) (s : Slice) (item : QueueItem)
    (row : Application) (executor : Executor) : Res (Slice × StartOutcome) :=
  let now := x.check.now
  if x.documentProblems ≠ [] then
    let message := "documents: " ++ clip 1500 ("; ".intercalate x.documentProblems)
    .ok (s.settle (row.forceTo now .needsReview (some (clip 256 message)))
      (item.needsReview now message), .documentFailed x.documentProblems)
  else if executor.canHandle = false then do
    let paused ← handoff now worker .ambiguousForm
      s!"{x.executorKind.value} cannot handle {executor.atsFamily}" row item
    .ok (s.settle paused.1 paused.2, .handoff)
  else if row.submissionKey ≠ none then do
    let item ← original.release now worker
    .ok ({ before with opening := { before.opening with submit := some item } }, .lostRace)
  else
    let run := s.opening.runs.length
    let settled := s.settle (row.submitWith now executor.kind run) item
    .ok ({ settled with opening := { settled.opening with
      runs := s.opening.runs ++ [startedRun now worker executor.kind (row.executionCount + 1)] } },
      .started run)

/-- The attempt is READY or not startable: kill switch, preconditions, executor. -/
def startReady (before : Slice) (original : QueueItem) (s : Slice) (item : QueueItem)
    (row : Application) : Res (Slice × StartOutcome) :=
  let now := x.check.now
  if row.status ≠ .ready then do
    let item ← parkItem now worker item row.status (textOr row.statusReason row.status.value)
    .ok (s.settle row item, .notReady row.status)
  else if isPaused x.switches s.opening.source then do
    let item ← item.release now worker
    .ok (s.settle row { item with availableAt := now + minutes 10 }, .paused)
  else
    let checked := check env (x.check.forPreparation (s.opening.preparation row.preparationId))
      s.opening row s.ledger true false
    if checked.report.ok = false then do
      let settled ← settlePreconditions env x worker { s with ledger := checked.ledger } item
        checked.attempt checked.report
      .ok (settled, .preconditionFailed checked.report.codes)
    else match x.executor with
      | none => do
        let item ← item.release now worker
        .ok (({ s with ledger := checked.ledger } : Slice).settle checked.attempt item, .noExecutor)
      | some executor =>
        launch x worker before original { s with ledger := checked.ledger } item checked.attempt
          executor

/-- Idempotency: what happened to this attempt before. -/
def startAttempt (s : Slice) (original item : QueueItem) (row : Application) :
    Res (Slice × StartOutcome) :=
  let now := x.check.now
  if row.status = .submitted ∨ row.status = .verified then do
    let item ← item.succeed now worker
    .ok (s.settle row item, .alreadySubmitted)
  else if row.status = .uncertain then
    .ok (s.settle row (item.needsReview now
      "awaiting verification of an earlier submit; never resubmitted automatically"),
      .awaitingVerification)
  else if row.status = .submitting then
    let ready := row.reclaim now "reclaimed after a lost executor"
    match crashedRun s.opening.runs with
    | none => startReady env x worker s original s item ready
    | some (r, run) =>
      if run.submitInvoked then
        -- the verification status of the run stays as `startedRun` wrote it
        let settled := s.settle
          (row.forceTo now .uncertain (some "executor lost after submit was invoked"))
          (item.needsReview now
            "awaiting verification: earlier executor was lost after pressing submit")
        .ok ({ settled with opening := { settled.opening with
          runs := s.opening.runs.modify r
            (ExecutionRun.lostAfterSubmit now "executor lost after submit was invoked") } },
          .awaitingVerification)
      else
        startReady env x worker s original { s with opening := { s.opening with
          runs := s.opening.runs.modify r
            (ExecutionRun.lostBeforeSubmit now "executor lost before submit; safe to retry") } }
          item ready
  else startReady env x worker s original s item row

/-- A CLAIMED item becomes PROCESSING; one that already is must be the worker's own. -/
def beginItem (now : Time) (worker : WorkerId) (item : QueueItem) : Res QueueItem :=
  if item.state = .claimed then item.start now worker
  else if item.state ≠ .processing ∨ item.claimedBy ≠ some worker then
    let owner := item.claimedBy.getD "nobody"
    .error (.conflict s!"Item is {item.state.value} and owned by {owner}")
  else .ok item

def start (s : Slice) (item : QueueItem) : Res (Slice × StartOutcome) := do
  let begun ← beginItem x.check.now worker item
  match s.opening.attempt with
  | none => do
    let item ← begun.fail x.check.now worker "no application attempt for this opportunity" false
    .ok ({ s with opening := { s.opening with submit := some item } }, .noAttempt)
  | some row => startAttempt env x worker s item begun row

end Start

end RangeApply
