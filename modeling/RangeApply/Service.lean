import RangeApply.Started

/-! The rest of the execution service, one opening at a time: the pre-submit gate, the end of
an executor invocation, recovery of lost runs, and what a person may do. -/
namespace RangeApply

/-! ### The gates -/

/-- What the pre-submit gate reads besides the rows of the opening. -/
structure GateReads where
  check : CheckInputs
  switches : List (String × Bool)
  live : Bool

def safeModeFailure : String :=
  "SAFE_MODE: live submission is not enabled (switch to LIVE SUBMISSION ENABLED first)"

/-- The check of the gate: the attempt is SUBMITTING, and the slot is refreshed. -/
def gateCheck (env : Env) (g : GateReads) (s : Slice) (row : Application) : Checked :=
  check env (g.check.forPreparation (s.opening.preparation row.preparationId)) s.opening row s.ledger
    true true

/-- `_pre_submit_gate`: every condition again, immediately before the click. The empty list
lets the executor press submit; what the check wrote is kept when its report is ok. -/
def preSubmitGate (env : Env) (g : GateReads) (s : Slice) : List String × Slice :=
  match s.opening.attempt with
  | none => (["attempt vanished"], s)
  | some row =>
    let checked := gateCheck env g s row
    let failures :=
      (if g.live then [] else [safeModeFailure]) ++
      (if isPaused g.switches s.opening.source then ["PAUSED: the kill switch is on"] else []) ++
      checked.report.failures.map fun f => s!"{f.code.value}: {f.message}"
    (failures,
      if checked.report.ok then
        ⟨{ s.opening with attempt := some checked.attempt }, checked.ledger⟩
      else s)

/-- `run.submit_invoked = True`. -/
def ExecutionRun.press (run : ExecutionRun) : ExecutionRun := { run with submitInvoked := true }

/-- The executor may press submit from here on. -/
def markSubmit (r : RunId) (o : Opening) : Opening := { o with runs := o.runs.modify r .press }

/-- The owner's running execution, for the extension's calls. -/
def ownRun (worker : WorkerId) (s : Slice) : Res (RunId × ExecutionRun) :=
  match s.opening.submit with
  | none => .error (.notFound "Queue item not found")
  | some item => item.owned worker <|
    match s.opening.attempt with
    | none => .error (.notFound "No application attempt for this queue item")
    | some _ =>
      match crashedRun s.opening.runs with
      | none => .error (.conflict "No running execution for this item; call start first")
      | some run => .ok run

/-- The lease of the SUBMIT item has lapsed. -/
def Opening.leaseLapsed (o : Opening) (now : Time) : Bool :=
  match o.submit.bind QueueItem.leaseExpiresAt with
  | none => false
  | some until_ => decide (until_ < now)

/-- Why the gate refuses before it checks anything. -/
def gateRefusal (now : Time) (o : Opening) (run : ExecutionRun) : Option String :=
  if run.submitInvoked then
    some "SUBMIT_ALREADY_INVOKED: a submit was already recorded for this run; report the result or verify"
  else if o.leaseLapsed now then
    some "LEASE_EXPIRED: the lease on this item lapsed; heartbeat or claim it again before submitting"
  else none

/-- `gate`, the extension's pre-submit call; the failures are empty when it answers ok. -/
def gate (env : Env) (g : GateReads) (worker : WorkerId) (s : Slice) : Res (List String × Slice) := do
  let found ← ownRun worker s
  match gateRefusal g.check.now s.opening found.2 with
  | some refusal => .ok ([refusal], s)
  | none =>
    let answer := preSubmitGate env g s
    if answer.1 ≠ [] then .ok answer
    else .ok ([], { answer.2 with opening := markSubmit found.1 answer.2.opening })

/-! ### The end of an invocation -/

/-- How an in-process executor ends: a result, with what its `verify` says of a submission, an
error it raises itself, or a crash. -/
inductive Ending
  | returned (r : ExecutionResult) (verify : VerificationResult)
  | raised (beforeSubmit retryable : Bool) (errorClass : ErrorClass) (message : String)
  | crashed (message : String)
  deriving DecidableEq

def ExecutionResult.plain (outcome : ExecutionOutcome) (submitAttempted : Bool)
    (errorClass : ErrorClass) (message : String) : ExecutionResult where
  outcome := outcome
  submitAttempted := submitAttempted
  handoffReason := none
  errorClass := some errorClass
  message := some message
  applicationUrl := none
  externalApplicationId := none
  confirmationReference := none
  verification := none

/-- A submission without a verification of its own is verified by the executor. -/
def ExecutionResult.verified (r : ExecutionResult) (v : VerificationResult) : ExecutionResult :=
  if r.outcome = .submitted ∧ r.verification = none then { r with verification := some v } else r

namespace Ending

/-- The result `execute` reports. A dry run cannot have pressed anything. -/
def result (dryRun : Bool) : Ending → ExecutionResult
  | .returned r verify => r.verified verify
  | .raised beforeSubmit retryable errorClass message =>
    if beforeSubmit || dryRun then
      .plain (if retryable || dryRun then .retryableFailure else .permanentFailure) false errorClass
        message
    else .plain .unknown true errorClass message
  | .crashed message =>
    if dryRun then .plain .retryableFailure false .executorCrash (clip 500 message)
    else .plain .unknown true .executorCrash message

/-- The error says that submit was not pressed: the flag is taken back. -/
def clears (dryRun : Bool) : Ending → Bool
  | .raised beforeSubmit _ _ _ => beforeSubmit || dryRun
  | _ => false

end Ending

def Slice.work (s : Slice) (row : Application) (item : QueueItem) (run : ExecutionRun) : Work :=
  ⟨row, item, run, s.opening.candidate, s.ledger⟩

def Slice.putWork (s : Slice) (r : RunId) (w : Work) : Slice :=
  ⟨{ s.opening with
      attempt := some w.attempt, submit := some w.item, runs := s.opening.runs.set r w.run,
      candidate := w.candidate }, w.ledger⟩

section Reporting
variable (env : Env) (policy : ApplicationPolicy) (now : Time) (worker : WorkerId)

/-- The last part of `execute`: whatever the executor did is reported. -/
def finishRun (r : RunId) (dryRun : Bool) (ending : Ending) (s : Slice) : Res Slice :=
  match s.opening.attempt, s.opening.submit, s.opening.runs[r]? with
  | some row, some item, some run => do
    let run := if ending.clears dryRun then { run with submitInvoked := false } else run
    let w ← report now worker (ending.result dryRun) (s.work row item run) env policy
    .ok (s.putWork r w)
  | _, _, _ => .error (.notFound "Execution run not found")

/-- `report_result`: an external executor reports what happened. -/
def reportResult (r : ExecutionResult) (verify : VerificationResult) (s : Slice) : Res Slice := do
  let found ← ownRun worker s
  match s.opening.attempt, s.opening.submit with
  | some row, some item => do
    let w ← report now worker (r.verified verify) (s.work row item found.2) env policy
    .ok (s.putWork found.1 w)
  | _, _ => .error (.notFound "No application attempt for this queue item")

end Reporting

/-! ### Recovery -/

/-- A held item whose lease has not lapsed: its worker may be mid-page. -/
def liveItem (now : Time) (item : Option QueueItem) : Bool :=
  match item with
  | none => false
  | some row => row.state.held && (match row.leaseExpiresAt with
    | none => false
    | some until_ => decide (now ≤ until_))

/-- `recover_lost_runs` on a run whose submit may have been pressed. -/
def recoverPressed (now : Time) (r : RunId) (row : Application) (o : Opening) : Opening :=
  { o with
    runs := o.runs.modify r fun run =>
      { run.lostAfterSubmit now "worker lost after submit was invoked (recovered at startup)" with
        verificationStatus := .pending }
    attempt := some (row.forceTo now .uncertain (some "worker lost after submit was invoked"))
    submit := o.submit.map fun item =>
      if item.state = .succeeded ∨ item.state = .cancelled ∨ item.state = .needsReview then item
      else item.needsReview now "awaiting verification: worker was lost after pressing submit" }

/-- `recover_lost_runs` on a run that provably pressed nothing. -/
def recoverUnpressed (now : Time) (r : RunId) (row : Application) (o : Opening) : Opening :=
  { o with
    runs := o.runs.modify r (ExecutionRun.lostBeforeSubmit now
      "worker lost before submit (recovered at startup); safe to retry")
    attempt := some (if row.status = .submitting then row.reclaim now "reclaimed after a lost worker"
      else row)
    submit := o.submit.map fun item =>
      if item.state.held then { item with
        state := .pending, claimedBy := none, claimedAt := none, leaseExpiresAt := none,
        availableAt := now }
      else item }

/-- `recover_lost_runs` on a run whose attempt is gone. -/
def ExecutionRun.orphan (now : Time) (run : ExecutionRun) : ExecutionRun :=
  run.finish now .failedPermanent (some .permanentFailure) (some .executorCrash)
    (some "attempt vanished while running")

/-- One run of `recover_lost_runs`. -/
def recoverRun (now : Time) (o : Opening) (r : RunId) : Opening :=
  match o.runs[r]? with
  | none => o
  | some run =>
    if run.status ≠ .running then o
    else if liveItem now o.submit then o
    else match o.attempt with
      | none => { o with runs := o.runs.modify r (ExecutionRun.orphan now) }
      | some row =>
        if run.submitInvoked then recoverPressed now r row o else recoverUnpressed now r row o

/-- `recover_lost_runs` over the runs of one opening. -/
def recoverOpening (now : Time) (o : Opening) : Opening :=
  (List.range o.runs.length).foldl (recoverRun now) o

/-! ### The queue -/

/-- `enqueue_ready` on one opening: a READY attempt without a SUBMIT item gets one. -/
def enqueueReady (env : Env) (now : Time) (o : Opening) : Opening :=
  match o.attempt, o.candidate, o.submit with
  | some row, some co, none =>
    if row.status = .ready ∧ row.releasedAt = none ∧ row.preparationId.isSome then
      { o with submit := some (.fresh now .submit (row.lane.getD .review) (co.priorityScore.getD 0)
          env.maxAttempts) }
    else o
  | _, _, _ => o

def heartbeat (env : Env) (now : Time) (worker : WorkerId) (o : Opening) : Res Opening :=
  match o.submit with
  | none => .error (.notFound "Queue item not found")
  | some item => do
    let item ← item.extendLease now worker env.leaseSeconds
    .ok { o with submit := some item }

/-! ### People -/

/-- The run statuses `verify` accepts. -/
def ExecutionStatus.verifiable : ExecutionStatus → Bool
  | .submitted | .unknown | .verified | .verificationFailed | .handoff => true
  | _ => false

def Opening.putVerdicts (o : Opening) (r : RunId) (w : Verdicts) : Opening :=
  { o with
    attempt := some w.attempt, submit := w.item, runs := o.runs.set r w.run,
    candidate := w.candidate }

/-- `verify`, with the result a person, the extension or an executor supplies. -/
def verify (now : Time) (v : VerificationResult) (r : RunId) (o : Opening) : Res Opening :=
  match o.runs[r]?, o.attempt with
  | some run, some row =>
    if run.status.verifiable then do
      let w ← applyVerification now v ⟨run, row, o.submit, o.candidate⟩
      .ok (o.putVerdicts r w)
    else .error (.conflict
      s!"Run is {run.status.value}; only submitted, unknown or handed-off runs can be verified")
  | _, _ => .error (.notFound "Execution run not found")

/-- A person finished what the executor handed off: it is a submission. -/
def finishByHand (now : Time) (r : RunId) (row : Application) (o : Opening) : Opening :=
  let o := { o with runs := o.runs.modify r fun run =>
    run.press.finish now .submitted (some .submitted) none none }
  if row.status = .submitted then o
  else { o with
    attempt := some { row.forceTo now .submitted (some "submitted by the candidate") with
      submittedAt := some now }
    candidate := moveCandidate now o.candidate .submitted "submitted by the candidate" }

/-- The verification a confirmation stands for. -/
def confirmation (submitted : Bool) (reference note : Option String) : VerificationResult where
  status := if submitted then .verified else .failed
  method := .userConfirmation
  detail := some (textOr note (if submitted then "confirmed by the candidate"
    else "the candidate reports it was not submitted"))
  externalApplicationId := none
  confirmationReference := reference
  applicationUrl := none

def confirm (now : Time) (submitted : Bool) (reference note : Option String) (r : RunId)
    (o : Opening) : Res Opening :=
  match o.runs[r]?, o.attempt with
  | some run, some row =>
    verify now (confirmation submitted reference note) r
      (if submitted ∧ run.status = .handoff then finishByHand now r row o else o)
  | _, _ => .error (.notFound "Execution run not found")

/-- A run whose submit has no known outcome. -/
def ExecutionRun.unresolved (run : ExecutionRun) : Bool :=
  decide (run.status = .unknown) &&
    (decide (run.verificationStatus = .pending) || decide (run.verificationStatus = .unknown))

def ApplicationStatus.retryable : ApplicationStatus → Bool
  | .blocked | .needsUserInput | .needsReview | .ready | .failed | .cancelled => true
  | _ => false

/-- The attempt a person re-opens: one released earlier gets a new number and no slot. -/
def Application.reopen (now : Time) (reason : Option String) (row : Application) : Application :=
  let row := if row.status = .failed ∨ row.status = .cancelled then
    { row with
      attemptNumber := row.attemptNumber + 1, releasedAt := none, reservedAt := none,
      capDay := none, capWeek := none }
    else row
  ({ row with submissionKey := none, blockedReason := none } : Application).forceTo now .ready
    (some (textOr reason "retried by a person"))

/-- The item `retry` puts back in the queue; a missing one is made by `enqueue_ready`. -/
def retryItem (now : Time) (item : Option QueueItem) : Res (Option QueueItem) :=
  match item with
  | none => .ok none
  | some row => if row.state.parked then (row.requeue now false).map some else .ok item

def retry (now : Time) (reason : Option String) (o : Opening) : Res Opening :=
  match o.attempt with
  | none => .error (.notFound "Application attempt not found")
  | some row =>
    if row.status.inSubmittedStatuses ∧ row.status ≠ .submitting then
      .error (.conflict
        s!"Attempt is {row.status.value}; verify or confirm the earlier submit instead of retrying")
    else if o.runs.any ExecutionRun.unresolved then
      .error (.conflict
        "An earlier submit has an unknown outcome; verify or confirm it before retrying")
    else if row.status.retryable = false then
      .error (.conflict s!"Cannot retry an attempt that is {row.status.value}")
    else do
      let item ← retryItem now o.submit
      .ok { o with attempt := some (row.reopen now reason), submit := item }

/-- Cancel an item in one of the given states, leave it otherwise. -/
def cancelWhen (closes : QueueState → Bool) (now : Time) (item : Option QueueItem) :
    Res (Option QueueItem) :=
  match item with
  | none => .ok none
  | some row => if closes row.state then (row.cancel now).map some else .ok item

/-- The states `cancel` closes the SUBMIT item in. -/
def QueueState.cancellable : QueueState → Bool
  | .succeeded | .cancelled => false
  | _ => true

/-- The states a PREPARE item is closed in when its attempt is given up. -/
def QueueState.idle : QueueState → Bool
  | .pending | .retryWait | .blocked | .needsReview => true
  | _ => false

def cancel (now : Time) (actor : String) (reason : Option String) (s : Slice) : Res Slice :=
  match s.opening.attempt with
  | none => .error (.notFound "Application attempt not found")
  | some row =>
    if row.status.inSubmittedStatuses then
      .error (.conflict
        s!"Attempt is {row.status.value}; a submitted or uncertain attempt cannot be cancelled, verify it")
    else do
      let released := row.release now s.ledger .cancelled (textOr reason s!"cancelled by {actor}")
      let submit ← cancelWhen QueueState.cancellable now s.opening.submit
      let prepare ← cancelWhen QueueState.idle now s.opening.prepare
      .ok ⟨{ s.opening with
        attempt := some { released.2 with submissionKey := none }
        submit := submit, prepare := prepare }, released.1⟩

/-! ### Openings to run the model on -/

/-- A strong opening whose attempt is READY on a slot of the first day and week, with its
package and its SUBMIT item. -/
def Opening.ready (i : OpportunityId) (company title : String) : Opening :=
  { Opening.strong i company title with
    candidate := some (.strong .queued)
    attempt := some { Application.fresh 0 with
      status := .ready, preparationId := some 7, capDay := some "0", capWeek := some "0",
      reservedAt := some 0 }
    prepare := some { QueueItem.fresh 0 .prepare .auto 0 3 with state := .succeeded }
    submit := some (.fresh 0 .submit .auto 0 3)
    preparations := [⟨7, 1, i, .ready, .passed, []⟩] }

/-- The same opening in the hands of a worker that has started and pressed nothing. -/
def Opening.executing (i : OpportunityId) (company title : String) (worker : WorkerId) : Opening :=
  let o := Opening.ready i company title
  { o with
    attempt := o.attempt.map (Application.submitWith 0 .mock 0)
    submit := o.submit.map fun item => { item with
      state := .processing, claimedBy := some worker, leaseExpiresAt := some (seconds 900),
      attempts := 1 }
    runs := [startedRun 0 worker .mock 1] }

end RangeApply
