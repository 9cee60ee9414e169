import RangeApply.Signal
import RangeApply.Trace

/-! The Signal Inbox of one tenant: its signals, the outcome derived for every application, and
the store of the other services. An operation drafts what it makes of its signal, and the draft
is then enacted: events filed, outcomes derived, the lifecycle moved where the tables allow it. -/
namespace RangeApply

abbrev EventId := SignalId × EventKey

/-- The `application_outcomes` row: what was derived last, and how often that changed. -/
structure ApplicationOutcome where
  derived : DerivedOutcome EventId
  derivedAt : Time
  version : Nat
  deriving DecidableEq

structure Inbox where
  db : DB
  signals : Table SignalId Signal
  outcomes : Table ApplicationId ApplicationOutcome

/-- What an operation finds outside the inbox: the attempt index, the answer of the AI classifier
if it is on, and the index another service loads when it emits a signal meanwhile. -/
structure Outside where
  index : AttemptIndex
  ai : Option AIReply
  emitted : AttemptIndex

/-- The AI classifier is off. -/
def Outside.indexed (attempts : List ApplicationId) : Outside := ⟨.of attempts, none, .of attempts⟩

/-- One submitted application to each of some companies. -/
def DB.submitted (companies : List String) : DB where
  now := days 1
  policy := .initial
  switches := []
  live := true
  answersAt := none
  openings := companies.zipIdx.foldl (fun t c => t.insertNew c.2 { Opening.strong c.2 c.1 "Engineer" with
    candidate := some (.strong .submitted)
    attempt := some { Application.fresh 0 with status := .submitted } }) .empty
  ledger := .empty

/-! ### Moving the lifecycle -/

/-- The two moves that follow from outcomes. -/
def lifecycleTarget (current : OutcomeKind) (status : ApplicationStatus) :
    Option (ApplicationStatus × OpportunityState) :=
  match current, status with
  | .interviewRequested, .submitted | .interviewRequested, .verified
  | .interviewScheduled, .submitted | .interviewScheduled, .verified =>
    some (.interviewing, .interviewing)
  | .rejected, .submitted | .rejected, .verified | .rejected, .interviewing =>
    some (.rejected, .rejected)
  | _, _ => none

/-- The candidate row follows the attempt, by force where its own table refuses. -/
def followCandidate (now : Time) (state : OpportunityState) (reason : String)
    (co : CandidateOpportunity) : CandidateOpportunity :=
  if co.state = state then co
  else match co.transition now state reason with
    | .ok moved => moved
    | .error _ => co.forceTo now state reason

/-- `_sync_lifecycle`. -/
def syncLifecycle (now : Time) (current : OutcomeKind) (o : Opening) : Opening :=
  match o.attempt with
  | none => o
  | some row =>
    match lifecycleTarget current row.status with
    | none => o
    | some (target, state) =>
      match row.transition now target (some s!"outcome {current.value}") with
      | .error _ => o
      | .ok moved => { o with
        attempt := some moved
        candidate := o.candidate.map (followCandidate now state s!"outcome {current.value}") }

/-! ### Verifying an attempt by an employer's confirmation -/

def VerificationMethod.value : VerificationMethod → String
  | confirmationPage => "confirmation_page" | confirmationText => "confirmation_text"
  | applicationId => "application_id" | redirectUrl => "redirect_url"
  | applicationHistory => "application_history" | userConfirmation => "user_confirmation"
  | executorReport => "executor_report" | confirmationEmail => "confirmation_email"
  | none => "none"

/-- `_CONFIRMATION_CATEGORIES`. -/
def SignalCategory.confirms : SignalCategory → Bool
  | applicationConfirmation | applicationReceived => true
  | _ => false

/-- The evidence verifies an attempt whose submission is open. -/
def Filing.verifies (f : Filing) (status : ApplicationStatus) : Bool :=
  f.category.confirms && decide (f.evidence = .strong) &&
    (match f.attribution with
      | none => false
      | some r => decide (r.confidence = .high)) &&
    decide (status = .submitted ∨ status = .uncertain)

/-- The last run whose submission stands or is unknown. -/
def openRun (runs : List ExecutionRun) : Option RunId :=
  (greatest (fun r => [(r.1.runNumber : Int)]) (runs.zipIdx.filter fun r =>
    decide (r.1.status = .submitted ∨ r.1.status = .unknown))).map Prod.snd

/-- `verify` for a caller that goes on after a refusal: what was written before it stays. -/
def verifyCaught (now : Time) (v : VerificationResult) (r : RunId) (o : Opening) : Opening × Bool :=
  match verify now v r o with
  | .ok o' => (o', true)
  | .error _ =>
    match o.runs[r]?, o.attempt with
    | some run, some row =>
      if run.status.verifiable then
        match applyVerified now v (recordReferences v ⟨run, row, none, o.candidate⟩) with
        | .ok w => (o.putVerdicts r { w with item := o.submit }, false)
        | .error _ => (o, false)
      else (o, false)
    | _, _ => (o, false)

def execSource : Option ExecutorKind → SignalSource
  | some .playwrightLocal => .playwright
  | some .browserExtension => .extension
  | _ => .execution

/-- `execution_signal`: the result of a run as a signal. -/
def executionSignal (env : SignalEnv) (a : ApplicationId) (r : RunId) (run : ExecutionRun)
    (candidate : Bool) : SignalIngest :=
  let kind := (run.executorKind.map ExecutorKind.value).getD "NONE"
  let verification := run.verificationStatus.value
  let method := (run.verificationMethod.map VerificationMethod.value).getD "-"
  let detail := clip 300 (textOr run.verificationDetail (run.errorMessage.getD ""))
  { source := execSource run.executorKind
    sourceReference := some s!"execution_run:{env.runId (a, r)}:{verification}:{method}".toList
    subject := some
      s!"Execution result: {run.status.value} / verification {verification}".toList
    text := some (s!"Execution run {run.runNumber} ({kind}) finished {run.status.value}; " ++
      s!"verification {verification} via {method}. {detail}").toList
    sender := none
    externalAt := run.finishedAt
    observedAt := none
    payload := ⟨some "execution_result".ascii, some verification.toList⟩
    hints := { AttributionHints.none with
      applicationId := some a
      executionRunId := some (a, r)
      opportunityId := some a
      candidateOpportunityId := if candidate then some a else none
      reference := ((given run.confirmationReference) <|> run.externalApplicationId).map
        String.toList }
    category := none
    process := true }

namespace Inbox

def start (db : DB) : Inbox := ⟨db, .empty, .empty⟩

def attempt (a : ApplicationId) (s : Inbox) : Option Application :=
  (s.db.openings.get a).bind (·.attempt)

/-- The tenant has the application. -/
def known (s : Inbox) (a : ApplicationId) : Bool := (s.attempt a).isSome

/-- The signals that carry a message id and belong to an application, latest last. -/
def thread (s : Inbox) (message : Text) : Option ApplicationId :=
  ((s.signals.rows.filter fun r =>
    decide (r.2.sourceReference = some message) && r.2.applicationId.isSome).getLast?).bind
      (·.2.applicationId)

def lookups (index : AttemptIndex) (s : Inbox) : Lookups where
  index := index
  run := fun r => ((s.db.openings.get r.1).bind fun o => o.runs[r.2]?).map fun _ => r.1
  candidate := fun co => ((s.db.openings.get co).bind (·.candidate)).map fun _ => co
  thread := s.thread
  status := fun a => (s.attempt a).map (·.status)

/-! ### Events and outcomes -/

def eventsOf (i : SignalId) (row : Signal) (a : ApplicationId) : List (EventId × OutcomeEvent) :=
  (row.events.rows.filter fun e => e.1.application = a).map fun e => ((i, e.1), e.2)

/-- `_events`: the history of an application. -/
def events (s : Inbox) (a : ApplicationId) : List (EventId × OutcomeEvent) :=
  s.signals.rows.flatMap fun r => eventsOf r.1 r.2 a

def view (e : EventId × OutcomeEvent) : EventView EventId where
  id := e.1
  outcome := e.1.2.outcome
  evidence := e.2.evidence
  eventAt := e.2.eventAt
  sequence := e.2.sequence
  active := e.2.active

def derived (s : Inbox) (a : ApplicationId) : DerivedOutcome EventId := derive ((s.events a).map view)

/-- What a derivation changes of the row it finds. -/
def refreshed (now : Time) (d : DerivedOutcome EventId) (before : Option ApplicationOutcome) :
    ApplicationOutcome :=
  match before with
  | none => ⟨d, now, 1⟩
  | some row =>
    let same := row.derived.current = d.current ∧ row.derived.provisional = d.provisional ∧
      row.derived.needsReview = d.needsReview ∧ row.derived.eventCount = d.eventCount
    ⟨d, now, if same then row.version else row.version + 1⟩

/-- `_rederive`. -/
def rederive (a : ApplicationId) (s : Inbox) : Inbox :=
  { s with outcomes := s.outcomes.set a (refreshed s.db.now (s.derived a) (s.outcomes.get a)) }

def nextSequence (s : Inbox) (a : ApplicationId) : Nat :=
  ((s.events a).map fun e => e.2.sequence).foldl max 0 + 1

/-- The event of a filing. -/
def newEvent (s : Inbox) (row : Signal) (f : Filing) : OutcomeEvent where
  evidence := f.evidence
  category := f.category
  eventAt := row.externalAt.getD row.observedAt
  timeBasis := if row.externalAt.isSome then .external else .observed
  observedAt := s.db.now
  sequence := s.nextSequence f.key.application
  supersededBy := none
  retracted := false
  retractedReason := none

def record (i : SignalId) (f : Filing) (s : Inbox) : Inbox :=
  match s.signals.get i with
  | none => s
  | some row => { s with signals := s.signals.put i (row.record f (s.newEvent row f)) }

def putOpening (a : ApplicationId) (o : Opening) (s : Inbox) : Inbox :=
  { s with db := { s.db with openings := s.db.openings.put a o } }

def sync (a : ApplicationId) (s : Inbox) : Inbox :=
  match s.db.openings.get a with
  | none => s
  | some o => s.putOpening a (syncLifecycle s.db.now (s.derived a).current o)

/-- What the execution service is told. -/
def emailVerification (env : SignalEnv) (i : SignalId) (row : Signal) (f : Filing) :
    VerificationResult where
  status := .verified
  method := .confirmationEmail
  detail :=
    let rule := (f.attribution.map (·.rule)).getD ""
    some (clip 512 s!"{f.category.value} signal {env.signalId i} ({rule})")
  externalApplicationId := none
  confirmationReference := row.references.head?.map String.ofList
  applicationUrl := none

/-- A signal another service hands to the inbox while an operation is under way. -/
abbrev Emission := ApplicationId → RunId → Inbox → Inbox

/-- `_maybe_verify`. -/
def maybeVerify (env : SignalEnv) (emit : Emission) (i : SignalId) (f : Filing) (s : Inbox) :
    Inbox :=
  let a := f.key.application
  match s.db.openings.get a, s.signals.get i with
  | some o, some row =>
    match o.attempt, openRun o.runs with
    | some attempt, some r =>
      if f.verifies attempt.status then
        let (o', done) := verifyCaught s.db.now (emailVerification env i row f) r o
        if done then emit a r (s.putOpening a o') else s.putOpening a o'
      else s
    | _, _ => s
  | _, _ => s

/-! ### Enacting a draft -/

def setStatus (i : SignalId) (status : SignalStatus) (reason : String) (s : Inbox) : Inbox :=
  { s with signals := s.signals.modify i (·.setStatus status reason) }

/-- The row as it is drafted, with the outcomes of the retracted events derived again. -/
def install (i : SignalId) (d : Draft) (s : Inbox) : Inbox :=
  d.touched.foldl (fun s a => s.rederive a) { s with signals := s.signals.put i d.row }

/-- Record the event of a filing, with what follows for the application. -/
def file (env : SignalEnv) (emit : Emission) (i : SignalId) (f : Filing) (s : Inbox) : Inbox :=
  ((((s.record i f).rederive f.key.application).sync f.key.application).maybeVerify env emit i
    f).setStatus i f.status f.reason

def enact (env : SignalEnv) (emit : Emission) (i : SignalId) (d : Draft) (s : Inbox) : Inbox :=
  let s := s.install i d
  match d.consequence with
  | .keep => s
  | .settle status reason => s.setStatus i status reason
  | .file f => s.file env emit i f

/-! ### Ingestion -/

def insert (i : SignalId) (row : Signal) (s : Inbox) : Inbox :=
  { s with signals := s.signals.insertNew i row }

/-- Store one observation, and process it if it is new and asked for. -/
def ingestWith (env : SignalEnv) (emit : Emission) (index : AttemptIndex) (ai : Option AIReply)
    (request : SignalIngest) (process : Option Bool) (s : Inbox) : Res Inbox :=
  let n := NormalizedSignal.of env s.db.now request
  if request.category.isSome ∧ request.source ≠ .manual then
    .error (.validationFailed "only MANUAL signals may declare a category")
  else match s.signals.get n.dedupeKey with
    | some _ => .ok { s with signals := s.signals.modify n.dedupeKey (·.observe n.observedAt) }
    | none =>
      let row := Signal.ingested n request.category
      let s := s.insert n.dedupeKey row
      if process.getD request.process then
        .ok (s.enact env emit n.dedupeKey
          (row.processAs env (s.lookups index) s.known ai n))
      else .ok s

/-- `emit_execution_signal`: the inbox never breaks execution. The category of such a signal
verifies nothing, so nothing is emitted in turn. -/
def emitExecution (env : SignalEnv) (index : AttemptIndex) : Emission := fun a r s =>
  match (s.db.openings.get a).bind fun o => (o.runs[r]?).map fun run => (o, run) with
  | none => s
  | some (o, run) =>
    match s.ingestWith env (fun _ _ s => s) index none
        (executionSignal env a r run o.candidate.isSome) none with
    | .ok s' => s'
    | .error _ => s

end Inbox

/-! ### The operations -/

/-- What happens to one signal. -/
inductive SignalOp
  | process
  | reprocess
  | link (a : ApplicationId) (actor : String)
  | confirmClassification (category : SignalCategory) (actor : String)
  | rejectClassification (actor : String)
  | confirmOutcome (outcome : OutcomeKind) (actor : String)
  | ignore (actor : String) (note : Option String)
  | merge (into : SignalId) (actor : String)

/-- What happens to a tenant's inbox. Between its operations the other services work on the
store; they never delete an attempt. -/
inductive InboxOp
  | ingest (request : SignalIngest) (process : Option Bool) (out : Outside)
  | on (i : SignalId) (op : SignalOp) (out : Outside)
  | purgeExcerpts (olderThanDays : Nat)
  | elsewhere (db : DB)

namespace Inbox

/-- What an operation makes of its signal. -/
def draft (env : SignalEnv) (out : Outside) (i : SignalId) (op : SignalOp) (s : Inbox)
    (row : Signal) : Res Draft :=
  let look := s.lookups out.index
  match op with
  | .process => .ok (row.process env look s.known out.ai)
  | .reprocess => row.reprocess env look s.known out.ai
  | .link a actor => row.link env s.known out.ai a actor
  | .confirmClassification category actor =>
    row.confirmClassification env look s.known category actor
  | .rejectClassification actor => .ok (row.rejectClassification actor)
  | .confirmOutcome outcome actor => row.confirmOutcome s.known outcome actor
  | .ignore actor note => .ok (row.ignore actor note)
  | .merge into actor => row.merge env i into (s.signals.get into) actor

/-- A merge is an observation of its target. -/
def observeTarget (op : SignalOp) (row : Signal) (s : Inbox) : Inbox :=
  match op with
  | .merge into _ =>
    let seen (t : Signal) := t.observe (max t.lastObservedAt row.lastObservedAt)
    { s with signals := s.signals.modify into seen }
  | _ => s

def perform (env : SignalEnv) (out : Outside) (i : SignalId) (op : SignalOp) (s : Inbox) :
    Res Inbox :=
  match s.signals.get i with
  | none => .error (.notFound "Signal not found")
  | some row => do
    let d ← s.draft env out i op row
    .ok ((s.enact env (emitExecution env out.emitted) i d).observeTarget op row)

/-- `purge_excerpts`: settled signals lose their text after some days. -/
def purge (olderThanDays : Nat) (s : Inbox) : Inbox :=
  { s with signals := s.signals.mapRows fun _ row =>
      if (row.status = .applied ∨ row.status = .ignored ∨ row.status = .merged) ∧
          row.observedAt < s.db.now - days olderThanDays then { row with excerpt := none }
      else row }

/-- The store keeps the attempts it had. -/
def keepsAttempts (s : Inbox) (db : DB) : Bool :=
  s.db.openings.rows.all fun r => r.2.attempt.isNone ||
    ((db.openings.get r.1).bind (·.attempt)).isSome

def apply (env : SignalEnv) (s : Inbox) : InboxOp → Res Inbox
  | .ingest request process out =>
    s.ingestWith env (emitExecution env out.emitted) out.index out.ai request process
  | .on i op out => s.perform env out i op
  | .purgeExcerpts olderThanDays => .ok (s.purge olderThanDays)
  | .elsewhere db => if s.keepsAttempts db then .ok { s with db := db } else .ok s

/-- A refused operation changes nothing. -/
def step (env : SignalEnv) (s : Inbox) (op : InboxOp) : Inbox :=
  match s.apply env op with
  | .ok s' => s'
  | .error _ => s

def run (env : SignalEnv) (s : Inbox) (ops : List InboxOp) : Inbox := Trace.run (step env) s ops

end Inbox

end RangeApply
