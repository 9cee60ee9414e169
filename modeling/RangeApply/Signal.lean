import RangeApply.Attribution

/-! One signal: its row with its attributions and outcome events, and what each operation of the
inbox makes of it before anything is recorded. -/
namespace RangeApply

/-- An event is filed once under its signal, application, outcome and origin; it is kept with its
signal. -/
structure EventKey where
  application : ApplicationId
  outcome : OutcomeKind
  origin : EventOrigin
  deriving DecidableEq

structure OutcomeEvent where
  evidence : EvidenceStrength
  category : SignalCategory
  eventAt : Time
  timeBasis : TimeBasis
  observedAt : Time
  sequence : Nat
  supersededBy : Option EventKey
  retracted : Bool
  retractedReason : Option String
  deriving DecidableEq

/-- Neither retracted nor superseded. -/
def OutcomeEvent.active (e : OutcomeEvent) : Bool := !e.retracted && decide (e.supersededBy = none)

def OutcomeEvent.retract (reason : String) (e : OutcomeEvent) : OutcomeEvent :=
  if e.retracted then e
  else { e with retracted := true, retractedReason := some (clip 256 reason) }

/-- The `signals` row, its attribution rows with the current one last, and its event rows. -/
structure Signal where
  source : SignalSource
  sourceReference : Option Text
  subject : Option Text
  sender : Option Text
  excerpt : Option Text
  payload : Payload
  hints : AttributionHints
  references : List Text
  externalAt : Option Time
  observedAt : Time
  observationCount : Nat
  lastObservedAt : Time
  declared : Option SignalCategory
  category : SignalCategory
  confidence : Confidence
  classificationSource : Option ClassificationSource
  classifierVersion : Option String
  status : SignalStatus
  statusReason : Option String
  attributionStatus : AttributionStatus
  attributions : List AttributionResult
  applicationId : Option ApplicationId
  mergedInto : Option SignalId
  events : Table EventKey OutcomeEvent

/-- What an operation records for a signal: the event, the automatic event it supersedes, what
`_maybe_verify` asks of the attribution, and the status of the signal afterwards. -/
structure Filing where
  key : EventKey
  evidence : EvidenceStrength
  category : SignalCategory
  supersedes : Option EventKey
  attribution : Option AttributionResult
  status : SignalStatus
  reason : String

inductive Consequence
  | keep
  | settle (status : SignalStatus) (reason : String)
  | file (f : Filing)

/-- What an operation makes of a signal: the row as it is read or decided anew, the applications
whose events it retracted, and what it records. -/
structure Draft where
  row : Signal
  touched : List ApplicationId
  consequence : Consequence

namespace Signal

/-- The row a normalized message is stored in. -/
def ingested (n : NormalizedSignal) (declared : Option SignalCategory) : Signal where
  source := n.source
  sourceReference := n.sourceReference
  subject := n.subject
  sender := n.sender
  excerpt := n.excerpt
  payload := n.payload
  hints := n.hints
  references := n.references
  externalAt := n.externalAt
  observedAt := n.observedAt
  observationCount := 1
  lastObservedAt := n.observedAt
  declared := declared
  category := .unknown
  confidence := .none
  classificationSource := none
  classifierVersion := none
  status := .new
  statusReason := none
  attributionStatus := .unmatched
  attributions := []
  applicationId := none
  mergedInto := none
  events := .empty

def observe (at_ : Time) (row : Signal) : Signal :=
  { row with observationCount := row.observationCount + 1, lastObservedAt := at_ }

def setStatus (status : SignalStatus) (reason : String) (row : Signal) : Signal :=
  { row with status := status, statusReason := clipped 256 (some reason) }

/-- `_renormalize`: only what was stored can be read again. -/
def stored (row : Signal) : SignalIngest where
  source := row.source
  sourceReference := row.sourceReference
  subject := row.subject
  text := row.excerpt
  sender := row.sender
  externalAt := row.externalAt
  observedAt := some row.observedAt
  payload := row.payload
  hints := row.hints
  category := none
  process := false

def renormalize (env : SignalEnv) (row : Signal) : NormalizedSignal := .of env row.observedAt row.stored

def fromExecution (row : Signal) : Bool := decide (row.payload.kind = some "execution_result".ascii)

def verificationStatus (row : Signal) : String :=
  textOr (row.payload.verificationStatus.map String.ofList) VerificationStatus.notAttempted.value

/-! ### Classification -/

/-- What a message says, when no person has said it. -/
def machineClassification (u : Unicode) (ai : Option AIReply) (n : NormalizedSignal) (row : Signal) :
    Classification :=
  match if row.source = .manual then row.declared else none with
  | some category => ⟨category, .high, .declared, RangeApply.classifierVersion, [], []⟩
  | none =>
    if row.fromExecution then
      ⟨.executionResult, (outcomeForVerification row.verificationStatus).2.2, .execution,
        RangeApply.classifierVersion, ["verification:" ++ row.verificationStatus], []⟩
    else
      let byRules := classifyText u n.subject n.text n.marketing
      if byRules.confident || decide (byRules.category = .other) then byRules
      else ((ai.bind AIReply.classification)).getD byRules

/-- `_classify`. -/
def classify (u : Unicode) (ai : Option AIReply) (n : NormalizedSignal) (row : Signal) :
    Classification × Signal :=
  if row.classificationSource = some .human then
    (⟨row.category, row.confidence, .human,
      row.classifierVersion.getD RangeApply.classifierVersion, [], []⟩, row)
  else
    let c := row.machineClassification u ai n
    (c, { row with
      category := c.category, confidence := c.confidence, classificationSource := some c.source,
      classifierVersion := some c.classifierVersion })

/-! ### Attribution -/

/-- `_store_attribution`: nothing to append when the decision is the same. -/
def store (r : AttributionResult) (row : Signal) : Signal :=
  let same := match row.attributions.getLast? with
    | none => false
    | some current => decide (current.status = r.status) &&
        decide (current.applicationId = r.applicationId) && decide (current.rule = r.rule)
  if same then row
  else { row with
    attributions := row.attributions ++ [r], attributionStatus := r.status,
    applicationId := r.applicationId }

/-- `_attribute`: what a person linked stays linked. -/
def attribute_ (env : SignalEnv) (look : Lookups) (n : NormalizedSignal) (row : Signal) :
    AttributionResult × Signal :=
  match row.attributions.getLast?.filter fun current => current.status = .manual with
  | some current => (current, row)
  | none =>
    let r := attributeSignal env look n
    (r, row.store r)

/-! ### What follows from both -/

/-- The outcome, its evidence and its origin. -/
def outcome (row : Signal) (c : Classification) :
    Option OutcomeKind × EvidenceStrength × EventOrigin :=
  if row.fromExecution then
    let verified := outcomeForVerification row.verificationStatus
    (some verified.1, verified.2.1, .execution)
  else
    (c.category.outcome, evidenceFor c.confidence c.source, match c.source with
      | .ai => .ai
      | .human | .declared => .human
      | _ => .rules)

/-- The status of a signal whose event is recorded, and why. -/
def appliedStatus (c : Classification) (outcome : OutcomeKind) (evidence : EvidenceStrength) :
    SignalStatus × String :=
  if evidence = .weak ∨ c.confident = false then
    let why :=
      if outcome = .unknown then "submit outcome unknown; verify or confirm the attempt"
      else if c.confident then "weak evidence; recorded as provisional"
      else "classification needs confirmation"
    (.needsReview, s!"{why} ({c.source.value}, {c.confidence.value})")
  else if outcome = .needsReview then (.needsReview, "verification failed; a person decides")
  else (.applied, s!"{outcome.value} recorded with {evidence.value} evidence")

/-- `_apply`, up to what it records; `known` says which applications there are. -/
def apply_ (known : ApplicationId → Bool) (c : Classification) (r : AttributionResult)
    (row : Signal) : Consequence :=
  if c.category = .unknown then
    .settle .needsReview
      ("unclassified; attribution " ++
        s!"{String.ofList (r.status.value.toList.map Char.toLower)} ({r.rule})")
  else if r.status = .ambiguous then
    .settle .needsReview (textOr (some r.explanation) "ambiguous attribution")
  else match if r.status = .unmatched then none else r.applicationId with
  | none => .settle .unmatched (textOr (some r.explanation) "no application matched")
  | some a =>
    if known a = false then .settle .unmatched "the attributed application no longer exists"
    else
      let (outcome, evidence, origin) := row.outcome c
      match outcome with
      | none => .settle .attributed "no outcome follows from this category"
      | some outcome =>
        let (status, reason) := appliedStatus c outcome evidence
        .file ⟨⟨a, outcome, origin⟩, evidence, c.category, none, some r, status, reason⟩

/-! ### Retraction -/

def retract (reason : String) (row : Signal) : Signal :=
  { row with events := row.events.mapRows fun _ e => e.retract reason }

/-- The applications a retraction touches. -/
def touched (row : Signal) : List ApplicationId :=
  ((row.events.rows.filter fun e => !e.2.retracted).map fun e => e.1.application).eraseDups

/-! ### Recording -/

def supersede (f : Filing) (events : Table EventKey OutcomeEvent) : Table EventKey OutcomeEvent :=
  match f.supersedes with
  | none => events
  | some old =>
    if old = f.key then events
    else events.modify old fun e => { e with supersededBy := some f.key }

/-- `_record_event`: an event that is there already is left as it is. -/
def record (f : Filing) (e : OutcomeEvent) (row : Signal) : Signal :=
  if (row.events.get f.key).isSome then row
  else { row with events := supersede f (row.events.insertNew f.key e) }

/-! ### The operations on one signal -/

section Operations
variable (env : SignalEnv) (look : Lookups) (known : ApplicationId → Bool) (ai : Option AIReply)

/-- `process` of a message as it is read now. -/
def processAs (n : NormalizedSignal) (row : Signal) : Draft :=
  if row.status = .ignored ∨ row.status = .merged then ⟨row, [], .keep⟩
  else
    let (c, row) := row.classify env.unicode ai n
    if c.category = .other ∧ c.confident = true ∧ row.classificationSource ≠ some .human then
      ⟨{ row with attributionStatus := .skipped }, [],
        .settle .ignored "classified OTHER (alerts / marketing); not an application signal"⟩
    else
      let (r, row) := row.attribute_ env look n
      ⟨row, [], row.apply_ known c r⟩

def process (row : Signal) : Draft := row.processAs env look known ai (row.renormalize env)

def reprocess (row : Signal) : Res Draft :=
  if row.status.reprocessable then .ok (row.process env look known ai)
  else .error (.conflict
    s!"A {row.status.value} signal is not reprocessed; link or confirm it instead")

def humanLink (a : ApplicationId) (actor : String) : AttributionResult :=
  ⟨.manual, some a, "human_link", .high, [], "linked by " ++ actor⟩

/-- An ignored signal that a person takes up again. -/
def reopen (row : Signal) : Signal :=
  if row.status = .ignored then { row with status := .new } else row

/-- A person attributes the signal; events of another application are retracted. -/
def link (a : ApplicationId) (actor : String) (row : Signal) : Res Draft :=
  if row.status = .merged then .error (.conflict
    "A merged signal cannot be linked; link the signal it was merged into")
  else if known a = false then .error (.notFound "Application attempt not found")
  else
    let moved := row.applicationId.isSome && decide (row.applicationId ≠ some a)
    let before := if moved then row.retract s!"relinked to {a} by {actor}" else row
    let r := humanLink a actor
    let (c, row') := (before.store r).classify env.unicode ai ((before.store r).renormalize env)
    .ok ⟨row'.reopen, if moved then row.touched else [], row'.apply_ known c r⟩

def humanVersion : String := "human:" ++ RangeApply.classifierVersion

def confirmClassification (category : SignalCategory) (actor : String) (row : Signal) : Res Draft :=
  if row.status = .merged then .error (.conflict "A merged signal cannot be classified")
  else
    let changed := (decide (row.category ≠ category) ||
      decide (row.classificationSource ≠ some .human)) && row.applicationId.isSome
    let before := if changed then
      row.retract s!"classification changed to {category.value} by {actor}" else row
    let row' := { before with
      category := category, confidence := .high, classificationSource := some .human,
      classifierVersion := some humanVersion }
    let c : Classification := ⟨category, .high, .human, humanVersion, [], []⟩
    let kept := (row.attributionStatus = .matched ∨ row.attributionStatus = .manual) ∧
      row.applicationId.isSome = true
    let (r, row'') := match if kept then row'.attributions.getLast? else none with
      | some current => (current, row')
      | none => row'.attribute_ env look (row'.renormalize env)
    .ok ⟨row''.reopen, if changed then row.touched else [], row''.apply_ known c r⟩

def rejectClassification (actor : String) (row : Signal) : Draft :=
  ⟨{ row.retract ("classification rejected by " ++ actor) with
      category := .unknown, confidence := .none, classificationSource := some .human,
      classifierVersion := some humanVersion },
    row.touched,
    .settle .needsReview s!"classification rejected by {actor}; confirm a category or ignore"⟩

/-- The first active event of the signal for the application that no person recorded. -/
def automatic (a : ApplicationId) (row : Signal) : Option EventKey :=
  (row.events.rows.find? fun e =>
    decide (e.1.application = a) && decide (e.1.origin ≠ .human) && e.2.active).map Prod.fst

def confirmOutcome (outcome : OutcomeKind) (actor : String) (row : Signal) : Res Draft :=
  match row.applicationId with
  | none => .error (.conflict "Link the signal to an application before confirming an outcome")
  | some a =>
    if known a = false then .error (.notFound "Application attempt not found")
    else .ok ⟨row, [], .file ⟨⟨a, outcome, .human⟩, .strong, row.category, row.automatic a, none,
      .applied, s!"{outcome.value} confirmed by {actor}"⟩⟩

def ignore (actor : String) (note : Option String) (row : Signal) : Draft :=
  ⟨row.retract ("ignored by " ++ actor), row.touched,
    .settle .ignored (textOr note ("marked irrelevant by " ++ actor))⟩

/-- `merge` of the signal `i`: a duplicate of another signal, which is none itself. -/
def merge (i into : SignalId) (target : Option Signal) (actor : String) (row : Signal) : Res Draft :=
  match target with
  | none => .error (.notFound "Signal not found")
  | some t =>
    if i = into then .error (.validationFailed "A signal cannot be merged into itself")
    else if t.status = .merged then .error (.conflict
      "The target signal was itself merged; merge into its target")
    else
      let id := env.signalId into
      .ok ⟨{ row.retract s!"merged into {id} by {actor}" with mergedInto := some into },
        row.touched, .settle .merged s!"duplicate of {id} (merged by {actor})"⟩

end Operations

end Signal

end RangeApply
