import RangeApply.Matching
import RangeApply.Package
import RangeApply.Report

/-! The versions of a package. Preparing an opportunity reuses the latest version when its inputs
are still the same, and else builds the next one and supersedes it; a person reviews any version. -/
namespace RangeApply

/-- A row of `application_preparations`, with its answers and what was built for it. -/
structure PreparationRow where
  id : PreparationId
  co : OpportunityId
  version : Nat
  status : PreparationStatus
  answers : List PreparationAnswer
  inputs : Inputs
  built : Build

/-- What a transaction of the service changes. -/
structure PreparationTables where
  rows : List PreparationRow
  targets : OpportunityId → Option Target

def defaultQuestions : List Text :=
  ["Why are you interested in this role?", "Tell us about yourself.",
    "Describe a relevant project.", "Are you legally authorized to work in this country?",
    "Will you now or in the future require sponsorship?", "What is your notice period?",
    "What are your salary expectations?"].map String.ascii

namespace PreparationStatus

/-- Neither SUPERSEDED nor INVALIDATED. -/
def live (s : PreparationStatus) : Bool := s ≠ .superseded && s ≠ .invalidated

end PreparationStatus

/-- `_PREPARED_FROM`. -/
def preparedFrom : OpportunityState → Bool
  | .eligible | .uncertain | .shortlisted | .queued | .inReview => true
  | _ => false

/-- `_REVIEW_FROM`. -/
def reviewFrom : OpportunityState → Bool
  | .eligible | .uncertain | .shortlisted | .queued | .prepared => true
  | _ => false

/-- `_move_candidate`. -/
def movePrepared (now : Time) (status : PreparationStatus) (co : CandidateOpportunity) :
    Res CandidateOpportunity :=
  if status = .ready ∧ preparedFrom co.state then
    co.transition now .prepared "preparation ready"
  else if (status = .needsUserInput ∨ status = .needsReview) ∧ reviewFrom co.state then
    co.transition now .inReview ("preparation " ++ status.value.toLower)
  else .ok co

namespace PreparationTables
variable (db : PreparationTables)

def versionsOf (co : OpportunityId) : List PreparationRow :=
  (db.rows.filter (·.co = co)).insertionSort fun r s => r.version ≤ s.version

/-- `latest`, and an entry of `_latest_map`: the last in the order of the versions. -/
def latest (co : OpportunityId) : Option PreparationRow := (db.versionsOf co).getLast?

def row? (id : PreparationId) : Option PreparationRow := db.rows.find? (·.id = id)

def updateRow (id : PreparationId) (f : PreparationRow → PreparationRow) : PreparationTables :=
  { db with rows := db.rows.map fun r => if r.id = id then f r else r }

/-- The candidate opportunity follows its preparation, where there is one. -/
def moveTarget (now : Time) (co : OpportunityId) (status : PreparationStatus) :
    Res PreparationTables :=
  match db.targets co with
  | none => .ok db
  | some t => do
    let moved ← movePrepared now status t.co
    .ok { db with targets := fun i => if i = co then some { t with co := moved } else db.targets i }

end PreparationTables

/-! ### Preparing -/

section Prepare
variable (env : ComposerEnv) (ctx : PreparationContext)

/-- `_admission_problem`. -/
def admissionProblem (co : CandidateOpportunity) (force : Bool) : Option String :=
  if co.state ∈ [.ineligible, .closed, .skipped, .rejected] then
    some ("candidate opportunity is " ++ co.state.value)
  else if !force && co.policyAdmitted ≠ some true then
    some ("not admitted by the application policy: " ++
      (co.policyReason.filter (· ≠ "")).getD "not evaluated")
  else none

/-- `_questions_for`: the caller's; else those of the previous package, when they were a form's. -/
def questionsFor (previous : Option PreparationRow) (questions : Option (List Text)) : List Text :=
  match questions, previous with
  | some questions, _ => questions
  | none, some row =>
    if row.inputs.questions ≠ questionKeys env.unicode defaultQuestions then
      row.answers.map (·.question)
    else defaultQuestions
  | none, none => defaultQuestions

/-- What becomes of one target. -/
inductive Prepared
  | blocked (message : String)
  | reused (row : PreparationRow)
  | created (row : PreparationRow) (tables : PreparationTables)

/-- The package is still current, and none that failed or was invalidated. -/
def reusable (previous : PreparationRow) (force : Bool) (inputs : Inputs) : Bool :=
  !force && previous.inputs = inputs && previous.status ≠ .failed &&
    previous.status ≠ .invalidated

/-- The row of the next version. -/
def nextVersion (id : PreparationId) (co : OpportunityId) (previous : Option PreparationRow)
    (inputs : Inputs) (built : Build) : PreparationRow :=
  { id, co, inputs, built
    version := (previous.map (·.version + 1)).getD 1
    status := built.status
    answers := built.answers }

def PreparationRow.supersede (r : PreparationRow) : PreparationRow :=
  if r.status.live then { r with status := .superseded } else r

/-- `_persist`. -/
def persist (now : Time) (db : PreparationTables) (previous : Option PreparationRow)
    (row : PreparationRow) : Res PreparationTables :=
  let db := match previous with
    | none => db
    | some p => db.updateRow p.id PreparationRow.supersede
  PreparationTables.moveTarget { db with rows := db.rows ++ [row] } now row.co row.status

/-- What a call asks for, beside the opportunity. -/
structure PrepareOptions where
  level : Option TailoringLevel
  questions : Option (List Text)
  force : Bool

/-- `_prepare_target`, with the id that a new row would get. -/
def prepareTarget (now : Time) (db : PreparationTables) (id : PreparationId) (co : OpportunityId)
    (t : Target) (previous : Option PreparationRow) (options : PrepareOptions) : Res Prepared := do
  let questions := questionsFor env previous options.questions
  match admissionProblem t.co options.force with
  | some message => .ok (.blocked message)
  | none =>
    let level := options.level.getD (ctx.policy.level t.co.fitBand)
    let inputs := fingerprint env ctx t level questions
    match previous.filter fun p => reusable p options.force inputs with
    | some p => .ok (.reused p)
    | none =>
      let row := nextVersion id co previous inputs (build env ctx t level questions)
      let db ← persist now db previous row
      .ok (.created row db)

namespace PreparationTables

/-- `prepare` of one opportunity. -/
def prepare (now : Time) (db : PreparationTables) (id : PreparationId) (co : OpportunityId)
    (options : PrepareOptions) : Res Prepared :=
  match db.targets co with
  | none => .error (.notFound ("Candidate opportunity not found: " ++ toString co))
  | some t => prepareTarget env ctx now db id co t (db.latest co) options

/-- What is committed after a call of `prepare`. -/
def afterPrepare (db : PreparationTables) : Res Prepared → PreparationTables
  | .ok (.created _ db') => db'
  | _ => db

end PreparationTables

end Prepare

/-! ### Preparing many -/

structure PrepareManyReport where
  requested : Nat
  created : Nat
  reused : Nat
  skipped : Nat
  byStatus : PreparationStatus → Nat
  errors : List String

/-- `latest` are the rows in memory: one that is stored reads as it is stored, one that was rolled
back as it was built. Ids are never given twice. -/
structure PreparationPass where
  tables : Batch PreparationTables
  latest : OpportunityId → Option PreparationRow
  nextId : PreparationId
  report : PrepareManyReport

/-- A target of the call, and what handling it raises, if anything. -/
structure BatchItem where
  co : OpportunityId
  raises : Option Raised

namespace PrepareManyReport

def count (r : PrepareManyReport) (status : PreparationStatus) : PrepareManyReport :=
  { r with byStatus := fun s => if s = status then r.byStatus s + 1 else r.byStatus s }

def skip (r : PrepareManyReport) (message : String) : PrepareManyReport :=
  { r with skipped := r.skipped + 1, errors := r.errors ++ [message] }

end PrepareManyReport

def Error.raised : Error → Raised
  | .conflict text => ⟨"ConflictError", text⟩
  | .notFound text => ⟨"NotFoundError", text⟩
  | .validationFailed text => ⟨"ValidationFailed", text⟩

namespace PreparationPass

def previous (s : PreparationPass) (co : OpportunityId) : Option PreparationRow :=
  (s.latest co).map fun r => (s.tables.working.row? r.id).getD r

/-- Any other exception: the whole transaction is rolled back. -/
def fail (co : OpportunityId) (e : Raised) (s : PreparationPass) : PreparationPass :=
  { s with
    tables := s.tables.rollback
    report := s.report.skip (toString co ++ ": " ++ e.kind ++ ": " ++ e.text) }

def settle (every : Nat) (co : OpportunityId) (s : PreparationPass) : Prepared → PreparationPass
  | .blocked message => { s with report := s.report.skip (toString co ++ ": " ++ message) }
  | .reused row =>
    { s with report := { s.report.count row.status with reused := s.report.reused + 1 } }
  | .created row db =>
    { tables := s.tables.save every db
      latest := fun i => if i = co then some row else s.latest i
      nextId := s.nextId + 1
      report := { s.report.count row.status with created := s.report.created + 1 } }

end PreparationPass

section PrepareMany
variable (env : ComposerEnv) (ctx : PreparationContext) (now : Time) (options : PrepareOptions)
  (every : Nat)

/-- What handling a target comes to; an opportunity that was not found has no turn. -/
def PreparationPass.turn (s : PreparationPass) (item : BatchItem) :
    Option (Except Raised Prepared) :=
  (s.tables.working.targets item.co).map fun t =>
    match item.raises with
    | some e => .error e
    | none =>
      (prepareTarget env ctx now s.tables.working s.nextId item.co t (s.previous item.co)
        options).mapError Error.raised

/-- One turn of the loop. -/
def prepareItem (s : PreparationPass) (item : BatchItem) : PreparationPass :=
  match s.turn env ctx now options item with
  | none => s
  | some (.error e) => s.fail item.co e
  | some (.ok result) => s.settle every item.co result

/-- The pass before its first target: those that were not found are skipped. -/
def startPass (db : PreparationTables) (nextId : PreparationId) (items : List BatchItem) :
    PreparationPass :=
  let missing := ((items.map (·.co)).filter fun co => (db.targets co).isNone).dedup
  { tables := .clean db
    latest := db.latest
    nextId
    report :=
      { requested := items.length
        created := 0
        reused := 0
        skipped := missing.length
        byStatus := fun _ => 0
        errors := missing.map fun co => "candidate opportunity not found: " ++ toString co } }

def prepareAll (db : PreparationTables) (nextId : PreparationId) (items : List BatchItem) :
    PreparationPass :=
  items.foldl (prepareItem env ctx now options every) (startPass db nextId items)

/-- `prepare_many`: what is stored when it returns, and its report. -/
def prepareMany (db : PreparationTables) (nextId : PreparationId) (items : List BatchItem) :
    PreparationTables × PrepareManyReport :=
  let s := prepareAll env ctx now options every db nextId items
  (s.tables.commit.stored, s.report)

end PrepareMany

/-! ### Reviewing -/

namespace PreparationRow
variable (row : PreparationRow)

/-- The changes of `approve`. -/
def approved : PreparationRow :=
  { row with
    status := .ready
    answers := row.answers.map fun a =>
      if a.asksReview ∧ (a.answer.bind Text.orNone).isSome then { a with status := .answered } else a }

/-- The candidate's own answer to the question at a position. -/
def answered (position : Nat) (text : Text) : PreparationRow :=
  { row with
    answers := row.answers.map fun a =>
      if a.position = position then
        { a with
          answer := some text
          source := .user
          status := .answered
          reason := "answered by the candidate" }
      else a }

/-- The status that `answer_question` computes from the answers. -/
def answeredStatus : PreparationStatus :=
  if row.answers.any (·.asksUser) then .needsUserInput
  else if row.answers.any (·.asksReview) ∨ row.built.validationStatus ≠ .passed then .needsReview
  else .ready

end PreparationRow

namespace PreparationTables
variable (now : Time) (db : PreparationTables)

def require (id : PreparationId) : Res PreparationRow :=
  match db.row? id with
  | none => .error (.notFound ("Preparation not found: " ++ toString id))
  | some row => .ok row

def approve (id : PreparationId) : Res PreparationTables := do
  let row ← db.require id
  if row.status ≠ .needsReview ∧ row.status ≠ .ready then
    .error (.conflict ("Cannot approve a " ++ row.status.value ++ " preparation"))
  else if row.answers.any (·.asksUser) then
    .error (.conflict "Answer the required questions before approving")
  else (db.updateRow id PreparationRow.approved).moveTarget now row.co .ready

def reject (id : PreparationId) : Res PreparationTables := do
  let _ ← db.require id
  .ok (db.updateRow id fun r => { r with status := .needsReview })

def invalidate (id : PreparationId) : Res PreparationTables := do
  let _ ← db.require id
  .ok (db.updateRow id fun r => { r with status := .invalidated })

/-- `answer_question`; a position stands for the id of the answer. -/
def answerQuestion (id : PreparationId) (position : Nat) (text : Text) :
    Res PreparationTables := do
  let row ← db.require id
  if row.answers.all (·.position ≠ position) then
    .error (.notFound ("Answer not found on this preparation: " ++ toString position))
  else if Text.strip text = [] then .error (.validationFailed "Answer cannot be empty")
  else
    let row := row.answered position (Text.strip text)
    if row.status ≠ .needsUserInput ∧ row.status ≠ .needsReview then
      .ok (db.updateRow id fun _ => row)
    else if row.answeredStatus = row.status then .ok (db.updateRow id fun _ => row)
    else
      (db.updateRow id fun _ => { row with status := row.answeredStatus }).moveTarget now row.co
        row.answeredStatus

end PreparationTables
end RangeApply
