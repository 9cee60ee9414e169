import RangeApply.Scheduler
import RangeApply.Trace

/-! The running system: the tenant's store, the processes that work on it, and one label to
each step that is committed on its own. Steps of different processes interleave in any order;
a step that raises leaves the store as it was. -/
namespace RangeApply

abbrev ProcId := Nat

/-- What a worker process is in the middle of. `run_queue` executes one item at a time. -/
inductive Phase
  | idle
  /-- `start` is committed; the form is being discovered and mapped, or a dry run is made. -/
  | discovering (i : OpportunityId) (r : RunId)
  /-- The flag is committed; the executor fills the form. -/
  | filling (i : OpportunityId) (r : RunId)
  /-- The executor has called the gate, which answered with no failures or with some. -/
  | gated (i : OpportunityId) (r : RunId) (passed : Bool)
  /-- A package is being prepared. -/
  | packaging (i : OpportunityId)
  deriving DecidableEq

def Phase.running : Phase → Option (OpportunityId × RunId)
  | .discovering i r | .filling i r | .gated i r _ => some (i, r)
  | .idle | .packaging _ => none

def Phase.opening : Phase → Option OpportunityId
  | .idle => none
  | .discovering i _ | .filling i _ | .gated i _ _ | .packaging i => some i

/-- The flag is not committed: nothing can have been pressed. -/
def Phase.dry : Phase → Bool
  | .discovering _ _ => true
  | _ => false

/-- A gate call that returned no failures, with the periods it was made in. -/
structure GatePass where
  opening : OpportunityId
  day : String
  week : String
  deriving DecidableEq

structure Sys where
  db : DB
  phase : ProcId → Phase
  passes : List GatePass

/-- The columns that jobs, discovery, evaluation and preparation write, and the operations
here only read. -/
structure World where
  status : OpportunityStatus
  firstSeenAt : Option Time
  deadline : Option Time
  repostedAt : Option Time
  source : Option String
  geography : Option GeoAssessment
  role : Option RoleAssessment
  jobTaken : Bool
  candidate : Option CandidateOpportunity
  legacy : Option Application
  preparations : List Preparation

/-- The company and the title of an opening never change, and a candidate row stays. -/
def Opening.withWorld (w : World) (o : Opening) : Opening :=
  { o with
    opportunity := { o.opportunity with
      status := w.status, firstSeenAt := w.firstSeenAt, deadline := w.deadline,
      repostedAt := w.repostedAt }
    source := w.source
    geography := w.geography
    role := w.role
    jobTaken := w.jobTaken
    candidate := w.candidate <|> o.candidate
    legacy := w.legacy
    preparations := w.preparations }

/-- A new opening: nothing has been attempted. -/
def Opening.discovered (i : OpportunityId) (company title : String) (w : World) : Opening where
  opportunity := ⟨i, company, title, w.status, w.firstSeenAt, w.deadline, w.repostedAt⟩
  source := w.source
  geography := w.geography
  role := w.role
  jobTaken := w.jobTaken
  candidate := w.candidate
  attempt := none
  legacy := w.legacy
  prepare := none
  submit := none
  preparations := w.preparations
  runs := []

/-- What `start` is given from outside the store. -/
structure StartArgs where
  stale : List String
  kind : ExecutorKind
  executor : Option Executor
  documentProblems : List String

/-- How the preparation of a package ended. -/
inductive PrepareEnding
  | policyBlocked (message : String)
  | failed (message : String) (retryable : Bool)
  | prepared (status : PreparationStatus)
  deriving DecidableEq

/-- `process_prepare_item` settles its item. -/
def settlePrepareItem (now : Time) (worker : WorkerId) (ending : PrepareEnding)
    (item : QueueItem) : Res QueueItem :=
  match ending with
  | .policyBlocked message => item.block now worker s!"policy: {message}"
  | .failed message retryable => item.fail now worker message retryable
  | .prepared .ready => item.succeed now worker
  | .prepared .needsUserInput => item.block now worker
      "needs_user_input: required application questions have no stored answer"
  | .prepared .needsReview =>
    .ok (item.needsReview now "needs_review: preparation requires a human look")
  | .prepared status => item.fail now worker s!"preparation ended in {status.value}" true

inductive Label
  -- the environment
  | tick (elapsed : Nat)
  | world (i : OpportunityId) (w : World)
  | discover (i : OpportunityId) (company title : String) (w : World)
  | setPolicy (policy : ApplicationPolicy)
  | setSwitches (switches : List (String × Bool))
  | setLive (live : Bool)
  | answersApproved (at_ : Time)
  -- worker processes
  | claim (p : ProcId) (action : QueueAction) (lane : Option Lane) (limit : Nat)
  | start (p : ProcId) (i : OpportunityId) (args : StartArgs)
  | mark (p : ProcId)
  | gate (p : ProcId) (stale : List String)
  | finish (p : ProcId) (ending : Ending)
  | crash (p : ProcId)
  | recover
  | beginPrepare (p : ProcId) (i : OpportunityId)
  | endPrepare (p : ProcId) (ending : PrepareEnding)
  -- the scheduler
  | schedule (window : Nat)
  | settlePrepared
  -- the browser extension
  | claimItem (worker : WorkerId) (i : OpportunityId)
  | heartbeat (worker : WorkerId) (i : OpportunityId)
  | startFor (worker : WorkerId) (i : OpportunityId) (args : StartArgs)
  | gateFor (worker : WorkerId) (i : OpportunityId) (stale : List String)
  | reportFor (worker : WorkerId) (i : OpportunityId) (r : ExecutionResult)
      (verify : VerificationResult)
  -- people
  | verify (i : OpportunityId) (r : RunId) (v : VerificationResult)
  | confirm (i : OpportunityId) (r : RunId) (submitted : Bool) (reference note : Option String)
  | retry (i : OpportunityId) (reason : Option String)
  | cancel (i : OpportunityId) (actor : String) (reason : Option String)

/-- A person acts; every other step is automatic. -/
def Label.human : Label → Bool
  | .verify .. | .confirm .. | .retry .. | .cancel .. => true
  | _ => false

def onOpening {α : Type} (f : Opening → Res (Opening × α)) (s : Slice) : Res (Slice × α) :=
  (f s.opening).map fun done => ({ s with opening := done.1 }, done.2)

def plain {β : Type} (f : Slice → Res β) (s : Slice) : Res (β × Unit) := (f s).map fun b => (b, ())

namespace DB

def startReads (db : DB) (i : OpportunityId) (args : StartArgs) : StartReads :=
  ⟨db.checkInputs i args.stale, db.switches, args.kind, args.executor, args.documentProblems⟩

/-- `start` on the SUBMIT item of the opening. -/
def start (env : Env) (worker : WorkerId) (i : OpportunityId) (args : StartArgs) (db : DB) :
    DB × Option StartOutcome :=
  db.act i fun s =>
    match s.opening.submit with
    | none => .error (.notFound "Queue item not found")
    | some item => RangeApply.start env (db.startReads i args) worker s item

/-- The in-process gate. -/
def gateProcess (env : Env) (i : OpportunityId) (stale : List String) (db : DB) :
    DB × Option (List String) :=
  db.act i fun s =>
    let answer := preSubmitGate env (db.gateReads i stale) s
    .ok (answer.2, answer.1)

/-- The extension's gate. -/
def gateExtension (env : Env) (worker : WorkerId) (i : OpportunityId) (stale : List String)
    (db : DB) : DB × Option (List String) :=
  db.act i fun s => (gate env (db.gateReads i stale) worker s).map fun answer => (answer.2, answer.1)

def change (i : OpportunityId) (f : Slice → Res Slice) (db : DB) : DB := (db.act i (plain f)).1

def changeOpening (i : OpportunityId) (f : Opening → Res Opening) (db : DB) : DB :=
  db.change i fun s => (f s.opening).map fun o => { s with opening := o }

/-- The items of a claimed item, whoever claims. -/
def claimItem (env : Env) (worker : WorkerId) (i : OpportunityId) (db : DB) : DB :=
  db.changeOpening i fun o => .ok { o with
    submit := o.submit.map fun item => (item.claimItem db.now worker env.leaseSeconds).1 }

def recover (db : DB) : DB :=
  { db with openings := db.openings.mapRows fun _ o => recoverOpening db.now o }

/-- A process takes its CLAIMED PREPARE item. -/
def beginPrepare (worker : WorkerId) (i : OpportunityId) (db : DB) : DB × Option Unit :=
  db.act i <| onOpening fun o =>
    match o.prepare with
    | none => .error (.notFound "Queue item not found")
    | some item => (item.start db.now worker).map fun item => ({ o with prepare := some item }, ())

def endPrepare (worker : WorkerId) (i : OpportunityId) (ending : PrepareEnding) (db : DB) : DB :=
  db.changeOpening i fun o =>
    match o.prepare with
    | none => .error (.notFound "Queue item not found")
    | some item => (settlePrepareItem db.now worker ending item).map fun item =>
        { o with prepare := some item }

/-- `retry`; an attempt without a SUBMIT item has every READY attempt enqueued. -/
def retry (env : Env) (i : OpportunityId) (reason : Option String) (db : DB) : DB :=
  match db.act i (onOpening fun o => (RangeApply.retry db.now reason o).map fun o' =>
      (o', o.submit.isNone)) with
  | (db', some true) => db'.enqueueAll env
  | (db', _) => db'

end DB

namespace Sys

def store (s : Sys) (db : DB) : Sys := { s with db := db }

def enter (s : Sys) (p : ProcId) (phase : Phase) (db : DB) : Sys :=
  { s with db := db, phase := fun q => if q = p then phase else s.phase q }

@[simp] theorem enter_self (s : Sys) (p : ProcId) (phase : Phase) (db : DB) :
    (s.enter p phase db).phase p = phase := if_pos rfl

theorem enter_other (s : Sys) {p q : ProcId} (phase : Phase) (db : DB) (other : q ≠ p) :
    (s.enter p phase db).phase q = s.phase q := if_neg other

def note (env : Env) (i : OpportunityId) (db : DB) (answer : Option (List String))
    (passes : List GatePass) : List GatePass :=
  if answer = some [] then
    ⟨i, (db.keys env).day.key, (db.keys env).week.key⟩ :: passes
  else passes

section Step
variable (env : Env) (ident : ProcId → WorkerId)

def startStep (s : Sys) (p : ProcId) (i : OpportunityId) (args : StartArgs) : Sys :=
  match s.phase p with
  | .idle =>
    match s.db.start env (ident p) i args with
    | (db, some (.started r)) => s.enter p (.discovering i r) db
    | (db, _) => s.store db
  | _ => s

/-- The process records that the executor may press submit. -/
def markStep (s : Sys) (p : ProcId) : Sys :=
  match s.phase p with
  | .discovering i r =>
    s.enter p (.filling i r) (s.db.changeOpening i fun o => .ok (markSubmit r o))
  | _ => s

/-- The executor calls the gate, once. -/
def gateStep (s : Sys) (p : ProcId) (stale : List String) : Sys :=
  match s.phase p with
  | .filling i r =>
    let answer := s.db.gateProcess env i stale
    { s.enter p (.gated i r (answer.2 = some [])) answer.1 with
      passes := note env i s.db answer.2 s.passes }
  | _ => s

/-- The process reports how its executor ended. Before the flag is committed the executor
cannot have pressed anything. -/
def finishStep (s : Sys) (p : ProcId) (ending : Ending) : Sys :=
  match s.phase p with
  | .discovering i r =>
    s.enter p .idle
      (s.db.change i (finishRun env s.db.policy s.db.now (ident p) r true ending))
  | .filling i r | .gated i r _ =>
    s.enter p .idle
      (s.db.change i (finishRun env s.db.policy s.db.now (ident p) r false ending))
  | _ => s

def beginPrepareStep (s : Sys) (p : ProcId) (i : OpportunityId) : Sys :=
  match s.phase p with
  | .idle =>
    match s.db.beginPrepare (ident p) i with
    | (db, some ()) => s.enter p (.packaging i) db
    | (_, none) => s
  | _ => s

def endPrepareStep (s : Sys) (p : ProcId) (ending : PrepareEnding) : Sys :=
  match s.phase p with
  | .packaging i => s.enter p .idle (s.db.endPrepare (ident p) i ending)
  | _ => s

/-- A process claims only while it is idle. -/
def claimStep (s : Sys) (p : ProcId) (action : QueueAction) (lane : Option Lane) (limit : Nat) :
    Sys :=
  match s.phase p with
  | .idle => s.store (s.db.claim env (ident p) action lane limit)
  | _ => s

def gateForStep (s : Sys) (worker : WorkerId) (i : OpportunityId) (stale : List String) : Sys :=
  let answer := s.db.gateExtension env worker i stale
  { s with db := answer.1, passes := note env i s.db answer.2 s.passes }

def step (s : Sys) : Label → Sys
  | .tick elapsed => s.store { s.db with now := s.db.now + elapsed }
  | .world i w => s.store (s.db.changeOpening i fun o => .ok (o.withWorld w))
  | .discover i company title w =>
    s.store { s.db with openings := s.db.openings.insertNew i (.discovered i company title w) }
  | .setPolicy policy => s.store { s.db with policy := policy }
  | .setSwitches switches => s.store { s.db with switches := switches }
  | .setLive live => s.store { s.db with live := live }
  | .answersApproved at_ => s.store { s.db with answersAt := some at_ }
  | .claim p action lane limit => s.claimStep env ident p action lane limit
  | .start p i args => s.startStep env ident p i args
  | .mark p => s.markStep p
  | .gate p stale => s.gateStep env p stale
  | .finish p ending => s.finishStep env ident p ending
  | .crash p => s.enter p .idle s.db
  | .recover => s.store s.db.recover
  | .beginPrepare p i => s.beginPrepareStep ident p i
  | .endPrepare p ending => s.endPrepareStep ident p ending
  | .schedule window => s.store (RangeApply.schedule env window s.db)
  | .settlePrepared => s.store (RangeApply.settlePrepared env s.db)
  | .claimItem worker i => s.store (s.db.claimItem env worker i)
  | .heartbeat worker i =>
    s.store (s.db.changeOpening i (RangeApply.heartbeat env s.db.now worker))
  | .startFor worker i args => s.store (s.db.start env worker i args).1
  | .gateFor worker i stale => s.gateForStep env worker i stale
  | .reportFor worker i r v =>
    s.store (s.db.change i (reportResult env s.db.policy s.db.now worker r v))
  | .verify i r v => s.store (s.db.changeOpening i (RangeApply.verify s.db.now v r))
  | .confirm i r submitted reference note =>
    s.store (s.db.changeOpening i (RangeApply.confirm s.db.now submitted reference note r))
  | .retry i reason => s.store (s.db.retry env i reason)
  | .cancel i actor reason =>
    s.store (s.db.change i (RangeApply.cancel s.db.now actor reason))

end Step

/-- A tenant before anything was found: an empty store, processes at rest, no gate call. -/
def initial (policy : ApplicationPolicy) (now : Time) : Sys where
  db := ⟨now, policy, [], true, none, .empty, .empty⟩
  phase := fun _ => .idle
  passes := []

def attemptStatus (s : Sys) (i : OpportunityId) : Option ApplicationStatus :=
  (s.db.openings.get i).bind fun o => o.attempt.map Application.status

def cancels (s : Sys) (i : OpportunityId) (actor : String) (reason : Option String) : Bool :=
  (s.db.act i (plain (RangeApply.cancel s.db.now actor reason))).2.isSome

end Sys

/-! ### A tenant to run the model on -/

def Sys.holding (i : OpportunityId) (o : Opening) : Sys :=
  let s := Sys.initial .initial 0
  s.store { s.db with openings := s.db.openings.insertNew i o }

/-- An open posting that passes every gate, with these packages. -/
def World.strong (preparations : List Preparation) : World where
  status := .open
  firstSeenAt := none
  deadline := none
  repostedAt := none
  source := none
  geography := none
  role := none
  jobTaken := false
  candidate := none
  legacy := none
  preparations := preparations

/-- An opening is found and admitted, and process 0 prepares its package: the attempt is READY
and its SUBMIT item waits. -/
def Label.prepares (i : OpportunityId) (company title : String) : List Label :=
  [.discover i company title { World.strong [] with candidate := some (.strong .eligible) },
    .schedule 10, .claim 0 .prepare none 10, .beginPrepare 0 i,
    .world i (.strong [⟨7, 1, i, .ready, .passed, []⟩]), .endPrepare 0 (.prepared .ready),
    .settlePrepared]

/-- A mock executor that handles every form. -/
def StartArgs.mock : StartArgs := ⟨[], .mock, some ⟨.mock, true, "mock"⟩, []⟩

/-- The executor submitted; what it saw decides nothing about the outcome. -/
def Ending.sent : Ending :=
  .returned (.plain .submitted true .unknown "sent") ⟨.unknown, .none, none, none, none, none⟩

/-- Process 0 executes the SUBMIT item of this opening up to the gate. -/
def Label.passes (i : OpportunityId) : List Label :=
  [.claim 0 .submit none 1, .start 0 i .mock, .mark 0, .gate 0 []]

/-- The world as `Label.prepares` leaves it, with the posting gone. -/
def World.closed : World := { World.strong [] with status := .closed }

end RangeApply
