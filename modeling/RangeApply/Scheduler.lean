import RangeApply.Store

/-! One scheduling pass over the tenant's store: reconcile the attempts, decide on every
candidate in order, admit until a cap or the window is reached, and give the READY attempts
their SUBMIT items. -/
namespace RangeApply

/-! ### Reconciliation -/

/-- The code of a refused PREPARE item. -/
def refusedByPolicy (item : QueueItem) : Bool :=
  decide (item.state = .blocked) && startsWith "policy: " (item.lastError.getD "")

/-- Why reconciliation ends an attempt that holds a slot, and where it leaves it. -/
def reconcileStop (env : Env) (policy : ApplicationPolicy) (o : Opening)
    (co : CandidateOpportunity) : Option (String × ApplicationStatus) :=
  let item := o.prepare.map QueueItem.state
  if o.opportunity.status = .closed ∨ co.state = .closed then some ("opportunity closed", .closed)
  else if co.state = .skipped then some ("skipped by candidate", .closed)
  else if policy.blocks env o.opportunity.company then some ("company blocked by policy", .closed)
  else if item = some .failed then some ("preparation failed permanently", .failed)
  else if item = some .cancelled then some ("queue item cancelled", .closed)
  else if co.policyAdmitted = some false ∧ o.prepare.any refusedByPolicy then
    some ("not admitted by the application policy", .closed)
  else none

/-- `_answers_arrived`: a PREPARE item parked for missing answers can be tried again. -/
def answersArrived (item : QueueItem) (prep : Option Preparation) (answersAt : Option Time) :
    Bool :=
  match answersAt with
  | none => false
  | some at_ =>
    let error := item.lastError.getD ""
    (startsWith "needs_user_input" error ||
      (!startsWith "policy: " error &&
        prep.any fun p => decide (p.status = .needsUserInput))) &&
      decide (item.updatedAt < at_)

/-- QUALIFIED and PREPARING attempts become READY with the package. -/
def readyWith (now : Time) (p : Preparation) (row : Application) : Application :=
  if row.status = .qualified ∨ row.status = .preparing then row.markReady now p.id else row

section Reconcile
variable (env : Env) (db : DB)

/-- End the attempt: the slot goes back, an idle PREPARE item is closed, and so is the
candidate's row when the opening is. -/
def stopAttempt (row : Application) (co : CandidateOpportunity) (stop : String × ApplicationStatus)
    (s : Slice) : Slice :=
  let released := row.release db.now s.ledger stop.2 stop.1
  let prepare := s.opening.prepare.map fun item =>
    if item.state.idle then match item.cancel db.now with
      | .ok item' => item'
      | .error _ => item
    else item
  let candidate :=
    if stop.1 = "opportunity closed" ∧ co.state ≠ .closed then
      match co.transition db.now .closed stop.1 with
      | .ok co' => co'
      | .error _ => co
    else co
  ⟨{ s.opening with attempt := some released.2, prepare := prepare, candidate := some candidate },
    released.1⟩

/-- The scheduler-owned statuses follow the PREPARE item and its package. -/
def followPreparation (row : Application) (o : Opening) : Opening :=
  let prep := o.latestPreparation
  match o.prepare with
  | none => o
  | some item =>
    match prep.filter fun p => p.status = .ready with
    | some p =>
      if item.state = .succeeded then { o with attempt := some (readyWith db.now p row) }
      else if item.state = .blocked ∨ item.state = .needsReview then
        { o with
          attempt := some (readyWith db.now p row)
          prepare := some (match item.resolve db.now with
            | .ok item' => item'
            | .error _ => item) }
      else o
    | none =>
      if item.state = .blocked ∧ answersArrived item prep db.answersAt then
        { o with
          attempt := some (row.markPreparing db.now (prep.map Preparation.id))
          prepare := some (match item.requeue db.now false with
            | .ok item' => item'
            | .error _ => item) }
      else if item.state = .blocked ∨ item.state = .needsReview then
        { o with attempt := some (row.markPreparing db.now (prep.map Preparation.id)) }
      else o

/-- `_reconcile` on one opening. Only attempts that hold a slot are looked at; the stops come
before any look at the attempt's status. -/
def reconcile (s : Slice) : Slice :=
  match s.opening.attempt, s.opening.candidate with
  | some row, some co =>
    if row.holdsSlot then
      match reconcileStop env db.policy s.opening co with
      | some stop => stopAttempt db row co stop s
      | none =>
        -- execution owns these, and a submitted attempt has nothing to reconcile
        if row.status = .blocked ∨ row.status = .needsUserInput ∨ row.status = .needsReview ∨
            row.status.inSubmittedStatuses then s
        else { s with opening := followPreparation db row s.opening }
    else s
  | _, _ => s

def releases (o : Opening) : Bool :=
  match o.attempt, o.candidate with
  | some row, some co => row.holdsSlot && (reconcileStop env db.policy o co).isSome
  | _, _ => false

end Reconcile

/-- `_reconcile` over the tenant. -/
def reconcileAll (env : Env) (db : DB) : DB :=
  db.ids.foldl (fun acc i => acc.update i (reconcile env db)) db

/-! ### Admission -/

namespace CandidateOpportunity

def recordAdmission (admitted : Bool) (v : Verdict) (policyVersion : Nat)
    (co : CandidateOpportunity) : CandidateOpportunity :=
  { co with
    policyAdmitted := some admitted
    policyReason := some (clip 256 v.reason)
    admissionPolicyVersion := some policyVersion
    gateRulesetVersion := match v.gates with
      | some gates => some gates.rulesetVersion
      | none => co.gateRulesetVersion }

/-- What admission writes on the candidate's row. -/
def admitted (now : Time) (v : Verdict) (policyVersion : Nat) (co : CandidateOpportunity) :
    CandidateOpportunity :=
  let co := { co with linked := true }
  let co :=
    if co.policyAdmitted ≠ some true ∨ co.policyReason ≠ some v.reason ∨
        co.admissionPolicyVersion ≠ some policyVersion then co.recordAdmission true v policyVersion
    else co
  if co.state.queuedFrom then co.forceTo now .queued "scheduler run" else co

/-- `_STATIC_CODES`: refusals of the policy itself, kept on the row. -/
def staticCode : AdmissionReason → Bool
  | .notEvaluated | .notScored | .ineligible | .belowMinimumEligibility | .bandDisabled
  | .belowFitThreshold | .companyBlocked => true
  | _ => false

def stamp (now : Time) (code : AdmissionReason) (v : Verdict) (policyVersion : Nat)
    (co : CandidateOpportunity) : CandidateOpportunity :=
  let reason := clip 256 (if code = v.code then v.reason else code.value)
  let co :=
    if co.schedulerCode ≠ some code ∨ co.schedulerReason ≠ some reason then
      { co with
        schedulerCode := some code, schedulerReason := some reason, schedulerDecidedAt := some now }
    else co
  if staticCode code ∧ (co.policyAdmitted ≠ some false ∨
      co.policyReason ≠ some (clip 256 v.reason) ∨ co.admissionPolicyVersion ≠ some policyVersion) then
    co.recordAdmission false v policyVersion
  else co

end CandidateOpportunity

/-- The PREPARE item of an admitted attempt: a new one, the package of an earlier one while it
is READY, or the earlier one queued again. -/
def admittedItem (now : Time) (v : Verdict) (co : CandidateOpportunity) (row : Application)
    (o : Opening) : Res (Application × QueueItem) :=
  match o.prepare with
  | none => .ok (row, .fresh now .prepare (v.lane.getD .review) (co.priorityScore.getD 0)
      QueueItem.defaultMaxAttempts)
  | some item =>
    if item.state = .succeeded then
      match o.latestPreparation.filter fun p => p.status = .ready with
      | some p => .ok (row.markReady now p.id, item)
      | none => (item.requeue now true).map fun item => (row, item)
    else .ok (row, item)

/-- `_admit`: the slot, the attempt, the PREPARE item and the candidate's row in one
savepoint. A conflict undoes all of it. -/
def admitCandidate (env : Env) (db : DB) (v : Verdict) (co : CandidateOpportunity) (s : Slice) :
    AdmissionReason × Slice :=
  match Application.reserve db.now s.ledger (db.keys env) db.policy.dailyCap db.policy.weeklyCap
      v.lane v.level (s.opening.attempt <|> s.opening.legacy) s.opening.jobTaken with
  | .error _ => (.alreadyInProgress, s)
  | .ok (ledger, .error reason) => (reason, { s with ledger := ledger })
  | .ok (ledger, .ok row) =>
    match admittedItem db.now v co row s.opening with
    | .error _ => (.alreadyInProgress, s)
    | .ok (row, item) =>
      (.admitted, ⟨{ s.opening with
        attempt := some row, prepare := some item,
        candidate := some (co.admitted db.now v db.policy.version) }, ledger⟩)

structure Pass where
  db : DB
  index : Indexes
  admitted : Nat
  capHit : Option AdmissionReason

namespace Pass

def context (p : Pass) : Context := ⟨p.db.policy, p.db.now, p.index⟩

/-- Record the decision on the candidate's row. -/
def stamp (i : OpportunityId) (code : AdmissionReason) (v : Verdict) (p : Pass) : Pass :=
  { p with db := p.db.update i fun s => { s with opening := { s.opening with
      candidate := s.opening.candidate.map (·.stamp p.db.now code v p.db.policy.version) } } }

/-- The company is in cool-down, and its title taken, for the rest of the pass. -/
def extendIndex (env : Env) (o : Opening) (p : Pass) : Indexes :=
  (Indexes.addCooldown env p.db.policy.cooldownDays p.index o
    (o.attempt.bind Application.reservedAt) "in_progress").addDuplicate env o

/-- Store what an admission did; anything but a cap refusal counts towards the window. -/
def settleAdmission (env : Env) (i : OpportunityId) (outcome : AdmissionReason × Slice) (p : Pass) :
    Pass :=
  if outcome.1 = .dailyCapReached ∨ outcome.1 = .weeklyCapReached then
    { p with db := p.db.update i fun _ => outcome.2, capHit := some outcome.1 }
  else
    { p with
      db := p.db.update i fun _ => outcome.2
      index := if outcome.1 = .admitted then p.extendIndex env outcome.2.opening else p.index
      admitted := p.admitted + 1 }

def consider (env : Env) (window : Nat) (p : Pass) (i : OpportunityId) : Pass :=
  match p.db.openings.get i with
  | none => p
  | some o =>
    match o.candidate with
    | none => p
    | some co =>
      let v := decideOpening env p.context o co
      if v.admissible = false then p.stamp i v.code v
      else if window ≤ p.admitted then p.stamp i .windowDeferred v
      else match p.capHit with
        | some code => p.stamp i code v
        | none =>
          let outcome := admitCandidate env p.db v co ⟨o, p.db.ledger⟩
          (p.settleAdmission env i outcome).stamp i outcome.1 v

end Pass

/-! ### The pass -/

def DB.candidates (db : DB) : List (OpportunityId × Opening) :=
  db.openings.rows.filter fun r => r.2.candidate.isSome

/-- `build_indexes` over the tenant. -/
def DB.indexes (env : Env) (db : DB) : Indexes :=
  Indexes.build env db.policy.cooldownDays (db.candidates.map Prod.snd) (db.candidates.map Prod.snd)

def keyOf (o : Opening) : List Int :=
  match o.candidate with
  | none => []
  | some co => orderingKey o co

/-- The candidates in scheduling order. -/
def DB.ordered (db : DB) : List OpportunityId :=
  (sortBy (fun r => keyOf r.2) db.candidates).map Prod.fst

/-- READY attempts get their SUBMIT items. -/
def DB.enqueueAll (env : Env) (db : DB) : DB :=
  { db with openings := db.openings.mapRows fun _ o => enqueueReady env db.now o }

/-- The pass as it begins: after reconciliation, with indexes built again if it released
anything. -/
def DB.openPass (env : Env) (db : DB) : Pass :=
  let settled := reconcileAll env db
  let index :=
    if db.openings.rows.any fun r => releases env db r.2 then settled.indexes env
    else db.indexes env
  ⟨settled, index, 0, none⟩

/-- `SchedulerService.run` without preparation. -/
def schedule (env : Env) (window : Nat) (db : DB) : DB :=
  (db.ordered.foldl (Pass.consider env window) (db.openPass env)).db.enqueueAll env

/-- The tail of a run that prepared: reconcile again, then enqueue. -/
def settlePrepared (env : Env) (db : DB) : DB := (reconcileAll env db).enqueueAll env

end RangeApply
