import RangeApply.Caps
import RangeApply.Policy

/-! Attempts as the scheduler sees them: which hold a slot, which count as submitted, the
cool-down and duplicate indexes, and the writes of the attempt repository. -/
namespace RangeApply

namespace Application

def holdsSlot (row : Application) : Bool := row.reservedAt.isSome && row.releasedAt.isNone

def isSubmitted (row : Application) : Bool :=
  row.status.inSubmittedStatuses || decide (row.status = .rejected)

def isInFlight (row : Application) : Bool := row.status.inFlightStatuses

/-- When the cool-down of a submitted attempt starts, and what a repost is compared with. -/
def appliedAt (row : Application) : Option Time :=
  row.submittedAt <|> row.reservedAt <|> some row.updatedAt

/-- Guarded by `ATTEMPT_TRANSITIONS`; nothing happens when the status is already there. -/
def transition (now : Time) (row : Application) (newStatus : ApplicationStatus)
    (reason : Option String) : Res Application :=
  if row.status = newStatus then .ok row
  else if newStatus ∈ row.status.transitions then
    .ok { row with status := newStatus, statusReason := clipped 256 reason, updatedAt := now }
  else .error (.conflict
    s!"Illegal attempt transition {row.status.value} -> {newStatus.value}")

/-- `transition(..., force=True)`. -/
def forceTo (now : Time) (row : Application) (newStatus : ApplicationStatus)
    (reason : Option String) : Application :=
  if row.status = newStatus then row
  else { row with status := newStatus, statusReason := clipped 256 reason, updatedAt := now }

def markReady (now : Time) (row : Application) (preparation : PreparationId) : Application :=
  if row.status = .ready ∧ row.preparationId = some preparation then row
  else { row with status := .ready, preparationId := some preparation, updatedAt := now }

def markPreparing (now : Time) (row : Application) (preparation : Option PreparationId) :
    Application :=
  if row.status = .preparing ∧ row.preparationId = preparation then row
  else { row with
    status := .preparing, preparationId := preparation <|> row.preparationId, updatedAt := now }

/-- Give the slot back; the attempt ends in `status`. -/
def release (now : Time) (ledger : CapLedger) (row : Application) (status : ApplicationStatus)
    (reason : String) : CapLedger × Application :=
  if row.holdsSlot then
    (ledger.release row.capDay row.capWeek,
      { row with
        releasedAt := some now, status := status, statusReason := some (clip 256 reason),
        updatedAt := now })
  else if row.status = status then (ledger, row)
  else (ledger, { row with
    status := status, statusReason := some (clip 256 reason), updatedAt := now })

/-- The row `reserve` inserts for an opening without an attempt. -/
def fresh (now : Time) : Application where
  attemptNumber := 1
  status := .qualified
  statusReason := none
  blockedReason := none
  submissionKey := none
  executionCount := 0
  lastExecutionId := none
  preparationId := none
  lane := none
  tailoringLevel := none
  capDay := none
  capWeek := none
  reservedAt := none
  releasedAt := none
  submittedAt := none
  verifiedAt := none
  updatedAt := now
  externalApplicationId := none
  resultUrl := none
  confirmation := none

def withSlot (now : Time) (keys : PeriodKeys) (lane : Option Lane)
    (level : Option TailoringLevel) (row : Application) : Application :=
  { row with
    lane := lane, tailoringLevel := level, capDay := some keys.day.key,
    capWeek := some keys.week.key, reservedAt := some now, releasedAt := none, updatedAt := now }

/-- Reserve a slot and the attempt row. A cap refusal is a result; an insert that meets the
unique job id of another row is an error, and the savepoint gives the slot back. -/
def reserve (now : Time) (ledger : CapLedger) (keys : PeriodKeys) (dailyCap weeklyCap : Int)
    (lane : Option Lane) (level : Option TailoringLevel) (existing : Option Application)
    (jobTaken : Bool) : Res (CapLedger × Except AdmissionReason Application) :=
  match ledger.reserve keys dailyCap weeklyCap with
  | (ledger', some reason) => .ok (ledger', .error reason)
  | (ledger', none) =>
    match existing with
    | none =>
      if jobTaken then .error (.conflict "attempt already exists for this opportunity")
      else .ok (ledger', .ok ((fresh now).withSlot now keys lane level))
    | some row =>
      .ok (ledger', .ok (({ row with
        attemptNumber := row.attemptNumber + 1, status := .qualified, preparationId := none,
        confirmation := none } : Application).withSlot now keys lane level))

section Effects
variable {now : Time} {row row' : Application} {newStatus : ApplicationStatus}
  {reason : Option String}

/-- The columns no status change touches. -/
structure SameSlot (before after : Application) : Prop where
  capDay : after.capDay = before.capDay
  capWeek : after.capWeek = before.capWeek
  reservedAt : after.reservedAt = before.reservedAt
  releasedAt : after.releasedAt = before.releasedAt

theorem SameSlot.refl (row : Application) : SameSlot row row := ⟨rfl, rfl, rfl, rfl⟩

theorem SameSlot.trans {a b c : Application} (first : SameSlot a b) (second : SameSlot b c) :
    SameSlot a c :=
  ⟨second.capDay.trans first.capDay, second.capWeek.trans first.capWeek,
    second.reservedAt.trans first.reservedAt, second.releasedAt.trans first.releasedAt⟩

theorem SameSlot.holdsSlot {a b : Application} (same : SameSlot a b) :
    b.holdsSlot = a.holdsSlot := by
  simp only [Application.holdsSlot, same.reservedAt, same.releasedAt]

/-- A status change keeps every column except the status and its reason. -/
theorem transition_ok (done : row.transition now newStatus reason = .ok row') :
    (row' = row ∧ row.status = newStatus) ∨
      (newStatus ∈ row.status.transitions ∧ row' = { row with
        status := newStatus, statusReason := clipped 256 reason, updatedAt := now }) := by
  unfold transition at done
  split at done
  · rename_i same
    exact .inl ⟨(Except.ok.inj done).symm, same⟩
  split at done
  · rename_i allowed
    exact .inr ⟨allowed, (Except.ok.inj done).symm⟩
  · contradiction

theorem transition_status (done : row.transition now newStatus reason = .ok row') :
    row'.status = newStatus := by
  rcases transition_ok done with ⟨rfl, same⟩ | ⟨-, rfl⟩
  · exact same
  · rfl

theorem transition_sameSlot (done : row.transition now newStatus reason = .ok row') :
    SameSlot row row' := by
  rcases transition_ok done with ⟨rfl, -⟩ | ⟨-, rfl⟩ <;> exact ⟨rfl, rfl, rfl, rfl⟩

theorem transition_submittedAt (done : row.transition now newStatus reason = .ok row') :
    row'.submittedAt = row.submittedAt := by
  rcases transition_ok done with ⟨rfl, -⟩ | ⟨-, rfl⟩ <;> rfl

theorem transition_submissionKey (done : row.transition now newStatus reason = .ok row') :
    row'.submissionKey = row.submissionKey := by
  rcases transition_ok done with ⟨rfl, -⟩ | ⟨-, rfl⟩ <;> rfl

@[simp] theorem forceTo_status : (row.forceTo now newStatus reason).status = newStatus := by
  unfold forceTo
  split
  · assumption
  · rfl

theorem forceTo_sameSlot : SameSlot row (row.forceTo now newStatus reason) := by
  unfold forceTo
  split <;> exact ⟨rfl, rfl, rfl, rfl⟩

@[simp] theorem forceTo_submittedAt :
    (row.forceTo now newStatus reason).submittedAt = row.submittedAt := by
  unfold forceTo
  split <;> rfl

@[simp] theorem forceTo_submissionKey :
    (row.forceTo now newStatus reason).submissionKey = row.submissionKey := by
  unfold forceTo
  split <;> rfl

@[simp] theorem forceTo_preparationId :
    (row.forceTo now newStatus reason).preparationId = row.preparationId := by
  unfold forceTo
  split <;> rfl

theorem markReady_sameSlot {p : PreparationId} : SameSlot row (row.markReady now p) := by
  unfold markReady
  split <;> exact ⟨rfl, rfl, rfl, rfl⟩

theorem markPreparing_sameSlot {p : Option PreparationId} :
    SameSlot row (row.markPreparing now p) := by
  unfold markPreparing
  split <;> exact ⟨rfl, rfl, rfl, rfl⟩

@[simp] theorem markReady_submissionKey {p : PreparationId} :
    (row.markReady now p).submissionKey = row.submissionKey := by
  unfold markReady
  split <;> rfl

@[simp] theorem markPreparing_submissionKey {p : Option PreparationId} :
    (row.markPreparing now p).submissionKey = row.submissionKey := by
  unfold markPreparing
  split <;> rfl

@[simp] theorem markReady_status {p : PreparationId} : (row.markReady now p).status = .ready := by
  unfold markReady
  split
  · rename_i same
    exact same.1
  · rfl

@[simp] theorem markPreparing_status {p : Option PreparationId} :
    (row.markPreparing now p).status = .preparing := by
  unfold markPreparing
  split
  · rename_i same
    exact same.1
  · rfl

theorem release_spec (now : Time) (row : Application) (ledger : CapLedger)
    (status : ApplicationStatus) (text : String) :
    (row.release now ledger status text).2.status = status ∧
      (row.release now ledger status text).2.holdsSlot = false := by
  unfold release
  split
  · exact ⟨rfl, by simp [holdsSlot]⟩
  · rename_i free
    have kept : row.holdsSlot = false := by simpa using free
    split
    · rename_i same
      exact ⟨same, kept⟩
    · exact ⟨rfl, kept⟩

@[simp] theorem release_submittedAt (now : Time) (row : Application) (ledger : CapLedger)
    (status : ApplicationStatus) (text : String) :
    (row.release now ledger status text).2.submittedAt = row.submittedAt := by
  unfold release
  split
  · rfl
  · split <;> rfl

@[simp] theorem markReady_submittedAt {p : PreparationId} :
    (row.markReady now p).submittedAt = row.submittedAt := by
  unfold markReady
  split <;> rfl

@[simp] theorem markPreparing_submittedAt {p : Option PreparationId} :
    (row.markPreparing now p).submittedAt = row.submittedAt := by
  unfold markPreparing
  split <;> rfl

theorem release_ledger (now : Time) (row : Application) (ledger : CapLedger)
    (status : ApplicationStatus) (text : String) :
    (row.release now ledger status text).1 =
      if row.holdsSlot then ledger.release row.capDay row.capWeek else ledger := by
  unfold release
  split
  · rfl
  · split <;> rfl

theorem reserve_granted {ledger ledger' : CapLedger} {keys : PeriodKeys} {dailyCap weeklyCap : Int}
    {lane : Option Lane} {level : Option TailoringLevel} {existing : Option Application}
    {taken : Bool}
    (granted : reserve now ledger keys dailyCap weeklyCap lane level existing taken =
      .ok (ledger', .ok row')) :
    ledger.reserve keys dailyCap weeklyCap = (ledger', none) ∧ row'.status = .qualified ∧
      row'.holdsSlot = true ∧ row'.capDay = some keys.day.key ∧
      row'.capWeek = some keys.week.key ∧ row'.reservedAt = some now ∧
      (existing = none ∨ ∃ old, existing = some old ∧ row'.submittedAt = old.submittedAt) := by
  unfold reserve at granted
  split at granted
  · cases granted
  · rename_i ledger'' took
    split at granted
    · split at granted
      · cases granted
      · cases granted
        exact ⟨took, rfl, rfl, rfl, rfl, rfl, .inl rfl⟩
    · rename_i old
      cases granted
      exact ⟨took, rfl, rfl, rfl, rfl, rfl, .inr ⟨old, rfl, rfl⟩⟩

/-- An attempt that is continued keeps its submission key; a new one has none. -/
theorem reserve_submissionKey {ledger ledger' : CapLedger} {keys : PeriodKeys}
    {dailyCap weeklyCap : Int} {lane : Option Lane} {level : Option TailoringLevel}
    {existing : Option Application} {taken : Bool}
    (granted : reserve now ledger keys dailyCap weeklyCap lane level existing taken =
      .ok (ledger', .ok row')) : row'.submissionKey = existing.bind submissionKey := by
  unfold reserve at granted
  split at granted
  · cases granted
  · split at granted
    · split at granted
      · cases granted
      · cases granted
        rfl
    · cases granted
      rfl

theorem reserve_refused {ledger ledger' : CapLedger} {keys : PeriodKeys} {dailyCap weeklyCap : Int}
    {lane : Option Lane} {level : Option TailoringLevel} {existing : Option Application}
    {taken : Bool} {why : AdmissionReason}
    (refused : reserve now ledger keys dailyCap weeklyCap lane level existing taken =
      .ok (ledger', .error why)) :
    ledger.reserve keys dailyCap weeklyCap = (ledger', some why) := by
  unfold reserve at refused
  split at refused
  · rename_i found
    cases refused
    exact found
  · split at refused
    · split at refused <;> cases refused
    · cases refused

end Effects

end Application

/-! ### Cool-down and duplicates -/

/-- `company|normalised title`. -/
def duplicateKey (env : Env) (company title : String) : String :=
  s!"{companyKey env company}|{env.normalizeTitle title}"

/-- No company key has a bar, which ends it in a duplicate key. -/
theorem companyKey_bar (env : Env) (name : String) : '|' ∉ (companyKey env name).toList := by
  intro member
  rcases companyKey_chars member with space | alnum
  · exact absurd space (by decide)
  · exact absurd alnum (by decide)

theorem before_bar {xs ys zs ws : List Char} (clear : '|' ∉ xs) (clear' : '|' ∉ ys)
    (same : xs ++ '|' :: zs = ys ++ '|' :: ws) : xs = ys := by
  induction xs generalizing ys with
  | nil =>
    cases ys with
    | nil => rfl
    | cons y ys =>
      cases (List.cons.inj same).1
      exact absurd List.mem_cons_self clear'
  | cons x xs ih =>
    cases ys with
    | nil =>
      cases (List.cons.inj same).1
      exact absurd List.mem_cons_self clear
    | cons y ys =>
      obtain ⟨rfl, rest⟩ := List.cons.inj same
      rw [ih (List.not_mem_of_not_mem_cons clear) (List.not_mem_of_not_mem_cons clear') rest]

theorem company_of_duplicateKey {env : Env} {company company' title title' : String}
    (same : duplicateKey env company title = duplicateKey env company' title') :
    companyKey env company = companyKey env company' := by
  have texts := congrArg String.toList same
  unfold duplicateKey at texts
  simp only [toString, String.toList_append, List.append_assoc] at texts
  exact String.toList_inj.mp (before_bar (companyKey_bar env company) (companyKey_bar env company') texts)

/-- Per normalised company: when the cool-down ends and what started it. -/
structure CooldownIndex where
  until_ : String → Option Time
  source : String → Option String

namespace CooldownIndex

def empty : CooldownIndex := ⟨fun _ => none, fun _ => none⟩

def record (index : CooldownIndex) (key : String) (ends : Time) (source : String) :
    CooldownIndex :=
  ⟨fun k => if k = key then some ends else index.until_ k,
    fun k => if k = key then some source else index.source k⟩

/-- A later end replaces an earlier one. -/
def add (env : Env) (index : CooldownIndex) (company : String) (started : Option Time)
    (cooldownDays : Int) (source : String) : CooldownIndex :=
  match started with
  | none => index
  | some started =>
    if cooldownDays ≤ 0 then index
    else
      let key := companyKey env company
      let ends := started + days cooldownDays
      match index.until_ key with
      | none => index.record key ends source
      | some known => if known < ends then index.record key ends source else index

/-- The end of the cool-down while `now` is strictly before it. -/
def activeUntil (env : Env) (index : CooldownIndex) (company : String) (now : Time) :
    Option Time :=
  match index.until_ (companyKey env company) with
  | none => none
  | some ends => if now < ends then some ends else none

def Covers (index : CooldownIndex) (key : String) (t : Time) : Prop :=
  ∃ ends, index.until_ key = some ends ∧ t ≤ ends

theorem Covers.active {env : Env} {index : CooldownIndex} {company : String} {t now : Time}
    (covers : index.Covers (companyKey env company) t) (early : now < t) :
    index.activeUntil env company now ≠ none := by
  obtain ⟨ends, found, le⟩ := covers
  simp only [activeUntil, found, if_pos (Int.lt_of_lt_of_le early le), ne_eq, reduceCtorEq,
    not_false_eq_true]

theorem Covers.record {index : CooldownIndex} {key : String} {t : Time}
    (covers : index.Covers key t) {other : String} {ends : Time} (source : String)
    (later : other = key → t ≤ ends) : (index.record other ends source).Covers key t := by
  obtain ⟨known, found, le⟩ := covers
  by_cases same : key = other
  · exact ⟨ends, if_pos same, later same.symm⟩
  · exact ⟨known, (if_neg same).trans found, le⟩

theorem Covers.add {env : Env} {index : CooldownIndex} {key : String} {t : Time}
    (covers : index.Covers key t) (company : String) (started : Option Time) (d : Int)
    (source : String) : (index.add env company started d source).Covers key t := by
  have kept := covers
  obtain ⟨ends, found, le⟩ := covers
  unfold CooldownIndex.add
  split
  · exact kept
  split
  · exact kept
  dsimp only
  split
  · rename_i free
    refine kept.record source fun same => ?_
    rw [same, found] at free
    contradiction
  · rename_i known there
    split
    · rename_i later
      refine kept.record source fun same => ?_
      rw [same, found] at there
      cases Option.some.inj there
      exact Int.le_trans le (Int.le_of_lt later)
    · exact kept

theorem covers_add (env : Env) (index : CooldownIndex) (company : String) (started : Time)
    {d : Int} (positive : 0 < d) (source : String) :
    (index.add env company (some started) d source).Covers (companyKey env company)
      (started + days d) := by
  simp only [add, if_neg (Int.not_le.mpr positive)]
  split
  · exact ⟨_, if_pos rfl, Int.le_refl _⟩
  · rename_i known there
    split
    · exact ⟨_, if_pos rfl, Int.le_refl _⟩
    · rename_i later
      exact ⟨known, there, Int.not_lt.mp later⟩

end CooldownIndex

/-- The two indexes a decision consults; a duplicate is a company and title with the opening
that carries a live or submitted attempt for it. -/
structure Indexes where
  cooldown : CooldownIndex
  duplicates : List (String × OpportunityId)

namespace Indexes

def empty : Indexes := ⟨.empty, []⟩

def addDuplicate (env : Env) (index : Indexes) (o : Opening) : Indexes :=
  { index with duplicates :=
      (duplicateKey env o.opportunity.company o.opportunity.title, o.opportunity.id) ::
        index.duplicates }

def addCooldown (env : Env) (cooldownDays : Int) (index : Indexes) (o : Opening)
    (started : Option Time) (source : String) : Indexes :=
  { index with cooldown := index.cooldown.add env o.opportunity.company started cooldownDays source }

/-- What an attempt adds: a submitted one its cool-down from the submission, one that still
holds a slot from its reservation, either of them its duplicate key. -/
def addAttempt (env : Env) (cooldownDays : Int) (index : Indexes) (o : Opening) : Indexes :=
  match o.attempt with
  | none => index
  | some row =>
    let index :=
      if row.isSubmitted then addCooldown env cooldownDays index o row.appliedAt "submitted"
      else if row.holdsSlot then
        addCooldown env cooldownDays index o row.reservedAt "in_progress"
      else index
    if row.holdsSlot || row.isSubmitted then index.addDuplicate env o else index

/-- What a candidate row in an applied state adds when no attempt row exists. -/
def addCandidate (env : Env) (cooldownDays : Int) (index : Indexes) (o : Opening) : Indexes :=
  match o.candidate with
  | none => index
  | some co =>
    if co.state.applied ∧ o.attempt.isNone then
      (addCooldown env cooldownDays index o (some co.stateChangedAt) "state").addDuplicate env o
    else index

/-- `build_indexes` over the attempts and the candidate rows of the given openings. -/
def build (env : Env) (cooldownDays : Int) (attempts candidates : List Opening) : Indexes :=
  candidates.foldl (addCandidate env cooldownDays) (attempts.foldl (addAttempt env cooldownDays) empty)

def others (index : Indexes) (key : String) (id : OpportunityId) : List OpportunityId :=
  ((index.duplicates.filter fun d => d.1 = key).map Prod.snd).filter fun i => i ≠ id

section Cover
variable {env : Env} {cooldownDays : Int} {key : String} {t : Time}

theorem covers_addAttempt {index : Indexes} (covers : index.cooldown.Covers key t) (o : Opening) :
    (index.addAttempt env cooldownDays o).cooldown.Covers key t := by
  unfold addAttempt
  split
  · exact covers
  · simp only
    split <;> split <;> (try split) <;>
      first
      | exact covers
      | exact covers.add _ _ _ _

theorem covers_addCandidate {index : Indexes} (covers : index.cooldown.Covers key t) (o : Opening) :
    (index.addCandidate env cooldownDays o).cooldown.Covers key t := by
  unfold addCandidate
  split
  · exact covers
  · split
    · exact covers.add _ _ _ _
    · exact covers

theorem covers_foldl {add : Indexes → Opening → Indexes}
    (keeps : ∀ index o, index.cooldown.Covers key t → (add index o).cooldown.Covers key t)
    {index : Indexes} (covers : index.cooldown.Covers key t) (os : List Opening) :
    (os.foldl add index).cooldown.Covers key t := by
  induction os generalizing index with
  | nil => exact covers
  | cons o os ih => exact ih (keeps index o covers)

theorem covers_of_submitted {attempts : List Opening} (candidates : List Opening) {o : Opening}
    {row : Application} {started : Time} (member : o ∈ attempts) (attempt : o.attempt = some row)
    (submitted : row.isSubmitted = true) (applied : row.appliedAt = some started)
    (positive : 0 < cooldownDays) :
    (build env cooldownDays attempts candidates).cooldown.Covers
      (companyKey env o.opportunity.company) (started + days cooldownDays) := by
  refine covers_foldl (fun index o covers => covers_addCandidate covers o) ?_ candidates
  obtain ⟨before, after, rfl⟩ := List.append_of_mem member
  rw [List.foldl_append, List.foldl_cons]
  refine covers_foldl (fun index o covers => covers_addAttempt covers o) ?_ after
  simp only [addAttempt, attempt, submitted, applied, if_true, Bool.or_true]
  exact CooldownIndex.covers_add env _ _ _ positive _

end Cover

end Indexes

end RangeApply
