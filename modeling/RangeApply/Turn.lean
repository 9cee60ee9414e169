import RangeApply.Walk

/-! The turn of a candidate in a scheduling pass: what reconciliation has left of its rows, how an
admission is answered, and the code that stays on the row. -/
namespace RangeApply

/-! ### What a verdict can say -/

section Codes
variable {env : Env} {ctx : Context} {o : Opening} {co : CandidateOpportunity}

/-- What a verdict says when the caps are not paused. -/
def verdictCodes : List AdmissionReason :=
  [.admitted, .userBlocked, .opportunityClosed, .duplicateApplication, .cooldownActive] ++
    (heldCodes ++ gateCodes)

theorem statefulVerdict_codes {v : Verdict} (settled : statefulVerdict env ctx o = some v) :
    v.code = .duplicateApplication ∨ v.code = .cooldownActive ∨
      (ctx.policy.dailyCap ≤ 0 ∧ v.code = .dailyCapReached) ∨
      (ctx.policy.weeklyCap ≤ 0 ∧ v.code = .weeklyCapReached) := by
  unfold statefulVerdict at settled
  dsimp only at settled
  split at settled
  · cases settled
    exact .inl rfl
  split at settled
  · cases settled
    exact .inr (.inl rfl)
  split at settled
  · rename_i paused
    cases settled
    exact .inr (.inr (.inl ⟨paused, rfl⟩))
  split at settled
  · rename_i paused
    cases settled
    exact .inr (.inr (.inr ⟨paused, rfl⟩))
  · cases settled

theorem decide_codes : (decideOpening env ctx o co).code ∈ verdictCodes ∨
    (ctx.policy.dailyCap ≤ 0 ∧ (decideOpening env ctx o co).code = .dailyCapReached) ∨
    (ctx.policy.weeklyCap ≤ 0 ∧ (decideOpening env ctx o co).code = .weeklyCapReached) := by
  have held : ∀ c ∈ heldCodes, c ∈ verdictCodes := by decide
  have gate : ∀ c ∈ gateCodes, c ∈ verdictCodes := by decide
  unfold decideOpening
  split
  · exact .inl (List.mem_append_left _ (by simp [Verdict.refuse]))
  split
  · exact .inl (List.mem_append_left _ (by simp [Verdict.refuse]))
  split
  · rename_i v earlier
    exact .inl (held _ (earlierVerdict_code earlier))
  dsimp only
  split
  · rename_i refused
    exact .inl (gate _ (code_of_refused env ctx.policy _ refused))
  split
  · rename_i v prepared
    exact .inl (held _ (preparationVerdict_code prepared))
  split
  · rename_i v settled
    rcases statefulVerdict_codes settled with code | code | paused | paused
    · exact .inl (List.mem_append_left _ (by simp [code]))
    · exact .inl (List.mem_append_left _ (by simp [code]))
    · exact .inr (.inl paused)
    · exact .inr (.inr paused)
  · exact .inl (List.mem_append_left _ (by simp))

/-- With caps that are not paused no verdict is about the window or a cap. -/
theorem decide_code (daily : 0 < ctx.policy.dailyCap) (weekly : 0 < ctx.policy.weeklyCap) :
    (decideOpening env ctx o co).code ∈ verdictCodes := by
  rcases @decide_codes env ctx o co with listed | ⟨paused, -⟩ | ⟨paused, -⟩
  · exact listed
  · exact absurd daily (Int.not_lt.mpr paused)
  · exact absurd weekly (Int.not_lt.mpr paused)

/-- The window is the run's business and no decision's. -/
theorem decide_undeferred : (decideOpening env ctx o co).code ≠ .windowDeferred := by
  intro deferred
  have codes := @decide_codes env ctx o co
  rw [deferred] at codes
  rcases codes with listed | ⟨-, same⟩ | ⟨-, same⟩
  · exact absurd listed (by decide)
  · cases same
  · cases same

theorem caps_of_admitted (admitted : (decideOpening env ctx o co).code = .admitted) :
    0 < ctx.policy.dailyCap ∧ 0 < ctx.policy.weeklyCap := by
  have stateful := (decide_admitted.mp admitted).2.2.2.2.2
  exact (statefulVerdict_none.mp stateful).2.2

/-- Under other indexes a candidate that is admitted can only be a duplicate or in cool-down. -/
theorem decide_reindexed {policy : ApplicationPolicy} {now : Time} {a b : Indexes}
    (admitted : (decideOpening env ⟨policy, now, a⟩ o co).code = .admitted) :
    (decideOpening env ⟨policy, now, b⟩ o co).code ∈
      [AdmissionReason.admitted, .duplicateApplication, .cooldownActive] := by
  obtain ⟨unskipped, unclosed, earlier, gates, prepared, stateful⟩ := decide_admitted.mp admitted
  obtain ⟨-, -, daily, weekly⟩ := statefulVerdict_none.mp stateful
  have earlier' : earlierVerdict ⟨policy, now, b⟩ o co = none := earlier
  have gates' : ¬ (evaluateAdmission env policy (candidacy o co)).admitted = false := by
    rw [gates]
    decide
  unfold decideOpening
  rw [if_neg unskipped, if_neg unclosed, earlier']
  dsimp only
  rw [if_neg gates', prepared]
  dsimp only
  split
  · rename_i v settled
    rcases statefulVerdict_codes settled with code | code | ⟨paused, -⟩ | ⟨paused, -⟩
    · simp [code]
    · simp [code]
    · exact absurd daily (Int.not_lt.mpr paused)
    · exact absurd weekly (Int.not_lt.mpr paused)
  · simp

end Codes

/-! ### After reconciliation -/

/-- Another application row has the job id of an opening that has no row to go on with. -/
def Opening.conflicts (o : Opening) : Bool := o.attempt.isNone && o.legacy.isNone && o.jobTaken

section Reconciled
variable {env : Env} {db : DB} {i : OpportunityId} {o : Opening}

/-- What reconciliation leaves of an opening. -/
structure Preserved (o o' : Opening) : Prop where
  opportunity : o'.opportunity = o.opportunity
  candidate : o'.candidate.isSome = o.candidate.isSome
  conflicts : o'.conflicts = o.conflicts
  idle : o.attempt = none → o' = o
  action : (∀ item, o.prepare = some item → item.action = .prepare) →
    ∀ item, o'.prepare = some item → item.action = .prepare

theorem Preserved.refl (o : Opening) : Preserved o o :=
  ⟨rfl, rfl, rfl, fun _ => rfl, fun kind => kind⟩

theorem stopAttempt_action (row : Application) (co : CandidateOpportunity)
    (stop : String × ApplicationStatus) (s : Slice) {item : QueueItem}
    (prepare : (stopAttempt db row co stop s).opening.prepare = some item) :
    ∃ old, s.opening.prepare = some old ∧ item.action = old.action := by
  obtain ⟨old, stored, ended⟩ := Option.map_eq_some_iff.mp prepare
  refine ⟨old, stored, ?_⟩
  subst ended
  split
  · split
    · rename_i done
      rw [(QueueItem.cancel_ok done).2]
    · rfl
  · rfl

theorem followPreparation_action (row : Application) {item : QueueItem}
    (prepare : (followPreparation db row o).prepare = some item) :
    ∃ old, o.prepare = some old ∧ item.action = old.action := by
  unfold followPreparation at prepare
  dsimp only at prepare
  split at prepare
  · exact ⟨item, prepare, rfl⟩
  rename_i old stored
  refine ⟨old, stored, ?_⟩
  split at prepare
  · split at prepare
    · cases stored.symm.trans prepare
      rfl
    · split at prepare
      · cases Option.some.inj prepare
        split
        · rename_i done
          rw [(QueueItem.resolve_ok done).2.2]
        · rfl
      · cases stored.symm.trans prepare
        rfl
  · split at prepare
    · cases Option.some.inj prepare
      split
      · rename_i done
        rw [(QueueItem.requeue_ok done).2.2.2]
      · rfl
    · split at prepare <;> cases stored.symm.trans prepare <;> rfl

theorem reconcile_preserved (env : Env) (db : DB) (s : Slice) :
    Preserved s.opening (reconcile env db s).opening := by
  have reconciled := reconcile_reconciled env db s
  generalize reconcile env db s = s' at reconciled ⊢
  cases reconciled with
  | kept => exact .refl _
  | stopped row co stop attempt candidate =>
    constructor
    · rfl
    · rw [candidate]
      rfl
    · simp [Opening.conflicts, stopAttempt, attempt]
    · intro none
      rw [attempt] at none
      cases none
    · intro kind item prepare
      obtain ⟨old, stored, same⟩ := stopAttempt_action row co stop s prepare
      exact same.trans (kind old stored)
  | followed row attempt =>
    obtain ⟨row', prepare, rows, -⟩ := followPreparation_rows db attempt
    constructor
    · rw [rows]
    · rw [rows]
    · simp [rows, Opening.conflicts, attempt]
    · intro none
      rw [attempt] at none
      cases none
    · intro kind item prepare
      obtain ⟨old, stored, same⟩ := followPreparation_action row prepare
      exact same.trans (kind old stored)

end Reconciled

/-! ### One admission -/

/-- The cap that is full when so much of the current day and week is used. -/
def capFull (policy : ApplicationPolicy) (used : PeriodKind → Int) : Option AdmissionReason :=
  if policy.dailyCap ≤ used .day then some .dailyCapReached
  else if policy.weeklyCap ≤ used .week then some .weeklyCapReached
  else none

theorem reserve_capFull {policy : ApplicationPolicy} (daily : 0 < policy.dailyCap)
    (weekly : 0 < policy.weeklyCap) (ledger : CapLedger) (keys : PeriodKeys) :
    (ledger.reserve keys policy.dailyCap policy.weeklyCap).2 =
      capFull policy fun kind => ledger.balance kind (keys.key kind) := by
  have answer := CapLedger.reserve_answer ledger keys policy.dailyCap policy.weeklyCap
  rw [if_neg (Int.not_le.mpr daily), if_neg (Int.not_le.mpr weekly)] at answer
  exact answer

section Tried
variable {env : Env} {db : DB} {v : Verdict} {co : CandidateOpportunity} {o : Opening}
  {ledger : CapLedger}

/-- How an admission is answered: by the cap that is full, by the other row that has the job id,
or by a slot of both periods. -/
inductive Tried (env : Env) (db : DB) (o : Opening) (ledger : CapLedger) :
    AdmissionReason × Slice → Prop
  | full (cap : AdmissionReason) (ledger' : CapLedger)
      (is : capFull db.policy (fun kind => ledger.balance kind ((db.keys env).key kind)) = some cap)
      (same : ∀ kind key, ledger'.balance kind key = ledger.balance kind key) :
      Tried env db o ledger (cap, ⟨o, ledger'⟩)
  | conflict
      (room : capFull db.policy (fun kind => ledger.balance kind ((db.keys env).key kind)) = none)
      (taken : o.conflicts = true) : Tried env db o ledger (.alreadyInProgress, ⟨o, ledger⟩)
  | granted (o' : Opening) (ledger' : CapLedger)
      (room : capFull db.policy (fun kind => ledger.balance kind ((db.keys env).key kind)) = none)
      (free : o.conflicts = false) (candidate : o'.candidate.isSome = true)
      (opportunity : o'.opportunity = o.opportunity)
      (reserved : o'.attempt.bind Application.reservedAt = some db.now)
      (slots : ∀ kind, ledger'.balance kind ((db.keys env).key kind) =
        ledger.balance kind ((db.keys env).key kind) + 1) :
      Tried env db o ledger (.admitted, ⟨o', ledger'⟩)

theorem admittedItem_done (now : Time) (v : Verdict) (co : CandidateOpportunity) (row : Application)
    (kind : ∀ item, o.prepare = some item → item.action = .prepare) :
    ∃ row' item, admittedItem now v co row o = .ok (row', item) := by
  unfold admittedItem
  split
  · exact ⟨_, _, rfl⟩
  rename_i item prepare
  split
  · rename_i succeeded
    split
    · exact ⟨_, _, rfl⟩
    · have requeued : ∃ item', item.requeue now true = .ok item' := by
        simp [QueueItem.requeue, succeeded, kind item prepare, QueueState.held]
      obtain ⟨item', done⟩ := requeued
      rw [done]
      exact ⟨_, _, rfl⟩
  · exact ⟨_, _, rfl⟩

theorem reserve_done (o : Opening) {policy : ApplicationPolicy} {keys : PeriodKeys} (now : Time)
    {ledger' : CapLedger} (lane : Option Lane) (level : Option TailoringLevel)
    (reserved : ledger.reserve keys policy.dailyCap policy.weeklyCap = (ledger', none)) :
    (o.conflicts = true ∧ ∃ error, Application.reserve now ledger keys policy.dailyCap policy.weeklyCap
        lane level (o.attempt <|> o.legacy) o.jobTaken = .error error) ∨
      (o.conflicts = false ∧ ∃ row, row.reservedAt = some now ∧
        Application.reserve now ledger keys policy.dailyCap policy.weeklyCap lane level
          (o.attempt <|> o.legacy) o.jobTaken = .ok (ledger', .ok row)) := by
  unfold Application.reserve Opening.conflicts
  rw [reserved]
  dsimp only
  cases attempt : o.attempt with
  | some row => exact .inr ⟨by simp, _, rfl, rfl⟩
  | none =>
    cases legacy : o.legacy with
    | some row => exact .inr ⟨by simp, _, rfl, rfl⟩
    | none =>
      cases taken : o.jobTaken with
      | true => exact .inl ⟨by simp, _, rfl⟩
      | false => exact .inr ⟨by simp, _, rfl, rfl⟩

theorem admit_tried (daily : 0 < db.policy.dailyCap) (weekly : 0 < db.policy.weeklyCap)
    (kind : ∀ item, o.prepare = some item → item.action = .prepare) :
    Tried env db o ledger (admitCandidate env db v co ⟨o, ledger⟩) := by
  have answer := reserve_capFull daily weekly ledger (db.keys env)
  unfold admitCandidate
  cases reserved : ledger.reserve (db.keys env) db.policy.dailyCap db.policy.weeklyCap with
  | mk ledger' refusal =>
    rw [reserved] at answer
    cases refusal with
    | some cap =>
      simp only [Application.reserve, reserved]
      exact .full cap ledger' answer.symm (CapLedger.reserve_refused reserved).2
    | none =>
      rcases reserve_done o db.now v.lane v.level reserved with
        ⟨taken, error, done⟩ | ⟨free, row, reservedAt, done⟩
      · simp only [done]
        exact .conflict answer.symm taken
      · obtain ⟨row', item, prepared⟩ := admittedItem_done db.now v co row kind
        simp only [done, prepared]
        refine .granted _ ledger' answer.symm free rfl rfl ?_ fun kind => ?_
        · have kept : row'.reservedAt = row.reservedAt := by
            rcases admittedItem_ok prepared with rfl | ⟨p, rfl⟩
            · rfl
            · exact Application.markReady_sameSlot.reservedAt
          rw [← reservedAt]
          exact kept
        · rw [(CapLedger.reserve_granted reserved).2.2]
          cases kind <;> simp [CapLedger.slots, PeriodKeys.key]

end Tried

/-! ### One candidate of the run -/

namespace Pass
variable {env : Env} {window : Nat} {p : Pass} {i : OpportunityId} {o : Opening}
  {co : CandidateOpportunity}

/-- The code a pass gives a candidate. -/
def answer (env : Env) (window : Nat) (p : Pass) (o : Opening) (co : CandidateOpportunity) :
    AdmissionReason :=
  let v := decideOpening env p.context o co
  if v.admissible = false then v.code
  else if window ≤ p.admitted then .windowDeferred
  else match p.capHit with
    | some code => code
    | none => (admitCandidate env p.db v co ⟨o, p.db.ledger⟩).1

theorem stamp_code (now : Time) (code : AdmissionReason) (v : Verdict) (policyVersion : Nat)
    (co : CandidateOpportunity) : (co.stamp now code v policyVersion).schedulerCode = some code := by
  have kept : ∀ (co' : CandidateOpportunity) (P : Prop) [Decidable P],
      co'.schedulerCode = some code → (if P then co'.recordAdmission false v policyVersion
        else co').schedulerCode = some code := by
    intro co' P _ written
    split
    · exact written
    · exact written
  unfold CandidateOpportunity.stamp
  apply kept
  generalize clip 256 (if code = v.code then v.reason else code.value) = reason
  split
  · rfl
  · rename_i same
    simp only [ne_eq, not_or, not_not] at same
    exact same.1

theorem stamp_stored (p : Pass) (code : AdmissionReason) (v : Verdict)
    (found : p.db.openings.get i = some o) (candidate : o.candidate.isSome = true) :
    ((p.stamp i code v).db.openings.get i).bind
      (fun o => o.candidate.bind CandidateOpportunity.schedulerCode) = some code := by
  obtain ⟨co, there⟩ := Option.isSome_iff_exists.mp candidate
  simp only [stamp, DB.update, found, DB.get_put_self _ found, Option.bind_some, there,
    Option.map_some, stamp_code]

theorem consider_stored (found : p.db.openings.get i = some o) (candidate : o.candidate = some co)
    (kind : ∀ item, o.prepare = some item → item.action = .prepare) :
    ((p.consider env window i).db.openings.get i).bind
      (fun o => o.candidate.bind CandidateOpportunity.schedulerCode) =
        some (p.answer env window o co) := by
  have known : o.candidate.isSome = true := by rw [candidate]; rfl
  unfold consider answer
  simp only [found, candidate]
  split
  · exact stamp_stored p _ _ found known
  split
  · exact stamp_stored p _ _ found known
  rename_i admissible _
  cases p.capHit with
  | some code => exact stamp_stored p _ _ found known
  | none =>
    have admitted : (decideOpening env p.context o co).code = .admitted := by
      simpa [Verdict.admissible] using admissible
    obtain ⟨daily, weekly⟩ := caps_of_admitted admitted
    have tried : Tried env p.db o p.db.ledger
        (admitCandidate env p.db (decideOpening env p.context o co) co ⟨o, p.db.ledger⟩) :=
      admit_tried daily weekly kind
    generalize admitCandidate env p.db (decideOpening env p.context o co) co ⟨o, p.db.ledger⟩ =
      outcome at tried ⊢
    have stored : (p.settleAdmission env i outcome).db.openings.get i = some outcome.2.opening := by
      rw [settleAdmission_db]
      simp only [DB.update, found]
      exact DB.get_put_self _ found
    apply stamp_stored _ _ _ stored
    cases tried with
    | full => exact known
    | conflict => exact known
    | granted _ _ _ _ here => exact here

end Pass

end RangeApply
