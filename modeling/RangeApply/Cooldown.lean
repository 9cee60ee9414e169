import RangeApply.Served
import RangeApply.Walk

/-! The company cool-down over whole runs: while an attempt of the company counts as submitted,
no other attempt at the company is admitted, and none passes a check, before the cool-down that
its submission started has ended. -/
namespace RangeApply

/-! ### What the indexes and a decision see -/

theorem decide_cooled {env : Env} {ctx : Context} {o : Opening} {co : CandidateOpportunity} {t : Time}
    (covers : ctx.index.cooldown.Covers (companyKey env o.opportunity.company) t)
    (early : ctx.now < t) : (decideOpening env ctx o co).admissible = false := by
  rw [Verdict.admissible, decide_eq_false_iff_not, decide_admitted]
  rintro ⟨-, -, -, -, -, free⟩
  have active := covers.active early
  unfold statefulVerdict at free
  dsimp only at free
  split at free
  · contradiction
  · split at free
    · contradiction
    · rename_i none
      exact active none

theorem check_cooled {env : Env} {x : CheckInputs} {o p : Opening} {row sent : Application}
    {started : Time} {ledger : CapLedger} {reserve executing : Bool} (member : p ∈ x.others)
    (attempt : p.attempt = some sent) (submitted : sent.isSubmitted = true)
    (applied : sent.appliedAt = some started) (positive : 0 < x.policy.cooldownDays)
    (company : companyKey env p.opportunity.company = companyKey env o.opportunity.company)
    (early : x.now < started + days x.policy.cooldownDays) :
    (check env x o row ledger reserve executing).report.ok = false := by
  rw [← Bool.not_eq_true]
  intro ok
  obtain ⟨-, clear, -⟩ := check_ok ok
  simp only [allFailures, openingFailures, List.append_eq_nil_iff] at clear
  have same : p ∈ sameCompany env x o := by
    simp [sameCompany, member, attempt, company]
  have history := clear.2.2
  unfold companyHistoryFailures at history
  dsimp only at history
  rw [if_neg (List.ne_nil_of_mem same)] at history
  simp only [List.append_eq_nil_iff] at history
  have covers : (Indexes.build env x.policy.cooldownDays (sameCompany env x o) []).cooldown.Covers
      (companyKey env p.opportunity.company) (started + days x.policy.cooldownDays) :=
    Indexes.covers_of_submitted [] same attempt submitted applied positive
  have active := (company ▸ covers).active early
  split at history
  · simp at history
  · rename_i none
    exact active none

/-! ### The admissions of a pass -/

def Pass.admits (env : Env) (window : Nat) (p : Pass) (i : OpportunityId) : Bool :=
  match p.db.openings.get i with
  | none => false
  | some o =>
    match o.candidate with
    | none => false
    | some co =>
      let v := decideOpening env p.context o co
      v.admissible && decide (p.admitted < window) && p.capHit.isNone &&
        decide ((RangeApply.admitCandidate env p.db v co ⟨o, p.db.ledger⟩).1 = .admitted)

def Pass.admissions (env : Env) (window : Nat) (p : Pass) : List OpportunityId → List OpportunityId
  | [] => []
  | i :: ids =>
    if p.admits env window i then i :: (p.consider env window i).admissions env window ids
    else (p.consider env window i).admissions env window ids

def DB.admissions (env : Env) (window : Nat) (db : DB) : List OpportunityId :=
  (db.openPass env).admissions env window db.ordered

section Passes
variable {env : Env} {window : Nat} {key : String} {t : Time}

theorem considered_posting {db : DB} {i : OpportunityId} {s s' : Slice}
    (here : Considered env db i s s') : s'.opening.opportunity = s.opening.opportunity := by
  rcases here.admission with ⟨code, v, rfl⟩ | ⟨co, v, -, -, admitted⟩
  · rfl
  · cases admitted <;> rfl

/-- A pass whose index covers the company admits none of its openings. -/
theorem Pass.admissions_cooled {p : Pass} (covers : p.index.cooldown.Covers key t)
    (early : p.db.now < t) (ids : List OpportunityId) {j : OpportunityId} {o : Opening}
    (found : p.db.openings.get j = some o) (admitted : j ∈ p.admissions env window ids) :
    companyKey env o.opportunity.company ≠ key := by
  induction ids generalizing p o with
  | nil => simp [admissions] at admitted
  | cons i ids ih =>
    have chain := consider_chain env window p i
    obtain ⟨o', found', posting⟩ := chain.opening (fun o' => o'.opportunity = o.opportunity)
      (fun db₁ o₁ s' _ same here => (considered_posting here).trans same) found rfl
    have rest (later : j ∈ (p.consider env window i).admissions env window ids) :
        companyKey env o.opportunity.company ≠ key :=
      posting ▸ ih ((consider_le p i).cooldown key t covers) (by rw [chain.settings.now]; exact early)
        found' later
    unfold admissions at admitted
    split at admitted
    · rename_i here
      rcases List.mem_cons.mp admitted with rfl | later
      · rintro rfl
        unfold admits at here
        rw [found] at here
        dsimp only at here
        split at here
        · contradiction
        · rename_i co candidate
          have refused : (decideOpening env p.context o co).admissible = false :=
            decide_cooled covers early
          rw [refused] at here
          contradiction
      · exact rest later
    · exact rest admitted

end Passes

/-! ### The submission is kept on the row -/

/-- The opening keeps its company and its candidate row, and the attempt its submission time,
unless it is submitted again. -/
structure Opening.Carries (now : Time) (o o' : Opening) : Prop where
  company : o'.opportunity.company = o.opportunity.company
  candidate : o.candidate.isSome = true → o'.candidate.isSome = true
  attempt : ∀ row, o.attempt = some row → ∃ row', o'.attempt = some row' ∧
    (row'.submittedAt = row.submittedAt ∨ row'.submittedAt = some now)

section Carries
variable {env : Env} {now : Time} {o o' o'' : Opening} {s s' : Slice} {worker : WorkerId}

theorem Opening.Carries.refl (now : Time) (o : Opening) : Carries now o o :=
  ⟨rfl, id, fun row found => ⟨row, found, .inl rfl⟩⟩

theorem Opening.Carries.trans (first : Carries now o o') (second : Carries now o' o'') :
    Carries now o o'' := by
  refine ⟨second.company.trans first.company, second.candidate ∘ first.candidate, ?_⟩
  intro row found
  obtain ⟨row', found', kept⟩ := first.attempt row found
  obtain ⟨row'', found'', kept'⟩ := second.attempt row' found'
  refine ⟨row'', found'', ?_⟩
  rcases kept' with same | again
  · exact kept.imp same.trans same.trans
  · exact .inr again

theorem Opening.Carries.row {row row' : Application} (attempt : o.attempt = some row)
    (attempt' : o'.attempt = some row') (company : o'.opportunity = o.opportunity)
    (candidate : o'.candidate.isSome = o.candidate.isSome)
    (kept : row'.submittedAt = row.submittedAt ∨ row'.submittedAt = some now) :
    Carries now o o' := by
  refine ⟨congrArg Opportunity.company company, fun some_ => candidate.trans some_, ?_⟩
  intro row₁ found
  cases Option.some.inj (attempt.symm.trans found)
  exact ⟨row', attempt', kept⟩

theorem Opening.Carries.items (company : o'.opportunity = o.opportunity)
    (candidate : o'.candidate.isSome = o.candidate.isSome) (attempt : o'.attempt = o.attempt) :
    Carries now o o' :=
  ⟨congrArg Opportunity.company company, fun some_ => candidate.trans some_,
    fun row found => ⟨row, attempt.trans found, .inl rfl⟩⟩

theorem launched_carries {x : StartReads} {before : Slice} {row ready : Application}
    {out : StartOutcome} (launched : Launched env x worker before s ready s' out)
    (first : before.opening.attempt = some row) (attempt : s.opening.attempt = some row)
    (opening : before.opening.opportunity = s.opening.opportunity ∧
      before.opening.candidate = s.opening.candidate)
    (entry : ready.submittedAt = row.submittedAt) : s.opening.Carries now s'.opening := by
  cases launched with
  | kept => exact .row attempt rfl rfl rfl (.inl entry)
  | raceLost =>
    exact .row attempt first opening.1 (congrArg Option.isSome opening.2) (.inl rfl)
  | returned _ _ rows _ _ slot =>
    exact .row attempt rows.attempt rows.posting.opportunity rows.posting.candidate
      (.inl (slot.submittedAt.trans entry))
  | parked _ _ rows _ _ slot =>
    exact .row attempt rows.attempt rows.posting.opportunity rows.posting.candidate
      (.inl (slot.submittedAt.trans entry))
  | @closed _ row₁ row' _ _ ledger reason _ _ rows _ slot released =>
    refine .row attempt rows.attempt rows.posting.opportunity rows.posting.candidate (.inl ?_)
    have ended : row' = (row₁.release x.check.now ledger .closed reason).2 :=
      congrArg Prod.snd released
    rw [ended, Application.release_submittedAt, slot.submittedAt, entry]
  | submits _ _ rows _ slot =>
    exact .row attempt rows.attempt rows.posting.opportunity rows.posting.candidate
      (.inl (slot.submittedAt.trans entry))

theorem reclaim_submittedAt (now : Time) (reason : String) (row : Application) :
    (row.reclaim now reason).submittedAt = row.submittedAt :=
  Application.forceTo_submittedAt

theorem startStep_carries {x : StartReads} {out : StartOutcome}
    (step : StartStep env x worker s s' out) : s.opening.Carries now s'.opening := by
  cases step with
  | missing => exact .items rfl rfl rfl
  | lostAfter row item' attempt => exact .row attempt rfl rfl rfl (.inl (by simp))
  | @entered row ready runs s' out attempt entry launched =>
    have kept : ready.submittedAt = row.submittedAt := by
      cases entry with
      | straight => rfl
      | abandoned => exact reclaim_submittedAt ..
      | lostBefore => exact reclaim_submittedAt ..
    have closed : s.opening.Carries now { s.opening with runs := runs } := .items rfl rfl rfl
    exact closed.trans (launched_carries launched attempt attempt ⟨rfl, rfl⟩ kept)

theorem gateStep_carries {g : GateReads} (step : GateStep env g s s') :
    s.opening.Carries now s'.opening := by
  cases step with
  | kept => exact .refl ..
  | checked attempt ok =>
    exact .row attempt rfl rfl rfl (.inl (gateCheck_move env g s _).slotOnly.submittedAt)

theorem reportStep_carries {result : ExecutionResult} {r : RunId} {row : Application}
    {item : QueueItem} {run : ExecutionRun} {w : Work}
    (step : ReportStep now worker result r s s' row item run w) :
    s.opening.Carries now s'.opening := by
  rw [step.stored]
  refine .row step.attempt rfl rfl step.reported.candidate ?_
  rw [step.reported.submittedAt]
  split
  · exact .inr rfl
  · exact .inl rfl

theorem recovered_carries {r : RunId} (recovered : Recovered now o r o') : o.Carries now o' := by
  cases recovered with
  | kept => exact .refl ..
  | orphaned => exact .items rfl rfl rfl
  | pressed attempt => exact .row attempt rfl rfl rfl (.inl (by simp))
  | unpressed attempt =>
    refine .row attempt rfl rfl rfl (.inl ?_)
    split
    · exact reclaim_submittedAt ..
    · rfl

theorem followPreparation_carries {db : DB} {row : Application} (attempt : o.attempt = some row) :
    o.Carries now (followPreparation db row o) := by
  obtain ⟨row', prepare, rows, moved⟩ := followPreparation_rows db attempt
  have kept : row'.submittedAt = row.submittedAt := by
    rcases moved with rfl | ⟨p, rfl⟩ | ⟨p, rfl⟩
    · rfl
    · unfold readyWith
      split
      · simp
      · rfl
    · simp
  rw [rows]
  exact .row attempt rfl rfl rfl (.inl kept)

theorem reconcile_carries (now : Time) (env : Env) (db : DB) (s : Slice) :
    s.opening.Carries now (reconcile env db s).opening := by
  have reconciled := reconcile_reconciled env db s
  generalize reconcile env db s = s' at reconciled ⊢
  cases reconciled with
  | kept => exact .refl ..
  | stopped row co stop attempt candidate =>
    exact .row attempt rfl rfl (by simp [stopAttempt, candidate]) (.inl (by simp))
  | followed row attempt => exact followPreparation_carries attempt

theorem considered_carries {db : DB} {i : OpportunityId} (here : Considered env db i s s') :
    s.opening.Carries now s'.opening := by
  rcases here.admission with ⟨code, v, rfl⟩ | ⟨co, v, candidate, -, admitted⟩
  · exact .items rfl Option.isSome_map rfl
  cases admitted with
  | conflict => exact .refl ..
  | refused => exact .items rfl rfl rfl
  | granted ledger row₁ row' item co' reserved readied =>
    obtain ⟨-, -, -, -, -, -, existing⟩ := Application.reserve_granted reserved
    refine ⟨rfl, fun _ => rfl, fun row attempt => ⟨row', rfl, .inl ?_⟩⟩
    have kept : row₁.submittedAt = row.submittedAt := by
      rcases existing with none | ⟨old, there, same⟩
      · simp [attempt] at none
      · rw [attempt] at there
        cases Option.some.inj there
        exact same
    rcases readied with rfl | ⟨p, rfl⟩
    · exact kept
    · simpa using kept

theorem verify_carries {v : VerificationResult} {r : RunId} (done : verify now v r o = .ok o') :
    o.Carries now o' := by
  obtain ⟨run, row, w, -, attempt, -, settled, rfl⟩ := verify_settled done
  exact .row attempt rfl rfl settled.candidate (settled.submittedAt.imp id And.right)

theorem confirm_carries {submitted : Bool} {reference note : Option String} {r : RunId}
    (done : confirm now submitted reference note r o = .ok o') : o.Carries now o' := by
  obtain ⟨run, row, -, attempt, verified⟩ := confirm_ok done
  refine .trans ?_ (verify_carries verified)
  split
  · unfold finishByHand
    dsimp only
    split
    · exact .items rfl rfl rfl
    · exact .row attempt rfl rfl Option.isSome_map (.inr rfl)
  · exact .refl ..

theorem onItem_carries (action : QueueAction) (lane : Option Lane) (f : QueueItem → QueueItem) :
    o.Carries now (o.onItem action lane f) := by
  unfold Opening.onItem
  cases action <;> exact .items rfl rfl rfl

theorem enqueueReady_carries (env : Env) : o.Carries now (enqueueReady env now o) := by
  unfold enqueueReady
  split
  · split <;> exact .items rfl rfl rfl
  · exact .refl ..

theorem op_carries {ident : ProcId → WorkerId} {phase : ProcId → Phase} {db : DB}
    {i : OpportunityId} {l : Label} (op : Op env ident phase db i s l s') :
    s.opening.Carries db.now s'.opening := by
  cases op with
  | world w =>
    refine ⟨rfl, fun some_ => ?_, fun row attempt => ⟨row, attempt, .inl rfl⟩⟩
    simp only [Opening.withWorld]
    cases w.candidate with
    | none => exact some_
    | some co => rfl
  | exhausted => exact onItem_carries ..
  | taken => exact onItem_carries ..
  | started p args item out submit done => exact startStep_carries (start_step done).2.2
  | startedFor worker args item out submit done => exact startStep_carries (start_step done).2.2
  | marked => exact .items rfl rfl rfl
  | gated => exact gateStep_carries (preSubmitGate_step ..)
  | gatedFor worker stale answer done =>
    rcases gate_ok done with ⟨-, step⟩ | ⟨run, -, -, rfl⟩
    · exact gateStep_carries step
    · exact (gateStep_carries (preSubmitGate_step env (db.gateReads i stale) s)).trans
        (.items rfl rfl rfl)
  | finished p r ending here done =>
    obtain ⟨row, item, run, w, step⟩ := finishRun_ok done
    exact reportStep_carries step
  | reported worker r v done =>
    obtain ⟨run, row, item, w, -, step⟩ := reportResult_ok done
    exact reportStep_carries step
  | recovered =>
    exact recoverOpening_keeps (fun o r o' kept recovered => kept.trans (recovered_carries recovered))
      (.refl ..)
  | prepareBegun => exact .items rfl rfl rfl
  | prepareEnded => exact .items rfl rfl rfl
  | reconciled => exact reconcile_carries db.now env db s
  | considered window here => exact considered_carries here
  | enqueued => exact enqueueReady_carries env
  | claimedFor => exact .items rfl rfl rfl
  | beaten worker done =>
    obtain ⟨old, item, -, -, rfl⟩ := heartbeat_ok done
    exact .items rfl rfl rfl
  | verified r v done => exact verify_carries done
  | confirmed r submitted reference note done => exact confirm_carries done
  | retried reason done =>
    obtain ⟨row, item, attempt, -, -, -, -, rfl⟩ := retry_ok done
    refine .row attempt rfl rfl rfl (.inl ?_)
    unfold Application.reopen
    dsimp only
    split <;> simp
  | cancelled actor reason done =>
    obtain ⟨row, submit, prepare, attempt, -, -, -, rfl⟩ := cancel_ok done
    refine .row attempt rfl rfl rfl (.inl ?_)
    exact Application.release_submittedAt ..

end Carries

/-! ### Runs -/

/-- An attempt at the company `key` that was submitted at `t` or later. -/
def Opening.SentSince (env : Env) (key : String) (t : Time) (o : Opening) : Prop :=
  companyKey env o.opportunity.company = key ∧ o.candidate.isSome = true ∧
    ∃ row at_, o.attempt = some row ∧ row.submittedAt = some at_ ∧ t ≤ at_

structure Sent (env : Env) (i : OpportunityId) (key : String) (t : Time) (db : DB) : Prop where
  past : t ≤ db.now
  opening : ∃ o, db.openings.get i = some o ∧ o.SentSince env key t

/-- A REJECTED attempt that reconciliation sends back to its package. -/
def Opening.reprepares (o : Opening) : Bool :=
  (o.attempt.any fun row => decide (row.status = .rejected) && row.holdsSlot) &&
    o.prepare.any fun item => decide (item.state = .blocked) || decide (item.state = .needsReview)

/-- The attempt counts as submitted, and a scheduler run leaves it so. -/
def DB.countsSubmitted (env : Env) (db : DB) (i : OpportunityId) (l : Label) : Bool :=
  match db.openings.get i with
  | none => false
  | some o => o.attempt.any Application.isSubmitted &&
      (!l.scheduling || (!releases env db o && !o.reprepares))

/-- No other attempt at the company passes a check, and none is admitted by the step. -/
structure CoolsDown (env : Env) (i : OpportunityId) (key : String) (db : DB) (l : Label) : Prop where
  check : ∀ j o row ledger stale reserve executing, j ≠ i → db.openings.get j = some o →
    companyKey env o.opportunity.company = key →
    (RangeApply.check env (db.checkInputs j stale) o row ledger reserve executing).report.ok = false
  schedule : ∀ window, l = .schedule window → ∀ j ∈ db.admissions env window, ∀ o,
    db.openings.get j = some o → companyKey env o.opportunity.company ≠ key

section Run
variable {env : Env} {ident : ProcId → WorkerId} {i : OpportunityId} {key : String} {t : Time}
  {db : DB}

theorem DB.arrive_now (db : DB) (l : Label) : db.now ≤ (db.arrive l).now := by
  cases l with
  | tick elapsed => exact Int.le_add_of_nonneg_right (Int.natCast_nonneg elapsed)
  | _ => exact Int.le_refl _

theorem Opening.Carries.sent {o o' : Opening} {now : Time} (carries : o.Carries now o')
    (past : t ≤ now) (here : o.SentSince env key t) : o'.SentSince env key t := by
  obtain ⟨company, candidate, row, at_, attempt, submittedAt, le⟩ := here
  obtain ⟨row', attempt', kept⟩ := carries.attempt row attempt
  refine ⟨by rw [carries.company, company], carries.candidate candidate, row', ?_⟩
  rcases kept with same | again
  · exact ⟨at_, attempt', same.trans submittedAt, le⟩
  · exact ⟨now, attempt', again, past⟩

/-- A submission stays on its row, whatever happens to the attempt. -/
theorem step_sent (s : Sys) (l : Label) (sent : Sent env i key t s.db) :
    Sent env i key t (s.step env ident l).db := by
  obtain ⟨past, o, found, since⟩ := sent
  have ops := Sys.step_ops env ident s l
  have arrived : t ≤ (s.db.arrive l).now := Int.le_trans past (DB.arrive_now s.db l)
  exact ⟨by rw [ops.settings.now]; exact arrived, ops.opening (Opening.SentSince env key t)
    (fun db₁ o s' same here op => (op_carries op).sent (by rw [same.now]; exact arrived) here)
    (arrive_get l found) since⟩

theorem reconcile_submitted {s : Slice} {row : Application} (attempt : s.opening.attempt = some row)
    (submitted : row.isSubmitted = true) (kept : releases env db s.opening = false)
    (stays : s.opening.reprepares = false) :
    (reconcile env db s).opening.attempt = some row := by
  have reconciled := reconcile_reconciled env db s
  generalize reconcile env db s = s' at reconciled ⊢
  cases reconciled with
  | kept => exact attempt
  | stopped row₁ co stop attempt₁ candidate holds found =>
    simp [releases, attempt₁, candidate, holds, found] at kept
  | followed row₁ attempt₁ free unsent holds =>
    cases Option.some.inj (attempt.symm.trans attempt₁)
    have rejected : row.status = .rejected := by
      simpa [Application.isSubmitted, unsent] using submitted
    have idle : ∀ item, s.opening.prepare = some item →
        ¬ (item.state = .blocked ∨ item.state = .needsReview) := by
      intro item prepare
      simpa [Opening.reprepares, attempt, rejected, holds, prepare] using stays
    have same (p : Preparation) : readyWith db.now p row = row := by
      simp [readyWith, rejected]
    unfold followPreparation
    dsimp only
    split
    · exact attempt
    rename_i item prepare
    split
    · split
      · simp only [same]
      · rw [if_neg (idle item prepare)]
        exact attempt
    · rw [if_neg fun both => idle item prepare (.inl both.1), if_neg (idle item prepare)]
      exact attempt

theorem indexes_cover {o : Opening} {row : Application} {at_ : Time} (found : db.openings.get i = some o)
    (candidate : o.candidate.isSome = true) (attempt : o.attempt = some row)
    (submitted : row.isSubmitted = true) (submittedAt : row.submittedAt = some at_)
    (positive : 0 < db.policy.cooldownDays) :
    (db.indexes env).cooldown.Covers (companyKey env o.opportunity.company)
      (at_ + days db.policy.cooldownDays) := by
  have member : o ∈ db.candidates.map Prod.snd := by
    refine List.mem_map.mpr ⟨(i, o), List.mem_filter.mpr ⟨Table.get_eq_some.mp found, ?_⟩, rfl⟩
    exact candidate
  exact Indexes.covers_of_submitted _ member attempt submitted
    (by simp [Application.appliedAt, submittedAt]) positive

theorem openPass_cover {o : Opening} {row : Application} {at_ : Time}
    (found : db.openings.get i = some o) (candidate : o.candidate.isSome = true)
    (attempt : o.attempt = some row) (submitted : row.isSubmitted = true)
    (submittedAt : row.submittedAt = some at_) (positive : 0 < db.policy.cooldownDays)
    (kept : releases env db o = false) (stays : o.reprepares = false) :
    (db.openPass env).index.cooldown.Covers (companyKey env o.opportunity.company)
      (at_ + days db.policy.cooldownDays) := by
  have carries : o.Carries db.now (reconcile env db ⟨o, db.ledger⟩).opening :=
    reconcile_carries db.now env db ⟨o, db.ledger⟩
  have left : (reconcile env db ⟨o, db.ledger⟩).opening.attempt = some row :=
    reconcile_submitted attempt submitted kept stays
  have policy : (reconcileAll env db).policy = db.policy := (reconcileAll_chain env db).settings.policy
  unfold DB.openPass
  dsimp only
  split
  · rw [← carries.company, ← policy]
    exact indexes_cover (reconcileAll_get found) (carries.candidate candidate) left submitted
      submittedAt (by rw [policy]; exact positive)
  · exact indexes_cover found candidate attempt submitted submittedAt positive

theorem cools_down {l : Label} (sent : Sent env i key t db) (counts : db.countsSubmitted env i l = true)
    (positive : 0 < db.policy.cooldownDays) (early : db.now < t + days db.policy.cooldownDays) :
    CoolsDown env i key db l := by
  obtain ⟨-, o, found, company, candidate, row, at_, attempt, submittedAt, le⟩ := sent
  simp only [DB.countsSubmitted, found, attempt, Option.any_some, Bool.and_eq_true] at counts
  obtain ⟨submitted, scheduled⟩ := counts
  have within : db.now < at_ + days db.policy.cooldownDays :=
    Int.lt_of_lt_of_le early (Int.add_le_add_right le _)
  constructor
  · intro j o' row' ledger stale reserve executing other found' sameCompany
    refine check_cooled ?_ attempt submitted (by simp [Application.appliedAt, submittedAt]) positive
      (company.trans sameCompany.symm) within
    exact List.mem_map.mpr ⟨(i, o), List.mem_filter.mpr
      ⟨Table.get_eq_some.mp found, by simp [Ne.symm other]⟩, rfl⟩
  · rintro window rfl j admitted o' found'
    simp only [Label.scheduling, Bool.not_true, Bool.false_or, Bool.and_eq_true,
      Bool.not_eq_true'] at scheduled
    have covers := openPass_cover found candidate attempt submitted submittedAt positive
      scheduled.1 scheduled.2
    have posting := (reconcile_carries db.now env db ⟨o', db.ledger⟩).company
    have instant : (db.openPass env).db.now = db.now := (reconcileAll_chain env db).settings.now
    rw [← posting]
    exact Pass.admissions_cooled (company ▸ covers) (by rw [instant]; exact within) db.ordered
      (reconcileAll_get found') admitted

open Trace in
/-- Along every run of the system that keeps a positive cool-down of `d` days, and in which the
submitted attempt counts as submitted before each step and is not released or sent back by a
scheduler run: before `d` days have passed since its submission no other attempt at the company
passes a check, and none is admitted. -/
theorem cooldown_kept {d : Int} (positive : 0 < d) (s : Sys) (sent : Sent env i key t s.db)
    (ls : List Label)
    (guarded : Guarded (Sys.step env ident) (fun s l => s.db.policy.cooldownDays = d ∧
      s.db.countsSubmitted env i l = true) s ls) :
    Guarded (Sys.step env ident) (fun s l => s.db.now < t + days d → CoolsDown env i key s.db l)
      s ls := by
  refine guarded_of_invariant (fun s => Sent env i key t s.db)
    (fun s l sent _ => step_sent s l sent) (fun s l sent ok early => ?_) sent guarded
  exact cools_down sent ok.2 (by rw [ok.1]; exact positive) (by rw [ok.1]; exact early)

end Run

/-! ### A posting that closes -/

def Sys.applied : Sys :=
  Trace.run (Sys.step .utc toString) (.initial .initial 0)
    (Label.prepares 1 "Acme" "Engineer" ++ Label.passes 1 ++ [.finish 0 .sent])

def Label.discoversDesigner : Label :=
  .discover 2 "Acme" "Designer" { World.strong [] with candidate := some (.strong .eligible) }

theorem applied_sent : Sent .utc 1 "acme" 0 Sys.applied.db := by
  have row : (Sys.applied.db.openings.get 1).any (fun o =>
      decide (companyKey .utc o.opportunity.company = "acme") && o.candidate.isSome &&
        o.attempt.any fun row => decide (row.submittedAt = some 0)) = true := by decide +kernel
  obtain ⟨o, found, here⟩ := (Option.any_eq_true _ _).mp row
  simp only [Bool.and_eq_true, decide_eq_true_eq] at here
  obtain ⟨row, attempt, submittedAt⟩ := (Option.any_eq_true _ _).mp here.2
  exact ⟨by decide +kernel, o, found, here.1.1, here.1.2, row, 0, attempt,
    of_decide_eq_true submittedAt, Int.le_refl 0⟩

open Trace in
/-- While the posting stays open, the designer's posting waits for the cool-down. -/
theorem second_posting_waits :
    Guarded (Sys.step .utc toString) (fun s l => s.db.now < 0 + days 90 →
      CoolsDown .utc 1 "acme" s.db l) Sys.applied [.discoversDesigner, .schedule 10] :=
  cooldown_kept (by decide) Sys.applied applied_sent _ (by decide +kernel)

open Trace in
/-- The posting closes, the attempt is released with it, and the next run of the scheduler admits
the designer's posting on the day of the submission. -/
theorem closed_posting_ends_cooldown :
    ¬ ∀ ls, Guarded (Sys.step .utc toString) (fun s _ => s.db.policy.cooldownDays = 90) Sys.applied ls →
      Guarded (Sys.step .utc toString) (fun s l => s.db.now < 0 + days 90 →
        CoolsDown .utc 1 "acme" s.db l) Sys.applied ls := by
  intro all
  have cooled := all ([.world 1 .closed, .schedule 10, .discoversDesigner] ++ [.schedule 10])
    (by decide +kernel)
  have last := (guarded_append.mp cooled).2.1 (by decide +kernel)
  have found : ((run (Sys.step .utc toString) Sys.applied
      [.world 1 .closed, .schedule 10, .discoversDesigner]).db.openings.get 2).any (fun o =>
        decide (companyKey .utc o.opportunity.company = "acme")) = true := by decide +kernel
  obtain ⟨o, there, company⟩ := (Option.any_eq_true _ _).mp found
  exact last.schedule 10 rfl 2 (by decide +kernel) o there (of_decide_eq_true company)

end RangeApply
