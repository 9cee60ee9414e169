import RangeApply.Served
import RangeApply.Walk

/-! The submission mutex: an attempt that waits for its execution carries no submission key, as
long as no scheduler run admits an attempt whose key was left on it. -/
namespace RangeApply

/-! ### The attempt -/

def ApplicationStatus.unexecuted : ApplicationStatus → Bool
  | .qualified | .preparing | .ready => true
  | _ => false

def ApplicationStatus.seated (status : ApplicationStatus) : Bool :=
  status.unexecuted || status.inSubmittedStatuses || decide (status = .blocked) ||
    decide (status = .needsUserInput) || decide (status = .needsReview)

/-- The mutex is free before an execution; an attempt that ended holds no slot. -/
structure Application.Mutex (row : Application) : Prop where
  free : row.status.unexecuted = true → row.submissionKey = none
  seated : row.holdsSlot = true → row.status.seated = true

namespace Application.Mutex
variable {row row' : Application}

theorem executed (elsewhere : row.status.unexecuted = false) (seated : row.status.seated = true) :
    row.Mutex where
  free := fun open_ => by rw [elsewhere] at open_; contradiction
  seated := fun _ => seated

theorem cleared (free : row.submissionKey = none) (seated : row.status.seated = true) : row.Mutex :=
  ⟨fun _ => free, fun _ => seated⟩

theorem ended (elsewhere : row.status.unexecuted = false) (released : row.holdsSlot = false) :
    row.Mutex where
  free := fun open_ => by rw [elsewhere] at open_; contradiction
  seated := fun held => by rw [released] at held; contradiction

theorem same (mutex : row.Mutex) (status : row'.status = row.status)
    (key : row'.submissionKey = row.submissionKey)
    (seated : row'.holdsSlot = true → row'.status.seated = true) :
    row'.Mutex where
  free := fun open_ => key.trans (mutex.free (status ▸ open_))
  seated := seated

theorem of_ready (mutex : row.Mutex) (ready : row.status = .ready) : row.submissionKey = none :=
  mutex.free (by rw [ready]; rfl)

end Application.Mutex

def Opening.Mutex (o : Opening) : Prop := ∀ row, o.attempt = some row → row.Mutex

theorem Opening.Mutex.row {o : Opening} {row : Application} (attempt : o.attempt = some row)
    (mutex : row.Mutex) : o.Mutex := by
  intro row' attempt'
  cases Option.some.inj (attempt.symm.trans attempt')
  exact mutex

theorem Opening.Mutex.kept {o o' : Opening} (mutex : o.Mutex) (attempt : o'.attempt = o.attempt) :
    o'.Mutex :=
  fun row here => mutex row (attempt ▸ here)

/-! ### The operations -/

section Operations
variable {env : Env} {now : Time} {worker : WorkerId} {s s' : Slice} {o o' : Opening}
  {row : Application}

theorem reclaim_mutex (now : Time) (reason : String) (row : Application) :
    (row.reclaim now reason).Mutex := by
  apply Application.Mutex.cleared
  · exact Application.forceTo_submissionKey
  · rw [Application.reclaim, Application.forceTo_status]
    rfl

theorem release_mutex (now : Time) (ledger : CapLedger) (row : Application)
    {status : ApplicationStatus} (reason : String) (elsewhere : status.unexecuted = false) :
    (row.release now ledger status reason).2.Mutex := by
  obtain ⟨ended, released⟩ := Application.release_spec now row ledger status reason
  exact .ended (by rw [ended]; exact elsewhere) released

theorem startStep_mutex {x : StartReads} {out : StartOutcome} (step : StartStep env x worker s s' out)
    (mutex : s.opening.Mutex) : s'.opening.Mutex := by
  cases step with
  | missing => exact mutex.kept rfl
  | lostAfter => exact .row rfl (.executed (by simp [ApplicationStatus.unexecuted]) (by simp; rfl))
  | @entered row ready runs _ _ attempt entry launched =>
    have begun : ready.Mutex := by
      cases entry with
      | straight => exact mutex row attempt
      | abandoned => exact reclaim_mutex ..
      | lostBefore => exact reclaim_mutex ..
    cases launched with
    | kept => exact .row rfl begun
    | raceLost => exact mutex.kept rfl
    | returned _ waits rows _ status _ _ _ unkeyed =>
      exact .row rows.attempt (.cleared (unkeyed (begun.of_ready waits)) (by rw [status]; rfl))
    | @parked _ row' _ _ _ waits rows _ status _ _ _ unkeyed =>
      refine .row rows.attempt (.cleared (unkeyed (begun.of_ready waits)) ?_)
      simp only [List.mem_cons, List.not_mem_nil, or_false] at status
      rcases status with h | h | h | h | h <;> rw [h] <;> rfl
    | @closed _ row₁ row' _ _ ledger reason _ _ rows _ _ released =>
      refine .row rows.attempt ?_
      rw [(Prod.mk.inj released).2]
      exact release_mutex _ _ _ _ rfl
    | submits _ _ rows status =>
      exact .row rows.attempt (.executed (by rw [status]; rfl) (by rw [status]; rfl))

theorem gateStep_mutex {g : GateReads} (step : GateStep env g s s') (mutex : s.opening.Mutex) :
    s'.opening.Mutex := by
  cases step with
  | kept => exact mutex
  | @checked row attempt ok =>
    have checked := gateCheck_passed ok
    have status : row.status = .submitting := checked.status
    have same := (gateCheck_move env g s row).slotOnly.status.trans status
    exact .row rfl (.executed (by rw [same]; rfl) (by rw [same]; rfl))

theorem finalStatus_seated {r : ExecutionResult} (item : QueueItem)
    (kept : r.outcome ≠ .permanentFailure) : (r.finalStatus item).seated = true := by
  unfold ExecutionResult.finalStatus
  split
  · rename_i v _ _
    cases status : v.status <;> rfl
  · split <;> rfl
  · unfold ExecutionResult.target
    split <;> first | rfl | contradiction | (split <;> rfl)

theorem finalStatus_executed {r : ExecutionResult} (item : QueueItem)
    (keeps : r.outcome = .submitted ∨ r.outcome = .unknown) :
    (r.finalStatus item).unexecuted = false := by
  unfold ExecutionResult.finalStatus ExecutionResult.target
  rcases keeps with keeps | keeps
  · rw [keeps]
    cases r.verification with
    | none => rfl
    | some v => cases status : v.status <;> simp [verifiedStatus, status, ApplicationStatus.unexecuted]
  · rw [keeps]
    rfl

theorem reportStep_mutex {result : ExecutionResult} {r : RunId} {row : Application} {item : QueueItem}
    {run : ExecutionRun} {w : Work} (step : ReportStep now worker result r s s' row item run w) :
    s'.opening.Mutex := by
  have reported := step.reported
  have status : w.attempt.status = result.finalStatus item := reported.status
  have stored : s'.opening.attempt = some w.attempt := by rw [step.stored]; rfl
  refine .row stored ?_
  rcases reported.slot with ⟨kept, -, -⟩ | ⟨-, reason, -, row_eq⟩
  · have seated : w.attempt.status.seated = true := by
      rw [status]
      exact finalStatus_seated item kept
    rcases reported.cleared with sent | unknown | failed | cleared
    · exact .executed (by rw [status]; exact finalStatus_executed item (.inl sent)) seated
    · exact .executed (by rw [status]; exact finalStatus_executed item (.inr unknown)) seated
    · exact absurd failed kept
    · exact .cleared cleared seated
  · rw [row_eq]
    exact release_mutex _ _ _ _ rfl

theorem recovered_mutex {r : RunId} (recovered : Recovered now o r o') (mutex : o.Mutex) :
    o'.Mutex := by
  cases recovered with
  | kept => exact mutex
  | orphaned => exact mutex.kept rfl
  | pressed => exact .row rfl (.executed (by simp [ApplicationStatus.unexecuted]) (by simp; rfl))
  | @unpressed row run attempt =>
    refine .row rfl ?_
    split
    · exact reclaim_mutex ..
    · exact mutex row attempt

theorem readyWith_submissionKey (now : Time) (p : Preparation) (row : Application) :
    (readyWith now p row).submissionKey = row.submissionKey := by
  unfold readyWith
  split
  · exact Application.markReady_submissionKey
  · rfl

/-- Only an attempt from before its execution follows its package. -/
theorem reconciled_mutex {db : DB} (step : Reconciled env db s s') (mutex : s.opening.Mutex) :
    s'.opening.Mutex := by
  cases step with
  | kept => exact mutex
  | stopped row co stop attempt candidate holds found =>
    refine .row rfl (release_mutex _ _ _ _ ?_)
    rcases reconcileStop_ended found with h | h <;> rw [h] <;> rfl
  | followed row attempt free unsent holds =>
    have here : row.Mutex := mutex row attempt
    have waiting : row.status.unexecuted = true := by
      have seated := here.seated holds
      simpa [ApplicationStatus.seated, unsent, free] using seated
    have unkeyed : row.submissionKey = none := here.free waiting
    obtain ⟨row', prepare, rows, moved⟩ := followPreparation_rows db attempt
    rw [rows]
    refine .row rfl ?_
    rcases moved with rfl | ⟨p, rfl⟩ | ⟨p, rfl⟩
    · exact here
    · refine .cleared ((readyWith_submissionKey ..).trans unkeyed) ?_
      unfold readyWith
      split
      · rw [Application.markReady_status]
        rfl
      · exact here.seated holds
    · refine .cleared (Application.markPreparing_submissionKey.trans unkeyed) ?_
      rw [Application.markPreparing_status]
      rfl

theorem verify_mutex {v : VerificationResult} {r : RunId} (done : verify now v r o = .ok o')
    (mutex : o.Mutex) : o'.Mutex := by
  obtain ⟨run, row, w, -, attempt, -, settled, rfl⟩ := verify_settled done
  have here : row.Mutex := mutex row attempt
  have status : w.attempt.status = verifiedStatus v.status row.status := settled.status
  have slot : row.holdsSlot = true → row.status.seated = true := here.seated
  refine .row rfl ?_
  by_cases moved : w.attempt.status = row.status
  · refine here.same moved settled.submissionKey fun held => ?_
    rw [moved]
    exact slot (settled.slot.holdsSlot ▸ held)
  · have sent : w.attempt.status = .verified ∨ w.attempt.status = .submitted ∨
        w.attempt.status = .needsReview := by
      rw [status] at moved ⊢
      revert moved
      cases v.status <;> simp only [verifiedStatus] <;> try split
      all_goals simp
    rcases sent with h | h | h <;> exact .executed (by rw [h]; rfl) (by rw [h]; rfl)

theorem confirm_mutex {submitted : Bool} {reference note : Option String} {r : RunId}
    (done : confirm now submitted reference note r o = .ok o') (mutex : o.Mutex) : o'.Mutex := by
  obtain ⟨run, row, -, attempt, verified⟩ := confirm_ok done
  refine verify_mutex verified ?_
  split
  · unfold finishByHand
    dsimp only
    split
    · exact mutex.kept rfl
    · refine .row rfl (.executed ?_ ?_) <;> dsimp only <;> rw [Application.forceTo_status] <;> rfl
  · exact mutex

theorem reopen_mutex (now : Time) (reason : Option String) (row : Application) :
    (row.reopen now reason).Mutex := by
  apply Application.Mutex.cleared
  · exact Application.forceTo_submissionKey
  · rw [Application.reopen, Application.forceTo_status]
    rfl

end Operations

theorem op_mutex {env : Env} {ident : ProcId → WorkerId} {phase : ProcId → Phase} {db : DB}
    {i : OpportunityId} {s s' : Slice} {l : Label} (op : Op env ident phase db i s l s')
    (outside : ∀ window, l ≠ .schedule window) (mutex : s.opening.Mutex) : s'.opening.Mutex := by
  cases op with
  | exhausted => exact mutex.kept (onItem_attempt ..)
  | taken => exact mutex.kept (onItem_attempt ..)
  | started p args item out submit done => exact startStep_mutex (start_step done).2.2 mutex
  | startedFor worker args item out submit done => exact startStep_mutex (start_step done).2.2 mutex
  | gated p r stale =>
    exact gateStep_mutex (g := db.gateReads i stale) (preSubmitGate_step ..) mutex
  | gatedFor worker stale answer done =>
    rcases gate_ok done with ⟨-, step⟩ | ⟨run, -, -, rfl⟩
    · exact gateStep_mutex step mutex
    · exact (gateStep_mutex (g := db.gateReads i stale) (preSubmitGate_step ..) mutex).kept rfl
  | finished p r ending here done =>
    obtain ⟨row, item, run, w, step⟩ := finishRun_ok done
    exact reportStep_mutex step
  | reported worker r v done =>
    obtain ⟨run, row, item, w, -, step⟩ := reportResult_ok done
    exact reportStep_mutex step
  | recovered =>
    exact recoverOpening_keeps (P := Opening.Mutex) (fun _ _ _ mutex step => recovered_mutex step mutex)
      mutex
  | reconciled => exact reconciled_mutex (reconcile_reconciled env db s) mutex
  | considered window => exact absurd rfl (outside window)
  | enqueued => exact mutex.kept (enqueueReady_attempt ..)
  | beaten worker done =>
    obtain ⟨old, item, -, -, rfl⟩ := heartbeat_ok done
    exact mutex.kept rfl
  | verified r v done => exact verify_mutex done mutex
  | confirmed r submitted reference note done => exact confirm_mutex done mutex
  | retried reason done =>
    obtain ⟨row, item, attempt, -, -, -, -, rfl⟩ := retry_ok done
    exact .row rfl (reopen_mutex ..)
  | cancelled actor reason done =>
    obtain ⟨row, submit, prepare, attempt, -, -, -, rfl⟩ := cancel_ok done
    obtain ⟨ended, released⟩ := Application.release_spec db.now row s.ledger .cancelled
      (textOr reason s!"cancelled by {actor}")
    exact .row rfl (.ended (by dsimp only; rw [ended]; rfl) released)
  | _ => exact mutex.kept rfl

/-! ### Scheduler runs -/

/-- An admission would continue a row that still carries a submission key. -/
def Opening.keyed (o : Opening) : Bool :=
  (o.attempt <|> o.legacy).any fun row => row.submissionKey.isSome

/-- A scheduler run would admit such an opening, if a cap or the window does not come first. -/
def Sys.readmitsKeyed (env : Env) (s : Sys) (l : Label) : Bool :=
  match l with
  | .schedule _ =>
    let p := s.db.openPass env
    p.db.openings.rows.any fun r => r.2.keyed &&
      r.2.candidate.any fun co => (decideOpening env p.context r.2 co).admissible
  | _ => false

section Runs
variable {env : Env} {ident : ProcId → WorkerId} {s : Sys} {l : Label}

theorem admitted_mutex {db : DB} {v : Verdict} {s s' : Slice} (step : Admitted env db v s s')
    (unkeyed : s.opening.keyed = false) (mutex : s.opening.Mutex) : s'.opening.Mutex := by
  cases step with
  | conflict => exact mutex
  | refused => exact mutex.kept rfl
  | granted ledger row row' item co reserved readied =>
    have key : row.submissionKey = none := by
      rw [Application.reserve_submissionKey reserved]
      cases here : s.opening.attempt <|> s.opening.legacy with
      | none => rfl
      | some old => simpa [Opening.keyed, here] using unkeyed
    have status : row.status = .qualified := (Application.reserve_granted reserved).2.1
    refine .row rfl ?_
    rcases readied with rfl | ⟨p, rfl⟩
    · exact .cleared key (by rw [status]; rfl)
    · refine .cleared (Application.markReady_submissionKey.trans key) ?_
      rw [Application.markReady_status]
      rfl

theorem walked_mutex {p₀ : Pass} {db : DB} {i : OpportunityId} {s s' : Slice}
    (step : Pass.Walked env p₀ db i s s')
    (unkeyed : ∀ o co, p₀.db.openings.get i = some o → o.candidate = some co →
      (decideOpening env p₀.context o co).admissible = true → o.keyed = false)
    (mutex : s.opening.Mutex) : s'.opening.Mutex := by
  cases step with
  | stamped => exact mutex.kept rfl
  | admitted co v candidate unchanged admissible =>
    exact admitted_mutex (admit_admitted env db v co s)
      (unkeyed s.opening co unchanged candidate admissible) mutex

theorem schedule_mutex (window : Nat) (unkept : s.readmitsKeyed env (.schedule window) = false)
    (mutex : s.db.openings.All fun _ o => o.Mutex) :
    (schedule env window s.db).openings.All fun _ o => o.Mutex := by
  have settled : (s.db.openPass env).db.openings.All fun _ o => o.Mutex :=
    (reconcileAll_chain env s.db).all (fun db i o s' _ here _ step =>
      step ▸ reconciled_mutex (reconcile_reconciled env db ⟨o, db.ledger⟩) here) mutex
  have passed := (Pass.walk env window (s.db.openPass env) s.db.ordered_nodup).all
    (P := fun _ o => o.Mutex) (fun db i o s' _ here _ step => walked_mutex step
      (fun o₀ co found candidate admissible => ?_) here) settled
  · exact (enqueueAll_chain env _).all (P := fun _ o => o.Mutex) (fun db i o s' _ here _ step => by
      subst step
      exact here.kept (enqueueReady_attempt ..)) passed
  · have member := Table.get_eq_some.mp found
    by_contra keyed
    have readmits : s.readmitsKeyed env (.schedule window) = true :=
      List.any_eq_true.mpr ⟨(i, o₀), member, by simpa [candidate, admissible] using keyed⟩
    rw [readmits] at unkept
    contradiction

theorem step_mutex (unkept : s.readmitsKeyed env l = false)
    (mutex : s.db.openings.All fun _ o => o.Mutex) :
    (s.step env ident l).db.openings.All fun _ o => o.Mutex := by
  cases l with
  | schedule window => exact schedule_mutex window unkept mutex
  | discover i company title w =>
    refine (Sys.step_ops env ident s _).all (fun db j o s' _ here _ op =>
      op_mutex op (by simp) here) ?_
    exact Table.all_insertNew mutex fun _ row (attempt : none = some row) => by contradiction
  | _ =>
    exact (Sys.step_ops env ident s _).all (fun db j o s' _ here _ op =>
      op_mutex op (by simp) here) mutex

end Runs

/-! ### Starting -/

section Start
variable {env : Env} {x : StartReads} {worker : WorkerId} {s s' : Slice}

theorem startReady_lost {before : Slice} {original item : QueueItem} {row : Application}
    (done : startReady env x worker before original s item row = .ok (s', .lostRace)) :
    row.status = .ready ∧ row.submissionKey ≠ none := by
  unfold startReady at done
  dsimp only at done
  split at done
  · simp [bind_ok] at done
  rename_i ready
  refine ⟨not_not.mp ready, ?_⟩
  split at done
  · simp [bind_ok] at done
  split at done
  · simp [bind_ok] at done
  have same := (check_move env (x.check.forPreparation (s.opening.preparation row.preparationId))
    s.opening row s.ledger true false).slotOnly.submissionKey
  split at done
  · simp [bind_ok] at done
  · unfold launch at done
    dsimp only at done
    split at done
    · simp at done
    split at done
    · simp [bind_ok] at done
    split at done
    · rename_i taken
      exact same ▸ taken
    · simp at done

theorem start_lost {item : QueueItem} (done : start env x worker s item = .ok (s', .lostRace)) :
    ∃ row, s.opening.attempt = some row ∧ row.status = .ready ∧ row.submissionKey ≠ none := by
  unfold start at done
  simp only [bind_ok] at done
  obtain ⟨begun, -, rest⟩ := done
  split at rest
  · simp [bind_ok] at rest
  rename_i row attempt
  have reclaimed (reason : String) : (row.reclaim x.check.now reason).submissionKey = none :=
    Application.forceTo_submissionKey
  unfold startAttempt at rest
  dsimp only at rest
  split at rest
  · simp [bind_ok] at rest
  split at rest
  · simp at rest
  split at rest
  · split at rest
    · exact absurd (reclaimed _) (startReady_lost rest).2
    · split at rest
      · simp at rest
      · exact absurd (reclaimed _) (startReady_lost rest).2
  · exact ⟨row, attempt, startReady_lost rest⟩

end Start

structure Startable (env : Env) (db : DB) : Prop where
  free : ∀ i o row, db.openings.get i = some o → o.attempt = some row → row.status = .ready →
    row.submissionKey = none
  wins : ∀ worker i args, (db.start env worker i args).2 ≠ some .lostRace

theorem startable_of_mutex {env : Env} {db : DB} (mutex : db.openings.All fun _ o => o.Mutex) :
    Startable env db where
  free := fun i o row found attempt ready => (mutex.get found row attempt).of_ready ready
  wins := fun worker i args lost => by
    obtain ⟨o, item, s', found, submit, done, -⟩ := DB.start_some env lost
    obtain ⟨row, attempt, ready, keyed⟩ := start_lost done
    exact keyed ((mutex.get found row attempt).of_ready ready)

/-- As long as no scheduler run admits an attempt whose submission key is still set, the mutex of a
READY attempt is free and no `start` loses the race for it. -/
theorem ready_mutex_free (env : Env) (ident : ProcId → WorkerId) (policy : ApplicationPolicy)
    (now : Time) (ls : List Label)
    (unkept : Trace.Guarded (Sys.step env ident) (fun s l => s.readmitsKeyed env l = false)
      (.initial policy now) ls) :
    Startable env (Trace.run (Sys.step env ident) (.initial policy now) ls).db :=
  startable_of_mutex <| Trace.run_invariant (fun s : Sys => s.db.openings.All fun _ o => o.Mutex)
    (fun _ _ mutex unkept => step_mutex unkept mutex)
    (fun _ member => by cases member) unkept

/-! ### A key that is left on the row -/

/-- The executor finds that the form is gone for good. -/
def Ending.targetGone : Ending := .raised true false .targetGone "gone"

/-- The failed attempt is admitted again with its package, READY under the key of its first
execution. -/
theorem readmitted_keyed :
    ¬ ∀ ls, Startable .utc (Trace.run (Sys.step .utc toString) (.initial .initial 0) ls).db := by
  intro all
  have startable := all (Label.prepares 1 "Acme" "Engineer" ++ Label.passes 1 ++
    [.finish 0 .targetGone, .schedule 10])
  have keyed : ((Trace.run (Sys.step .utc toString) (.initial .initial 0)
      (Label.prepares 1 "Acme" "Engineer" ++ Label.passes 1 ++ [.finish 0 .targetGone, .schedule 10])
        ).db.openings.get 1).any (fun o => o.attempt.any fun row =>
          decide (row.status = .ready ∧ row.submissionKey ≠ none)) = true := by decide +kernel
  obtain ⟨o, found, here⟩ := (Option.any_eq_true _ _).mp keyed
  obtain ⟨row, attempt, ready⟩ := (Option.any_eq_true _ _).mp here
  obtain ⟨ready, taken⟩ := of_decide_eq_true ready
  exact taken (startable.free 1 o row found attempt ready)

/-- An attempt that failed before its press for a while comes back with its mutex free. -/
theorem retried_free : Startable .utc (Trace.run (Sys.step .utc toString) (.initial .initial 0)
    (Label.prepares 1 "Acme" "Engineer" ++ Label.passes 1 ++
      [.finish 0 (.raised true true .timeout "timeout"), .schedule 10])).db :=
  ready_mutex_free .utc toString .initial 0 _ (by decide +kernel)

end RangeApply
