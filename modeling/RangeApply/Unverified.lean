import RangeApply.Changes
import RangeApply.Served

/-! Runs whose submit has no known outcome: in every run of the system each of them waits for
its verification, and while one does, no retry of its attempt goes through. -/
namespace RangeApply

/-- An UNKNOWN run is one that `retry` sees as unresolved. -/
def ExecutionRun.Awaits (run : ExecutionRun) : Prop :=
  run.status = .unknown → run.verificationStatus = .pending ∨ run.verificationStatus = .unknown

/-- Every UNKNOWN run of the attempt waits for its verification. -/
def Opening.Awaits (o : Opening) : Prop := ∀ run ∈ o.runs, run.Awaits

theorem forall_modify {p : ExecutionRun → Prop} {runs : List ExecutionRun} {r : RunId}
    {f : ExecutionRun → ExecutionRun} (all : ∀ run ∈ runs, p run)
    (here : ∀ run, runs[r]? = some run → p (f run)) : ∀ run ∈ runs.modify r f, p run := by
  intro run member
  obtain ⟨n, found⟩ := List.mem_iff_getElem?.mp member
  rw [List.getElem?_modify] at found
  obtain ⟨before, there, same⟩ := Option.map_eq_some_iff.mp found
  split at same
  · rename_i mine
    exact same ▸ here before (mine ▸ there)
  · exact same ▸ all before (List.mem_of_getElem? there)

theorem forall_set {p : ExecutionRun → Prop} {runs : List ExecutionRun} {r : RunId}
    {run' : ExecutionRun} (all : ∀ run ∈ runs, p run) (here : p run') :
    ∀ run ∈ runs.set r run', p run := by
  intro run member
  rcases List.mem_or_eq_of_mem_set member with old | rfl
  · exact all run old
  · exact here

theorem finished_awaits {run : ExecutionRun} (known : run.status ≠ .unknown) : run.Awaits :=
  fun unknown => absurd unknown known

/-! ### The guard -/

/-- The verification says that nothing was attempted, of a run with an unknown outcome. -/
def Opening.unsettles (o : Opening) (r : RunId) (v : VerificationResult) : Bool :=
  decide (v.status = .notAttempted) &&
    (match o.runs[r]? with
    | none => false
    | some run => decide (run.status = .unknown))

/-- No `start` meets a run that was lost after its press, and no verification of an UNKNOWN run
is NOT_ATTEMPTED. -/
def DB.settlesUnknown (db : DB) : Label → Bool
  | .start _ i _ | .startFor _ i _ =>
    match db.openings.get i with
    | none => true
    | some o => !o.crashedAfterPress
  | .verify i r v =>
    match db.openings.get i with
    | none => true
    | some o => !o.unsettles r v
  | _ => true

/-! ### Operations -/

section Operations
variable {env : Env} {s s' : Slice} {now : Time}

theorem entry_awaits {runs runs' : List ExecutionRun} {row row' : Application}
    (entry : Entry now runs row runs' row') (all : ∀ run ∈ runs, run.Awaits) :
    ∀ run ∈ runs', run.Awaits := by
  cases entry with
  | straight => exact all
  | abandoned => exact all
  | lostBefore =>
    exact forall_modify all fun run _ =>
      finished_awaits (by simp [ExecutionRun.lostBeforeSubmit, ExecutionRun.finish])

theorem launchRows_awaits {row' : Application} {item' : QueueItem} {more : List ExecutionRun}
    (rows : LaunchRows s s' row' item' more) (all : s.opening.Awaits)
    (known : ∀ run ∈ more, run.status ≠ .unknown) : s'.opening.Awaits := by
  intro run member
  rw [rows.runs, List.mem_append] at member
  rcases member with old | new
  · exact all run old
  · exact finished_awaits (known run new)

theorem launched_awaits {x : StartReads} {worker : WorkerId} {before : Slice} {row : Application}
    {out : StartOutcome} (launched : Launched env x worker before s row s' out)
    (first : before.opening.Awaits) (all : s.opening.Awaits) : s'.opening.Awaits := by
  cases launched with
  | kept => exact all
  | raceLost => exact first
  | returned _ _ rows inert => exact launchRows_awaits rows all fun run new => (inert run new).2
  | parked _ _ rows inert => exact launchRows_awaits rows all fun run new => (inert run new).2
  | closed _ _ rows inert => exact launchRows_awaits rows all fun run new => (inert run new).2
  | submits _ _ rows =>
    refine launchRows_awaits rows all fun run new => ?_
    cases List.mem_singleton.mp new
    simp [startedRun]

theorem startStep_awaits {x : StartReads} {worker : WorkerId} {out : StartOutcome}
    (step : StartStep env x worker s s' out) (clear : s.opening.crashedAfterPress = false)
    (all : s.opening.Awaits) : s'.opening.Awaits := by
  cases step with
  | missing => exact all
  | lostAfter row item' attempt status found pressed =>
    simp [Opening.crashedAfterPress, attempt, status, found, pressed] at clear
  | entered attempt entry launched => exact launched_awaits launched all (entry_awaits entry all)

theorem reportStep_awaits {worker : WorkerId} {result : ExecutionResult} {r : RunId}
    {row : Application} {item : QueueItem} {run : ExecutionRun} {w : Work}
    (step : ReportStep now worker result r s s' row item run w) (all : s.opening.Awaits) :
    s'.opening.Awaits := by
  rw [step.stored]
  exact forall_set all fun unknown => .inl (step.reported.unknown unknown)

theorem recovered_awaits {o o' : Opening} {r : RunId} (all : o.Awaits)
    (recovered : Recovered now o r o') : o'.Awaits := by
  cases recovered with
  | kept => exact all
  | orphaned =>
    exact forall_modify all fun run _ =>
      finished_awaits (by simp [ExecutionRun.orphan, ExecutionRun.finish])
  | pressed => exact forall_modify all fun run _ => fun _ => .inl rfl
  | unpressed =>
    exact forall_modify all fun run _ =>
      finished_awaits (by simp [ExecutionRun.lostBeforeSubmit, ExecutionRun.finish])

/-- A verification leaves UNKNOWN only with PENDING or UNKNOWN, unless it says NOT_ATTEMPTED. -/
theorem verify_awaits {v : VerificationResult} {r : RunId} {o o' : Opening}
    (done : verify now v r o = .ok o') (settles : o.unsettles r v = false) (all : o.Awaits) :
    o'.Awaits := by
  obtain ⟨run, row, w, found, -, -, settled, rfl⟩ := verify_settled done
  refine forall_set all fun unknown => ?_
  rw [settled.runStatus] at unknown
  rw [settled.verification]
  simp only [Opening.unsettles, found] at settles
  cases status : v.status <;>
    simp_all [verifiedRun, storedVerification]

theorem confirm_awaits {submitted : Bool} {reference note : Option String} {r : RunId}
    {o o' : Opening} (done : confirm now submitted reference note r o = .ok o')
    (all : o.Awaits) : o'.Awaits := by
  obtain ⟨run, row, -, -, verified⟩ := confirm_ok done
  refine verify_awaits verified ?_ ?_
  · simp only [Opening.unsettles, confirmation]
    cases submitted <;> simp
  · split
    · have runs : (finishByHand now r row o).runs = o.runs.modify r fun run =>
          run.press.finish now .submitted (some .submitted) none none := by
        unfold finishByHand
        dsimp only
        split <;> rfl
      intro run
      rw [runs]
      exact forall_modify all (fun run _ => finished_awaits (by simp [ExecutionRun.finish])) run
    · exact all

theorem reconcile_runs (env : Env) (db : DB) (s : Slice) :
    (reconcile env db s).opening.runs = s.opening.runs := by
  have reconciled := reconcile_reconciled env db s
  generalize reconcile env db s = s' at reconciled ⊢
  cases reconciled with
  | kept => rfl
  | stopped => rfl
  | followed row attempt =>
    obtain ⟨row', prepare, rows, -⟩ := followPreparation_rows db attempt
    rw [rows]

theorem considered_runs {db : DB} {i : OpportunityId} (here : Considered env db i s s') :
    s'.opening.runs = s.opening.runs := by
  rcases here.admission with ⟨code, v, rfl⟩ | ⟨co, v, -, -, admitted⟩
  · rfl
  · cases admitted <;> rfl

theorem enqueueReady_runs (env : Env) (now : Time) (o : Opening) :
    (enqueueReady env now o).runs = o.runs := by
  unfold enqueueReady
  split
  · split <;> rfl
  · rfl

theorem onItem_runs (o : Opening) (action : QueueAction) (lane : Option Lane)
    (f : QueueItem → QueueItem) : (o.onItem action lane f).runs = o.runs := by
  unfold Opening.onItem
  cases action <;> rfl

end Operations

/-! ### Steps and runs -/

section Run
variable {env : Env} {ident : ProcId → WorkerId}

theorem op_awaits {phase : ProcId → Phase} {db : DB} {i : OpportunityId} {s s' : Slice} {l : Label}
    (op : Op env ident phase db i s l s') (found : db.openings.get i = some s.opening)
    (settles : l.batch = true ∨ db.settlesUnknown l = true) (all : s.opening.Awaits) :
    s'.opening.Awaits := by
  cases op with
  | world => exact all
  | exhausted => exact fun run => onItem_runs s.opening _ _ _ ▸ all run
  | taken => exact fun run => onItem_runs s.opening _ _ _ ▸ all run
  | started p args item out submit done =>
    simp only [Label.batch, DB.settlesUnknown, found] at settles
    exact startStep_awaits (start_step done).2.2 (by simpa using settles) all
  | startedFor worker args item out submit done =>
    simp only [Label.batch, DB.settlesUnknown, found] at settles
    exact startStep_awaits (start_step done).2.2 (by simpa using settles) all
  | marked => exact forall_modify all fun run there => all run (List.mem_of_getElem? there)
  | gated => exact fun run => preSubmitGate_runs env _ s ▸ all run
  | gatedFor worker stale answer done =>
    rcases gate_ok done with ⟨-, step⟩ | ⟨found, -, -, rfl⟩
    · exact fun run => step.runs ▸ all run
    · have same := preSubmitGate_runs env (db.gateReads i stale) s
      refine forall_modify (fun run => same ▸ all run) fun run there => ?_
      exact all run (same ▸ List.mem_of_getElem? there)
  | finished p r ending here done =>
    obtain ⟨row, item, run, w, step⟩ := finishRun_ok done
    exact reportStep_awaits step all
  | reported worker r v done =>
    obtain ⟨found, row, item, w, -, step⟩ := reportResult_ok done
    exact reportStep_awaits step all
  | recovered => exact recoverOpening_keeps (fun o r o' all => recovered_awaits all) all
  | prepareBegun => exact all
  | prepareEnded => exact all
  | reconciled => exact fun run => reconcile_runs env db s ▸ all run
  | considered window here => exact fun run => considered_runs here ▸ all run
  | enqueued => exact fun run => enqueueReady_runs env db.now s.opening ▸ all run
  | claimedFor => exact all
  | beaten worker done =>
    obtain ⟨old, item, -, -, rfl⟩ := heartbeat_ok done
    exact all
  | verified r v done =>
    simp only [Label.batch, DB.settlesUnknown, found] at settles
    exact verify_awaits done (by simpa using settles) all
  | confirmed r submitted reference note done => exact confirm_awaits done all
  | retried reason done =>
    obtain ⟨row, item, -, -, -, -, -, rfl⟩ := retry_ok done
    exact all
  | cancelled actor reason done =>
    obtain ⟨row, submit, prepare, -, -, -, -, rfl⟩ := cancel_ok done
    exact all

theorem arrive_awaits {db : DB} (l : Label) (all : db.openings.All fun _ o => o.Awaits) :
    (db.arrive l).openings.All fun _ o => o.Awaits := by
  cases l with
  | discover i company title w =>
    refine Table.all_insertNew all fun _ run member => ?_
    simp [Opening.discovered] at member
  | _ => exact all

theorem step_awaits (s : Sys) (l : Label) (all : s.db.openings.All fun _ o => o.Awaits)
    (settles : s.db.settlesUnknown l = true) :
    (s.step env ident l).db.openings.All fun _ o => o.Awaits := by
  have arrived := arrive_awaits l all
  by_cases batch : l.batch = true
  · exact (Sys.step_ops env ident s l).all
      (fun db₁ i o s' _ here found op => op_awaits op found (.inl batch) here) arrived
  · rcases Sys.step_op env ident s l (by simpa using batch) with same | ⟨i, o, s', found, op, stored⟩
    · exact same ▸ arrived
    · rw [stored]
      refine Table.all_put arrived (op_awaits op found (.inr ?_) (arrived.get found))
      -- only settings and new rows arrive, and neither is part of a label with a guard
      cases l <;> exact settles

/-- An UNKNOWN run waits for its verification, and blocks the retries of its attempt. -/
structure Opening.BlocksRetry (o : Opening) : Prop where
  awaits : o.Awaits
  refused : (∃ run ∈ o.runs, run.status = .unknown) →
    ∀ now reason, ∃ e, retry now reason o = .error e

theorem Opening.Awaits.blocksRetry {o : Opening} (awaits : o.Awaits) : o.BlocksRetry := by
  refine ⟨awaits, ?_⟩
  rintro ⟨run, member, unknown⟩ now reason
  cases done : retry now reason o with
  | error e => exact ⟨e, rfl⟩
  | ok o' =>
    obtain ⟨row, item, -, -, resolved, -⟩ := retry_ok done
    rw [List.any_eq_false] at resolved
    refine absurd ?_ (resolved run member)
    rcases awaits run member unknown with open_ | open_ <;>
      simp [ExecutionRun.unresolved, unknown, open_]

open Trace in
/-- In every run of the system in which no `start` meets an execution that was lost after its
press, and no verification of an UNKNOWN run says NOT_ATTEMPTED: every UNKNOWN run waits for its
verification, and `retry` refuses while there is one. -/
theorem unknown_runs_block_retry (policy : ApplicationPolicy) (now : Time) (ls : List Label)
    (settles : Guarded (Sys.step env ident) (fun s l => s.db.settlesUnknown l = true)
      (.initial policy now) ls) :
    (run (Sys.step env ident) (.initial policy now) ls).db.openings.All
      fun _ o => o.BlocksRetry := by
  have all : (run (Sys.step env ident) (.initial policy now) ls).db.openings.All
      fun _ o => o.Awaits :=
    run_invariant (fun s => s.db.openings.All fun _ o => o.Awaits)
      (fun s l all settles => step_awaits s l all settles) (fun r member => by simp [Sys.initial,
        Table.empty] at member) settles
  exact all.mono fun _ _ awaits => awaits.blocksRetry

end Run

/-! ### A run lost after its press -/

/-- Process 0 is lost after the flag is committed; its lease lapses and process 1 takes over. -/
def Label.losesPressed : List Label :=
  Label.prepares 1 "Acme" "Engineer" ++
    [.claim 0 .submit none 1, .start 0 1 .mock, .mark 0, .crash 0, .tick 1000000000,
      .claim 1 .submit none 1, .start 1 1 .mock]

open Trace in
/-- The second `start` leaves an UNKNOWN run whose verification was never asked for. -/
theorem start_forgets_verification :
    ¬ ∀ ls, (run (Sys.step .utc toString) (.initial .initial 0) ls).db.openings.All
      fun _ o => o.BlocksRetry := by
  intro all
  have lost : ((run (Sys.step .utc toString) (.initial .initial 0) Label.losesPressed).db.openings.get
      1).any (fun o => o.runs.any fun run =>
        decide (run.status = .unknown) && decide (run.verificationStatus = .notAttempted)) = true := by
    decide +kernel
  obtain ⟨o, found, there⟩ := (Option.any_eq_true _ _).mp lost
  obtain ⟨run, member, forgotten⟩ := List.any_eq_true.mp there
  simp only [Bool.and_eq_true, decide_eq_true_eq] at forgotten
  have awaits := ((all Label.losesPressed).get found).awaits run member forgotten.1
  simp [forgotten.2] at awaits

open Trace in
/-- Recovered before anyone starts it again, the run waits. -/
theorem recovered_run_blocks_retry :
    (run (Sys.step .utc toString) (.initial .initial 0) (Label.prepares 1 "Acme" "Engineer" ++
      [.claim 0 .submit none 1, .start 0 1 .mock, .mark 0, .crash 0, .tick 1000000000,
        .recover])).db.openings.All fun _ o => o.BlocksRetry :=
  unknown_runs_block_retry _ _ _ (by decide +kernel)

end RangeApply
