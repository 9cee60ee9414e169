import RangeApply.Start
import RangeApply.Reported

/-! What `start` can do, once for all its branches. -/
namespace RangeApply

def runningAt (runs : List ExecutionRun) (r : RunId) : Prop :=
  ∃ run, runs[r]? = some run ∧ run.status = .running

instance (runs : List ExecutionRun) (r : RunId) : Decidable (runningAt runs r) :=
  decidable_of_iff (runs[r]?.any fun run => decide (run.status = .running)) (by
    simp [runningAt, Option.any_eq_true])

def pressedAt (runs : List ExecutionRun) (r : RunId) : Bool :=
  match runs[r]? with
  | some run => run.submitInvoked
  | none => false

/-! ### The crashed run -/

theorem newerRun_foldl (entries : List (ExecutionRun × RunId)) (best : Option (RunId × ExecutionRun)) :
    (∀ r run, entries.foldl newerRun best = some (r, run) →
      best = some (r, run) ∨ ((run, r) ∈ entries ∧ run.status = .running)) ∧
    (entries.foldl newerRun best = none →
      best = none ∧ ∀ entry ∈ entries, entry.1.status ≠ .running) := by
  induction entries generalizing best with
  | nil => exact ⟨fun r run found => .inl found, fun missing => ⟨missing, by simp⟩⟩
  | cons entry entries ih =>
    obtain ⟨found, missing⟩ := ih (newerRun best entry)
    have choice : newerRun best entry = best ∨
        (newerRun best entry = some (entry.2, entry.1) ∧ entry.1.status = .running) := by
      unfold newerRun
      split
      · rename_i running
        split
        · exact .inr ⟨rfl, running⟩
        · split
          · exact .inr ⟨rfl, running⟩
          · exact .inl rfl
      · exact .inl rfl
    constructor
    · intro r run h
      rcases found r run h with here | ⟨later, running⟩
      · rcases choice with same | ⟨taken, running⟩
        · exact .inl (same ▸ here)
        · rw [taken] at here
          cases here
          exact .inr ⟨List.mem_cons_self, running⟩
      · exact .inr ⟨List.mem_cons_of_mem _ later, running⟩
    · intro h
      obtain ⟨none, rest⟩ := missing h
      have idle : entry.1.status ≠ .running := by
        intro running
        simp only [newerRun, running, if_true] at none
        split at none
        · contradiction
        · split at none <;> contradiction
      refine ⟨?_, fun e he => ?_⟩
      · rcases choice with same | ⟨taken, -⟩
        · exact same ▸ none
        · rw [taken] at none
          contradiction
      · rcases List.mem_cons.mp he with rfl | later
        · exact idle
        · exact rest e later

theorem crashedRun_some {runs : List ExecutionRun} {r : RunId} {run : ExecutionRun}
    (found : crashedRun runs = some (r, run)) : runs[r]? = some run ∧ run.status = .running := by
  rcases (newerRun_foldl runs.zipIdx none).1 r run found with none | ⟨member, running⟩
  · contradiction
  · exact ⟨by simpa using List.mem_zipIdx_iff_getElem?.mp member, running⟩

theorem crashedRun_none {runs : List ExecutionRun} (missing : crashedRun runs = none) (r : RunId) :
    ¬ runningAt runs r := by
  rintro ⟨run, found, running⟩
  exact ((newerRun_foldl runs.zipIdx none).2 missing).2 (run, r)
    (List.mem_zipIdx_iff_getElem?.mpr (by simpa using found)) running

/-! ### Items -/

/-- The item waits for somebody else than a worker, or is done. -/
def QueueItem.Parked (worker : WorkerId) (item : QueueItem) : Prop :=
  (item.state.active = false ∨ item.state = .blocked ∨ item.state = .needsReview) ∧
    (item.claimedBy = none ∨ item.claimedBy = some worker)

/-- The item is back in the queue. -/
def QueueItem.Returned (item : QueueItem) : Prop := item.state = .pending ∧ item.claimedBy = none

theorem QueueItem.needsReview_parked (worker : WorkerId) (now : Time) (row : QueueItem)
    (reason : String) : (row.needsReview now reason).Parked worker :=
  ⟨.inr (.inr rfl), .inl rfl⟩

theorem QueueItem.succeed_parked {worker : WorkerId} {now : Time} {row row' : QueueItem}
    (done : row.succeed now worker = .ok row') : row'.Parked worker := by
  obtain ⟨owner, rfl⟩ := succeed_ok done
  exact ⟨.inl rfl, .inr owner⟩

theorem QueueItem.block_parked {worker : WorkerId} {now : Time} {row row' : QueueItem}
    {reason : String} (done : row.block now worker reason = .ok row') : row'.Parked worker := by
  obtain ⟨owner, rfl⟩ := block_ok done
  exact ⟨.inr (.inl rfl), .inr owner⟩

theorem QueueItem.cancel_parked {worker : WorkerId} {now : Time} {row row' : QueueItem}
    (done : row.cancel now = .ok row') : row'.Parked worker := by
  obtain ⟨-, rfl⟩ := cancel_ok done
  exact ⟨.inl rfl, .inl rfl⟩

theorem QueueItem.release_returned {worker : WorkerId} {now : Time} {row row' : QueueItem}
    (done : row.release now worker = .ok row') (available : Time) :
    ({ row' with availableAt := available } : QueueItem).Returned ∧ row'.Returned := by
  obtain ⟨-, rfl⟩ := release_ok done
  exact ⟨⟨rfl, rfl⟩, rfl, rfl⟩

theorem parkItem_parked {worker : WorkerId} {now : Time} {item item' : QueueItem}
    {status : ApplicationStatus} {reason : String}
    (done : parkItem now worker item status reason = .ok item') : item'.Parked worker := by
  unfold parkItem at done
  split at done
  · exact QueueItem.block_parked done
  · exact QueueItem.block_parked done
  · exact QueueItem.cancel_parked done
  · exact QueueItem.cancel_parked done
  · exact QueueItem.cancel_parked done
  · cases Except.ok.inj done
    exact QueueItem.needsReview_parked worker now item reason

/-- What no operation on an attempt changes: the posting, and that the candidate's row exists. -/
structure Opening.SamePosting (o o' : Opening) : Prop where
  opportunity : o'.opportunity = o.opportunity
  candidate : o'.candidate.isSome = o.candidate.isSome

/-! ### Launching -/

/-- The rows a launch leaves, with the runs it adds. -/
structure LaunchRows (s s' : Slice) (row' : Application) (item' : QueueItem)
    (more : List ExecutionRun) : Prop where
  posting : s.opening.SamePosting s'.opening
  attempt : s'.opening.attempt = some row'
  submit : s'.opening.submit = some item'
  runs : s'.opening.runs = s.opening.runs ++ more

/-- The slot after a check, on a row that may have moved on since. -/
structure Recharged (x : CheckInputs) (keys : PeriodKeys) (ledger : CapLedger) (row : Application)
    (ledger' : CapLedger) (row' : Application) : Prop where
  move : ∃ row₁, SlotMove x keys ledger row ledger' row₁ ∧ Application.SameSlot row₁ row'
  submittedAt : row'.submittedAt = row.submittedAt

theorem SlotMove.forInputs {x : CheckInputs} {keys : PeriodKeys} {p : Option Preparation}
    {ledger ledger' : CapLedger} {row row' : Application}
    (move : SlotMove (x.forPreparation p) keys ledger row ledger' row') :
    SlotMove x keys ledger row ledger' row' := by
  cases move with
  | kept _ same => exact .kept _ same
  | moved _ granted => exact .moved _ granted

def StartOutcome.launched : StartOutcome → Bool
  | .started _ => true
  | _ => false

def Inert (run : ExecutionRun) : Prop := run.status ≠ .running ∧ run.status ≠ .unknown

section Launched
variable (env : Env) (x : StartReads) (worker : WorkerId)

/-- What follows from the rows `startReady` is given. -/
inductive Launched (before s : Slice) (row : Application) : Slice → StartOutcome → Prop
  | kept (item' : QueueItem) (out : StartOutcome) (waits : row.status ≠ .ready)
      (parked : item'.Parked worker) (quiet : out.launched = false) :
      Launched before s row (s.settle row item') out
  | raceLost (item' : QueueItem) (taken : row.submissionKey ≠ none) (returned : item'.Returned)
      (ready : row.status = .ready) : Launched before s row
        { before with opening := { before.opening with submit := some item' } } .lostRace
  | returned {s' : Slice} {row' : Application} {item' : QueueItem} {more : List ExecutionRun}
      (out : StartOutcome) (ready : row.status = .ready) (rows : LaunchRows s s' row' item' more)
      (inert : ∀ run ∈ more, Inert run) (status : row'.status = .ready)
      (slot : Recharged x.check (x.check.keys env) s.ledger row s'.ledger row')
      (returned : item'.Returned) (quiet : out.launched = false)
      (unkeyed : row.submissionKey = none → row'.submissionKey = none) : Launched before s row s' out
  | parked {s' : Slice} {row' : Application} {item' : QueueItem} {more : List ExecutionRun}
      (out : StartOutcome) (ready : row.status = .ready) (rows : LaunchRows s s' row' item' more)
      (inert : ∀ run ∈ more, Inert run)
      (status : row'.status ∈ ([.ready, .preparing, .needsReview, .needsUserInput, .blocked] :
        List ApplicationStatus))
      (slot : Recharged x.check (x.check.keys env) s.ledger row s'.ledger row')
      (parked : item'.Parked worker) (quiet : out.launched = false)
      (unkeyed : row.submissionKey = none → row'.submissionKey = none) : Launched before s row s' out
  | closed {s' : Slice} {row₁ row' : Application} {item' : QueueItem} {more : List ExecutionRun}
      {ledger : CapLedger} {reason : String} (out : StartOutcome) (ready : row.status = .ready)
      (rows : LaunchRows s s' row' item' more) (inert : ∀ run ∈ more, Inert run)
      (slot : Recharged x.check (x.check.keys env) s.ledger row ledger row₁)
      (released : (s'.ledger, row') = row₁.release x.check.now ledger .closed reason)
      (parked : item'.Parked worker) (quiet : out.launched = false) : Launched before s row s' out
  | submits {s' : Slice} {row' : Application} {item' : QueueItem} {kind : ExecutorKind}
      (ready : row.status = .ready) (free : row.submissionKey = none)
      (rows : LaunchRows s s' row' item'
        [startedRun x.check.now worker kind (row.executionCount + 1)])
      (status : row'.status = .submitting)
      (slot : Recharged x.check (x.check.keys env) s.ledger row s'.ledger row')
      (held : item'.state = .processing ∧ item'.claimedBy = some worker) :
      Launched before s row s' (.started s.opening.runs.length)

end Launched

section Proofs
variable {env : Env} {x : StartReads} {worker : WorkerId}

theorem reprepare_spec (now : Time) (message : String) (row : Application) :
    (row.reprepare now message).status = .preparing ∧
      Application.SameSlot row (row.reprepare now message) ∧
      (row.reprepare now message).submittedAt = row.submittedAt ∧
      (row.reprepare now message).submissionKey = none := by
  unfold Application.reprepare
  refine ⟨Application.forceTo_status, ?_, Application.forceTo_submittedAt,
    Application.forceTo_submissionKey⟩
  unfold Application.forceTo
  split <;> exact ⟨rfl, rfl, rfl, rfl⟩

theorem SlotMove.recharged {y : CheckInputs} {keys : PeriodKeys} {ledger ledger' : CapLedger}
    {row row₁ row' : Application} (move : SlotMove y keys ledger row ledger' row₁)
    (same : Application.SameSlot row₁ row') (submittedAt : row'.submittedAt = row₁.submittedAt) :
    Recharged y keys ledger row ledger' row' :=
  ⟨⟨row₁, move, same⟩, submittedAt.trans move.slotOnly.submittedAt⟩

theorem preconditionRun_inert (worker : WorkerId) (now : Time) (row : Application)
    (message : String) {status : ExecutionStatus} (plain : status = .stale ∨ status = .preconditionFailed) :
    ∀ run ∈ [preconditionRun now worker row status message], Inert run := by
  intro run member
  cases List.mem_singleton.mp member
  rcases plain with rfl | rfl <;> exact ⟨by simp [preconditionRun], by simp [preconditionRun]⟩

theorem settlePreconditions_launched {before s s' : Slice} {row row₁ : Application}
    {item : QueueItem} {ledger : CapLedger} {report : PreconditionReport} (out : StartOutcome)
    (quiet : out.launched = false) (ready : row.status = .ready)
    (move : SlotMove x.check (x.check.keys env) s.ledger row ledger row₁)
    (done : settlePreconditions env x worker { s with ledger := ledger } item row₁ report = .ok s') :
    Launched env x worker before s row s' out := by
  have status : row₁.status = .ready := move.slotOnly.status.trans ready
  have key : row₁.submissionKey = row.submissionKey := move.slotOnly.submissionKey
  have unkeyed (target : ApplicationStatus) (reason : Option String) (free : row.submissionKey = none) :
      (({ row₁ with lastExecutionId := some s.opening.runs.length } : Application).forceTo x.check.now
        target reason).submissionKey = none := by
    rw [Application.forceTo_submissionKey]
    exact key.trans free
  have stays : Application.SameSlot row₁ { row₁ with
      lastExecutionId := some s.opening.runs.length } := ⟨rfl, rfl, rfl, rfl⟩
  have forced (target : ApplicationStatus) (reason : Option String) :
      Application.SameSlot row₁ (({ row₁ with
        lastExecutionId := some s.opening.runs.length } : Application).forceTo x.check.now target
          reason) := stays.trans Application.forceTo_sameSlot
  have inert (row : Application) (message : String) :
      ∀ run ∈ [preconditionRun x.check.now worker row .preconditionFailed message], Inert run :=
    preconditionRun_inert worker x.check.now row message (.inr rfl)
  unfold settlePreconditions at done
  dsimp only at done
  split at done
  · simp only [bind_ok] at done
    obtain ⟨prepare, -, rest⟩ := done
    cases Except.ok.inj rest
    obtain ⟨waits, same, at_, cleared⟩ := reprepare_spec x.check.now report.message
      { row₁ with lastExecutionId := some s.opening.runs.length }
    exact .parked out ready ⟨⟨rfl, rfl⟩, rfl, rfl, rfl⟩ (preconditionRun_inert _ _ _ _ (.inl rfl))
      (by simp [waits]) (move.recharged (stays.trans same) at_)
      (QueueItem.needsReview_parked ..) quiet fun _ => cleared
  split at done
  · split at done
    · simp only [bind_ok] at done
      obtain ⟨item', succeeded, rest⟩ := done
      cases Except.ok.inj rest
      exact .parked out ready ⟨⟨rfl, rfl⟩, rfl, rfl, rfl⟩ (inert _ _) (by simp [status])
        (move.recharged stays rfl) (QueueItem.succeed_parked succeeded) quiet key.trans
    · simp only [bind_ok] at done
      obtain ⟨item', cancelled, rest⟩ := done
      cases Except.ok.inj rest
      exact .closed out ready ⟨⟨rfl, rfl⟩, rfl, rfl, rfl⟩ (inert _ _) (move.recharged stays rfl) rfl
        (QueueItem.cancel_parked cancelled) quiet
  split at done
  · simp only [bind_ok] at done
    obtain ⟨item', blocked, rest⟩ := done
    cases Except.ok.inj rest
    have same := forced .blocked (some (clip 256 report.message))
    exact .parked out ready ⟨⟨rfl, rfl⟩, rfl, rfl, rfl⟩ (inert _ _) (by simp)
      (move.recharged ⟨same.capDay, same.capWeek, same.reservedAt, same.releasedAt⟩
        Application.forceTo_submittedAt)
      (QueueItem.block_parked blocked) quiet (unkeyed _ _)
  split at done
  · simp only [bind_ok] at done
    obtain ⟨item', released, rest⟩ := done
    cases Except.ok.inj rest
    exact .returned out ready ⟨⟨rfl, rfl⟩, rfl, rfl, rfl⟩ (inert _ _) status
      (move.recharged stays rfl) (QueueItem.release_returned released _).1 quiet key.trans
  split at done
  · simp only [bind_ok] at done
    obtain ⟨item', blocked, rest⟩ := done
    cases Except.ok.inj rest
    exact .parked out ready ⟨⟨rfl, rfl⟩, rfl, rfl, rfl⟩ (inert _ _) (by simp)
      (move.recharged (forced _ _) Application.forceTo_submittedAt) (QueueItem.block_parked blocked) quiet
      (unkeyed _ _)
  · cases Except.ok.inj done
    exact .parked out ready ⟨⟨rfl, rfl⟩, rfl, rfl, rfl⟩ (inert _ _) (by simp)
      (move.recharged (forced _ _) Application.forceTo_submittedAt)
      (QueueItem.needsReview_parked ..) quiet (unkeyed _ _)

theorem launch_launched {before s s' : Slice} {original item : QueueItem} {row row₁ : Application}
    {ledger : CapLedger} {executor : Executor} {out : StartOutcome} (ready : row.status = .ready)
    (move : SlotMove x.check (x.check.keys env) s.ledger row ledger row₁)
    (held : item.state = .processing ∧ item.claimedBy = some worker)
    (done : launch x worker before original { s with ledger := ledger } item row₁ executor =
      .ok (s', out)) : Launched env x worker before s row s' out := by
  have key : row₁.submissionKey = row.submissionKey := move.slotOnly.submissionKey
  have count : row₁.executionCount = row.executionCount := move.slotOnly.executionCount
  unfold launch at done
  dsimp only at done
  split at done
  · cases Except.ok.inj done
    exact .parked _ ready ⟨⟨rfl, rfl⟩, rfl, rfl, (List.append_nil _).symm⟩ (by simp) (by simp)
      (move.recharged Application.forceTo_sameSlot Application.forceTo_submittedAt)
      (QueueItem.needsReview_parked ..) rfl fun free =>
        Application.forceTo_submissionKey.trans (key.trans free)
  split at done
  · unfold handoff at done
    simp only [bind_ok] at done
    obtain ⟨paused, ⟨item', blocked, same⟩, rest⟩ := done
    cases Except.ok.inj same
    cases Except.ok.inj rest
    refine .parked _ ready ⟨⟨rfl, rfl⟩, rfl, rfl, (List.append_nil _).symm⟩ (by simp) (by simp)
      (move.recharged ?_ Application.forceTo_submittedAt) (QueueItem.block_parked blocked) rfl
      fun _ => Application.forceTo_submissionKey
    unfold Application.forceTo
    split <;> exact ⟨rfl, rfl, rfl, rfl⟩
  split at done
  · rename_i taken
    simp only [bind_ok] at done
    obtain ⟨item', released, rest⟩ := done
    cases Except.ok.inj rest
    exact .raceLost item' (key ▸ taken) (QueueItem.release_returned released item'.availableAt).2 ready
  · rename_i free
    rw [not_not] at free
    cases Except.ok.inj done
    exact .submits ready (key ▸ free) ⟨⟨rfl, rfl⟩, rfl, rfl, by rw [← count]⟩ rfl
      (move.recharged ⟨rfl, rfl, rfl, rfl⟩ rfl) held

theorem startReady_launched {before s s' : Slice} {original item : QueueItem} {row : Application}
    {out : StartOutcome} (held : item.state = .processing ∧ item.claimedBy = some worker)
    (done : startReady env x worker before original s item row = .ok (s', out)) :
    Launched env x worker before s row s' out := by
  unfold startReady at done
  dsimp only at done
  split at done
  · rename_i waits
    simp only [bind_ok] at done
    obtain ⟨item', parked, rest⟩ := done
    cases Except.ok.inj rest
    exact .kept item' _ waits (parkItem_parked parked) rfl
  rename_i ready
  rw [not_not] at ready
  split at done
  · simp only [bind_ok] at done
    obtain ⟨item', released, rest⟩ := done
    cases Except.ok.inj rest
    exact .returned _ ready ⟨⟨rfl, rfl⟩, rfl, rfl, (List.append_nil _).symm⟩ (by simp) ready
      ⟨⟨row, .kept _ fun _ _ => rfl, .refl row⟩, rfl⟩ (QueueItem.release_returned released _).1 rfl id
  have move : SlotMove x.check (x.check.keys env) s.ledger row _ _ :=
    (check_move env (x.check.forPreparation (s.opening.preparation row.preparationId)) s.opening row
      s.ledger true false).forInputs
  split at done
  · simp only [bind_ok] at done
    obtain ⟨settled, rest⟩ := done
    cases Except.ok.inj rest.2
    exact settlePreconditions_launched _ rfl ready move rest.1
  split at done
  · simp only [bind_ok] at done
    obtain ⟨item', released, rest⟩ := done
    cases Except.ok.inj rest
    exact .returned _ ready ⟨⟨rfl, rfl⟩, rfl, rfl, (List.append_nil _).symm⟩ (by simp)
      (move.slotOnly.status.trans ready) (move.recharged (.refl _) rfl)
      (QueueItem.release_returned released item'.availableAt).2 rfl
      move.slotOnly.submissionKey.trans
  · exact launch_launched ready move held done

/-! ### The whole of `start` -/

/-- The runs and the attempt `startReady` begins from: a SUBMITTING attempt is reclaimed, its
lost run, on which submit was not pressed, is closed. -/
inductive Entry (now : Time) (runs : List ExecutionRun) (row : Application) :
    List ExecutionRun → Application → Prop
  | straight (status : row.status ≠ .submitting) : Entry now runs row runs row
  | abandoned (status : row.status = .submitting) (none : crashedRun runs = none) :
      Entry now runs row runs (row.reclaim now "reclaimed after a lost executor")
  | lostBefore (status : row.status = .submitting) {r : RunId} {run : ExecutionRun}
      (found : crashedRun runs = some (r, run)) (unpressed : run.submitInvoked = false) :
      Entry now runs row
        (runs.modify r
          (ExecutionRun.lostBeforeSubmit now "executor lost before submit; safe to retry"))
        (row.reclaim now "reclaimed after a lost executor")

/-- Everything a `start` that goes through can do. -/
inductive StartStep (env : Env) (x : StartReads) (worker : WorkerId) (s : Slice) :
    Slice → StartOutcome → Prop
  | missing (item' : QueueItem) (none : s.opening.attempt = none) (parked : item'.Parked worker) :
      StartStep env x worker s
        { s with opening := { s.opening with submit := some item' } } .noAttempt
  | lostAfter (row : Application) (item' : QueueItem) {r : RunId} {run : ExecutionRun}
      (attempt : s.opening.attempt = some row) (status : row.status = .submitting)
      (found : crashedRun s.opening.runs = some (r, run)) (pressed : run.submitInvoked = true)
      (parked : item'.Parked worker) :
      StartStep env x worker s
        { s with opening := { s.opening with
          attempt := some (row.forceTo x.check.now .uncertain
            (some "executor lost after submit was invoked"))
          submit := some item'
          runs := s.opening.runs.modify r (ExecutionRun.lostAfterSubmit x.check.now
            "executor lost after submit was invoked") } } .awaitingVerification
  | entered {row ready : Application} {runs : List ExecutionRun} {s' : Slice} {out : StartOutcome}
      (attempt : s.opening.attempt = some row) (entry : Entry x.check.now s.opening.runs row runs ready)
      (launched : Launched env x worker s { s with opening := { s.opening with runs := runs } }
        ready s' out) : StartStep env x worker s s' out

theorem beginItem_ok {now : Time} {item item' : QueueItem}
    (done : beginItem now worker item = .ok item') :
    (item.state = .claimed ∨ item.state = .processing) ∧ item.claimedBy = some worker ∧
      item'.state = .processing ∧ item'.claimedBy = some worker := by
  unfold beginItem at done
  split at done
  · obtain ⟨owner, claimed, rfl⟩ := QueueItem.start_ok done
    exact ⟨.inl claimed, owner, rfl, owner⟩
  · split at done
    · contradiction
    · rename_i own
      rw [not_or, not_not, not_not] at own
      cases Except.ok.inj done
      exact ⟨.inr own.1, own.2, own.1, own.2⟩

theorem startAttempt_step {s s' : Slice} {original item : QueueItem} {row : Application}
    {out : StartOutcome} (attempt : s.opening.attempt = some row)
    (held : item.state = .processing ∧ item.claimedBy = some worker)
    (done : startAttempt env x worker s original item row = .ok (s', out)) :
    StartStep env x worker s s' out := by
  unfold startAttempt at done
  dsimp only at done
  split at done
  · rename_i status
    simp only [bind_ok] at done
    obtain ⟨item', succeeded, rest⟩ := done
    cases Except.ok.inj rest
    exact .entered attempt (.straight (by rcases status with h | h <;> simp [h]))
      (.kept item' _ (by rcases status with h | h <;> simp [h]) (QueueItem.succeed_parked succeeded) rfl)
  split at done
  · rename_i status
    cases Except.ok.inj done
    exact .entered attempt (.straight (by simp [status]))
      (.kept _ _ (by simp [status]) (QueueItem.needsReview_parked ..) rfl)
  split at done
  · rename_i status
    split at done
    · rename_i none
      exact .entered attempt (.abandoned status none) (startReady_launched held done)
    · rename_i r run found
      split at done
      · rename_i pressed
        cases Except.ok.inj done
        exact .lostAfter row _ attempt status found pressed (QueueItem.needsReview_parked ..)
      · rename_i unpressed
        exact .entered attempt (.lostBefore status found (by simpa using unpressed))
          (startReady_launched held done)
  · rename_i status
    exact .entered attempt (.straight status) (startReady_launched held done)

/-- The inversion of `start`: the item was the worker's own, and the step is of the table. -/
theorem start_step {s s' : Slice} {item : QueueItem} {out : StartOutcome}
    (done : start env x worker s item = .ok (s', out)) :
    (item.state = .claimed ∨ item.state = .processing) ∧ item.claimedBy = some worker ∧
      StartStep env x worker s s' out := by
  unfold start at done
  simp only [bind_ok] at done
  obtain ⟨begun, begins, rest⟩ := done
  obtain ⟨open_, owner, held⟩ := beginItem_ok begins
  refine ⟨open_, owner, ?_⟩
  split at rest
  · rename_i none
    simp only [bind_ok] at rest
    obtain ⟨item', failed, rest⟩ := rest
    cases Except.ok.inj rest
    obtain ⟨own, settled, -⟩ := QueueItem.fail_ok failed
    rcases settled with ⟨again, -⟩ | ⟨-, ended, kept, -⟩
    · contradiction
    · exact .missing item' none ⟨.inl (by simp [ended, QueueState.active]), .inr (kept.trans own)⟩
  · rename_i row attempt
    exact startAttempt_step attempt held rest

end Proofs

end RangeApply
