import RangeApply.Changes
import RangeApply.Served

/-! How often the gate of one attempt lets an in-process executor press submit. Workers claim,
start, mark, call the gate and report in any order, leases lapse and lost runs are recovered in
between. A worker whose run was closed under it is told from the live one by nothing but the
status of that run, which the gate does not read. -/
namespace RangeApply

/-- A step of a worker process, of recovery or of the environment. -/
def Label.inProcess : Label → Bool
  | .schedule _ | .settlePrepared | .claimItem .. | .heartbeat .. | .startFor .. | .gateFor ..
  | .reportFor .. => false
  | l => !l.human

/-- The opening and the run that a process may press submit for. -/
def Phase.armed : Phase → Option (OpportunityId × RunId)
  | .filling i r | .gated i r _ => some (i, r)
  | _ => none

theorem Phase.armed_running {phase : Phase} {w : OpportunityId × RunId}
    (armed : phase.armed = some w) : phase.running = some w := by
  cases phase <;> first | exact armed | contradiction

/-- How many gate calls for this opening answered without failures. -/
def Sys.passesOf (i : OpportunityId) (s : Sys) : Nat := s.passes.countP fun g => g.opening = i

namespace Opening

def queued (o : Opening) : Bool := o.submit.any fun item => item.state.waiting || item.state.held

def submitting (o : Opening) : Bool := o.attempt.any fun row => decide (row.status = .submitting)

/-- At most one run is RUNNING, and while the item can still reach a worker, it is that of a
SUBMITTING attempt. -/
structure Orderly (o : Opening) : Prop where
  single : ∀ r r', runningAt o.runs r → runningAt o.runs r' → r = r'
  submitting : ∀ r, runningAt o.runs r → o.queued = true → o.submitting = true

/-- What a passed gate leaves: a worker that reaches the item finds the press recorded. -/
def Spent (o : Opening) : Prop :=
  o.queued = true → o.submitting = true ∧ ∃ r, runningAt o.runs r ∧ pressedAt o.runs r = true

end Opening

/-! ### Runs that end -/

/-- No run begins: those still RUNNING were, and the submit recorded on them is. -/
structure Fewer (runs runs' : List ExecutionRun) : Prop where
  length : runs.length ≤ runs'.length
  running : ∀ r, runningAt runs' r → runningAt runs r
  pressed : ∀ r, runningAt runs' r → pressedAt runs r = true → pressedAt runs' r = true

section Fewer
variable {runs runs' : List ExecutionRun} {r : RunId}

theorem Fewer.refl (runs : List ExecutionRun) : Fewer runs runs :=
  ⟨Nat.le_refl _, fun _ => id, fun _ _ => id⟩

theorem getElem?_modify_if (runs : List ExecutionRun) (r r' : RunId) (f : ExecutionRun → ExecutionRun) :
    (runs.modify r f)[r']? = if r = r' then (runs[r']?).map f else runs[r']? := by
  rw [List.getElem?_modify]
  split <;> simp

theorem getElem?_modify_running {f : ExecutionRun → ExecutionRun}
    (ended : ∀ run, (f run).status ≠ .running) {r' : RunId} (running : runningAt (runs.modify r f) r') :
    (runs.modify r f)[r']? = runs[r']? := by
  obtain ⟨run, found, status⟩ := running
  rw [getElem?_modify_if] at found ⊢
  split
  · rename_i here
    rw [if_pos here] at found
    obtain ⟨before, -, rfl⟩ := Option.map_eq_some_iff.mp found
    exact absurd status (ended before)
  · rfl

theorem Fewer.modify {f : ExecutionRun → ExecutionRun} (ended : ∀ run, (f run).status ≠ .running) :
    Fewer runs (runs.modify r f) := by
  refine ⟨by simp, fun r' running => ?_, fun r' running pressed => ?_⟩
  · have same := getElem?_modify_running ended running
    obtain ⟨run, found, status⟩ := running
    exact ⟨run, same ▸ found, status⟩
  · simpa only [pressedAt, getElem?_modify_running ended running] using pressed

theorem Fewer.set {run : ExecutionRun} (ended : run.status ≠ .running) :
    Fewer runs (runs.set r run) := by
  rw [List.set_eq_modify]
  exact .modify fun _ => ended

theorem not_running_modify {f : ExecutionRun → ExecutionRun} (ended : ∀ run, (f run).status ≠ .running)
    (single : ∀ r', runningAt runs r' → r' = r) (r' : RunId) : ¬ runningAt (runs.modify r f) r' := by
  intro running
  cases single r' ((Fewer.modify ended).running r' running)
  obtain ⟨run, found, status⟩ := running
  rw [getElem?_modify_if, if_pos rfl] at found
  obtain ⟨before, -, rfl⟩ := Option.map_eq_some_iff.mp found
  exact ended before status

theorem Fewer.append {more : List ExecutionRun} (inert : ∀ run ∈ more, Inert run) :
    Fewer runs (runs ++ more) := by
  have old (r' : RunId) (running : runningAt (runs ++ more) r') : r' < runs.length := by
    obtain ⟨run, found, status⟩ := running
    refine Nat.lt_of_not_le fun later => ?_
    rw [List.getElem?_append_right later] at found
    exact (inert run (List.mem_of_getElem? found)).1 status
  refine ⟨by simp, fun r' running => ?_, fun r' running pressed => ?_⟩
  · have bound := old r' running
    obtain ⟨run, found, status⟩ := running
    exact ⟨run, List.getElem?_append_left bound ▸ found, status⟩
  · simpa only [pressedAt, List.getElem?_append_left (old r' running)] using pressed

theorem Fewer.press : Fewer runs (runs.modify r .press) := by
  have at_ (r' : RunId) : (runs.modify r .press)[r']? = runs[r']? ∨
      (runs.modify r .press)[r']? = (runs[r']?).map .press := by
    rw [getElem?_modify_if]
    split
    · exact .inr rfl
    · exact .inl rfl
  refine ⟨by simp, fun r' running => ?_, fun r' running pressed => ?_⟩
  · obtain ⟨run, found, status⟩ := running
    rcases at_ r' with same | marked
    · exact ⟨run, same ▸ found, status⟩
    · rw [marked] at found
      obtain ⟨before, there, rfl⟩ := Option.map_eq_some_iff.mp found
      exact ⟨before, there, status⟩
  · rcases at_ r' with same | marked
    · simpa only [pressedAt, same] using pressed
    · simp only [pressedAt, marked] at pressed ⊢
      cases there : runs[r']? with
      | none => simp [there] at pressed
      | some run => rfl

theorem Fewer.trans {runs'' : List ExecutionRun} (first : Fewer runs runs')
    (second : Fewer runs' runs'') :
    Fewer runs runs'' where
  length := Nat.le_trans first.length second.length
  running := fun r running => first.running r (second.running r running)
  pressed := fun r running pressed =>
    second.pressed r running (first.pressed r (second.running r running) pressed)

end Fewer

/-! ### One opening -/

/-- What holds of an opening while the processes are in these phases; `passed` says that its gate
was passed. -/
structure Kept (phase : ProcId → Phase) (passed : Prop) (i : OpportunityId) (o : Opening) : Prop where
  orderly : o.Orderly
  bound : ∀ p r, (phase p).running = some (i, r) → r < o.runs.length
  flagged : ∀ p r, (phase p).armed = some (i, r) → runningAt o.runs r → pressedAt o.runs r = true
  spent : passed → o.Spent
  owner : passed → ∀ p r, (phase p).running = some (i, r) → runningAt o.runs r →
    phase p = .gated i r true

section Kept
variable {env : Env} {ident : ProcId → WorkerId} {phase phase' : ProcId → Phase} {passed : Prop}
  {i : OpportunityId} {o o' : Opening} {s s' : Slice}

theorem Kept.fewer (kept : Kept phase passed i o) (fewer : Fewer o.runs o'.runs)
    (submitting : ∀ r, runningAt o'.runs r → o'.queued = true → o'.submitting = true)
    (spent : passed → o'.Spent) : Kept phase passed i o' where
  orderly := ⟨fun r r' here here' => kept.orderly.single r r' (fewer.running r here)
    (fewer.running r' here'), submitting⟩
  bound := fun p r at_ => Nat.lt_of_lt_of_le (kept.bound p r at_) fewer.length
  flagged := fun p r at_ here =>
    fewer.pressed r here (kept.flagged p r at_ (fewer.running r here))
  spent := spent
  owner := fun gone p r at_ here => kept.owner gone p r at_ (fewer.running r here)

theorem Kept.closed (kept : Kept phase passed i o) (fewer : Fewer o.runs o'.runs)
    (closed : o'.queued = false) : Kept phase passed i o' :=
  kept.fewer fewer (fun _ _ queued => by simp [closed] at queued)
    fun _ queued => by simp [closed] at queued

theorem Kept.rest (kept : Kept phase passed i o) (fewer : Fewer o.runs o'.runs)
    (idle : ∀ r, ¬ runningAt o'.runs r) (fresh : ¬ passed) : Kept phase passed i o' :=
  kept.fewer fewer (fun r running => absurd running (idle r)) fun gone => absurd gone fresh

theorem Kept.still (kept : Kept phase passed i o) (fewer : Fewer o.runs o'.runs)
    (same : ∀ r, runningAt o.runs r → runningAt o'.runs r)
    (queued : o'.queued = true → o.queued = true)
    (submitting : o.submitting = true → o'.submitting = true) : Kept phase passed i o' := by
  refine kept.fewer fewer (fun r running open_ => ?_) fun gone open_ => ?_
  · exact submitting (kept.orderly.submitting r (fewer.running r running) (queued open_))
  · obtain ⟨here, r, running, pressed⟩ := kept.spent gone (queued open_)
    exact ⟨submitting here, r, same r running, fewer.pressed r (same r running) pressed⟩

theorem Kept.rows (kept : Kept phase passed i o) (runs : o'.runs = o.runs)
    (queued : o'.queued = true → o.queued = true)
    (submitting : o.submitting = true → o'.submitting = true) : Kept phase passed i o' :=
  kept.still (runs ▸ .refl _) (fun _ running => by rwa [runs]) queued submitting

theorem Kept.rephase (kept : Kept phase passed i o)
    (same : ∀ p r, (phase' p).running = some (i, r) → phase' p = phase p) :
    Kept phase' passed i o where
  orderly := kept.orderly
  bound := fun p r at_ => kept.bound p r (same p r at_ ▸ at_)
  flagged := fun p r armed => kept.flagged p r (same p r (Phase.armed_running armed) ▸ armed)
  spent := kept.spent
  owner := fun gone p r at_ here => by
    rw [same p r at_]
    exact kept.owner gone p r (same p r at_ ▸ at_) here

/-! ### Starting -/

theorem runningAt_append_started {runs : List ExecutionRun} {run : ExecutionRun}
    (idle : ∀ r, ¬ runningAt runs r) {r : RunId} (running : runningAt (runs ++ [run]) r) :
    r = runs.length := by
  obtain ⟨run', found, status⟩ := running
  rcases Nat.lt_trichotomy r runs.length with before | here | after
  · rw [List.getElem?_append_left before] at found
    exact absurd ⟨run', found, status⟩ (idle r)
  · exact here
  · rw [List.getElem?_append_right (Nat.le_of_lt after)] at found
    have beyond : 1 ≤ r - runs.length := Nat.le_sub_of_add_le' after
    rw [List.getElem?_eq_none (by simpa using beyond)] at found
    contradiction

/-- What a `start` gets to before it launches: whatever was RUNNING is closed, and the gate was
not passed, or the press recorded on the run would have stopped it. -/
theorem entry_idle {now : Time} {row ready : Application} {runs : List ExecutionRun}
    (kept : Kept phase passed i o) (attempt : o.attempt = some row) (queued : o.queued = true)
    (entry : Entry now o.runs row runs ready) :
    Fewer o.runs runs ∧ (∀ r, ¬ runningAt runs r) ∧ ¬ passed := by
  have submitting (r : RunId) (running : runningAt o.runs r) : row.status = .submitting := by
    simpa [Opening.submitting, attempt] using kept.orderly.submitting r running queued
  have unspent (idle : ∀ r, runningAt o.runs r → pressedAt o.runs r = false) : ¬ passed := by
    intro gone
    obtain ⟨-, r, running, pressed⟩ := kept.spent gone queued
    simp [idle r running] at pressed
  cases entry with
  | straight elsewhere =>
    have idle (r : RunId) (running : runningAt o.runs r) : False := elsewhere (submitting r running)
    exact ⟨.refl _, idle, unspent fun r running => (idle r running).elim⟩
  | abandoned status missing =>
    have idle := crashedRun_none missing
    exact ⟨.refl _, idle, unspent fun r running => absurd running (idle r)⟩
  | @lostBefore status r run found unpressed =>
    obtain ⟨there, running⟩ := crashedRun_some found
    have single (r' : RunId) (here : runningAt o.runs r') : r' = r :=
      kept.orderly.single r' r here ⟨run, there, running⟩
    have ended (run : ExecutionRun) : (ExecutionRun.lostBeforeSubmit now
        "executor lost before submit; safe to retry" run).status ≠ .running := by
      simp [ExecutionRun.lostBeforeSubmit, ExecutionRun.finish]
    refine ⟨.modify ended, not_running_modify ended single, unspent fun r' here => ?_⟩
    cases single r' here
    simpa only [pressedAt, there] using unpressed

theorem settled_closed {item : QueueItem}
    (settled : item.state.active = false ∨ item.state = .blocked ∨ item.state = .needsReview)
    (submit : o.submit = some item) : o.queued = false := by
  rcases settled with inactive | blocked | review
  · cases state : item.state <;> simp_all [Opening.queued, QueueState.active, QueueState.waiting,
      QueueState.held]
  · simp [Opening.queued, submit, blocked, QueueState.waiting, QueueState.held]
  · simp [Opening.queued, submit, review, QueueState.waiting, QueueState.held]

/-- A `start` keeps the opening in order; it launches on an attempt whose gate was not passed, and
gives the new run the next number. -/
theorem startStep_kept {x : StartReads} {worker : WorkerId} {out : StartOutcome}
    (kept : Kept phase passed i s.opening) (queued : s.opening.queued = true)
    (step : StartStep env x worker s s' out) : Kept phase passed i s'.opening ∧
      ∀ r, out = .started r →
        ¬ passed ∧ r = s.opening.runs.length ∧ s'.opening.runs.length = r + 1 := by
  have silent {P : RunId → Prop} {out : StartOutcome} (quiet : out.launched = false) (r : RunId)
      (started : out = .started r) : P r := by
    rw [started] at quiet
    contradiction
  cases step with
  | missing item' none parked =>
    exact ⟨kept.closed (.refl _) (settled_closed parked.1 rfl), silent rfl⟩
  | lostAfter row item' attempt status found pressed parked =>
    refine ⟨kept.closed (.modify fun run => ?_) (settled_closed parked.1 rfl), silent rfl⟩
    simp [ExecutionRun.lostAfterSubmit, ExecutionRun.finish]
  | @entered row ready runs _ _ attempt entry launched =>
    obtain ⟨fewer, idle, fresh⟩ := entry_idle kept attempt queued entry
    cases launched with
    | kept item' out waits parked quiet =>
      exact ⟨kept.closed fewer (settled_closed parked.1 rfl), silent quiet⟩
    | raceLost => exact ⟨kept.rows rfl (fun _ => queued) id, silent rfl⟩
    | returned out ready rows inert status slot returned quiet =>
      have more : Fewer runs s'.opening.runs := rows.runs ▸ .append inert
      exact ⟨kept.rest (fewer.trans more) (fun r running => idle r (more.running r running)) fresh,
        silent quiet⟩
    | parked out ready rows inert status slot parked quiet =>
      exact ⟨kept.closed (fewer.trans (rows.runs ▸ .append inert)) (settled_closed parked.1 rows.submit),
        silent quiet⟩
    | closed out ready rows inert slot released parked quiet =>
      exact ⟨kept.closed (fewer.trans (rows.runs ▸ .append inert)) (settled_closed parked.1 rows.submit),
        silent quiet⟩
    | @submits _ row' item' kind ready free rows status =>
      have length : runs.length = s.opening.runs.length := by cases entry <;> simp
      have added : s'.opening.runs = runs ++ [startedRun x.check.now worker kind _] := rows.runs
      have newest (r : RunId) (running : runningAt s'.opening.runs r) : r = s.opening.runs.length :=
        length ▸ runningAt_append_started idle (added ▸ running)
      have older {p : ProcId} {r : RunId} (at_ : (phase p).running = some (i, r))
          (running : runningAt s'.opening.runs r) : False :=
        Nat.lt_irrefl _ (newest r running ▸ kept.bound p r at_)
      refine ⟨⟨⟨fun r r' here here' => (newest r here).trans (newest r' here').symm, fun r _ _ => ?_⟩,
        fun p r at_ => ?_, fun p r armed here => (older (Phase.armed_running armed) here).elim,
        fun gone => absurd gone fresh, fun gone => absurd gone fresh⟩, fun r started => ?_⟩
      · simp [Opening.submitting, rows.attempt, status]
      · rw [added, List.length_append, length]
        exact Nat.lt_add_right _ (kept.bound p r at_)
      · cases started
        exact ⟨fresh, length, by rw [added, List.length_append]; rfl⟩

/-! ### The other operations -/

theorem onItem_kept {action : QueueAction} {lane : Option Lane} {f : QueueItem → QueueItem}
    (kept : Kept phase passed i o)
    (open_ : ∀ item, ((f item).state.waiting || (f item).state.held) = true →
      (item.state.waiting || item.state.held) = true) :
    Kept phase passed i (o.onItem action lane f) := by
  cases action with
  | prepare => exact kept.rows rfl id id
  | submit =>
    refine kept.rows rfl (fun queued => ?_) id
    simp only [Opening.queued, Opening.onItem, Option.any_map] at queued ⊢
    cases there : o.submit with
    | none => simp [there] at queued
    | some item =>
      simp only [there, Option.any_some] at queued ⊢
      split at queued
      · exact open_ item queued
      · exact queued

theorem gateStep_kept {g : GateReads} (step : GateStep env g s s')
    (kept : Kept phase passed i s.opening) : Kept phase passed i s'.opening := by
  cases step with
  | kept => exact kept
  | @checked row attempt ok =>
    refine kept.rows rfl id fun submitting => ?_
    simpa [Opening.submitting, attempt, (gateCheck_move env g s row).slotOnly.status] using submitting

theorem recovered_kept {now : Time} {r : RunId} (kept : Kept phase passed i o)
    (recovered : Recovered now o r o') : Kept phase passed i o' := by
  cases recovered with
  | kept => exact kept
  | orphaned gone =>
    have idle (r : RunId) (running : runningAt o.runs r) (queued : o.queued = true) : False := by
      simpa [Opening.submitting, gone] using kept.orderly.submitting r running queued
    have fewer : Fewer o.runs (o.runs.modify r (ExecutionRun.orphan now)) :=
      .modify fun run => by simp [ExecutionRun.orphan, ExecutionRun.finish]
    refine kept.fewer fewer (fun r running queued => (idle r (fewer.running r running) queued).elim)
      fun passed queued => ?_
    obtain ⟨-, r, running, -⟩ := kept.spent passed queued
    exact (idle r running queued).elim
  | pressed attempt =>
    refine kept.closed (.modify fun run => by simp [ExecutionRun.lostAfterSubmit, ExecutionRun.finish]) ?_
    simp only [Opening.queued, recoverPressed, Option.any_map]
    cases o.submit with
    | none => rfl
    | some item =>
      simp only [Option.any_some]
      split
      · rename_i settled
        rcases settled with state | state | state <;> simp [state, QueueState.waiting, QueueState.held]
      · rfl
  | @unpressed row run attempt found running uninvoked =>
    have ended (run : ExecutionRun) : (ExecutionRun.lostBeforeSubmit now
        "worker lost before submit (recovered at startup); safe to retry" run).status ≠ .running := by
      simp [ExecutionRun.lostBeforeSubmit, ExecutionRun.finish]
    have single (r' : RunId) (here : runningAt o.runs r') : r' = r :=
      kept.orderly.single r' r here ⟨run, found, running⟩
    refine kept.fewer (.modify ended) (fun r' here => absurd here (not_running_modify ended single r'))
      fun passed queued => ?_
    -- a press recorded on the RUNNING run would have been met by the other branch
    have before : o.queued = true := by
      simp only [Opening.queued, recoverUnpressed, Option.any_map] at queued ⊢
      cases there : o.submit with
      | none => simp [there] at queued
      | some item =>
        simp only [there, Option.any_some] at queued ⊢
        split at queued
        · rename_i held
          simp [held]
        · exact queued
    obtain ⟨-, r', here, pressed⟩ := kept.spent passed before
    cases single r' here
    simp [pressedAt, found, uninvoked] at pressed

/-- The report puts the SUBMIT item, which the worker still holds, back in the queue. -/
def Opening.putBack (worker : WorkerId) (r : ExecutionResult) (o : Opening) : Bool :=
  o.submit.any fun item => decide (item.claimedBy = some worker) && r.reopens item

theorem reportStep_kept {now : Time} {worker : WorkerId} {result : ExecutionResult} {r : RunId}
    {row : Application} {item : QueueItem} {run : ExecutionRun} {w : Work}
    (kept : Kept phase passed i s.opening)
    (step : ReportStep now worker result r s s' row item run w)
    (order : s.opening.putBack worker result = true → runningAt s.opening.runs r ∧ ¬ passed) :
    Kept phase passed i s'.opening := by
  have fewer : Fewer s.opening.runs s'.opening.runs := step.stored ▸ .set step.reported.running
  have item' := step.reported.item
  by_cases reopens : result.reopens item = true
  · have owner : item.claimedBy = some worker := by
      rcases step.reported.owner with ownerless | owner
      · cases outcome : result.outcome <;>
          simp_all [ExecutionResult.reopens, ExecutionResult.ownerless]
      · exact owner
    obtain ⟨running, fresh⟩ := order (by simp [Opening.putBack, step.submit, owner, reopens])
    refine kept.rest fewer (fun r' here => ?_) fresh
    cases kept.orderly.single r' r (fewer.running r' here) running
    obtain ⟨run', found, status⟩ := here
    rw [step.stored] at found
    rw [show (s.putWork r w).opening.runs = s.opening.runs.set r w.run from rfl,
      List.getElem?_set_self step.bound] at found
    exact step.reported.running (Option.some.inj found ▸ status)
  · rw [show (s.work row item run).item = item from rfl, if_neg reopens] at item'
    exact kept.closed fewer (settled_closed item' (step.stored ▸ rfl))

/-- Every operation of a worker, of recovery and of the environment keeps an opening in order,
with the phases as they are; the report of a process that puts its item back has to come from its
RUNNING run, before its gate was passed. -/
theorem op_kept {db : DB} {l : Label} (op : Op env ident phase db i s l s')
    (inProcess : l.inProcess = true) (kept : Kept phase passed i s.opening)
    (order : ∀ p ending r, l = .finish p ending → (phase p).running = some (i, r) →
      s.opening.putBack (ident p) (ending.result (phase p).dry) = true →
        runningAt s.opening.runs r ∧ ¬ passed) : Kept phase passed i s'.opening := by
  cases op with
  | world => exact kept.rows rfl id id
  | exhausted =>
    refine onItem_kept kept fun item open_ => ?_
    split at open_
    · contradiction
    · exact open_
  | taken =>
    refine onItem_kept kept fun item open_ => ?_
    split at open_
    · rename_i runnable
      cases waiting : item.state.waiting <;> simp_all [QueueItem.runnable]
    · exact open_
  | started p args item out submit done =>
    obtain ⟨held, -, step⟩ := start_step done
    refine (startStep_kept kept ?_ step).1
    rcases held with state | state <;>
      simp [Opening.queued, submit, state, QueueState.waiting, QueueState.held]
  | marked p r here =>
    refine kept.still .press (fun r' running => ?_) id id
    obtain ⟨run, found, status⟩ := running
    by_cases mine : r = r'
    · exact ⟨run.press, by simp [markSubmit, mine, found], status⟩
    · exact ⟨run, by simp [markSubmit, mine, found], status⟩
  | gated => exact gateStep_kept (preSubmitGate_step ..) kept
  | finished p r ending here done =>
    obtain ⟨row, item, run, w, step⟩ := finishRun_ok done
    exact reportStep_kept kept step (order p ending r rfl here)
  | recovered => exact recoverOpening_keeps (fun o r o' kept => recovered_kept kept) kept
  | prepareBegun => exact kept.rows rfl id id
  | prepareEnded => exact kept.rows rfl id id
  | reconciled l yes => cases l <;> contradiction
  | enqueued l yes => cases l <;> simp_all [Label.scheduling, Label.human, Label.inProcess]
  | _ => contradiction

end Kept

/-! ### The system -/

/-- While the attempt is SUBMITTING a process calls the gate from its RUNNING run only, and its
report puts the item back in the queue only from its RUNNING run and before its gate was passed. -/
def Sys.inOrder (ident : ProcId → WorkerId) (s : Sys) : Label → Bool
  | .gate p _ =>
    match s.phase p with
    | .filling i r =>
      (s.db.openings.get i).all fun o => !o.submitting || decide (runningAt o.runs r)
    | _ => true
  | .finish p ending =>
    match (s.phase p).running with
    | some (i, r) => (s.db.openings.get i).all fun o =>
        !o.putBack (ident p) (ending.result (s.phase p).dry) ||
          (decide (runningAt o.runs r) && decide (s.phase p ≠ .gated i r true))
    | none => true
  | _ => true

structure SinglePass (s : Sys) : Prop where
  rows : s.db.openings.All fun i o => Kept s.phase (0 < s.passesOf i) i o
  present : ∀ p i r, (s.phase p).running = some (i, r) → ∃ o, s.db.openings.get i = some o
  apart : ∀ p q w, (s.phase p).running = some w → (s.phase q).running = some w → p = q
  once : ∀ i, s.passesOf i ≤ 1

section Step
variable {env : Env} {ident : ProcId → WorkerId} {s s' : Sys}

variable (env) in
/-- The rows after a step, with the processes still where they were before it. -/
theorem step_rows (l : Label) (single : SinglePass s) (inProcess : l.inProcess = true)
    (order : s.inOrder ident l = true) :
    (s.step env ident l).db.openings.All fun i o => Kept s.phase (0 < s.passesOf i) i o := by
  have arrived : (s.db.arrive l).openings.All fun i o => Kept s.phase (0 < s.passesOf i) i o := by
    cases l with
    | discover i company title w =>
      refine Table.all_insertNew single.rows fun missing => ?_
      have away (p : ProcId) (r : RunId) (at_ : (s.phase p).running = some (i, r)) : False := by
        obtain ⟨o, found⟩ := single.present p i r at_
        rw [missing] at found
        contradiction
      have idle (r : RunId) : ¬ runningAt (Opening.discovered i company title w).runs r := by
        rintro ⟨run, found, -⟩
        simp [Opening.discovered] at found
      exact ⟨⟨fun r _ here => absurd here (idle r), fun r here => absurd here (idle r)⟩,
        fun p r at_ => (away p r at_).elim, fun p r _ here => absurd here (idle r),
        fun _ queued => by simp [Opening.queued, Opening.discovered] at queued,
        fun _ p r at_ => (away p r at_).elim⟩
    | _ => exact single.rows
  by_cases batch : l.batch = true
  · refine (Sys.step_ops env ident s l).all (fun db₁ i o s' _ kept _ op => ?_) arrived
    refine op_kept op inProcess kept fun p ending r finish => ?_
    rw [finish] at batch
    contradiction
  · rcases Sys.step_op env ident s l (by simpa using batch) with same | ⟨i, o, s', found, op, stored⟩
    · exact same ▸ arrived
    rw [op.arrive] at op found arrived stored
    rw [stored]
    have kept := arrived.get found
    refine Table.all_put arrived (op_kept op inProcess kept fun p ending r finish at_ back => ?_)
    subst finish
    simp only [Sys.inOrder, at_, found, Option.all_some, back, Bool.not_true, Bool.false_or,
      Bool.and_eq_true, decide_eq_true_eq] at order
    exact ⟨order.1, fun gone => order.2 (kept.owner gone p r at_ order.1)⟩

variable (env ident) in
theorem step_present (l : Label) {i : OpportunityId} {o : Opening}
    (found : s.db.openings.get i = some o) :
    ∃ o', (s.step env ident l).db.openings.get i = some o' := by
  obtain ⟨o', found', -⟩ := (Sys.step_ops env ident s l).opening (fun _ => True)
    (fun _ _ _ _ _ _ => trivial) (arrive_get l found) trivial
  exact ⟨o', found'⟩

theorem SinglePass.next (single : SinglePass s) (rows : s'.db.openings.All fun i o =>
      Kept s'.phase (0 < s'.passesOf i) i o)
    (grows : ∀ i o, s.db.openings.get i = some o → ∃ o', s'.db.openings.get i = some o')
    (running : ∀ p w, (s'.phase p).running = some w → (s.phase p).running = some w)
    (once : ∀ i, s'.passesOf i ≤ 1) : SinglePass s' where
  rows := rows
  present := fun p i r at_ => by
    obtain ⟨o, found⟩ := single.present p i r (running p _ at_)
    exact grows i o found
  apart := fun p q w at_ at_' => single.apart p q w (running p w at_) (running q w at_')
  once := once

theorem SinglePass.quiet (single : SinglePass s)
    (rows : s'.db.openings.All fun i o => Kept s.phase (0 < s.passesOf i) i o)
    (grows : ∀ i o, s.db.openings.get i = some o → ∃ o', s'.db.openings.get i = some o')
    (phase : ∀ p, s'.phase p = s.phase p ∨ (s'.phase p).running = none)
    (passes : s'.passes = s.passes) : SinglePass s' := by
  have count (i : OpportunityId) : s'.passesOf i = s.passesOf i := by rw [Sys.passesOf, passes]; rfl
  have same (p : ProcId) (w : OpportunityId × RunId) (at_ : (s'.phase p).running = some w) :
      s'.phase p = s.phase p := by
    rcases phase p with same | away
    · exact same
    · rw [away] at at_
      contradiction
  refine single.next (rows.mono fun i o kept => ?_) grows (fun p w at_ => same p w at_ ▸ at_)
    fun i => count i ▸ single.once i
  rw [count]
  exact kept.rephase fun p r at_ => same p _ at_

theorem rows_of_get {P : OpportunityId → Opening → Prop} {db : DB}
    (each : ∀ i o, db.openings.get i = some o → P i o) : db.openings.All P :=
  fun row member => each row.1 row.2 (Table.get_eq_some.mpr member)

theorem start_single {p : ProcId} {i : OpportunityId} {args : StartArgs} {db : DB} {r : RunId}
    (single : SinglePass s) (rest : s.phase p = .idle)
    (rows : db.openings.All fun j o => Kept s.phase (0 < s.passesOf j) j o)
    (started : s.db.start env (ident p) i args = (db, some (.started r))) :
    SinglePass (s.enter p (.discovering i r) db) := by
  obtain ⟨o, item, s', found, submit, done, stored⟩ :=
    DB.start_some env (congrArg Prod.snd started)
  have after : db = s.db.put i s' := by rw [← stored, started]
  obtain ⟨held, -, step⟩ := start_step done
  have queued : o.queued = true := by
    rcases held with state | state <;>
      simp [Opening.queued, submit, state, QueueState.waiting, QueueState.held]
  have before := single.rows.get found
  obtain ⟨fresh, newest, length⟩ :=
    (startStep_kept (s := ⟨o, s.db.ledger⟩) before queued step).2 r rfl
  have others {q : ProcId} {w : OpportunityId × RunId} (other : q ≠ p)
      (at_ : ((s.enter p (.discovering i r) db).phase q).running = some w) :
      (s.phase q).running = some w := by rwa [Sys.enter_other s _ _ other] at at_
  have own {w : OpportunityId × RunId}
      (at_ : ((s.enter p (.discovering i r) db).phase p).running = some w) : w = (i, r) := by
    rw [Sys.enter_self] at at_
    exact (Option.some.inj at_).symm
  have numbered {q : ProcId} (at_ : (s.phase q).running = some (i, r)) : False :=
    Nat.lt_irrefl _ (newest ▸ before.bound q r at_)
  refine ⟨rows_of_get fun j o' found' => ?_, fun q j r' at_ => ?_, fun q q' w at_ at_' => ?_, single.once⟩
  · have kept := rows.get found'
    by_cases here : j = i
    · subst here
      have same : some o' = some s'.opening := by
        rw [← DB.get_put_self s' found, ← after]
        exact found'.symm
      refine ⟨kept.orderly, fun q r' at_ => ?_, fun q r' armed => ?_, fun gone => absurd gone fresh,
        fun gone => absurd gone fresh⟩
      · by_cases mine : q = p
        · subst mine
          cases own at_
          rw [Option.some.inj same, length]
          exact Nat.lt_succ_self _
        · exact kept.bound q r' (others mine at_)
      · by_cases mine : q = p
        · rw [mine, Sys.enter_self] at armed
          contradiction
        · rw [Sys.enter_other s _ _ mine] at armed
          exact kept.flagged q r' armed
    · refine kept.rephase fun q r' at_ => ?_
      by_cases mine : q = p
      · subst mine
        exact absurd (congrArg Prod.fst (own at_)) here
      · exact Sys.enter_other s _ _ mine
  · by_cases mine : q = p
    · subst mine
      cases own at_
      exact ⟨s'.opening, (congrArg (fun db => db.openings.get i) after).trans
        (DB.get_put_self s' found)⟩
    · obtain ⟨o', found'⟩ := single.present q j r' (others mine at_)
      have stepped := step_present env ident (.start p i args) found'
      simpa only [Sys.step, Sys.startStep, rest, started] using stepped
  · by_cases mine : q = p
    · by_cases mine' : q' = p
      · exact mine.trans mine'.symm
      · subst mine
        cases own at_
        exact (numbered (others mine' at_')).elim
    · by_cases mine' : q' = p
      · subst mine'
        cases own at_'
        exact (numbered (others mine at_)).elim
      · exact single.apart q q' w (others mine at_) (others mine' at_')

theorem enter_running {p : ProcId} (phase : Phase) (db : DB)
    (same : phase.running = (s.phase p).running) (q : ProcId) :
    ((s.enter p phase db).phase q).running = (s.phase q).running := by
  by_cases mine : q = p
  · rw [mine, Sys.enter_self, same]
  · rw [Sys.enter_other s _ _ mine]

theorem advance_single {p : ProcId} {i : OpportunityId} {r : RunId} {phase : Phase} {db : DB}
    (single : SinglePass s) (at_ : (s.phase p).running = some (i, r))
    (unpassed : s.phase p ≠ .gated i r true) (same : phase.running = some (i, r))
    (rows : db.openings.All fun j o => Kept s.phase (0 < s.passesOf j) j o)
    (grows : ∀ j o, s.db.openings.get j = some o → ∃ o', db.openings.get j = some o')
    (flagged : ∀ o, db.openings.get i = some o → runningAt o.runs r → pressedAt o.runs r = true) :
    SinglePass (s.enter p phase db) := by
  have running := enter_running phase db (same.trans at_.symm)
  refine single.next (rows_of_get fun j o found => ?_) grows (fun q w here => running q ▸ here)
    single.once
  have kept := rows.get found
  refine ⟨kept.orderly, fun q r' here => kept.bound q r' (running q ▸ here), fun q r' armed here => ?_,
    kept.spent, fun gone q r' here run => ?_⟩
  · by_cases mine : q = p
    · rw [mine, Sys.enter_self] at armed
      have own := (Phase.armed_running armed).symm.trans same
      cases Option.some.inj own
      exact flagged o found here
    · rw [Sys.enter_other s _ _ mine] at armed
      exact kept.flagged q r' armed here
  · have owner := kept.owner gone q r' (running q ▸ here) run
    by_cases mine : q = p
    · have own := (running q ▸ here).symm.trans (mine ▸ at_)
      cases Option.some.inj own
      exact absurd (mine ▸ owner) unpassed
    · rwa [Sys.enter_other s _ _ mine]

theorem mark_single {p : ProcId} {i : OpportunityId} {r : RunId} {db : DB} (single : SinglePass s)
    (at_ : s.phase p = .discovering i r)
    (marked : db = s.db.changeOpening i fun o => .ok (markSubmit r o))
    (rows : db.openings.All fun j o => Kept s.phase (0 < s.passesOf j) j o)
    (grows : ∀ j o, s.db.openings.get j = some o → ∃ o', db.openings.get j = some o') :
    SinglePass (s.enter p (.filling i r) db) := by
  have own : (s.phase p).running = some (i, r) := by rw [at_]; rfl
  obtain ⟨o, found⟩ := single.present p i r own
  have stored := marked.trans (DB.changeOpening_ok found rfl)
  refine advance_single single own (by simp [at_]) rfl rows grows fun o' found' _ => ?_
  rw [stored, DB.get_put_self _ found] at found'
  cases Option.some.inj found'
  exact pressedAt_press ((single.rows.get found).bound p r own)

/-- The gate passes, for a process whose run is RUNNING: it is the first pass for this opening. -/
theorem pass_single {p : ProcId} {i : OpportunityId} {r : RunId} {db : DB} {o : Opening}
    {day week : String} (single : SinglePass s) (at_ : s.phase p = .filling i r)
    (found : db.openings.get i = some o) (submitting : o.submitting = true) (alive : runningAt o.runs r)
    (rows : db.openings.All fun j o => Kept s.phase (0 < s.passesOf j) j o)
    (grows : ∀ j o, s.db.openings.get j = some o → ∃ o', db.openings.get j = some o') :
    SinglePass { s.enter p (.gated i r true) db with passes := ⟨i, day, week⟩ :: s.passes } := by
  have own : (s.phase p).running = some (i, r) := by rw [at_]; rfl
  have running := enter_running (.gated i r true) db own.symm
  have kept := rows.get found
  have first : s.passesOf i = 0 := by
    refine Nat.eq_zero_of_not_pos fun gone => ?_
    have owner := kept.owner gone p r own alive
    rw [at_] at owner
    contradiction
  have count (j : OpportunityId) : Sys.passesOf j
      { s.enter p (.gated i r true) db with passes := ⟨i, day, week⟩ :: s.passes } =
        s.passesOf j + if i = j then 1 else 0 := by
    simp [Sys.passesOf, List.countP_cons]
  refine single.next (rows_of_get fun j o' found' => ?_) grows (fun q w here => running q ▸ here)
    fun j => ?_
  · by_cases here : j = i
    · subst here
      cases Option.some.inj (found.symm.trans found')
      refine ⟨kept.orderly, fun q r' at_ => kept.bound q r' (running q ▸ at_), fun q r' armed run => ?_,
        fun _ _ => ⟨submitting, r, alive, kept.flagged p r (by rw [at_]; rfl) alive⟩,
        fun _ q r' at_' run => ?_⟩
      · by_cases mine : q = p
        · rw [mine, Sys.enter_self] at armed
          cases Option.some.inj armed
          exact kept.flagged p r (by rw [at_]; rfl) run
        · rw [Sys.enter_other s _ _ mine] at armed
          exact kept.flagged q r' armed run
      · -- whoever holds the RUNNING run is the process that has just passed
        cases kept.orderly.single r' r run alive
        cases single.apart q p _ (running q ▸ at_') own
        exact Sys.enter_self s p _ db
    · have kept' := rows.get found'
      rw [count, if_neg (Ne.symm here), Nat.add_zero]
      refine kept'.rephase fun q r' at_' => ?_
      refine Sys.enter_other s _ db fun mine => here ?_
      rw [mine] at at_'
      exact (congrArg Prod.fst (Option.some.inj ((running p ▸ at_').symm.trans own)))
  · rw [count]
    split
    · rename_i here
      rw [← here, first]
    · exact single.once j

theorem gate_single {p : ProcId} {i : OpportunityId} {r : RunId} {stale : List String}
    (single : SinglePass s) (at_ : s.phase p = .filling i r)
    (order : s.inOrder ident (.gate p stale) = true)
    (rows : (s.gateStep env p stale).db.openings.All fun j o => Kept s.phase (0 < s.passesOf j) j o)
    (grows : ∀ j o, s.db.openings.get j = some o →
      ∃ o', (s.gateStep env p stale).db.openings.get j = some o') :
    SinglePass (s.gateStep env p stale) := by
  have own : (s.phase p).running = some (i, r) := by rw [at_]; rfl
  obtain ⟨o, found⟩ := single.present p i r own
  rw [Sys.gateStep_eq env at_ found] at rows grows ⊢
  by_cases passed : (preSubmitGate env (s.db.gateReads i stale) ⟨o, s.db.ledger⟩).1 = []
  · obtain ⟨row, attempt, ok, stored⟩ := preSubmitGate_passed passed
    have attempt : o.attempt = some row := attempt
    have status : row.status = .submitting := (gateCheck_passed ok).status
    have after := (gateCheck_move env (s.db.gateReads i stale) ⟨o, s.db.ledger⟩ row).slotOnly.status
    have alive : runningAt o.runs r := by
      simpa [Sys.inOrder, at_, found, Opening.submitting, attempt, status] using order
    simp only [passed, if_true, decide_true] at rows grows ⊢
    refine pass_single single at_ (DB.get_put_self _ found) ?_ ?_ rows grows
    · simp [stored, Opening.submitting, after, status]
    · rw [preSubmitGate_runs]
      exact alive
  · simp only [passed, if_false, decide_false] at rows grows ⊢
    refine advance_single single own (by simp [at_]) rfl rows grows fun o' found' here => ?_
    exact (rows.get found').flagged p r (by rw [at_]; rfl) here

theorem step_single (l : Label) (single : SinglePass s) (inProcess : l.inProcess = true)
    (order : s.inOrder ident l = true) : SinglePass (s.step env ident l) := by
  have rows := step_rows env l single inProcess order
  have grows (i : OpportunityId) (o : Opening) (found : s.db.openings.get i = some o) :=
    step_present env ident l found
  have turns (p : ProcId) (phase : Phase) (db : DB) (away : phase.running = none) (q : ProcId) :
      (s.enter p phase db).phase q = s.phase q ∨ ((s.enter p phase db).phase q).running = none := by
    by_cases mine : q = p
    · rw [mine, Sys.enter_self]
      exact .inr away
    · exact .inl (Sys.enter_other s _ _ mine)
  have stays (q : ProcId) : s.phase q = s.phase q ∨ (s.phase q).running = none := .inl rfl
  cases l with
  | start p i args =>
    revert rows grows
    simp only [Sys.step, Sys.startStep]
    split
    · rename_i rest
      split
      · rename_i db r started
        exact fun rows _ => start_single single rest rows started
      · exact fun rows grows => single.quiet rows grows stays rfl
    · exact fun _ _ => single
  | mark p =>
    revert rows grows
    simp only [Sys.step, Sys.markStep]
    split
    · rename_i i r at_
      exact fun rows grows => mark_single single at_ rfl rows grows
    · exact fun _ _ => single
  | gate p stale =>
    by_cases filling : ∃ i r, s.phase p = .filling i r
    · obtain ⟨i, r, at_⟩ := filling
      exact gate_single single at_ order rows grows
    · have same : s.gateStep env p stale = s := by
        unfold Sys.gateStep
        split
        · rename_i i r at_
          exact absurd ⟨i, r, at_⟩ filling
        · rfl
      rw [Sys.step, same]
      exact single
  | finish p ending =>
    revert rows grows
    simp only [Sys.step, Sys.finishStep]
    split
    · exact fun rows grows => single.quiet rows grows (turns p .idle _ rfl) rfl
    · exact fun rows grows => single.quiet rows grows (turns p .idle _ rfl) rfl
    · exact fun rows grows => single.quiet rows grows (turns p .idle _ rfl) rfl
    · exact fun _ _ => single
  | beginPrepare p i =>
    revert rows grows
    simp only [Sys.step, Sys.beginPrepareStep]
    split
    · split
      · exact fun rows grows => single.quiet rows grows (turns p (.packaging i) _ rfl) rfl
      · exact fun _ _ => single
    · exact fun _ _ => single
  | endPrepare p ending =>
    revert rows grows
    simp only [Sys.step, Sys.endPrepareStep]
    split
    · exact fun rows grows => single.quiet rows grows (turns p .idle _ rfl) rfl
    · exact fun _ _ => single
  | claim p action lane limit =>
    revert rows grows
    simp only [Sys.step, Sys.claimStep]
    split
    · exact fun rows grows => single.quiet rows grows stays rfl
    · exact fun _ _ => single
  | crash p => exact single.quiet rows grows (turns p .idle s.db rfl) rfl
  | schedule | settlePrepared | claimItem | heartbeat | startFor | gateFor | reportFor | verify
  | confirm | retry | cancel => contradiction
  | _ => exact single.quiet rows grows stays rfl

open Trace in
/-- From any store in order, with the workers at rest: along every run of workers, recovery and the
environment in which a gate is called for a SUBMITTING attempt from the RUNNING run of the caller
only, and an item is put back in the queue from the RUNNING run only and before its gate passed,
the gate of each attempt passes at most once. -/
theorem gate_passes_once (s : Sys) (rest : ∀ p, s.phase p = .idle) (fresh : s.passes = [])
    (orderly : s.db.openings.All fun _ o => o.Orderly) (ls : List Label)
    (guarded : Guarded (Sys.step env ident)
      (fun s l => l.inProcess = true ∧ s.inOrder ident l = true) s ls) (i : OpportunityId) :
    (run (Sys.step env ident) s ls).passesOf i ≤ 1 := by
  have none (i : OpportunityId) : s.passesOf i = 0 := by simp [Sys.passesOf, fresh]
  have away (p : ProcId) (w : OpportunityId × RunId) (at_ : (s.phase p).running = some w) : False := by
    rw [rest p] at at_
    contradiction
  have initial : SinglePass s := by
    refine ⟨orderly.mono fun i o here => ⟨here, fun p r at_ => (away p _ at_).elim,
      fun p r armed => (away p _ (Phase.armed_running armed)).elim, fun gone => ?_, fun gone => ?_⟩,
      fun p i r at_ => (away p _ at_).elim, fun p q w at_ => (away p w at_).elim, fun i => ?_⟩
    · exact absurd gone (by simp [none])
    · exact absurd gone (by simp [none])
    · simp [none]
  exact (run_invariant SinglePass (fun s l single ok => step_single l single ok.1 ok.2) initial
    guarded).once i

end Step

/-! ### A worker that was lost and goes on -/

theorem ready_orderly :
    (Sys.holding 1 (Opening.ready 1 "Acme" "Engineer")).db.openings.All fun _ o => o.Orderly := by
  intro row member
  cases List.mem_singleton.mp member
  have idle (r : RunId) : ¬ runningAt (Opening.ready 1 "Acme" "Engineer").runs r := by
    rintro ⟨run, found, -⟩
    contradiction
  exact ⟨fun r r' here => absurd here (idle r), fun r here => absurd here (idle r)⟩

open Trace in
/-- The lease of process 0 lapses while it still maps the form, and process 1 starts the attempt
again. Both then fill the form, and both are told to press: the attempt is SUBMITTING. -/
theorem two_workers_pass :
    ¬ ∀ (s : Sys) (ls : List Label), (∀ p, s.phase p = .idle) → s.passes = [] →
      (s.db.openings.All fun _ o => o.Orderly) → (∀ l ∈ ls, l.inProcess = true) →
      ∀ i, (run (Sys.step .utc toString) s ls).passesOf i ≤ 1 := by
  intro all
  have once := all (.holding 1 (Opening.ready 1 "Acme" "Engineer"))
    [.claim 0 .submit none 1, .start 0 1 .mock, .tick 1000000000, .claim 1 .submit none 1,
      .start 1 1 .mock, .mark 0, .gate 0 [], .mark 1, .gate 1 []]
    (fun p => rfl) rfl ready_orderly (by decide) 1
  exact absurd once (by decide +kernel)

open Trace in
/-- Lost before its mark and recovered, process 0 stays away; process 1 submits. -/
theorem recovered_attempt_passes_once :
    (run (Sys.step .utc toString) (.holding 1 (Opening.ready 1 "Acme" "Engineer"))
      [.claim 0 .submit none 1, .start 0 1 .mock, .crash 0, .tick 1000000000, .recover,
        .claim 1 .submit none 1, .start 1 1 .mock, .mark 1, .gate 1 [], .finish 1 .sent]).passesOf 1
      ≤ 1 :=
  gate_passes_once _ (fun p => rfl) rfl ready_orderly _ (by decide +kernel) 1

end RangeApply
