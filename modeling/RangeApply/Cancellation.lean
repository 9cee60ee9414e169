import RangeApply.Changes
import RangeApply.Served

/-! When a person's cancellation is final: nothing of the attempt is being prepared or executed,
and its PREPARE item ends with it. -/
namespace RangeApply

/-- A PREPARE item that `decide` takes for a person's refusal. -/
def QueueState.refused : QueueState → Bool
  | .cancelled | .failed => true
  | _ => false

structure Opening.Withdrawn (o : Opening) : Prop where
  attempt : ∃ row, o.attempt = some row ∧ row.status = .cancelled ∧ row.holdsSlot = false
  prepare : ∃ item, o.prepare = some item ∧ item.state.refused = true
  submit : ∀ item, o.submit = some item → item.state.cancellable = false
  idle : ∀ r, ¬ runningAt o.runs r

def Away (phase : ProcId → Phase) (i : OpportunityId) : Prop := ∀ p, (phase p).opening ≠ some i

/-- Nothing is under way on the opening, and a cancellation ends its PREPARE item. -/
structure Dormant (phase : ProcId → Phase) (i : OpportunityId) (o : Opening) : Prop where
  away : Away phase i
  idle : ∀ r, ¬ runningAt o.runs r
  prepare : ∃ item, o.prepare = some item ∧ (item.state.idle || item.state.refused) = true

section Items
variable {now : Time} {o : Opening} {item : QueueItem}

theorem refused_still (refused : item.state.refused = true) :
    item.state.waiting = false ∧ item.state.held = false := by
  cases state : item.state <;> simp_all [QueueState.refused, QueueState.waiting, QueueState.held]

theorem closed_still (closed : item.state.cancellable = false) :
    item.state.waiting = false ∧ item.state.held = false := by
  cases state : item.state <;> simp_all [QueueState.cancellable, QueueState.waiting, QueueState.held]

theorem still_claims (still : item.state.waiting = false ∧ item.state.held = false) :
    item.exhausted now = false ∧ item.runnable now = false := by
  simp [QueueItem.exhausted, QueueItem.runnable, still.1, still.2]

theorem onItem_self {action : QueueAction} {lane : Option Lane} {f : QueueItem → QueueItem}
    (same : ∀ item, o.item action = some item → f item = item) : o.onItem action lane f = o := by
  have kept (old : Option QueueItem) (here : ∀ item, old = some item → f item = item) :
      old.map (fun item => if lane = none ∨ lane = some item.lane then f item else item) = old := by
    cases old with
    | none => rfl
    | some item => simp [here item rfl]
  cases action with
  | prepare => simp only [Opening.onItem, kept o.prepare same]
  | submit => simp only [Opening.onItem, kept o.submit same]

theorem Opening.Withdrawn.still (withdrawn : o.Withdrawn) (action : QueueAction)
    (found : o.item action = some item) :
    item.state.waiting = false ∧ item.state.held = false := by
  cases action with
  | prepare =>
    obtain ⟨item', prepare, refused⟩ := withdrawn.prepare
    cases Option.some.inj (prepare.symm.trans found)
    exact refused_still refused
  | submit => exact closed_still (withdrawn.submit item found)

end Items

section Keeps
variable {env : Env} {ident : ProcId → WorkerId} {phase : ProcId → Phase} {db : DB}
  {i : OpportunityId} {s s' : Slice} {worker : WorkerId}

theorem Opening.Withdrawn.no_run (withdrawn : s.opening.Withdrawn) {found : RunId × ExecutionRun} :
    ownRun worker s ≠ .ok found := by
  intro own
  have here := crashedRun_some (ownRun_ok own)
  exact withdrawn.idle found.1 ⟨found.2, here⟩

theorem Opening.Withdrawn.no_start (withdrawn : s.opening.Withdrawn) {x : StartReads}
    {item : QueueItem} {out : StartOutcome} (submit : s.opening.submit = some item) :
    start env x worker s item ≠ .ok (s', out) := by
  intro done
  have still := closed_still (withdrawn.submit item submit)
  rcases (start_step done).1 with held | held <;> simp [held, QueueState.held] at still

theorem Opening.Withdrawn.gateStep (withdrawn : s.opening.Withdrawn) {g : GateReads}
    (step : GateStep env g s s') : s' = s := by
  cases step with
  | kept => rfl
  | checked attempt ok =>
    obtain ⟨row, here, cancelled, -⟩ := withdrawn.attempt
    cases Option.some.inj (here.symm.trans attempt)
    have status := (gateCheck_passed ok).status
    simp [cancelled, expectedStatus] at status

theorem reconcile_free (db : DB) {row : Application} (attempt : s.opening.attempt = some row)
    (free : row.holdsSlot = false) : reconcile env db s = s := by
  unfold reconcile
  rw [attempt]
  split
  · rename_i here _
    cases Option.some.inj here
    simp [free]
  · rfl

theorem decide_refused {ctx : Context} {o : Opening} {co : CandidateOpportunity} {item : QueueItem}
    (prepare : o.prepare = some item) (refused : item.state.refused = true) :
    (decideOpening env ctx o co).admissible = false := by
  rw [Verdict.admissible, decide_eq_false_iff_not, decide_admitted]
  rintro ⟨-, -, -, -, free, -⟩
  cases state : item.state <;>
    simp [preparationVerdict, prepare, state, QueueState.refused] at refused free

theorem op_withdrawn {l : Label} (op : Op env ident phase db i s l s') (auto : l.human = false)
    (away : Away phase i) (withdrawn : s.opening.Withdrawn) : s'.opening.Withdrawn := by
  cases op with
  | world => exact ⟨withdrawn.attempt, withdrawn.prepare, withdrawn.submit, withdrawn.idle⟩
  | exhausted =>
    rw [onItem_self fun item found => by simp [(still_claims (withdrawn.still _ found)).1]]
    exact withdrawn
  | taken =>
    rw [onItem_self fun item found => by simp [(still_claims (withdrawn.still _ found)).2]]
    exact withdrawn
  | started p args item out submit done => exact absurd done (withdrawn.no_start submit)
  | startedFor worker args item out submit done => exact absurd done (withdrawn.no_start submit)
  | marked p r here => exact absurd (by rw [here]; rfl) (away p)
  | gated p r stale here => exact absurd (by rw [here]; rfl) (away p)
  | finished p r ending here =>
    refine absurd ?_ (away p)
    cases at_ : phase p <;> simp_all [Phase.running, Phase.opening]
  | recovered =>
    refine recoverOpening_keeps (fun o r o' withdrawn recovered => ?_) withdrawn
    cases recovered with
    | kept => exact withdrawn
    | orphaned gone =>
      obtain ⟨row, attempt, -⟩ := withdrawn.attempt
      rw [gone] at attempt
      contradiction
    | pressed attempt found running => exact absurd ⟨_, found, running⟩ (withdrawn.idle r)
    | unpressed attempt found running => exact absurd ⟨_, found, running⟩ (withdrawn.idle r)
  | prepareBegun p item item' prepare done =>
    have still := withdrawn.still .prepare prepare
    simp [(QueueItem.start_ok done).2.1, QueueState.held] at still
  | prepareEnded p ending item item' here => exact absurd (by rw [here]; rfl) (away p)
  | reconciled =>
    obtain ⟨row, attempt, -, free⟩ := withdrawn.attempt
    rw [reconcile_free db attempt free]
    exact withdrawn
  | considered window here =>
    cases here with
    | stamped => exact ⟨withdrawn.attempt, withdrawn.prepare, withdrawn.submit, withdrawn.idle⟩
    | admitted co index candidate admissible =>
      obtain ⟨item, prepare, refused⟩ := withdrawn.prepare
      rw [decide_refused prepare refused] at admissible
      contradiction
  | enqueued =>
    obtain ⟨row, attempt, cancelled, -⟩ := withdrawn.attempt
    have same : enqueueReady env db.now s.opening = s.opening := by
      unfold enqueueReady
      split
      · rename_i row' co here _ _
        cases Option.some.inj (attempt.symm.trans here)
        simp [cancelled]
      · rfl
    rw [same]
    exact withdrawn
  | claimedFor worker =>
    refine ⟨withdrawn.attempt, withdrawn.prepare, fun item found => ?_, withdrawn.idle⟩
    obtain ⟨old, submit, rfl⟩ := Option.map_eq_some_iff.mp found
    have still := withdrawn.still .submit submit
    have same : (old.claimItem db.now worker env.leaseSeconds).1 = old := by
      simp [QueueItem.claimItem, still.1, still.2]
    rw [same]
    exact withdrawn.submit old submit
  | beaten worker done =>
    obtain ⟨old, item, submit, extended, rfl⟩ := heartbeat_ok done
    refine ⟨withdrawn.attempt, withdrawn.prepare, fun item found => ?_, withdrawn.idle⟩
    cases Option.some.inj found
    obtain ⟨-, rfl⟩ := QueueItem.extendLease_ok extended
    exact withdrawn.submit old submit
  | gatedFor worker stale answer done =>
    rcases gate_ok done with ⟨-, step⟩ | ⟨found, own, -, -⟩
    · rw [withdrawn.gateStep step]
      exact withdrawn
    · exact absurd own withdrawn.no_run
  | reported worker r v done =>
    obtain ⟨found, row, item, w, own, -⟩ := reportResult_ok done
    exact absurd own withdrawn.no_run
  | verified => contradiction
  | confirmed => contradiction
  | retried => contradiction
  | cancelled => contradiction

end Keeps

/-! ### Runs -/

section Run
variable {env : Env} {ident : ProcId → WorkerId} {s : Sys} {i : OpportunityId}

/-- A process takes an opening up by `start` or by beginning its package only. -/
theorem step_away (l : Label) (away : Away s.phase i)
    (unstarted : ∀ p args r, l = .start p i args →
      (s.db.start env (ident p) i args).2 ≠ some (.started r))
    (unpacked : ∀ p, l = .beginPrepare p i → (s.db.beginPrepare (ident p) i).2 = none) :
    Away (s.step env ident l).phase i := by
  have entered (p : ProcId) (phase : Phase) (db : DB) (elsewhere : phase.opening ≠ some i) :
      Away (s.enter p phase db).phase i := by
    intro q
    by_cases mine : q = p
    · simpa [Sys.enter, mine] using elsewhere
    · simpa [Sys.enter, mine] using away q
  have stays (p : ProcId) (phase : Phase) (db : DB)
      (same : phase.opening = (s.phase p).opening) : Away (s.enter p phase db).phase i :=
    entered p phase db (same ▸ away p)
  cases l with
  | start p j args =>
    simp only [Sys.step, Sys.startStep]
    split
    · split
      · rename_i db r started
        refine entered p _ db fun here => ?_
        cases Option.some.inj here
        exact unstarted p args r rfl (congrArg Prod.snd started)
      · exact away
    · exact away
  | beginPrepare p j =>
    simp only [Sys.step, Sys.beginPrepareStep]
    split
    · split
      · rename_i db began
        refine entered p _ db fun here => ?_
        cases Option.some.inj here
        have missing := unpacked p rfl
        rw [began] at missing
        contradiction
      · exact away
    · exact away
  | mark p =>
    simp only [Sys.step, Sys.markStep]
    split
    · rename_i at_
      exact stays p _ _ (by rw [at_]; rfl)
    · exact away
  | gate p stale =>
    simp only [Sys.step, Sys.gateStep]
    split
    · rename_i at_
      exact stays p _ s.db (by rw [at_]; rfl)
    · exact away
  | finish p ending =>
    simp only [Sys.step, Sys.finishStep]
    split
    · exact entered p _ _ (by simp [Phase.opening])
    · exact entered p _ _ (by simp [Phase.opening])
    · exact entered p _ _ (by simp [Phase.opening])
    · exact away
  | endPrepare p ending =>
    simp only [Sys.step, Sys.endPrepareStep]
    split
    · exact entered p _ _ (by simp [Phase.opening])
    · exact away
  | crash p => exact entered p _ _ (by simp [Phase.opening])
  | claim p action lane limit =>
    simp only [Sys.step, Sys.claimStep]
    split <;> exact away
  | _ => exact away

structure Final (i : OpportunityId) (s : Sys) : Prop where
  away : Away s.phase i
  withdrawn : ∃ o, s.db.openings.get i = some o ∧ o.Withdrawn

theorem step_final (l : Label) (final : Final i s) (auto : l.human = false) :
    Final i (s.step env ident l) := by
  obtain ⟨away, o, found, withdrawn⟩ := final
  refine ⟨step_away l away ?_ ?_, ?_⟩
  · rintro p args r rfl started
    obtain ⟨o₁, item, s', found₁, submit, done, -⟩ := DB.start_some env started
    cases Option.some.inj (found.symm.trans found₁)
    exact Opening.Withdrawn.no_start withdrawn submit done
  · rintro p rfl
    cases began : (s.db.beginPrepare (ident p) i).2 with
    | none => rfl
    | some a =>
      obtain ⟨o₁, s', found₁, done, -⟩ := DB.act_some began
      cases Option.some.inj (found.symm.trans found₁)
      obtain ⟨rows, begun, -⟩ := map_ok.mp done
      dsimp only at begun
      split at begun
      · contradiction
      · rename_i item prepare
        obtain ⟨item', started, -⟩ := map_ok.mp begun
        have still := withdrawn.still .prepare prepare
        simp [(QueueItem.start_ok started).2.1, QueueState.held] at still
  · exact (Sys.step_ops env ident s l).opening Opening.Withdrawn
      (fun db₁ o s' _ withdrawn op => op_withdrawn op auto away withdrawn) (arrive_get l found)
      withdrawn

theorem cancelWhen_ok {closes : QueueState → Bool} {now : Time} {item item' : Option QueueItem}
    (done : cancelWhen closes now item = .ok item') : item' = item ∧
      (∀ row, item = some row → closes row.state = false) ∨
      ∃ row, item = some row ∧ closes row.state = true ∧ ∃ row', item' = some row' ∧
        row'.state = .cancelled ∧ row'.claimedBy = none := by
  unfold cancelWhen at done
  split at done
  · exact .inl ⟨(Except.ok.inj done).symm, fun row found => by contradiction⟩
  · rename_i row
    split at done
    · rename_i here
      obtain ⟨row', cancelled, rfl⟩ := map_ok.mp done
      obtain ⟨-, rfl⟩ := QueueItem.cancel_ok cancelled
      exact .inr ⟨row, rfl, here, _, rfl, rfl, rfl⟩
    · rename_i kept
      refine .inl ⟨(Except.ok.inj done).symm, fun row' found => ?_⟩
      cases Option.some.inj found
      simpa using kept

theorem cancel_withdraws {now : Time} {actor : String} {reason : Option String} {o : Opening}
    {ledger : CapLedger} {s' : Slice} {phase : ProcId → Phase}
    (done : cancel now actor reason ⟨o, ledger⟩ = .ok s') (dormant : Dormant phase i o) :
    s'.opening.Withdrawn := by
  obtain ⟨row, submit, prepare, attempt, -, closed, ended, rfl⟩ := cancel_ok done
  refine ⟨?_, ?_, ?_, dormant.idle⟩
  · exact ⟨_, rfl, Application.release_spec now row ledger .cancelled
      (textOr reason s!"cancelled by {actor}")⟩
  · obtain ⟨item, there, open_⟩ := dormant.prepare
    rcases cancelWhen_ok ended with ⟨same, kept⟩ | ⟨row', -, -, item', found, cancelled, -⟩
    · refine ⟨item, same.trans there, ?_⟩
      simpa [kept item there] using open_
    · exact ⟨item', found, by rw [cancelled]; rfl⟩
  · intro item found
    rcases cancelWhen_ok closed with ⟨same, kept⟩ | ⟨row', -, -, item', found', cancelled, -⟩
    · exact kept item (same.symm.trans found)
    · cases Option.some.inj (found.symm.trans found')
      rw [cancelled]
      rfl

open Trace in
/-- A cancellation that goes through while nothing of the opening is under way, and whose PREPARE
item is neither SUCCEEDED nor in a worker's hands, stays: no sequence of automatic steps takes
the attempt up again. -/
theorem cancelled_stays (s : Sys) (i : OpportunityId) (actor : String) (reason : Option String)
    (cancels : s.cancels i actor reason = true)
    (dormant : ∀ o, s.db.openings.get i = some o → Dormant s.phase i o)
    (ls : List Label) (auto : ∀ l ∈ ls, l.human = false) :
    (run (Sys.step env ident) (s.step env ident (.cancel i actor reason)) ls).attemptStatus i =
      some .cancelled := by
  obtain ⟨a, answered⟩ := Option.isSome_iff_exists.mp cancels
  obtain ⟨o, s₁, found, done, stored⟩ := DB.act_some answered
  obtain ⟨s₂, cancelled, same⟩ := map_ok.mp done
  cases (Prod.mk.inj same).1
  have initial : Final i (s.step env ident (.cancel i actor reason)) := by
    refine ⟨(dormant o found).away, s₁.opening, ?_, cancel_withdraws cancelled (dormant o found)⟩
    exact (congrArg (fun db => db.openings.get i) stored).trans (DB.get_put_self s₁ found)
  have guarded : Guarded (Sys.step env ident) (fun _ l => l.human = false)
      (s.step env ident (.cancel i actor reason)) ls := guarded_of_forall auto _
  obtain ⟨-, o', found', withdrawn⟩ :=
    run_invariant (Final i) (fun s l final auto => step_final l final auto) initial guarded
  obtain ⟨row, attempt, status, -⟩ := withdrawn.attempt
  simp only [Sys.attemptStatus, found', Option.bind_some, attempt, Option.map_some, status]

end Run

def Opening.admitted : Opening :=
  { Opening.strong 1 "Acme" "Engineer" with
    candidate := some (.strong .queued)
    attempt := some ((Application.fresh 0).withSlot 0 ⟨⟨"0", 0, days 1⟩, "0", 0, days 7⟩ none none)
    prepare := some (.fresh 0 .prepare .auto 0 3) }

open Trace in
/-- Cancelled before its package is begun, the attempt is not taken up by the next run of the
scheduler. -/
theorem cancelled_before_packaging_stays :
    (run (Sys.step .utc toString) ((Sys.holding 1 .admitted).step .utc toString
      (.cancel 1 "me" none)) [.schedule 10]).attemptStatus 1 = some .cancelled := by
  refine cancelled_stays (Sys.holding 1 .admitted) 1 "me" none rfl (fun o found => ?_) _ (by decide)
  cases Option.some.inj found
  refine ⟨fun p here => ?_, fun r ⟨run, found, _⟩ => ?_, _, rfl, rfl⟩
  · cases here
  · cases found

def ApplicationStatus.revived : ApplicationStatus → Bool
  | .qualified | .ready | .submitting => true
  | _ => false

open Trace in
/-- Cancelled when its package is done, the attempt is READY again after the next run. -/
theorem cancelled_after_packaging_revived :
    ¬ ∀ before after : List Label, (∀ l ∈ after, l.human = false) →
      let s := run (Sys.step .utc toString) (.initial .initial 0) before
      s.cancels 1 "me" none = true →
      ∀ status, (run (Sys.step .utc toString) (s.step .utc toString (.cancel 1 "me" none))
        after).attemptStatus 1 = some status → status.revived = false := by
  intro all
  have kept := all (Label.prepares 1 "Acme" "Engineer") [.schedule 10] (by decide)
    (by decide +kernel) .ready (by decide +kernel)
  exact absurd kept (by decide)

end RangeApply
