import RangeApply.Overtaking
import RangeApply.Ownership
import RangeApply.System
import RangeApply.Versions

/-! The loops of the workers. A batch of items is claimed at once and handled one item after the
other, while other workers and people go on with the same queue. -/
namespace RangeApply

/-! ### What the others do -/

/-- The worker in whose name a call on a row is made. -/
def ItemOp.worker : ItemOp → Option WorkerId
  | .extendLease worker _ | .start worker | .release worker | .succeed worker
  | .fail worker _ _ | .block worker _ => some worker
  | .needsReview _ | .resolve | .cancel | .requeue _ _ => none

namespace Repo

def actor (s : Repo) : Call → Option WorkerId
  | .select _ worker _ _ _ _ | .selectItem _ worker _ _ => some worker
  | .update p => (s.calls.get p).map (·.worker)
  | .op _ o => o.worker
  | _ => none

/-- Calls of anybody but the worker. -/
def others (worker : WorkerId) (s : Repo) (calls : List Call) : Repo :=
  calls.foldl (fun s c => if s.actor c = some worker then s else s.step c) s

/-- The item is CLAIMED or PROCESSING in the worker's name. -/
def Holds (s : Repo) (worker : WorkerId) (i : ItemId) : Prop :=
  ∃ row, s.items.get i = some row ∧ row.state.held = true ∧ row.claimedBy = some worker

instance (s : Repo) (worker : WorkerId) (i : ItemId) : Decidable (s.Holds worker i) :=
  decidable_of_iff
    (((s.items.get i).any fun row => row.state.held && decide (row.claimedBy = some worker)) = true)
    (by cases found : s.items.get i <;> simp [Holds, found])

variable {s : Repo} {worker : WorkerId} {i : ItemId}

theorem lease_actor {l : Call} {j : ItemId} {w : WorkerId} {until_ : Time}
    (leased : s.lease l = some (j, w, until_)) : s.actor l = some w := by
  cases l with
  | update p =>
    obtain ⟨taken, taking, same⟩ := Option.map_eq_some_iff.mp leased
    obtain ⟨call, k, row⟩ := taken
    obtain ⟨open_, -⟩ := taking_ok taking
    cases same
    simp only [actor, open_, Option.map_some]
  | op k o =>
    cases o with
    | extendLease v seconds =>
      simp only [lease] at leased
      split at leased
      · cases leased
        rfl
      · cases leased
    | _ => cases leased
  | _ => cases leased

/-- Nobody else gives an item to the worker. -/
theorem step_holds {l : Call} (other : s.actor l ≠ some worker)
    (holds : (s.step l).Holds worker i) : s.Holds worker i := by
  obtain ⟨row', found', held, own⟩ := holds
  cases found : s.items.get i with
  | none =>
    obtain ⟨_, _, _, -, rfl⟩ := step_new found found'
    cases held
  | some row =>
    obtain ⟨row₁, here, change⟩ := step_row l found
    cases Option.some.inj (here.symm.trans found')
    rcases change.held found held with ⟨before, same, -⟩ | ⟨w, until_, leased, taken, -⟩
    · exact ⟨row, found, before, same.symm.trans own⟩
    · cases Option.some.inj (taken.symm.trans own)
      exact absurd (lease_actor leased) other

theorem others_holds (calls : List Call) (holds : (s.others worker calls).Holds worker i) :
    s.Holds worker i := by
  induction calls generalizing s with
  | nil => exact holds
  | cons c calls ih =>
    have before := ih holds
    dsimp only at before
    split at before
    · exact before
    · exact step_holds ‹_› before

/-- The row as a call leaves it. -/
def store (s : Repo) (i : ItemId) (row : QueueItem) : Repo :=
  { s with items := s.items.put i row }

theorem store_holds {row : QueueItem} {j : ItemId} (holds : (s.store i row).Holds worker j) :
    (j = i ∧ row.state.held = true ∧ row.claimedBy = some worker) ∨ j ≠ i ∧ s.Holds worker j := by
  obtain ⟨row', found, held, own⟩ := holds
  by_cases here : j = i
  · subst here
    cases missing : s.items.get j with
    | none =>
      rw [store, Table.get_put_none _ missing] at found
      cases found
    | some old =>
      rw [store, Table.get_put_self missing] at found
      cases found
      exact .inl ⟨rfl, held, own⟩
  · rw [store, Table.get_put_other _ _ here] at found
    exact .inr ⟨here, row', found, held, own⟩

theorem holds_store {row : QueueItem} {j : ItemId} (holds : s.Holds worker j) (elsewhere : j ≠ i) :
    (s.store i row).Holds worker j := by
  obtain ⟨row', found, rest⟩ := holds
  exact ⟨row', (Table.get_put_other _ _ elsewhere).trans found, rest⟩

/-- A call of the worker itself, whose refusal is raised. -/
def onRow (s : Repo) (i : ItemId) (f : QueueItem → Res QueueItem) : Except Raised Repo :=
  match s.items.get i with
  | none => .error ⟨"ObjectDeletedError", "the row was deleted"⟩
  | some row =>
    match f row with
    | .error e => .error e.raised
    | .ok row => .ok (s.store i row)

theorem onRow_ok {f : QueueItem → Res QueueItem} {s' : Repo} :
    s.onRow i f = .ok s' ↔
      ∃ row row', s.items.get i = some row ∧ f row = .ok row' ∧ s' = s.store i row' := by
  unfold onRow
  cases s.items.get i with
  | none => simp
  | some row => cases done : f row <;> simp [done, eq_comm]

end Repo

/-! ### The PREPARE queue -/

/-- The turn of a claimed PREPARE item: what the others do before it and while the package is made,
how the preparation ends, and what is raised outside its `try`, beside the conflicts of the
queue. -/
structure PrepareTurn where
  opening : OpportunityId
  before : List Call
  starting : Option Raised
  during : List Call
  ending : PrepareEnding
  settling : Option Raised

def raising {α : Type} (e : Option Raised) (next : Except Raised α) : Except Raised α :=
  match e with
  | some e => .error e
  | none => next

theorem raising_ok {α : Type} {e : Option Raised} {next : Except Raised α} {a : α} :
    raising e next = .ok a ↔ e = none ∧ next = .ok a := by
  cases e <;> simp [raising]

theorem raised_bind_ok {α β : Type} {x : Except Raised α} {f : α → Except Raised β} {b : β} :
    (x >>= f) = .ok b ↔ ∃ a, x = .ok a ∧ f a = .ok b := by
  cases x <;> simp [bind, Except.bind]

namespace PrepareTurn
variable (worker : WorkerId) (s : Repo) (t : PrepareTurn)

def item : ItemId := (t.opening, .prepare)

/-- The queue when the item's turn comes. -/
def met : Repo := s.others worker t.before

end PrepareTurn

section Prepare
variable (worker : WorkerId) (s : Repo) (t : PrepareTurn)

/-- `process_prepare_item`. -/
def processPrepareItem : Except Raised Repo :=
  raising t.starting do
    let begun ← (t.met worker s).onRow t.item fun row => row.start (t.met worker s).now worker
    let s := begun.others worker t.during
    raising t.settling (s.onRow t.item (settlePrepareItem s.now worker t.ending))

/-- `run_prepare_queue`, once the items are claimed. -/
def runPrepareQueue (turns : List PrepareTurn) : Except Raised Repo :=
  turns.foldlM (processPrepareItem worker) s

end Prepare

/-! ### When a prepared item is settled -/

section Prepared
variable {worker : WorkerId} {s s' : Repo} {t : PrepareTurn}

theorem settlePrepareItem_unheld {now : Time} {ending : PrepareEnding} {row row' : QueueItem}
    (done : settlePrepareItem now worker ending row = .ok row') : row'.state.held = false := by
  unfold settlePrepareItem at done
  have failed {error : String} {retryable : Bool}
      (done : row.fail now worker error retryable = .ok row') : row'.state.held = false := by
    obtain ⟨-, ⟨-, -, state, -⟩ | ⟨-, state, -⟩, -⟩ := QueueItem.fail_ok done
    · rw [state]
      rfl
    · rw [state]
      rfl
  split at done
  · obtain ⟨-, rfl⟩ := QueueItem.block_ok done
    rfl
  · exact failed done
  · obtain ⟨-, rfl⟩ := QueueItem.succeed_ok done
    rfl
  · obtain ⟨-, rfl⟩ := QueueItem.block_ok done
    rfl
  · cases done
    rfl
  · exact failed done

/-- An item is settled by its owner, and put up for review by anybody. -/
theorem settlePrepareItem_iff {now : Time} {ending : PrepareEnding} {row : QueueItem} :
    (∃ row', settlePrepareItem now worker ending row = .ok row') ↔
      ending = .prepared .needsReview ∨ row.claimedBy = some worker := by
  by_cases own : row.claimedBy = some worker
  · refine ⟨fun _ => .inr own, fun _ => ?_⟩
    have failed (error : String) (retryable : Bool) :
        ∃ row', row.fail now worker error retryable = .ok row' := by
      unfold QueueItem.fail QueueItem.owned
      rw [if_pos own]
      dsimp only
      split
      · exact ⟨_, rfl⟩
      · exact ⟨_, rfl⟩
    unfold settlePrepareItem
    split
    · exact ⟨_, if_pos own⟩
    · exact failed _ _
    · exact ⟨_, if_pos own⟩
    · exact ⟨_, if_pos own⟩
    · exact ⟨_, rfl⟩
    · exact failed _ _
  · simp only [own, or_false]
    constructor
    · rintro ⟨row', done⟩
      unfold settlePrepareItem at done
      split at done
      · exact absurd (QueueItem.block_ok done).1 own
      · exact absurd (QueueItem.fail_ok done).1 own
      · exact absurd (QueueItem.succeed_ok done).1 own
      · exact absurd (QueueItem.block_ok done).1 own
      · rfl
      · exact absurd (QueueItem.fail_ok done).1 own
    · rintro rfl
      exact ⟨_, rfl⟩

/-- Nothing comes between a turn and its end: nothing else is raised, the item is still CLAIMED for
the worker when its turn comes, and still the worker's when it is settled. -/
structure PrepareTurn.Undisturbed (worker : WorkerId) (s : Repo) (t : PrepareTurn) : Prop where
  quiet : t.starting = none ∧ t.settling = none
  claimed : ∃ row, (t.met worker s).items.get t.item = some row ∧ row.state = .claimed ∧
    row.claimedBy = some worker ∧
    ∃ row', ((((t.met worker s).store t.item { row with
        state := .processing, updatedAt := (t.met worker s).now }).others worker t.during).items.get
      t.item) = some row' ∧
      (t.ending = .prepared .needsReview ∨ row'.claimedBy = some worker)

theorem processPrepareItem_iff :
    (∃ s', processPrepareItem worker s t = .ok s') ↔ t.Undisturbed worker s := by
  unfold processPrepareItem
  simp only [raising_ok, raised_bind_ok, Repo.onRow_ok, start_iff]
  constructor
  · rintro ⟨s', starting, begun, ⟨row, _, found, ⟨own, claimed, rfl⟩, rfl⟩, settling,
      row', row'', found', done, -⟩
    exact ⟨⟨starting, settling⟩, row, found, claimed, own, row', found',
      settlePrepareItem_iff.mp ⟨row'', done⟩⟩
  · rintro ⟨⟨starting, settling⟩, row, found, claimed, own, row', found', owned⟩
    obtain ⟨row'', done⟩ := settlePrepareItem_iff.mpr owned
    exact ⟨_, starting, _, ⟨row, _, found, ⟨own, claimed, rfl⟩, rfl⟩, settling, row', row'',
      found', done, rfl⟩

/-- A turn that ends leaves its item to nobody or to somebody else, and gives the worker none. -/
theorem processPrepareItem_holds (done : processPrepareItem worker s t = .ok s') {i : ItemId}
    (holds : s'.Holds worker i) : i ≠ t.item ∧ s.Holds worker i := by
  unfold processPrepareItem at done
  simp only [raising_ok, raised_bind_ok, Repo.onRow_ok] at done
  obtain ⟨-, begun, ⟨row, row₁, -, -, rfl⟩, -, row', row'', -, settled, rfl⟩ := done
  rcases Repo.store_holds holds with ⟨-, held, -⟩ | ⟨elsewhere, holds⟩
  · rw [settlePrepareItem_unheld settled] at held
    cases held
  · refine ⟨elsewhere, ?_⟩
    rcases Repo.store_holds (Repo.others_holds t.during holds) with ⟨here, -⟩ | ⟨-, holds⟩
    · exact absurd here elsewhere
    · exact Repo.others_holds t.before holds

end Prepared

/-! ### The SUBMIT queue -/

/-- A `CareerOSError`, or any other exception. -/
inductive Thrown
  | domain (e : Error)
  | other (e : Raised)

/-- The turn of a claimed SUBMIT item: what the others do before it and while the form is filled,
the other rows of the opening at both times, and what is raised before `start` is committed and
before the result is reported, beside what `start` and the report refuse. -/
structure ExecuteTurn where
  opening : OpportunityId
  before : List Call
  rows : Slice
  typed : ∀ item, rows.opening.prepare = some item → item.action = .prepare
  reads : StartReads
  starting : Option Thrown
  during : List Call
  rowsAfter : Slice
  reporting : Option Thrown
  policy : ApplicationPolicy
  dryRun : Bool
  ending : Ending

def Slice.withItem (rows : Slice) (row : QueueItem) : Slice :=
  { rows with opening := { rows.opening with submit := some row } }

def Repo.keep (s : Repo) (i : ItemId) (rows : Slice) : Repo :=
  match rows.opening.submit with
  | none => s
  | some row => s.store i row

namespace ExecuteTurn
variable (env : Env) (worker : WorkerId) (s : Repo) (t : ExecuteTurn)

def item : ItemId := (t.opening, .submit)

def met : Repo := s.others worker t.before

def readsAt (now : Time) : StartReads := { t.reads with check := { t.reads.check with now } }

/-- `start` of the item. -/
def start (row : QueueItem) : Res (Slice × StartOutcome) :=
  RangeApply.start env (t.readsAt (t.met worker s).now) worker (t.rows.withItem row) row

/-- The queue when the result is reported. -/
def filled (rows : Slice) : Repo := ((t.met worker s).keep t.item rows).others worker t.during

end ExecuteTurn

section Execute
variable (env : Env) (worker : WorkerId) (s : Repo) (t : ExecuteTurn)

/-- The second half of `execute`: what is stored, and what is raised. -/
def reportItem (s : Repo) (r : RunId) : Repo × Option Thrown :=
  match t.reporting, s.items.get t.item with
  | some e, _ => (s, some e)
  | none, none => (s, some (.domain (.notFound "Queue item not found")))
  | none, some row =>
    match finishRun env t.policy s.now worker r t.dryRun t.ending (t.rowsAfter.withItem row) with
    | .error e => (s, some (.domain e))
    | .ok rows => (s.keep t.item rows, none)

/-- `execute`. -/
def execute : Repo × Option Thrown :=
  match t.starting, (t.met worker s).items.get t.item with
  | some e, _ => (t.met worker s, some e)
  | none, none => (t.met worker s, some (.domain (.notFound "Queue item not found")))
  | none, some row =>
    match t.start env worker s row with
    | .error e => (t.met worker s, some (.domain e))
    | .ok (rows, .started r) => reportItem env worker t (t.filled worker s rows) r
    | .ok (rows, .noExecutor) =>
      ((t.met worker s).keep t.item rows, some (.domain (.validationFailed
        ("No executor registered for " ++ t.reads.executorKind.value))))
    | .ok (rows, _) => ((t.met worker s).keep t.item rows, none)

/-- One turn of `run_queue`: a `CareerOSError` is counted, and the loop goes on. -/
def executeItem : Except Raised Repo :=
  match execute env worker s t with
  | (_, some (.other e)) => .error e
  | (s, _) => .ok s

/-- `run_queue`, once the items are claimed. -/
def runQueue (turns : List ExecuteTurn) : Except Raised Repo :=
  turns.foldlM (executeItem env worker) s

end Execute

/-! ### When an executed item is out of the worker's hands -/

section Executed
variable {env : Env} {worker : WorkerId} {s s' : Repo} {t : ExecuteTurn}

namespace ExecuteTurn

/-- `start` has begun an execution of the item. -/
def Begins (env : Env) (worker : WorkerId) (s : Repo) (t : ExecuteTurn) (r : RunId) (rows : Slice) :
    Prop :=
  t.starting = none ∧ ∃ row, (t.met worker s).items.get t.item = some row ∧
    t.start env worker s row = .ok (rows, .started r)

/-- No exception leaves `execute` but a `CareerOSError`. -/
structure Calm (env : Env) (worker : WorkerId) (s : Repo) (t : ExecuteTurn) : Prop where
  starting : ∀ e, t.starting ≠ some (.other e)
  reporting : ∀ r rows, t.Begins env worker s r rows → ∀ e, t.reporting ≠ some (.other e)

/-- A `CareerOSError` comes only when the worker no longer holds the item; with the item in hand
the result that is reported is one that the attempt may take. -/
structure Spared (env : Env) (worker : WorkerId) (s : Repo) (t : ExecuteTurn) : Prop where
  starting : t.starting ≠ none → ¬(t.met worker s).Holds worker t.item
  reporting : ∀ r rows, t.Begins env worker s r rows → t.reporting ≠ none →
    ¬(t.filled worker s rows).Holds worker t.item
  legal : ∀ r rows, t.Begins env worker s r rows → t.reporting = none →
    (t.filled worker s rows).Holds worker t.item →
      Reportable t.rowsAfter.opening r t.dryRun t.ending

end ExecuteTurn

theorem start_at {row : QueueItem} {rows : Slice} {out : StartOutcome}
    (done : t.start env worker s row = .ok (rows, out)) :
    (row.state.held = true ∧ row.claimedBy = some worker) ∧
      ∃ row', rows.opening.submit = some row' ∧
        (row'.state.held = false ∨ (∃ r, out = .started r) ∧ row'.Own worker) := by
  obtain ⟨state, own, -⟩ := start_step done
  refine ⟨⟨?_, own⟩, start_left done⟩
  rcases state with claimed | processing
  · rw [claimed]
    rfl
  · rw [processing]
    rfl

theorem start_refused {row : QueueItem} {e : Error} (found : (t.met worker s).items.get t.item =
      some row) (refused : t.start env worker s row = .error e) :
    ¬(t.met worker s).Holds worker t.item := by
  rintro ⟨row', same, held, own⟩
  cases Option.some.inj (found.symm.trans same)
  obtain ⟨done, started⟩ : ∃ done, t.start env worker s row = .ok done :=
    start_owner held own t.typed
  rw [refused] at started
  cases started

theorem keep_eq {i : ItemId} {rows : Slice} {row : QueueItem}
    (submit : rows.opening.submit = some row) : s.keep i rows = s.store i row := by
  simp only [Repo.keep, submit]

/-- The end of a turn whose result is reported. -/
theorem reportItem_unheld {r : RunId} {e : Option Thrown}
    (reported : reportItem env worker t s r = (s', e)) :
    (¬s'.Holds worker t.item ↔
      (t.reporting ≠ none → ¬s.Holds worker t.item) ∧
        (t.reporting = none → s.Holds worker t.item →
          Reportable t.rowsAfter.opening r t.dryRun t.ending)) ∧
      ((∃ error, e = some (.other error)) ↔ ∃ error, t.reporting = some (.other error)) := by
  unfold reportItem at reported
  cases raised : t.reporting with
  | some thrown =>
    rw [raised] at reported
    cases reported
    simp
  | none =>
    rw [raised] at reported
    cases found : s.items.get t.item with
    | none =>
      rw [found] at reported
      cases reported
      have absent : ¬s.Holds worker t.item := by
        rintro ⟨row, there, -⟩
        rw [found] at there
        cases there
      simp [absent]
    | some row =>
      rw [found] at reported
      dsimp only at reported
      cases finished : finishRun env t.policy s.now worker r t.dryRun t.ending
          (t.rowsAfter.withItem row) with
      | error refused =>
        rw [finished] at reported
        cases reported
        refine ⟨?_, by simp⟩
        simp only [ne_eq, not_true_eq_false, false_implies, true_and, true_implies]
        refine ⟨fun absent holds => absurd holds absent, fun reportable holds => ?_⟩
        have legal := reportable holds
        obtain ⟨_, same, -, own⟩ := holds
        cases Option.some.inj (found.symm.trans same)
        obtain ⟨rows, done⟩ : ∃ rows, finishRun env t.policy s.now worker r t.dryRun t.ending
            (t.rowsAfter.withItem row) = .ok rows := (finishRun_owner own rfl).mpr legal
        rw [finished] at done
        cases done
      | ok rows =>
        rw [finished] at reported
        cases reported
        obtain ⟨row', submit, unheld⟩ := finishRun_left finished
        refine ⟨?_, by simp⟩
        rw [keep_eq submit]
        simp only [ne_eq, not_true_eq_false, false_implies, true_and, true_implies]
        refine ⟨fun _ holds => ?_, fun _ holds => ?_⟩
        · obtain ⟨_, same, -, own⟩ := holds
          cases Option.some.inj (found.symm.trans same)
          have reportable : Reportable (t.rowsAfter.withItem row).opening r t.dryRun t.ending :=
            (finishRun_owner own rfl).mp ⟨rows, finished⟩
          exact reportable
        · rcases Repo.store_holds holds with ⟨-, held, -⟩ | ⟨elsewhere, -⟩
          · rw [unheld] at held
            cases held
          · exact elsewhere rfl

/-- How far a turn comes. -/
inductive Execution (env : Env) (worker : WorkerId) (s : Repo) (t : ExecuteTurn) :
    Repo × Option Thrown → Prop
  | raised (e : Thrown) (starting : t.starting = some e)
      (idle : ∀ r rows, ¬t.Begins env worker s r rows) :
      Execution env worker s t (t.met worker s, some e)
  | refused (e : Error) (starting : t.starting = none)
      (idle : ∀ r rows, ¬t.Begins env worker s r rows)
      (lost : ¬(t.met worker s).Holds worker t.item) :
      Execution env worker s t (t.met worker s, some (.domain e))
  | left (row : QueueItem) (thrown : Option Thrown) (starting : t.starting = none)
      (idle : ∀ r rows, ¬t.Begins env worker s r rows)
      (unheld : row.state.held = false) (domestic : ∀ e, thrown ≠ some (.other e)) :
      Execution env worker s t ((t.met worker s).store t.item row, thrown)
  | begun (r : RunId) (rows : Slice) (begins : t.Begins env worker s r rows) :
      Execution env worker s t (reportItem env worker t (t.filled worker s rows) r)

theorem execute_execution (env : Env) (worker : WorkerId) (s : Repo) (t : ExecuteTurn) :
    Execution env worker s t (execute env worker s t) := by
  unfold execute
  cases starting : t.starting with
  | some e =>
    apply Execution.raised e starting
    rintro r rows ⟨quiet, -⟩
    rw [starting] at quiet
    cases quiet
  | none =>
    cases found : (t.met worker s).items.get t.item with
    | none =>
      apply Execution.refused _ starting
      · rintro r rows ⟨-, row, there, -⟩
        rw [found] at there
        cases there
      · rintro ⟨row, there, -⟩
        rw [found] at there
        cases there
    | some row =>
      dsimp only
      have only {out : Res (Slice × StartOutcome)} (started : t.start env worker s row = out)
          (other : ∀ r rows, out ≠ .ok (rows, .started r)) (r : RunId) (rows : Slice) :
          ¬t.Begins env worker s r rows := by
        rintro ⟨-, row', there, begun⟩
        cases Option.some.inj (found.symm.trans there)
        exact other r rows (started.symm.trans begun)
      cases started : t.start env worker s row with
      | error e =>
        exact .refused e starting (only started (by simp)) (start_refused found started)
      | ok done =>
        obtain ⟨rows, out⟩ := done
        obtain ⟨-, row', submit, left⟩ := start_at started
        cases out with
        | started r => exact .begun r rows ⟨starting, row, found, started⟩
        | _ =>
          dsimp only
          rw [keep_eq submit]
          refine .left row' _ starting (only started (by simp)) (left.resolve_right ?_) (by simp)
          rintro ⟨⟨r, same⟩, -⟩
          cases same

theorem begins_unique {r r' : RunId} {rows rows' : Slice} (begins : t.Begins env worker s r rows)
    (begins' : t.Begins env worker s r' rows') : r' = r ∧ rows' = rows := by
  obtain ⟨-, row, found, started⟩ := begins
  obtain ⟨-, row', found', started'⟩ := begins'
  cases Option.some.inj (found.symm.trans found')
  cases started.symm.trans started'
  exact ⟨rfl, rfl⟩

theorem executeItem_ok {s' : Repo} : executeItem env worker s t = .ok s' ↔
    ∃ e, execute env worker s t = (s', e) ∧ ∀ error, e ≠ some (.other error) := by
  unfold executeItem
  obtain ⟨stored, thrown⟩ := execute env worker s t
  cases thrown with
  | none => simp
  | some e => cases e <;> simp

theorem executeItem_calm :
    (∃ s', executeItem env worker s t = .ok s') ↔ t.Calm env worker s := by
  simp only [executeItem_ok]
  have came := execute_execution env worker s t
  generalize execute env worker s t = result at came
  cases came with
  | raised e starting idle =>
    constructor
    · rintro ⟨s', _, same, domestic⟩
      cases same
      exact ⟨fun error raised => domestic error (starting.symm.trans raised),
        fun r rows begins => absurd begins (idle r rows)⟩
    · intro calm
      refine ⟨_, _, rfl, fun error raised => calm.starting error ?_⟩
      rw [starting, raised]
  | refused e starting idle lost =>
    refine iff_of_true ⟨_, _, rfl, by simp⟩ ⟨by simp [starting], fun r rows begins => ?_⟩
    exact absurd begins (idle r rows)
  | left row thrown starting idle unheld domestic =>
    refine iff_of_true ⟨_, _, rfl, domestic⟩ ⟨by simp [starting], fun r rows begins => ?_⟩
    exact absurd begins (idle r rows)
  | begun r rows begins =>
    generalize reported : reportItem env worker t (t.filled worker s rows) r = result
    obtain ⟨stored, thrown⟩ := result
    obtain ⟨-, escapes⟩ := reportItem_unheld reported
    constructor
    · rintro ⟨s', _, same, domestic⟩
      cases same
      refine ⟨by simp [begins.1], fun r' rows' _ error raised => ?_⟩
      obtain ⟨error', other⟩ := escapes.mpr ⟨error, raised⟩
      exact domestic error' other
    · intro calm
      refine ⟨_, _, rfl, fun error other => ?_⟩
      obtain ⟨error', raised⟩ := escapes.mp ⟨error, other⟩
      exact calm.reporting r rows begins error' raised

theorem executeItem_spared (done : executeItem env worker s t = .ok s') :
    ¬s'.Holds worker t.item ↔ t.Spared env worker s := by
  obtain ⟨thrown, executed, -⟩ := executeItem_ok.mp done
  have came := execute_execution env worker s t
  rw [executed] at came
  have idly (starting : t.starting = none) (idle : ∀ r rows, ¬t.Begins env worker s r rows) :
      t.Spared env worker s :=
    ⟨by simp [starting], fun r rows begins => absurd begins (idle r rows),
      fun r rows begins => absurd begins (idle r rows)⟩
  generalize same : (s', thrown) = result at came
  cases came with
  | raised e starting idle =>
    cases same
    refine ⟨fun lost => ⟨fun _ => lost, ?_, ?_⟩, fun spared => spared.starting (by simp [starting])⟩
    · exact fun r rows begins => absurd begins (idle r rows)
    · exact fun r rows begins => absurd begins (idle r rows)
  | refused e starting idle lost =>
    cases same
    exact iff_of_true lost (idly starting idle)
  | left row thrown starting idle unheld domestic =>
    cases same
    refine iff_of_true (fun holds => ?_) (idly starting idle)
    rcases Repo.store_holds holds with ⟨-, held, -⟩ | ⟨elsewhere, -⟩
    · rw [unheld] at held
      cases held
    · exact elsewhere rfl
  | begun r rows begins =>
    rw [(reportItem_unheld same.symm).1]
    constructor
    · rintro ⟨raised, legal⟩
      refine ⟨by simp [begins.1], fun r' rows' begins' => ?_, fun r' rows' begins' => ?_⟩
      · obtain ⟨rfl, rfl⟩ := begins_unique begins begins'
        exact raised
      · obtain ⟨rfl, rfl⟩ := begins_unique begins begins'
        exact legal
    · intro spared
      exact ⟨spared.reporting r rows begins, spared.legal r rows begins⟩

theorem met_holds {i : ItemId} (holds : (t.met worker s).Holds worker i) : s.Holds worker i :=
  Repo.others_holds t.before holds

theorem filled_holds {i : ItemId} {r : RunId} {rows : Slice} (begins : t.Begins env worker s r rows)
    (holds : (t.filled worker s rows).Holds worker i) : (t.met worker s).Holds worker i := by
  obtain ⟨-, row, found, started⟩ := begins
  obtain ⟨⟨held, own⟩, row', submit, -⟩ := start_at started
  have kept := Repo.others_holds t.during holds
  rw [keep_eq submit] at kept
  rcases Repo.store_holds kept with ⟨rfl, -⟩ | ⟨-, before⟩
  · exact ⟨row, found, held, own⟩
  · exact before

/-- What a report leaves of the items of others, and of the worker's other items. -/
theorem reportItem_holds {i : ItemId} {r : RunId} {e : Option Thrown}
    (reported : reportItem env worker t s r = (s', e)) :
    (s'.Holds worker i → s.Holds worker i) ∧
      (i ≠ t.item → s.Holds worker i → s'.Holds worker i) := by
  unfold reportItem at reported
  split at reported
  · cases reported
    exact ⟨id, fun _ => id⟩
  · cases reported
    exact ⟨id, fun _ => id⟩
  · split at reported
    · cases reported
      exact ⟨id, fun _ => id⟩
    · rename_i rows finished
      cases reported
      obtain ⟨row', submit, unheld⟩ := finishRun_left finished
      rw [keep_eq submit]
      refine ⟨fun holds => ?_, fun elsewhere holds => Repo.holds_store holds elsewhere⟩
      rcases Repo.store_holds holds with ⟨-, held, -⟩ | ⟨-, before⟩
      · rw [unheld] at held
        cases held
      · exact before

/-- What the worker holds after a turn it held all along. -/
theorem executeItem_held {i : ItemId} (done : executeItem env worker s t = .ok s')
    (holds : s'.Holds worker i) : (t.met worker s).Holds worker i ∧
      ∀ r rows, t.Begins env worker s r rows → (t.filled worker s rows).Holds worker i := by
  obtain ⟨thrown, executed, -⟩ := executeItem_ok.mp done
  have came := execute_execution env worker s t
  rw [executed] at came
  generalize same : (s', thrown) = result at came
  cases came with
  | raised e starting idle =>
    cases same
    exact ⟨holds, fun r rows begins => absurd begins (idle r rows)⟩
  | refused e starting idle lost =>
    cases same
    exact ⟨holds, fun r rows begins => absurd begins (idle r rows)⟩
  | left row thrown starting idle unheld domestic =>
    cases same
    rcases Repo.store_holds holds with ⟨-, held, -⟩ | ⟨-, before⟩
    · rw [unheld] at held
      cases held
    · exact ⟨before, fun r rows begins => absurd begins (idle r rows)⟩
  | begun r rows begins =>
    have filled := (reportItem_holds same.symm).1 holds
    refine ⟨filled_holds begins filled, fun r' rows' begins' => ?_⟩
    obtain ⟨rfl, rfl⟩ := begins_unique begins begins'
    exact filled

/-- A turn takes no item of another turn from the worker, unless the others do. -/
theorem executeItem_keeps {i : ItemId} (done : executeItem env worker s t = .ok s')
    (elsewhere : i ≠ t.item) (before : (t.met worker s).Holds worker i)
    (during : ∀ r rows, t.Begins env worker s r rows → (t.filled worker s rows).Holds worker i) :
    s'.Holds worker i := by
  obtain ⟨thrown, executed, -⟩ := executeItem_ok.mp done
  have came := execute_execution env worker s t
  rw [executed] at came
  generalize same : (s', thrown) = result at came
  cases came with
  | raised e starting idle =>
    cases same
    exact before
  | refused e starting idle lost =>
    cases same
    exact before
  | left row thrown starting idle unheld domestic =>
    cases same
    exact Repo.holds_store before elsewhere
  | begun r rows begins => exact (reportItem_holds same.symm).2 elsewhere (during r rows begins)

end Executed

/-! ### Whole batches -/

section Loop
variable {τ : Type} {turn : Repo → τ → Except Raised Repo} {worker : WorkerId}

/-- The call returns, and every item is settled or somebody else's. -/
def Cleared (worker : WorkerId) (items : List ItemId) (result : Except Raised Repo) : Prop :=
  ∃ s', result = .ok s' ∧ ∀ i ∈ items, ¬s'.Holds worker i

theorem foldlM_cons_ok {s s' : Repo} {t : τ} {ts : List τ} :
    (t :: ts).foldlM turn s = .ok s' ↔ ∃ s₁, turn s t = .ok s₁ ∧ ts.foldlM turn s₁ = .ok s' := by
  rw [List.foldlM_cons, raised_bind_ok]

/-- What the worker does not hold it is not given by any turn. -/
theorem foldlM_holds (frame : ∀ s t s' i, turn s t = .ok s' → s'.Holds worker i → s.Holds worker i)
    {s s' : Repo} {ts : List τ} (done : ts.foldlM turn s = .ok s') {i : ItemId}
    (holds : s'.Holds worker i) : s.Holds worker i := by
  induction ts generalizing s with
  | nil =>
    cases done
    exact holds
  | cons t ts ih =>
    obtain ⟨s₁, first, rest⟩ := foldlM_cons_ok.mp done
    exact frame _ _ _ _ first (ih rest)

end Loop

section Batches
variable {env : Env} {worker : WorkerId}

/-- No turn of the batch is disturbed. -/
def Undisturbed (worker : WorkerId) : Repo → List PrepareTurn → Prop
  | _, [] => True
  | s, t :: ts => t.Undisturbed worker s ∧
    ∀ s', processPrepareItem worker s t = .ok s' → Undisturbed worker s' ts

theorem runPrepareQueue_cleared (s : Repo) (ts : List PrepareTurn) :
    Cleared worker (ts.map PrepareTurn.item) (runPrepareQueue worker s ts) ↔
      Undisturbed worker s ts := by
  simp only [Cleared, runPrepareQueue, List.forall_mem_map]
  have frame (s : Repo) (t : PrepareTurn) (s' : Repo) (i : ItemId)
      (done : processPrepareItem worker s t = .ok s') (holds : s'.Holds worker i) :
      s.Holds worker i := (processPrepareItem_holds done holds).2
  induction ts generalizing s with
  | nil => exact iff_of_true ⟨s, rfl, by simp⟩ trivial
  | cons t ts ih =>
    constructor
    · rintro ⟨s', done, cleared⟩
      obtain ⟨s₁, first, rest⟩ := foldlM_cons_ok.mp done
      refine ⟨processPrepareItem_iff.mp ⟨s₁, first⟩, fun s₂ again => ?_⟩
      cases first.symm.trans again
      exact (ih s₁).mp ⟨s', rest, fun t' member => cleared t' (List.mem_cons_of_mem _ member)⟩
    · rintro ⟨undisturbed, further⟩
      obtain ⟨s₁, first⟩ := processPrepareItem_iff.mpr undisturbed
      obtain ⟨s', rest, cleared⟩ := (ih s₁).mpr (further s₁ first)
      refine ⟨s', foldlM_cons_ok.mpr ⟨s₁, first, rest⟩, fun t' member => ?_⟩
      rcases List.mem_cons.mp member with rfl | later
      · exact fun holds => (processPrepareItem_holds first (foldlM_holds frame rest holds)).1 rfl
      · exact cleared t' later

/-- While a later item has its turn, somebody else takes the item or settles it. -/
def Rescued (env : Env) (worker : WorkerId) (i : ItemId) : Repo → List ExecuteTurn → Prop
  | _, [] => False
  | s, t :: ts => ¬(t.met worker s).Holds worker i ∨
    (∃ r rows, t.Begins env worker s r rows ∧ ¬(t.filled worker s rows).Holds worker i) ∨
    ∃ s', executeItem env worker s t = .ok s' ∧ Rescued env worker i s' ts

/-- Every exception is a `CareerOSError`, and comes when the worker no longer holds the item, or it
is taken later. -/
def Orderly (env : Env) (worker : WorkerId) : Repo → List ExecuteTurn → Prop
  | _, [] => True
  | s, t :: ts => t.Calm env worker s ∧
    ∀ s', executeItem env worker s t = .ok s' →
      (t.Spared env worker s ∨ Rescued env worker t.item s' ts) ∧ Orderly env worker s' ts

theorem runQueue_holds {i : ItemId} {s s' : Repo} {ts : List ExecuteTurn}
    (done : ts.foldlM (executeItem env worker) s = .ok s') (holds : s'.Holds worker i) :
    s.Holds worker i :=
  foldlM_holds (fun _ _ _ _ done holds => met_holds (executeItem_held done holds).1) done holds

theorem rescued_iff {i : ItemId} {s s' : Repo} {ts : List ExecuteTurn}
    (elsewhere : i ∉ ts.map ExecuteTurn.item) (done : ts.foldlM (executeItem env worker) s = .ok s')
    (holds : s.Holds worker i) : ¬s'.Holds worker i ↔ Rescued env worker i s ts := by
  induction ts generalizing s with
  | nil =>
    cases done
    exact iff_of_false (not_not.mpr holds) id
  | cons t ts ih =>
    rw [List.map_cons, List.mem_cons, not_or] at elsewhere
    obtain ⟨s₁, first, rest⟩ := foldlM_cons_ok.mp done
    by_cases kept : s₁.Holds worker i
    · rw [ih elsewhere.2 rest kept]
      obtain ⟨met, filled⟩ := executeItem_held first kept
      constructor
      · exact fun rescued => .inr (.inr ⟨s₁, first, rescued⟩)
      · rintro (lost | ⟨r, rows, begins, lost⟩ | ⟨s₂, again, rescued⟩)
        · exact absurd met lost
        · exact absurd (filled r rows begins) lost
        · cases first.symm.trans again
          exact rescued
    · refine iff_of_true (fun holds => kept (runQueue_holds rest holds)) ?_
      by_contra calm
      simp only [Rescued, not_or, not_not, not_exists, not_and] at calm
      exact kept (executeItem_keeps first elsewhere.1 calm.1 fun r rows begins =>
        calm.2.1 r rows begins)

theorem runQueue_cleared (s : Repo) (ts : List ExecuteTurn)
    (distinct : (ts.map ExecuteTurn.item).Nodup) :
    Cleared worker (ts.map ExecuteTurn.item) (runQueue env worker s ts) ↔
      Orderly env worker s ts := by
  simp only [Cleared, runQueue, List.forall_mem_map]
  induction ts generalizing s with
  | nil => exact iff_of_true ⟨s, rfl, by simp⟩ trivial
  | cons t ts ih =>
    rw [List.map_cons, List.nodup_cons] at distinct
    constructor
    · rintro ⟨s', done, cleared⟩
      obtain ⟨s₁, first, rest⟩ := foldlM_cons_ok.mp done
      refine ⟨executeItem_calm.mp ⟨s₁, first⟩, fun s₂ again => ?_⟩
      cases first.symm.trans again
      refine ⟨?_, (ih s₁ distinct.2).mp
        ⟨s', rest, fun t' member => cleared t' (List.mem_cons_of_mem _ member)⟩⟩
      by_cases kept : s₁.Holds worker t.item
      · exact .inr ((rescued_iff distinct.1 rest kept).mp (cleared t List.mem_cons_self))
      · exact .inl ((executeItem_spared first).mp kept)
    · rintro ⟨calm, orderly⟩
      obtain ⟨s₁, first⟩ := executeItem_calm.mpr calm
      obtain ⟨either, further⟩ := orderly s₁ first
      obtain ⟨s', rest, cleared⟩ := (ih s₁ distinct.2).mpr further
      refine ⟨s', foldlM_cons_ok.mpr ⟨s₁, first, rest⟩, fun t' member => ?_⟩
      rcases List.mem_cons.mp member with rfl | later
      · by_cases kept : s₁.Holds worker t'.item
        · have rescued := either.resolve_left fun spared =>
            (executeItem_spared first).mpr spared kept
          exact (rescued_iff distinct.1 rest kept).mpr rescued
        · exact fun holds => kept (runQueue_holds rest holds)
      · exact cleared t' later

end Batches

/-! An item that another worker has taken. -/

/-- The worker `w` claims the items of two openings. -/
def claimedTwo (action : QueueAction) : Repo :=
  [.enqueue (0, action) .auto 0 3, .enqueue (1, action) .auto 0 3,
    .select 0 "w" (some action) none 2 600, .update 0, .update 0].foldl Repo.step (.initial 0)

/-- The leases lapse, and `v` takes one item. -/
def overtaken (action : QueueAction) : List Call :=
  [.tick (seconds 601).toNat, .select 1 "v" (some action) none 1 600, .update 1]

def preparing (opening : OpportunityId) (before : List Call) : PrepareTurn :=
  ⟨opening, before, none, [], .prepared .ready, none⟩

/-- A submission of an opening that is ready when its turn comes. -/
def executing (opening : OpportunityId) (before : List Call) (after : Opening) : ExecuteTurn where
  opening := opening
  before := before
  rows := ⟨.ready opening "Acme" "Engineer", .empty⟩
  typed := by
    rintro item same
    cases same
    rfl
  reads := ⟨⟨.initial, 0, [], []⟩, [], .mock, some ⟨.mock, true, "mock"⟩, []⟩
  starting := none
  during := []
  rowsAfter := ⟨after, .empty⟩
  reporting := none
  policy := .initial
  dryRun := false
  ending := .sent

end RangeApply
