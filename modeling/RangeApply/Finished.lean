import RangeApply.Repository
import RangeApply.Trace

/-! When a SUBMIT item that succeeded stays SUCCEEDED. `resolve`, `cancel`, `requeue` and the
claims ask for the state; the calls of a worker ask for the owner alone, which a finished item
still has, and `needs_review` asks for nothing. -/
namespace RangeApply

def QueueItem.finished (row : QueueItem) : Bool :=
  decide (row.action = .submit) && decide (row.state = .succeeded)

/-- The calls that take a row out of SUCCEEDED: the owner gives the item back, fails or blocks
it, or anyone parks it. -/
def ItemOp.undoes (row : QueueItem) : ItemOp → Bool
  | .release worker | .block worker _ | .fail worker _ _ => decide (row.claimedBy = some worker)
  | .needsReview _ => true
  | _ => false

def Repo.finished (s : Repo) (i : ItemId) : Bool := (s.items.get i).any QueueItem.finished

def Repo.undoes (s : Repo) (i : ItemId) : Call → Bool
  | .op j o => decide (j = i) && (s.items.get i).any fun row => o.undoes row
  | _ => false

section Item
variable {now : Time} {row row' : QueueItem} {o : ItemOp}

theorem finished_iff : row.finished = true ↔ row.action = .submit ∧ row.state = .succeeded := by
  simp [QueueItem.finished]

theorem apply_finished (done : o.apply now row = .ok row') (finished : row.finished = true)
    (spared : o.undoes row = false) : row'.finished = true := by
  obtain ⟨action, state⟩ := finished_iff.mp finished
  apply finished_iff.mpr
  cases o with
  | extendLease worker leaseSeconds =>
    obtain ⟨-, rfl⟩ := QueueItem.extendLease_ok done
    exact ⟨action, state⟩
  | start worker =>
    obtain ⟨-, claimed, -⟩ := QueueItem.start_ok done
    rw [state] at claimed
    contradiction
  | release worker =>
    obtain ⟨owner, -⟩ := QueueItem.release_ok done
    simp [ItemOp.undoes, owner] at spared
  | succeed worker =>
    obtain ⟨-, rfl⟩ := QueueItem.succeed_ok done
    exact ⟨action, rfl⟩
  | fail worker error retryable =>
    obtain ⟨owner, -⟩ := QueueItem.fail_ok done
    simp [ItemOp.undoes, owner] at spared
  | block worker reason =>
    obtain ⟨owner, -⟩ := QueueItem.block_ok done
    simp [ItemOp.undoes, owner] at spared
  | needsReview reason => contradiction
  | resolve =>
    obtain ⟨open_, -⟩ := QueueItem.resolve_ok done
    exact absurd state open_
  | cancel =>
    obtain ⟨open_, -⟩ := QueueItem.cancel_ok done
    exact absurd state open_
  | requeue resetAttempts allowSucceeded =>
    obtain ⟨item, requeued, -⟩ := map_ok.mp done
    obtain ⟨refused, -⟩ := QueueItem.requeue_ok requeued
    rw [state, action] at refused
    simp at refused

theorem undoes_apply (now : Time) (undoes : o.undoes row = true) :
    ∃ row', o.apply now row = .ok row' ∧ row'.state ≠ .succeeded := by
  cases o with
  | release worker =>
    have owner : row.claimedBy = some worker := of_decide_eq_true undoes
    exact ⟨_, QueueItem.owned_ok.mpr ⟨owner, rfl⟩, by simp⟩
  | block worker reason =>
    have owner : row.claimedBy = some worker := of_decide_eq_true undoes
    exact ⟨_, QueueItem.owned_ok.mpr ⟨owner, rfl⟩, by simp⟩
  | fail worker error retryable =>
    have owner : row.claimedBy = some worker := of_decide_eq_true undoes
    simp only [ItemOp.apply, QueueItem.fail, QueueItem.owned, if_pos owner]
    split
    · exact ⟨_, rfl, by simp⟩
    · exact ⟨_, rfl, by simp⟩
  | needsReview reason => exact ⟨_, rfl, by simp [QueueItem.needsReview]⟩
  | _ => contradiction

end Item

section Steps
variable {s : Repo} {i : ItemId}

theorem step_spared {l : Call} (finished : s.finished i = true) (spared : s.undoes i l = false) :
    (s.step l).finished i = true := by
  obtain ⟨row, found, here⟩ := (Option.any_eq_true _ _).mp finished
  obtain ⟨action, state⟩ := finished_iff.mp here
  obtain ⟨row', found', change⟩ := Repo.step_row l found
  refine (Option.any_eq_true _ _).mpr ⟨row', found', ?_⟩
  cases change with
  | kept => exact here
  | parked l spent => simp [QueueItem.exhausted, state, QueueState.held] at spent
  | taken p call taking =>
    -- what a claim read was waiting or held
    obtain ⟨-, -, seen, member, same, -⟩ := Repo.taking_ok taking
    have runnable := call.read (i, seen) member
    simp [QueueItem.runnable, ← same, state, QueueState.waiting, QueueState.held] at runnable
  | op o done =>
    have spared : o.undoes row = false := by simpa [Repo.undoes, found] using spared
    exact apply_finished done here spared
  | reclaimed =>
    have same : row.reclaim s.now = row := by
      simp [QueueItem.reclaim, state, QueueState.held]
    rwa [same]
  | lost gone =>
    have same : row.giveBack s.now = row := by
      simp [QueueItem.giveBack, state, QueueState.held]
    rwa [same]

theorem step_undone {l : Call} (undoes : s.undoes i l = true) : (s.step l).finished i = false := by
  cases l with
  | op j o =>
    simp only [Repo.undoes, Bool.and_eq_true, decide_eq_true_eq] at undoes
    obtain ⟨rfl, here⟩ := undoes
    obtain ⟨row, found, undoes⟩ := (Option.any_eq_true _ _).mp here
    obtain ⟨row', done, state⟩ := undoes_apply s.now undoes
    have found' : (s.step (.op j o)).items.get j = some row' := by
      simp only [Repo.step, Repo.change, found, done]
      exact Table.get_put_self found
    simp [Repo.finished, found', QueueItem.finished, state]
  | _ => contradiction

/-- In every run, from any state of the queue, a SUBMIT item that succeeded is SUCCEEDED in every
state reached exactly when no step is its owner's release, failure or block of it, or anyone's
`needs_review`. -/
theorem succeeded_absorbing_iff (s : Repo) (i : ItemId) (finished : s.finished i = true)
    (ls : List Call) :
    Trace.Guarded Repo.step (fun s l => (s.step l).finished i = true) s ls ↔
      Trace.Guarded Repo.step (fun s l => s.undoes i l = false) s ls := by
  refine Trace.guarded_iff (fun s : Repo => s.finished i = true)
    (fun l _ s finished spared => step_spared finished spared) (fun l _ s finished => ?_) finished
  constructor
  · intro kept
    cases undoes : s.undoes i l with
    | false => rfl
    | true =>
      rw [step_undone undoes] at kept
      contradiction
  · exact step_spared finished

end Steps

/-! ### A released submission -/

def Call.completes (i : ItemId) (worker : WorkerId) : List Call :=
  [.enqueue i .auto 0 3, .select 0 worker none none 1 600, .update 0, .op i (.start worker),
    .op i (.succeed worker)]

/-- The worker that finished the item gives it back, and it is PENDING again. -/
theorem released_after_success :
    ¬ ∀ (ls : List Call) (l : Call) (i : ItemId),
      let s := Trace.run Repo.step (.initial 0) ls
      s.finished i = true → (s.step l).finished i = true := by
  intro all
  exact absurd (all (Call.completes (1, .submit) "w") (.op (1, .submit) (.release "w")) (1, .submit)
    (by decide +kernel)) (by decide +kernel)

/-- Against another worker's calls, a cancellation and a new claim it stands. -/
theorem succeeded_stands :
    Trace.Guarded Repo.step (fun s l => (s.step l).finished (1, .submit) = true)
      (Trace.run Repo.step (.initial 0) (Call.completes (1, .submit) "w"))
      [.op (1, .submit) (.release "v"), .op (1, .submit) .cancel, .op (1, .submit) (.requeue true true),
        .select 1 "v" none none 10 600, .update 1, .reclaimExpired] :=
  (succeeded_absorbing_iff _ (1, .submit) (by decide +kernel) _).mpr (by decide +kernel)

end RangeApply
