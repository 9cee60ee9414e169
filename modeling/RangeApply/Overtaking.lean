import RangeApply.Repository
import RangeApply.Trace

/-! When the guarded update of a claim takes an item under a live lease. The guard repeats the
state and the owner that the claim read and not the lease, so what it read lapsed may have been
renewed in the same hands. -/
namespace RangeApply

namespace Repo

/-- The step takes an item that another worker holds under a lease that ends after the claiming
time. -/
def overtakes (s : Repo) : Call → Bool
  | .update p => (s.taking p).any fun t =>
      t.2.2.state.held && decide (t.2.2.claimedBy ≠ some t.1.worker) &&
        t.2.2.leaseExpiresAt.any fun until_ => decide (t.1.at_ < until_)
  | _ => false

/-- The lease a step gives: the item, whose it is then, and its end. -/
def lease (s : Repo) : Call → Option (ItemId × WorkerId × Time)
  | .op i (.extendLease worker leaseSeconds) =>
    if (s.items.get i).any fun row => row.state.held && decide (row.claimedBy = some worker) then
      some (i, worker, s.now + seconds leaseSeconds)
    else none
  | .update p => (s.taking p).map fun t =>
      (t.2.1, t.1.worker, t.1.at_ + seconds t.1.leaseSeconds)
  | _ => none

/-- What the claims under way have still to update besides the step itself. -/
def underWay (s : Repo) : Call → Table CallId ClaimCall
  | .update p =>
    match s.calls.get p with
    | none => s.calls
    | some call => (s.setCall p call.rest).calls
  | _ => s.calls

end Repo

/-- The claim has read the item lapsed in the hands of this worker, and a lease until `until_`
would be live for it. -/
def ClaimCall.outrunBy (call : ClaimCall) (i : ItemId) (worker : WorkerId) (until_ : Time) : Bool :=
  decide (call.at_ < until_) && call.rows.any fun r =>
    decide (r.1 = i) && r.2.state.held && decide (r.2.claimedBy = some worker)

/-- The step renews the lease of an item, in the same hands, that a claim under way has read
lapsed and has still to update. -/
def Repo.renews (s : Repo) (l : Call) : Bool :=
  (s.lease l).any fun t =>
    (s.underWay l).rows.any fun c => c.2.outrunBy t.1 t.2.1 t.2.2

/-- What the claim read lapsed has no live lease for it while it stays in the same hands. -/
def ClaimCall.Behind (items : Table ItemId QueueItem) (call : ClaimCall) : Prop :=
  ∀ r ∈ call.rows, r.2.state.held = true → ∀ row, items.get r.1 = some row →
    row.state.held = true → row.claimedBy = r.2.claimedBy →
    ∀ until_, row.leaseExpiresAt = some until_ → until_ ≤ call.at_

section Steps
variable {s : Repo} {i : ItemId} {row row' : QueueItem} {l : Call}

/-- An item that is held after a step was held before, in the same hands and under the same lease,
unless the step gave it its lease. -/
theorem Repo.RowStep.held (found : s.items.get i = some row) (change : s.RowStep i row l row')
    (held : row'.state.held = true) :
    (row.state.held = true ∧ row'.claimedBy = row.claimedBy ∧
        row'.leaseExpiresAt = row.leaseExpiresAt) ∨
      ∃ worker until_, s.lease l = some (i, worker, until_) ∧ row'.claimedBy = some worker ∧
        row'.leaseExpiresAt = some until_ := by
  cases change with
  | kept => exact .inl ⟨held, rfl, rfl⟩
  | parked => contradiction
  | taken p call taking =>
    refine .inr ⟨call.worker, call.at_ + seconds call.leaseSeconds, ?_, rfl, rfl⟩
    simp only [Repo.lease, taking, Option.map_some]
  | op o done =>
    cases o with
    | extendLease worker leaseSeconds =>
      obtain ⟨owner, rfl⟩ := QueueItem.extendLease_ok done
      refine .inr ⟨worker, s.now + seconds leaseSeconds, ?_, owner, rfl⟩
      have here : row.state.held = true := held
      simp [Repo.lease, found, here, owner]
    | start worker =>
      obtain ⟨-, claimed, rfl⟩ := QueueItem.start_ok done
      exact .inl ⟨by rw [claimed]; rfl, rfl, rfl⟩
    | release worker =>
      obtain ⟨-, rfl⟩ := QueueItem.release_ok done
      contradiction
    | succeed worker =>
      obtain ⟨-, rfl⟩ := QueueItem.succeed_ok done
      contradiction
    | fail worker error retryable =>
      obtain ⟨-, ⟨-, -, state, -⟩ | ⟨-, state, -⟩, -⟩ := QueueItem.fail_ok done
      · rw [state] at held
        contradiction
      · rw [state] at held
        contradiction
    | block worker reason =>
      obtain ⟨-, rfl⟩ := QueueItem.block_ok done
      contradiction
    | needsReview reason =>
      cases Except.ok.inj done
      contradiction
    | resolve =>
      obtain ⟨-, -, rfl⟩ := QueueItem.resolve_ok done
      contradiction
    | cancel =>
      obtain ⟨-, rfl⟩ := QueueItem.cancel_ok done
      contradiction
    | requeue resetAttempts allowSucceeded =>
      obtain ⟨item, requeued, rfl⟩ := map_ok.mp done
      obtain ⟨-, -, -, rfl⟩ := QueueItem.requeue_ok requeued
      split at held
      · contradiction
      · contradiction
  | reclaimed =>
    unfold QueueItem.reclaim at held ⊢
    split at held
    · split at held
      · contradiction
      · contradiction
    · rename_i kept
      rw [if_neg kept]
      exact .inl ⟨held, rfl, rfl⟩
  | lost =>
    unfold QueueItem.giveBack at held ⊢
    split at held
    · contradiction
    · rename_i free
      exact absurd held free

theorem outrun_of_member {call : ClaimCall} {seen : QueueItem} {worker : WorkerId} {until_ : Time}
    (member : (i, seen) ∈ call.rows) (held : seen.state.held = true)
    (owner : seen.claimedBy = some worker) (outrun : call.outrunBy i worker until_ = false) :
    until_ ≤ call.at_ := by
  by_contra late
  have read : call.outrunBy i worker until_ = true := by
    simp only [ClaimCall.outrunBy, Bool.and_eq_true, decide_eq_true_eq, List.any_eq_true]
    exact ⟨Int.not_le.mp late, (i, seen), member, ⟨rfl, held⟩, owner⟩
  rw [read] at outrun
  contradiction

/-- A claim stays ahead of every lease that a step without renewals leaves. -/
theorem ClaimCall.Behind.step {call : ClaimCall} (behind : call.Behind s.items)
    (calm : ∀ t, s.lease l = some t → call.outrunBy t.1 t.2.1 t.2.2 = false) :
    call.Behind (s.step l).items := by
  intro r member seen row' found' held same until_ ends
  cases found : s.items.get r.1 with
  | none =>
    obtain ⟨lane, priority, maxAttempts, -, fresh⟩ := Repo.step_new found found'
    rw [fresh] at held
    contradiction
  | some row =>
    obtain ⟨row₁, found₁, change⟩ := Repo.step_row l found
    cases Option.some.inj (found₁.symm.trans found')
    rcases change.held found held with ⟨before, owner, lease⟩ | ⟨worker, given_, lease, owner, ends'⟩
    · exact behind r member seen row found before (owner ▸ same) until_ (lease ▸ ends)
    · cases Option.some.inj (ends'.symm.trans ends)
      exact outrun_of_member member seen (same.symm.trans owner) (calm _ lease)

theorem lapsed_of_runnable {at_ : Time} (runnable : row.runnable at_ = true)
    (held : row.state.held = true) {until_ : Time} (ends : row.leaseExpiresAt = some until_) :
    until_ ≤ at_ := by
  have idle : row.state.waiting = false := by
    cases state : row.state <;> simp_all [QueueState.held, QueueState.waiting]
  simp only [QueueItem.runnable, idle, ends, Bool.false_and, Bool.false_or, Bool.and_eq_true,
    decide_eq_true_eq] at runnable
  exact Int.le_of_lt runnable.1.2

theorem behind_read {call : ClaimCall} {items : Table ItemId QueueItem}
    (current : ∀ r ∈ call.rows, items.get r.1 = some r.2) : call.Behind items := by
  intro r member _ row found held _ until_ ends
  cases Option.some.inj ((current r member).symm.trans found)
  exact lapsed_of_runnable (call.read r member) held ends

theorem behind_rest {call : ClaimCall} {items : Table ItemId QueueItem} (behind : call.Behind items) :
    call.rest.Behind items :=
  fun r member => behind r (List.mem_of_mem_tail member)

theorem change_calls (s : Repo) (j : ItemId) (f : QueueItem → Res QueueItem) :
    (s.change j f).calls = s.calls := by
  unfold Repo.change
  split
  · rfl
  · split <;> rfl

theorem update_calls (s : Repo) (p : CallId) : (s.update p).calls = s.underWay (.update p) := by
  simp only [Repo.update, Repo.underWay]
  cases s.calls.get p with
  | none => rfl
  | some call =>
    dsimp only
    split <;> rfl

theorem step_calls (s : Repo) (l : Call) : (s.step l).calls = s.underWay l ∨
    ∃ p call, (s.step l).calls = (s.underWay l).set p call ∧
      ∀ r ∈ call.rows, (s.step l).items.get r.1 = some r.2 := by
  cases l with
  | update p => exact .inl (update_calls s p)
  | select p worker action lane limit leaseSeconds =>
    refine .inr ⟨p, _, rfl, fun r chosen => ?_⟩
    have member := (sortBy_perm _).mem_iff.mp (List.mem_of_mem_take chosen)
    exact Table.get_eq_some.mpr (List.mem_of_mem_filter member)
  | selectItem p worker j leaseSeconds =>
    simp only [Repo.step, Repo.selectItem]
    split
    · exact .inl rfl
    rename_i row found
    split
    · exact .inl rfl
    split
    · exact .inl rfl
    split
    · refine .inr ⟨p, _, rfl, fun r member => ?_⟩
      cases List.mem_singleton.mp member
      exact found
    · exact .inl rfl
  | enqueue j lane priority maxAttempts =>
    simp only [Repo.step]
    split
    · exact .inl rfl
    · exact .inl rfl
  | op j o => exact .inl (change_calls s j _)
  | recoverLost j => exact .inl (change_calls s j _)
  | tick | evaluate | reclaimExpired => exact .inl rfl

/-- Every claim under way has nothing live behind it, after any step but a renewal. -/
theorem step_behind (l : Call) (behind : s.calls.All fun _ call => call.Behind s.items)
    (calm : s.renews l = false) : (s.step l).calls.All fun _ call => call.Behind (s.step l).items := by
  have before : (s.underWay l).All fun _ call => call.Behind s.items := by
    cases l with
    | update p =>
      simp only [Repo.underWay]
      split
      · exact behind
      · rename_i call open_
        exact Table.all_set behind (behind_rest (behind.get open_))
    | _ => exact behind
  have ahead : (s.underWay l).All fun _ call => call.Behind (s.step l).items := by
    intro c member
    refine (before c member).step fun t lease => ?_
    have none_ : ¬ ∃ c ∈ (s.underWay l).rows, c.2.outrunBy t.1 t.2.1 t.2.2 = true := by
      simpa [Repo.renews, lease] using calm
    simpa using fun outrun => none_ ⟨c, member, outrun⟩
  rcases step_calls s l with same | ⟨p, call, added, current⟩
  · rw [same]
    exact ahead
  · rw [added]
    exact Table.all_set ahead (behind_read current)

theorem not_overtakes (behind : s.calls.All fun _ call => call.Behind s.items) (l : Call) :
    s.overtakes l = false := by
  cases l with
  | update p =>
    by_contra overtakes
    rw [Bool.not_eq_false] at overtakes
    obtain ⟨⟨call, i, row⟩, taking, here⟩ := (Option.any_eq_true _ _).mp overtakes
    simp only [Bool.and_eq_true, decide_eq_true_eq] at here
    obtain ⟨⟨held, -⟩, live⟩ := here
    obtain ⟨until_, ends, late⟩ := (Option.any_eq_true _ _).mp live
    obtain ⟨open_, found, seen, member, state, owner⟩ := Repo.taking_ok taking
    have inTime := behind.get open_ (i, seen) member (state ▸ held) row found held owner until_ ends
    exact absurd (of_decide_eq_true late) (Int.not_lt.mpr inTime)
  | _ => rfl

/-- In every run from a queue without claims under way, as long as no lease is renewed while a claim
that read the item lapsed in the same hands has still to update it, no claim takes an item from
under a live lease of another worker. -/
theorem live_lease_kept (s : Repo) (idle : s.calls = .empty) (ls : List Call)
    (calm : Trace.Guarded Repo.step (fun s l => s.renews l = false) s ls) :
    Trace.Guarded Repo.step (fun s l => s.overtakes l = false) s ls := by
  refine Trace.guarded_of_invariant (fun s : Repo => s.calls.All fun _ call => call.Behind s.items)
    (fun s l behind calm => step_behind l behind calm) (fun s l behind _ => not_overtakes behind l)
    ?_ calm
  rw [idle]
  intro c member
  contradiction

end Steps

/-! ### A heartbeat between the two halves of a claim -/

def Call.lapses (i : ItemId) : List Call :=
  [.enqueue i .auto 0 3, .select 0 "v" none none 1 600, .update 0, .tick 1000000000]

/-- `w` reads the item as lapsed, `v` extends its lease, and `w` takes the item. -/
theorem heartbeat_overtaken :
    ¬ ∀ ls : List Call,
      Trace.Guarded Repo.step (fun s l => s.overtakes l = false) (.initial 0) ls := by
  intro all
  exact absurd (all (Call.lapses (1, .submit) ++
    [.selectItem 1 "w" (1, .submit) 600, .op (1, .submit) (.extendLease "v" 600), .update 1]))
    (by decide +kernel)

/-- An extension before `w` looks keeps the item out of its claims. -/
theorem heartbeat_in_time :
    Trace.Guarded Repo.step (fun s l => s.overtakes l = false) (.initial 0)
      (Call.lapses (1, .submit) ++
        [.op (1, .submit) (.extendLease "v" 600), .select 1 "w" none none 1 600, .update 1,
          .selectItem 1 "w" (1, .submit) 600, .update 1]) :=
  live_lease_kept _ rfl _ (by decide +kernel)

end RangeApply
