import RangeApply.Repository
import RangeApply.Trace

/-! How often an item is claimed. `claim`, `claim_item`, `fail` and `reclaim_expired` compare
the count with `max_attempts`; the guarded update of a claim and the recovery of lost runs do
not look at it. -/
namespace RangeApply

/-- The count stays within the bound, and below it while the item waits to be claimed. -/
structure QueueItem.InTries (row : QueueItem) : Prop where
  within : row.attempts ≤ row.maxAttempts
  spare : row.state.waiting = true → row.attempts < row.maxAttempts

instance (row : QueueItem) : Decidable row.InTries :=
  decidable_of_iff (row.attempts ≤ row.maxAttempts ∧
    (row.state.waiting = true → row.attempts < row.maxAttempts))
    ⟨fun both => ⟨both.1, both.2⟩, fun tries => ⟨tries.within, tries.spare⟩⟩

def QueueItem.spent (row : QueueItem) : Bool := decide (row.maxAttempts ≤ row.attempts)

def Call.requeues : Call → Bool
  | .op _ (.requeue _ _) => true
  | _ => false

/-- The steps that overdraw the count: an item is enqueued for no try at all, the update of a claim
finds no try left, or the recovery of a lost run gives back an item without one. -/
def Repo.overdraws (s : Repo) : Call → Bool
  | .enqueue i _ _ maxAttempts => decide (maxAttempts = 0) && (s.items.get i).isNone
  | .update p => (s.taking p).any fun t => t.2.2.spent
  | .recoverLost i => (s.items.get i).any fun row =>
      row.state.held && !liveItem s.now (some row) && row.spent
  | _ => false

section Item
variable {now : Time} {row row' : QueueItem}

theorem inTries_idle (within : row'.attempts ≤ row'.maxAttempts) (idle : row'.state.waiting = false) :
    row'.InTries :=
  ⟨within, fun waiting => by rw [idle] at waiting; contradiction⟩

/-- No call of the repository but a requeue touches the bound or overdraws the count. -/
theorem apply_inTries {o : ItemOp} (done : o.apply now row = .ok row') (positive : 0 < row.maxAttempts)
    (tries : row.InTries) (kept : ∀ reset allow, o ≠ .requeue reset allow) :
    row'.maxAttempts = row.maxAttempts ∧ row'.InTries := by
  have within := tries.within
  cases o with
  | extendLease worker leaseSeconds =>
    obtain ⟨-, rfl⟩ := QueueItem.extendLease_ok done
    exact ⟨rfl, within, tries.spare⟩
  | start worker =>
    obtain ⟨-, -, rfl⟩ := QueueItem.start_ok done
    exact ⟨rfl, inTries_idle within rfl⟩
  | release worker =>
    obtain ⟨-, rfl⟩ := QueueItem.release_ok done
    refine ⟨rfl, ?_, fun _ => ?_⟩
    · dsimp only
      omega
    · dsimp only
      omega
  | succeed worker =>
    obtain ⟨-, rfl⟩ := QueueItem.succeed_ok done
    exact ⟨rfl, inTries_idle within rfl⟩
  | fail worker error retryable =>
    have done : row.owned worker _ = .ok row' := done
    obtain ⟨-, rest⟩ := QueueItem.owned_ok.mp done
    dsimp only at rest
    split at rest
    · rename_i again
      rw [Bool.and_eq_true, decide_eq_true_eq] at again
      cases Except.ok.inj rest
      exact ⟨rfl, within, fun _ => again.2⟩
    · cases Except.ok.inj rest
      exact ⟨rfl, inTries_idle within rfl⟩
  | block worker reason =>
    obtain ⟨-, rfl⟩ := QueueItem.block_ok done
    exact ⟨rfl, inTries_idle within rfl⟩
  | needsReview reason =>
    cases Except.ok.inj done
    exact ⟨rfl, inTries_idle within rfl⟩
  | resolve =>
    obtain ⟨-, -, rfl⟩ := QueueItem.resolve_ok done
    exact ⟨rfl, inTries_idle within rfl⟩
  | cancel =>
    obtain ⟨-, rfl⟩ := QueueItem.cancel_ok done
    exact ⟨rfl, inTries_idle within rfl⟩
  | requeue reset allow => exact absurd rfl (kept reset allow)

theorem reclaim_inTries (tries : row.InTries) :
    (row.reclaim now).maxAttempts = row.maxAttempts ∧ (row.reclaim now).InTries := by
  have within := tries.within
  unfold QueueItem.reclaim
  split
  · split
    · exact ⟨rfl, inTries_idle within rfl⟩
    · rename_i spare
      exact ⟨rfl, within, fun _ => Nat.lt_of_not_le spare⟩
  · exact ⟨rfl, tries⟩

end Item

section Steps
variable {s : Repo} {l : Call}

abbrev Bounded (_ : ItemId) (row : QueueItem) : Prop := 0 < row.maxAttempts ∧ row.InTries

theorem step_bounded (bounded : s.items.All Bounded) (kept : l.requeues = false)
    (spared : s.overdraws l = false) : (s.step l).items.All Bounded := by
  refine Repo.all_step l bounded ?_ ?_
  · rintro i lane priority maxAttempts rfl missing
    have positive : 0 < maxAttempts := by
      simpa [Repo.overdraws, missing, Nat.pos_iff_ne_zero] using spared
    exact ⟨positive, Nat.zero_le _, fun _ => positive⟩
  · rintro i row row' found ⟨positive, tries⟩ change
    have within := tries.within
    cases change with
    | kept => exact ⟨positive, tries⟩
    | parked l spent => exact ⟨positive, inTries_idle within rfl⟩
    | taken p call taking =>
      have spare : ¬ row.maxAttempts ≤ row.attempts := by
        simpa [Repo.overdraws, taking, QueueItem.spent] using spared
      exact ⟨positive, inTries_idle (Nat.lt_of_not_le spare) rfl⟩
    | op o done =>
      obtain ⟨same, tries⟩ := apply_inTries done positive tries
        (fun reset allow requeue => by subst requeue; contradiction)
      exact ⟨same ▸ positive, tries⟩
    | reclaimed =>
      obtain ⟨same, tries⟩ := reclaim_inTries tries
      exact ⟨same ▸ positive, tries⟩
    | lost gone =>
      unfold QueueItem.giveBack
      split
      · rename_i held
        have spare : ¬ row.maxAttempts ≤ row.attempts := by
          simpa [Repo.overdraws, found, held, gone, QueueItem.spent] using spared
        exact ⟨positive, within, fun _ => Nat.lt_of_not_le spare⟩
      · exact ⟨positive, tries⟩

theorem step_overdrawn (overdraws : s.overdraws l = true) :
    ¬ (s.step l).items.All fun _ row => row.InTries := by
  intro all
  cases l with
  | enqueue i lane priority maxAttempts =>
    simp only [Repo.overdraws, Bool.and_eq_true, decide_eq_true_eq, Option.isNone_iff_eq_none] at overdraws
    obtain ⟨none_, missing⟩ := overdraws
    have found : (s.step (.enqueue i lane priority maxAttempts)).items.get i =
        some (.fresh s.now i.2 lane priority maxAttempts) := by
      simp only [Repo.step, missing, QueueItem.enqueue]
      exact Table.get_insertNew_self missing
    have spare := (all.get found).spare rfl
    rw [none_] at spare
    exact Nat.not_lt_zero _ spare
  | update p =>
    obtain ⟨⟨call, i, row⟩, taking, spent⟩ := (Option.any_eq_true _ _).mp overdraws
    obtain ⟨open_, found, -⟩ := Repo.taking_ok taking
    have found' : (s.step (.update p)).items.get i =
        some (row.take call.at_ call.worker call.leaseSeconds) := by
      simp only [Repo.step, Repo.update, open_, taking]
      exact Table.get_put_self found
    have within : row.attempts + 1 ≤ row.maxAttempts := (all.get found').within
    exact absurd (of_decide_eq_true spent) (Nat.not_le.mpr within)
  | recoverLost i =>
    obtain ⟨row, found, here⟩ := (Option.any_eq_true _ _).mp overdraws
    simp only [Bool.and_eq_true, Bool.not_eq_true'] at here
    obtain ⟨⟨held, gone⟩, spent⟩ := here
    have found' : (s.step (.recoverLost i)).items.get i = some (row.giveBack s.now) := by
      simp only [Repo.step, Repo.change, found, gone, Bool.false_eq_true, if_false]
      exact Table.get_put_self found
    have tries := all.get found'
    simp only [QueueItem.giveBack, if_pos held] at tries
    exact absurd (of_decide_eq_true spent) (Nat.not_le.mpr (tries.spare rfl))
  | _ => contradiction

/-- In every run without a requeue, from a queue whose items have tries, the items stay within
their tries in every state reached exactly when no step enqueues an item for no try, updates a row
that has used its tries, or gives such a row back as lost. -/
theorem tries_bounded_iff (s : Repo) (bounded : s.items.All Bounded) (ls : List Call)
    (kept : ∀ l ∈ ls, l.requeues = false) :
    Trace.Guarded Repo.step (fun s l => (s.step l).items.All fun _ row => row.InTries) s ls ↔
      Trace.Guarded Repo.step (fun s l => s.overdraws l = false) s ls := by
  refine Trace.guarded_iff (fun s : Repo => s.items.All Bounded)
    (fun l member s bounded spared => step_bounded bounded (kept l member) spared)
    (fun l member s bounded => ?_) bounded
  constructor
  · intro all
    cases overdraws : s.overdraws l with
    | false => rfl
    | true => exact absurd all (step_overdrawn overdraws)
  · intro spared
    exact (step_bounded bounded (kept l member) spared).mono fun i row here => here.2

end Steps

/-! ### Recovery of an item that is lost three times -/

/-- Process 0 claims the item and is lost before it presses anything; recovery gives the item
back. -/
def Call.loses (i : ItemId) : List Call :=
  [.select 0 "w" none none 1 600, .update 0, .op i (.start "w"), .tick 1000000000, .recoverLost i]

/-- An item whose worker is lost three times has used its three tries and waits to be claimed
again. -/
theorem lost_thrice_waits :
    ¬ ∀ ls : List Call, (∀ l ∈ ls, l.requeues = false) →
      Trace.Guarded Repo.step (fun s l => (s.step l).items.All fun _ row => row.InTries) (.initial 0)
        ls := by
  intro all
  exact absurd (all (.enqueue (1, .submit) .auto 0 3 :: (Call.loses (1, .submit) ++
    Call.loses (1, .submit) ++ Call.loses (1, .submit))) (by decide)) (by decide +kernel)

/-- Two losses, and a failure on the third try, end the item. -/
theorem lost_twice_ends :
    Trace.Guarded Repo.step (fun s l => (s.step l).items.All fun _ row => row.InTries) (.initial 0)
      (.enqueue (1, .submit) .auto 0 3 :: (Call.loses (1, .submit) ++ Call.loses (1, .submit) ++
        [.select 0 "w" none none 1 600, .update 0, .op (1, .submit) (.fail "w" "timeout" true)])) :=
  (tries_bounded_iff _ (by decide) _ (by decide)).mpr (by decide +kernel)

end RangeApply
