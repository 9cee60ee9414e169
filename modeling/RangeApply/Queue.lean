import Mathlib.Algebra.Group.Int.Defs
import RangeApply.Rows

/-! The queue repository, one item at a time. Every operation that belongs to a worker
checks `claimed_by` and nothing else; `needs_review`, `resolve`, `cancel` and `requeue` are
open to anyone. -/
namespace RangeApply

theorem bind_ok {α β : Type} {x : Res α} {f : α → Res β} {b : β} :
    (x >>= f) = .ok b ↔ ∃ a, x = .ok a ∧ f a = .ok b := by
  cases x with
  | error e => simp [bind, Except.bind]
  | ok a => simp [bind, Except.bind]

theorem map_ok {α β : Type} {x : Res α} {f : α → β} {b : β} :
    x.map f = .ok b ↔ ∃ a, x = .ok a ∧ f a = b := by
  cases x with
  | error e => simp [Except.map]
  | ok a => simp [Except.map]

namespace QueueItem

def retryBackoffBaseSeconds : Int := 60

/-- `_assert_owner`, guarding what the owner does next. -/
def owned {α : Type} (row : QueueItem) (worker : WorkerId) (next : Res α) : Res α :=
  if row.claimedBy = some worker then next
  else
    let owner := row.claimedBy.getD "nobody"
    .error (.conflict s!"Queue item is owned by {owner}, not {worker}")

theorem owned_ok {α : Type} {row : QueueItem} {worker : WorkerId} {next : Res α} {a : α} :
    row.owned worker next = .ok a ↔ row.claimedBy = some worker ∧ next = .ok a := by
  unfold owned
  split <;> simp_all

/-- The row `enqueue` inserts. -/
def fresh (now : Time) (action : QueueAction) (lane : Lane) (priority : Int)
    (maxAttempts : Nat) : QueueItem where
  action := action
  state := .pending
  lane := lane
  priority := priority
  availableAt := now
  attempts := 0
  maxAttempts := maxAttempts
  claimedBy := none
  claimedAt := none
  leaseExpiresAt := none
  lastError := none
  completedAt := none
  createdAt := now
  updatedAt := now

def defaultMaxAttempts : Nat := 3

/-- Idempotent: an active item is returned as it is, a settled one is refused. -/
def enqueue (now : Time) (existing : Option QueueItem) (action : QueueAction) (lane : Lane)
    (priority : Int) (maxAttempts : Nat) : Res (QueueItem × Bool) :=
  match existing with
  | none => .ok (fresh now action lane priority maxAttempts, true)
  | some row =>
    if row.state = .succeeded then
      .error (.conflict s!"{action.value} already succeeded for this opportunity")
    else if row.state.active then .ok (row, false)
    else .error (.conflict s!"{action.value} is {row.state.value} for this opportunity; use requeue")

/-- What `claim` may take: due, or held by a worker whose lease lapsed with tries left. -/
def runnable (now : Time) (row : QueueItem) : Bool :=
  (row.state.waiting && decide (row.availableAt ≤ now)) ||
  (row.state.held && (match row.leaseExpiresAt with
    | none => false
    | some until_ => decide (until_ < now)) && decide (row.attempts < row.maxAttempts))

/-- A lapsed lease on an item that has used all of its attempts. -/
def exhausted (now : Time) (row : QueueItem) : Bool :=
  row.state.held && (match row.leaseExpiresAt with
    | none => false
    | some until_ => decide (until_ < now)) && decide (row.maxAttempts ≤ row.attempts)

def parkExhausted (now : Time) (row : QueueItem) : QueueItem :=
  { row with
    state := .needsReview, claimedBy := none, leaseExpiresAt := none,
    lastError := some
      s!"worker lost on all {row.maxAttempts} attempts (lease expired); parked for review",
    updatedAt := now }

/-- The guarded update of a claim. -/
def take (now : Time) (worker : WorkerId) (leaseSeconds : Int) (row : QueueItem) : QueueItem :=
  { row with
    state := .claimed, claimedBy := some worker, claimedAt := some now,
    leaseExpiresAt := some (now + seconds leaseSeconds), attempts := row.attempts + 1,
    updatedAt := now }

/-- The extension claims the item of the page the person is on. The second component says
whether the item is handed out; a lapsed item without tries left is parked instead. -/
def claimItem (now : Time) (worker : WorkerId) (leaseSeconds : Int) (row : QueueItem) :
    QueueItem × Bool :=
  if row.state.held && row.claimedBy == some worker then (row, true)
  else if row.state.waiting && decide (row.availableAt ≤ now) then
    (row.take now worker leaseSeconds, true)
  else if row.state.held && (match row.leaseExpiresAt with
      | none => false
      | some until_ => decide (until_ < now)) then
    if row.maxAttempts ≤ row.attempts then (row.parkExhausted now, false)
    else (row.take now worker leaseSeconds, true)
  else (row, false)

def extendLease (now : Time) (row : QueueItem) (worker : WorkerId) (leaseSeconds : Int) :
    Res QueueItem :=
  row.owned worker (.ok { row with
    leaseExpiresAt := some (now + seconds leaseSeconds), updatedAt := now })

def start (now : Time) (row : QueueItem) (worker : WorkerId) : Res QueueItem :=
  row.owned worker <|
    if row.state ≠ .claimed then .error (.conflict s!"Cannot start a {row.state.value} item")
    else .ok { row with state := .processing, updatedAt := now }

/-- Give a claimed item back without counting it as a failure. -/
def release (now : Time) (row : QueueItem) (worker : WorkerId) : Res QueueItem :=
  row.owned worker (.ok { row with
    state := .pending, claimedBy := none, claimedAt := none, leaseExpiresAt := none,
    attempts := row.attempts - 1, updatedAt := now })

def succeed (now : Time) (row : QueueItem) (worker : WorkerId) : Res QueueItem :=
  row.owned worker (.ok { row with
    state := .succeeded, completedAt := some now, leaseExpiresAt := none, lastError := none,
    updatedAt := now })

/-- Record a failure; a retryable one waits with exponential backoff while tries remain. -/
def fail (now : Time) (row : QueueItem) (worker : WorkerId) (error : String)
    (retryable : Bool) : Res QueueItem :=
  row.owned worker <|
    let failed := { row with
      lastError := some (clip 2000 error), leaseExpiresAt := none, updatedAt := now }
    if retryable && decide (row.attempts < row.maxAttempts) then
      .ok { failed with
        state := .retryWait,
        availableAt := now + seconds (retryBackoffBaseSeconds * 2 ^ (row.attempts - 1)),
        claimedBy := none, claimedAt := none }
    else .ok { failed with state := .failed, completedAt := some now }

def block (now : Time) (row : QueueItem) (worker : WorkerId) (reason : String) : Res QueueItem :=
  row.owned worker (.ok { row with
    state := .blocked, lastError := some (clip 2000 reason), leaseExpiresAt := none,
    updatedAt := now })

def needsReview (now : Time) (row : QueueItem) (reason : String) : QueueItem :=
  { row with
    state := .needsReview, lastError := some (clip 2000 reason), leaseExpiresAt := none,
    claimedBy := none, updatedAt := now }

/-- Settle a parked item after verification or a person's decision. -/
def resolve (now : Time) (row : QueueItem) : Res QueueItem :=
  if row.state = .succeeded ∨ row.state = .cancelled then
    .error (.conflict s!"Cannot resolve a {row.state.value} item")
  else .ok { row with
    state := .succeeded, completedAt := some now, leaseExpiresAt := none, claimedBy := none,
    lastError := none, updatedAt := now }

def cancel (now : Time) (row : QueueItem) : Res QueueItem :=
  if row.state = .succeeded then .error (.conflict "Cannot cancel a succeeded item")
  else .ok { row with
    state := .cancelled, completedAt := some now, leaseExpiresAt := none, claimedBy := none,
    updatedAt := now }

/-- Back to PENDING with a fresh attempt count. A succeeded item is refused, except a
PREPARE item whose package has been invalidated. -/
def requeue (now : Time) (row : QueueItem) (allowSucceeded : Bool) : Res QueueItem :=
  if row.state = .succeeded ∧ ¬ (allowSucceeded ∧ row.action = .prepare) then
    .error (.conflict "Cannot requeue a succeeded item")
  else if row.state = .pending ∨ row.state.held then
    .error (.conflict s!"Item is already {row.state.value}")
  else .ok { row with
    state := .pending, availableAt := now, claimedBy := none, claimedAt := none,
    leaseExpiresAt := none, completedAt := none, lastError := none, attempts := 0,
    updatedAt := now }

section Outcomes
variable {now : Time} {row row' : QueueItem} {worker : WorkerId}

/-! What a successful call did, one lemma to an operation. -/

theorem start_ok (done : row.start now worker = .ok row') :
    row.claimedBy = some worker ∧ row.state = .claimed ∧
      row' = { row with state := .processing, updatedAt := now } := by
  obtain ⟨owner, rest⟩ := owned_ok.mp done
  split at rest
  · contradiction
  · rename_i claimed
    exact ⟨owner, not_not.mp claimed, (Except.ok.inj rest).symm⟩

theorem release_ok (done : row.release now worker = .ok row') :
    row.claimedBy = some worker ∧ row' = { row with
      state := .pending, claimedBy := none, claimedAt := none, leaseExpiresAt := none,
      attempts := row.attempts - 1, updatedAt := now } := by
  obtain ⟨owner, rest⟩ := owned_ok.mp done
  exact ⟨owner, (Except.ok.inj rest).symm⟩

theorem succeed_ok (done : row.succeed now worker = .ok row') :
    row.claimedBy = some worker ∧ row' = { row with
      state := .succeeded, completedAt := some now, leaseExpiresAt := none, lastError := none,
      updatedAt := now } := by
  obtain ⟨owner, rest⟩ := owned_ok.mp done
  exact ⟨owner, (Except.ok.inj rest).symm⟩

theorem block_ok {reason : String} (done : row.block now worker reason = .ok row') :
    row.claimedBy = some worker ∧ row' = { row with
      state := .blocked, lastError := some (clip 2000 reason), leaseExpiresAt := none,
      updatedAt := now } := by
  obtain ⟨owner, rest⟩ := owned_ok.mp done
  exact ⟨owner, (Except.ok.inj rest).symm⟩

theorem extendLease_ok {lease : Int} (done : row.extendLease now worker lease = .ok row') :
    row.claimedBy = some worker ∧ row' = { row with
      leaseExpiresAt := some (now + seconds lease), updatedAt := now } := by
  obtain ⟨owner, rest⟩ := owned_ok.mp done
  exact ⟨owner, (Except.ok.inj rest).symm⟩

/-- A failure either waits for its retry, unowned, or ends the item. -/
theorem fail_ok {error : String} {retryable : Bool}
    (done : row.fail now worker error retryable = .ok row') :
    row.claimedBy = some worker ∧
    ((retryable = true ∧ row.attempts < row.maxAttempts ∧ row'.state = .retryWait ∧
        row'.claimedBy = none ∧ row'.leaseExpiresAt = none) ∨
      (¬ (retryable = true ∧ row.attempts < row.maxAttempts) ∧ row'.state = .failed ∧
        row'.claimedBy = row.claimedBy ∧ row'.leaseExpiresAt = none)) ∧
      row'.action = row.action := by
  obtain ⟨owner, rest⟩ := owned_ok.mp done
  simp only at rest
  split at rest
  · rename_i again
    simp only [Bool.and_eq_true, decide_eq_true_eq] at again
    cases Except.ok.inj rest
    exact ⟨owner, .inl ⟨again.1, again.2, rfl, rfl, rfl⟩, rfl⟩
  · rename_i final
    simp only [Bool.and_eq_true, decide_eq_true_eq] at final
    cases Except.ok.inj rest
    exact ⟨owner, .inr ⟨final, rfl, rfl, rfl⟩, rfl⟩

theorem resolve_ok (done : row.resolve now = .ok row') :
    row.state ≠ .succeeded ∧ row.state ≠ .cancelled ∧ row' = { row with
      state := .succeeded, completedAt := some now, leaseExpiresAt := none, claimedBy := none,
      lastError := none, updatedAt := now } := by
  unfold resolve at done
  split at done
  · contradiction
  · rename_i settled
    rw [not_or] at settled
    exact ⟨settled.1, settled.2, (Except.ok.inj done).symm⟩

theorem cancel_ok (done : row.cancel now = .ok row') :
    row.state ≠ .succeeded ∧ row' = { row with
      state := .cancelled, completedAt := some now, leaseExpiresAt := none, claimedBy := none,
      updatedAt := now } := by
  unfold cancel at done
  split at done
  · contradiction
  · rename_i open_
    exact ⟨open_, (Except.ok.inj done).symm⟩

theorem requeue_ok {allow : Bool} (done : row.requeue now allow = .ok row') :
    ¬ (row.state = .succeeded ∧ ¬ (allow ∧ row.action = .prepare)) ∧ row.state ≠ .pending ∧
      row.state.held = false ∧ row' = { row with
        state := .pending, availableAt := now, claimedBy := none, claimedAt := none,
        leaseExpiresAt := none, completedAt := none, lastError := none, attempts := 0,
        updatedAt := now } := by
  unfold requeue at done
  split at done
  · contradiction
  · rename_i allowed
    split at done
    · contradiction
    · rename_i idle
      rw [not_or, Bool.not_eq_true] at idle
      exact ⟨allowed, idle.1, idle.2, (Except.ok.inj done).symm⟩

end Outcomes

end QueueItem

end RangeApply
