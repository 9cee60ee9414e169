import RangeApply.Store

/-! The queue as its users share it: workers, the API, people and recovery call the repository
in any order. A claim reads its candidates first and then updates each of them on its own,
guarded by the row's state and owner; every other call is one step. -/
namespace RangeApply

/-- Idempotency: one item to an opening and an action. -/
abbrev ItemId := OpportunityId × QueueAction

/-- The session a claim runs in. -/
abbrev CallId := Nat

namespace QueueItem

def lapsed (now : Time) (row : QueueItem) : Bool :=
  match row.leaseExpiresAt with
  | none => false
  | some until_ => decide (until_ < now)

/-- The guard of an update: state and owner are as they were read. -/
def guardedBy (row seen : QueueItem) : Bool :=
  decide (row.state = seen.state) && decide (row.claimedBy = seen.claimedBy)

/-- `requeue`, with or without a fresh attempt count. -/
def requeueWith (now : Time) (row : QueueItem) (resetAttempts allowSucceeded : Bool) : Res QueueItem :=
  (row.requeue now allowSucceeded).map fun item =>
    if resetAttempts then item else { item with attempts := row.attempts }

/-- A lapsed lease goes back to PENDING, unless the item has used all of its attempts. -/
def reclaim (now : Time) (row : QueueItem) : QueueItem :=
  if row.state.held && row.lapsed now then
    if row.maxAttempts ≤ row.attempts then row.parkExhausted now
    else { row with
      state := .pending, claimedBy := none, claimedAt := none, leaseExpiresAt := none,
      updatedAt := now }
  else row

/-- What `recover_lost_runs` writes on the item of a run that provably pressed nothing: the
repository is not asked. -/
def giveBack (now : Time) (row : QueueItem) : QueueItem :=
  if row.state.held then { row with
    state := .pending, claimedBy := none, claimedAt := none, leaseExpiresAt := none,
    availableAt := now }
  else row

end QueueItem

/-- The repository's operations on one row. -/
inductive ItemOp
  | extendLease (worker : WorkerId) (leaseSeconds : Int)
  | start (worker : WorkerId)
  | release (worker : WorkerId)
  | succeed (worker : WorkerId)
  | fail (worker : WorkerId) (error : String) (retryable : Bool)
  | block (worker : WorkerId) (reason : String)
  | needsReview (reason : String)
  | resolve
  | cancel
  | requeue (resetAttempts allowSucceeded : Bool)

def ItemOp.apply (now : Time) (row : QueueItem) : ItemOp → Res QueueItem
  | .extendLease worker leaseSeconds => row.extendLease now worker leaseSeconds
  | .start worker => row.start now worker
  | .release worker => row.release now worker
  | .succeed worker => row.succeed now worker
  | .fail worker error retryable => row.fail now worker error retryable
  | .block worker reason => row.block now worker reason
  | .needsReview reason => .ok (row.needsReview now reason)
  | .resolve => row.resolve now
  | .cancel => row.cancel now
  | .requeue resetAttempts allowSucceeded => row.requeueWith now resetAttempts allowSucceeded

/-- A claim between its SELECT and its last UPDATE: the rows it has still to update, as it read
them. -/
structure ClaimCall where
  worker : WorkerId
  leaseSeconds : Int
  at_ : Time
  rows : List (ItemId × QueueItem)
  read : ∀ r ∈ rows, r.2.runnable at_ = true

def ClaimCall.rest (call : ClaimCall) : ClaimCall :=
  { call with
    rows := call.rows.tail
    read := fun r member => call.read r (List.mem_of_mem_tail member) }

/-- The tenant's items, what a claim's order reads of their candidates, and the claims under way. -/
structure Repo where
  now : Time
  items : Table ItemId QueueItem
  uncertain : ItemId → Bool
  calls : Table CallId ClaimCall

/-- A step: a call of the repository, half a claim, a recovery, or the clock. -/
inductive Call
  | tick (elapsed : Nat)
  | evaluate (i : ItemId) (uncertain : Bool)
  | enqueue (i : ItemId) (lane : Lane) (priority : Int) (maxAttempts : Nat)
  | select (p : CallId) (worker : WorkerId) (action : Option QueueAction) (lane : Option Lane)
      (limit : Nat) (leaseSeconds : Int)
  | selectItem (p : CallId) (worker : WorkerId) (i : ItemId) (leaseSeconds : Int)
  | update (p : CallId)
  | op (i : ItemId) (o : ItemOp)
  | reclaimExpired
  | recoverLost (i : ItemId)

namespace Repo

def wanted (action : Option QueueAction) (lane : Option Lane) (row : QueueItem) : Bool :=
  (decide (action = none) || decide (action = some row.action)) &&
    (decide (lane = none) || decide (lane = some row.lane))

/-- UNCERTAIN openings last, then priority, then age. -/
def claimKey (s : Repo) (r : ItemId × QueueItem) : List Int :=
  [if s.uncertain r.1 then 1 else 0, -r.2.priority, r.2.availableAt, r.2.createdAt]

def parkExhaustedLeases (s : Repo) (action : Option QueueAction) (lane : Option Lane) : Repo :=
  { s with items := s.items.mapRows fun _ row =>
      if wanted action lane row && row.exhausted s.now then row.parkExhausted s.now else row }

/-- The candidates of a claim, in its order. -/
def candidates (s : Repo) (action : Option QueueAction) (lane : Option Lane) (limit : Nat) :
    List (ItemId × QueueItem) :=
  (sortBy s.claimKey
    (s.items.rows.filter fun r => r.2.runnable s.now && wanted action lane r.2)).take limit

theorem candidates_runnable (s : Repo) (action : Option QueueAction) (lane : Option Lane) (limit : Nat) :
    ∀ r ∈ s.candidates action lane limit, r.2.runnable s.now = true := by
  intro r chosen
  have member := (sortBy_perm _).mem_iff.mp (List.mem_of_mem_take chosen)
  rw [List.mem_filter, Bool.and_eq_true] at member
  exact member.2.1

def setCall (s : Repo) (p : CallId) (call : ClaimCall) : Repo :=
  { s with calls := s.calls.set p call }

/-- The first half of `claim`. -/
def select (s : Repo) (p : CallId) (worker : WorkerId) (action : Option QueueAction)
    (lane : Option Lane) (limit : Nat) (leaseSeconds : Int) : Repo :=
  let s := s.parkExhaustedLeases action lane
  s.setCall p ⟨worker, leaseSeconds, s.now, s.candidates action lane limit,
    s.candidates_runnable action lane limit⟩

/-- The first half of `claim_item`: an item the worker holds is handed out as it is, and one that
has used all of its attempts is parked. -/
def selectItem (s : Repo) (p : CallId) (worker : WorkerId) (i : ItemId) (leaseSeconds : Int) : Repo :=
  match s.items.get i with
  | none => s
  | some row =>
    if row.state.held && row.claimedBy == some worker then s
    else if row.exhausted s.now then { s with items := s.items.put i (row.parkExhausted s.now) }
    else if runnable : row.runnable s.now = true then
      s.setCall p ⟨worker, leaseSeconds, s.now, [(i, row)], by simpa using runnable⟩
    else s

/-- The row that a claim's next update takes: one that is guarded as the claim read it. -/
def taking (s : Repo) (p : CallId) : Option (ClaimCall × ItemId × QueueItem) :=
  match s.calls.get p with
  | none => none
  | some call =>
    match call.rows.head? with
    | none => none
    | some (i, seen) =>
      match s.items.get i with
      | none => none
      | some row => if row.guardedBy seen then some (call, i, row) else none

/-- The next update of a claim; a row that is not as it was read is skipped. -/
def update (s : Repo) (p : CallId) : Repo :=
  match s.calls.get p with
  | none => s
  | some call =>
    let left := s.setCall p call.rest
    match s.taking p with
    | none => left
    | some (_, i, row) =>
      { left with items := s.items.put i (row.take call.at_ call.worker call.leaseSeconds) }

/-- A call on one row; a refused one leaves it. -/
def change (s : Repo) (i : ItemId) (f : QueueItem → Res QueueItem) : Repo :=
  match s.items.get i with
  | none => s
  | some row =>
    match f row with
    | .error _ => s
    | .ok row => { s with items := s.items.put i row }

def step (s : Repo) : Call → Repo
  | .tick elapsed => { s with now := s.now + elapsed }
  | .evaluate i uncertain =>
    { s with uncertain := fun j => if j = i then uncertain else s.uncertain j }
  | .enqueue i lane priority maxAttempts =>
    match QueueItem.enqueue s.now (s.items.get i) i.2 lane priority maxAttempts with
    | .error _ => s
    | .ok (row, _) => { s with items := s.items.insertNew i row }
  | .select p worker action lane limit leaseSeconds => s.select p worker action lane limit leaseSeconds
  | .selectItem p worker i leaseSeconds => s.selectItem p worker i leaseSeconds
  | .update p => s.update p
  | .op i o => s.change i fun row => o.apply s.now row
  | .reclaimExpired => { s with items := s.items.mapRows fun _ row => row.reclaim s.now }
  | .recoverLost i =>
    s.change i fun row => .ok (if liveItem s.now (some row) then row else row.giveBack s.now)

def initial (now : Time) : Repo := ⟨now, .empty, fun _ => false, .empty⟩

section Rows
variable {s : Repo} {i : ItemId} {row row' : QueueItem}

/-- What a step may make of a row. -/
inductive RowStep (s : Repo) (i : ItemId) (row : QueueItem) : Call → QueueItem → Prop
  | kept (l : Call) : RowStep s i row l row
  | parked (l : Call) (spent : row.exhausted s.now = true) : RowStep s i row l (row.parkExhausted s.now)
  | taken (p : CallId) (call : ClaimCall) (taking : s.taking p = some (call, i, row)) :
      RowStep s i row (.update p) (row.take call.at_ call.worker call.leaseSeconds)
  | op {row' : QueueItem} (o : ItemOp) (done : o.apply s.now row = .ok row') :
      RowStep s i row (.op i o) row'
  | reclaimed : RowStep s i row .reclaimExpired (row.reclaim s.now)
  | lost (gone : liveItem s.now (some row) = false) :
      RowStep s i row (.recoverLost i) (row.giveBack s.now)

theorem change_row {l : Call} (f : QueueItem → Res QueueItem) {j : ItemId}
    (found : s.items.get i = some row)
    (here : ∀ row', j = i → f row = .ok row' → RowStep s i row l row') :
    ∃ row', (s.change j f).items.get i = some row' ∧ RowStep s i row l row' := by
  unfold change
  split
  · exact ⟨row, found, .kept l⟩
  · rename_i row₁ found₁
    split
    · exact ⟨row, found, .kept l⟩
    · rename_i row₂ done
      by_cases mine : j = i
      · subst mine
        cases Option.some.inj (found.symm.trans found₁)
        exact ⟨row₂, Table.get_put_self found, here row₂ rfl done⟩
      · exact ⟨row, (Table.get_put_other _ _ (Ne.symm mine)).trans found, .kept l⟩

theorem change_none {j : ItemId} (f : QueueItem → Res QueueItem) (missing : s.items.get i = none) :
    (s.change j f).items.get i = none := by
  unfold change
  split
  · exact missing
  split
  · exact missing
  · exact Table.get_put_none _ missing

theorem selectItem_row {l : Call} {p : CallId} {worker : WorkerId} {j : ItemId} {leaseSeconds : Int}
    (found : s.items.get i = some row) :
    ∃ row', (s.selectItem p worker j leaseSeconds).items.get i = some row' ∧ RowStep s i row l row' := by
  unfold selectItem
  split
  · exact ⟨row, found, .kept l⟩
  rename_i row₁ found₁
  split
  · exact ⟨row, found, .kept l⟩
  split
  · rename_i spent
    by_cases mine : j = i
    · subst mine
      cases Option.some.inj (found.symm.trans found₁)
      exact ⟨_, Table.get_put_self found, .parked l spent⟩
    · exact ⟨row, (Table.get_put_other _ _ (Ne.symm mine)).trans found, .kept l⟩
  split
  · exact ⟨row, found, .kept l⟩
  · exact ⟨row, found, .kept l⟩

/-- What an update takes is the row as it is, still in the state and the hands that a claim under
way has read it in. -/
theorem taking_ok {p : CallId} {call : ClaimCall} (taking : s.taking p = some (call, i, row)) :
    s.calls.get p = some call ∧ s.items.get i = some row ∧ ∃ seen, (i, seen) ∈ call.rows ∧
      row.state = seen.state ∧ row.claimedBy = seen.claimedBy := by
  unfold Repo.taking at taking
  split at taking
  · contradiction
  rename_i call₁ open_
  split at taking
  · contradiction
  rename_i j seen next
  split at taking
  · contradiction
  rename_i row₁ found
  split at taking
  · rename_i guard
    cases Option.some.inj taking
    simp only [QueueItem.guardedBy, Bool.and_eq_true, decide_eq_true_eq] at guard
    exact ⟨open_, found, seen, List.mem_of_mem_head? next, guard.1, guard.2⟩
  · contradiction

theorem update_row {p : CallId} (found : s.items.get i = some row) :
    ∃ row', (s.update p).items.get i = some row' ∧ RowStep s i row (.update p) row' := by
  unfold update
  split
  · exact ⟨row, found, .kept _⟩
  rename_i call open_
  dsimp only
  split
  · exact ⟨row, found, .kept _⟩
  · rename_i call₁ j row₁ taking
    obtain ⟨open₁, found₁, -⟩ := taking_ok taking
    cases Option.some.inj (open_.symm.trans open₁)
    by_cases mine : j = i
    · subst mine
      cases Option.some.inj (found.symm.trans found₁)
      exact ⟨_, Table.get_put_self found, .taken p call taking⟩
    · exact ⟨row, (Table.get_put_other _ _ (Ne.symm mine)).trans found, .kept _⟩

/-- Every row goes on, by one of the changes a step makes. -/
theorem step_row (l : Call) (found : s.items.get i = some row) :
    ∃ row', (s.step l).items.get i = some row' ∧ RowStep s i row l row' := by
  cases l with
  | tick | evaluate => exact ⟨row, found, .kept _⟩
  | enqueue j lane priority maxAttempts =>
    simp only [step]
    split
    · exact ⟨row, found, .kept _⟩
    · exact ⟨row, Table.get_insertNew found, .kept _⟩
  | select p worker action lane limit leaseSeconds =>
    refine ⟨_, (Table.get_mapRows _ _ i).trans (by rw [found]; rfl), ?_⟩
    dsimp only
    split
    · rename_i spent
      rw [Bool.and_eq_true] at spent
      exact .parked _ spent.2
    · exact .kept _
  | selectItem p worker j leaseSeconds => exact selectItem_row found
  | update p => exact update_row found
  | op j o =>
    refine change_row _ found fun row' same done => ?_
    subst same
    exact .op o done
  | reclaimExpired =>
    exact ⟨_, (Table.get_mapRows _ _ i).trans (by rw [found]; rfl), .reclaimed⟩
  | recoverLost j =>
    refine change_row _ found fun row' same done => ?_
    subst same
    cases Except.ok.inj done
    split
    · exact .kept _
    · rename_i gone
      exact .lost (by simpa using gone)

theorem enqueue_none {now : Time} {action : QueueAction} {lane : Lane} {priority : Int}
    {maxAttempts : Nat} {answer : QueueItem × Bool}
    (done : QueueItem.enqueue now none action lane priority maxAttempts = .ok answer) :
    answer.1 = .fresh now action lane priority maxAttempts := by
  cases Except.ok.inj done
  rfl

theorem step_new {l : Call} (missing : s.items.get i = none)
    (found : (s.step l).items.get i = some row') : ∃ lane priority maxAttempts,
      l = .enqueue i lane priority maxAttempts ∧ row' = .fresh s.now i.2 lane priority maxAttempts := by
  have absent (t : Table ItemId QueueItem) (same : t.get i = none) (got : t.get i = some row') : False := by
    rw [same] at got
    contradiction
  have kept (j : ItemId) (row : QueueItem) : (s.items.put j row).get i = none :=
    Table.get_put_none row missing
  have mapped (f : ItemId → QueueItem → QueueItem) : (s.items.mapRows f).get i = none := by
    rw [Table.get_mapRows, missing]
    rfl
  cases l with
  | tick | evaluate => exact (absent _ missing found).elim
  | enqueue j lane priority maxAttempts =>
    simp only [step] at found
    split at found
    · exact (absent _ missing found).elim
    · rename_i row created done
      obtain ⟨rfl, rfl⟩ := Table.get_insertNew_none missing found
      rw [missing] at done
      exact ⟨lane, priority, maxAttempts, rfl, enqueue_none done⟩
  | select p worker action lane limit leaseSeconds => exact (absent _ (mapped _) found).elim
  | selectItem p worker j leaseSeconds =>
    simp only [step, selectItem] at found
    split at found
    · exact (absent _ missing found).elim
    split at found
    · exact (absent _ missing found).elim
    split at found
    · exact (absent _ (kept _ _) found).elim
    split at found
    · exact (absent _ missing found).elim
    · exact (absent _ missing found).elim
  | update p =>
    simp only [step, update] at found
    split at found
    · exact (absent _ missing found).elim
    split at found
    · exact (absent _ missing found).elim
    · exact (absent _ (kept _ _) found).elim
  | op j o => exact (absent _ (change_none _ missing) found).elim
  | reclaimExpired => exact (absent _ (mapped _) found).elim
  | recoverLost j => exact (absent _ (change_none _ missing) found).elim

theorem all_step {P : ItemId → QueueItem → Prop} (l : Call) (all : s.items.All P)
    (fresh : ∀ i lane priority maxAttempts, l = .enqueue i lane priority maxAttempts →
      s.items.get i = none → P i (.fresh s.now i.2 lane priority maxAttempts))
    (keeps : ∀ i row row', s.items.get i = some row → P i row → RowStep s i row l row' → P i row') :
    (s.step l).items.All P := by
  intro r member
  have found' := Table.get_eq_some.mpr member
  cases found : s.items.get r.1 with
  | some row =>
    obtain ⟨row', here, change⟩ := step_row l found
    cases Option.some.inj (here.symm.trans found')
    exact keeps r.1 row r.2 found (all.get found) change
  | none =>
    obtain ⟨lane, priority, maxAttempts, rfl, same⟩ := step_new found found'
    rw [same]
    exact fresh r.1 lane priority maxAttempts rfl found

end Rows

end Repo

end RangeApply
