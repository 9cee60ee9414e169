import RangeApply.Decisions
import RangeApply.Service

/-! The tenant's store: the openings with the ledger, the settings the services read, and the
two ways an operation reaches it, on one opening or by a claim over the whole queue. -/
namespace RangeApply

/-- The committed state of one tenant. -/
structure DB where
  now : Time
  policy : ApplicationPolicy
  switches : List (String × Bool)
  live : Bool
  answersAt : Option Time
  openings : Table OpportunityId Opening
  ledger : CapLedger

namespace DB

def put (i : OpportunityId) (s : Slice) (db : DB) : DB :=
  { db with openings := db.openings.put i s.opening, ledger := s.ledger }

def update (i : OpportunityId) (f : Slice → Slice) (db : DB) : DB :=
  match db.openings.get i with
  | none => db
  | some o => db.put i (f ⟨o, db.ledger⟩)

/-- The same for an operation that may fail; its transaction is then rolled back. -/
def act {α : Type} (i : OpportunityId) (f : Slice → Res (Slice × α)) (db : DB) : DB × Option α :=
  match db.openings.get i with
  | none => (db, none)
  | some o =>
    match f ⟨o, db.ledger⟩ with
    | .error _ => (db, none)
    | .ok (s, a) => (db.put i s, some a)

def keys (env : Env) (db : DB) : PeriodKeys := env.periodKeys db.now db.policy.timezone

def ids (db : DB) : List OpportunityId := db.openings.rows.map Prod.fst

def others (db : DB) (i : OpportunityId) : List Opening :=
  (db.openings.rows.filter fun r => r.1 ≠ i).map Prod.snd

def checkInputs (db : DB) (i : OpportunityId) (stale : List String) : CheckInputs :=
  ⟨db.policy, db.now, db.others i, stale⟩

def gateReads (db : DB) (i : OpportunityId) (stale : List String) : GateReads :=
  ⟨db.checkInputs i stale, db.switches, db.live⟩

end DB

/-! ### Ordering -/

section Ordering
variable {β : Type} (key : β → List Int)

def insertBy (r : β) : List β → List β
  | [] => [r]
  | r' :: rest => if keyLe (key r') (key r) then r' :: insertBy r rest else r :: r' :: rest

def sortBy (rows : List β) : List β := rows.foldl (fun acc r => insertBy key r acc) []

variable {key}

theorem insertBy_perm (r : β) (l : List β) : (insertBy key r l).Perm (r :: l) := by
  induction l with
  | nil => exact .refl _
  | cons r' rest ih =>
    unfold insertBy
    split
    · exact (ih.cons r').trans (.swap r r' rest)
    · exact .refl _

theorem sortBy_perm (rows : List β) : (sortBy key rows).Perm rows := by
  have all (l acc : List β) : (l.foldl (fun acc r => insertBy key r acc) acc).Perm (l ++ acc) := by
    induction l generalizing acc with
    | nil => exact .refl _
    | cons r l ih =>
      have here : (l ++ insertBy key r acc).Perm (l ++ r :: acc) :=
        (insertBy_perm r acc).append_left l
      exact ((ih _).trans here).trans List.perm_middle
  simpa [sortBy] using all rows []

theorem insertBy_map {α β : Type} (key : β → List Int) (f : α → β) (a : α) (rows : List α) :
    insertBy key (f a) (rows.map f) = (insertBy (fun a => key (f a)) a rows).map f := by
  induction rows with
  | nil => rfl
  | cons r rows ih =>
    simp only [List.map_cons, insertBy]
    split
    · rw [ih, List.map_cons]
    · rfl

/-- Sorting commutes with a map that keeps the keys. -/
theorem sortBy_map {α β : Type} (key : β → List Int) (f : α → β) (rows : List α) :
    sortBy key (rows.map f) = (sortBy (fun a => key (f a)) rows).map f := by
  have all (rows acc : List α) : (rows.map f).foldl (fun acc r => insertBy key r acc) (acc.map f) =
      (rows.foldl (fun acc r => insertBy (fun a => key (f a)) r acc) acc).map f := by
    induction rows generalizing acc with
    | nil => rfl
    | cons r rows ih => rw [List.map_cons, List.foldl_cons, List.foldl_cons, insertBy_map, ih]
  exact all rows []

end Ordering

/-! ### Claims -/

def defaultLeaseSeconds : Int := 600

/-- How long a claim of this action lasts. -/
def leaseFor (env : Env) : QueueAction → Int
  | .prepare => defaultLeaseSeconds
  | .submit => env.leaseSeconds

namespace Opening

def item (o : Opening) : QueueAction → Option QueueItem
  | .prepare => o.prepare
  | .submit => o.submit

def onItem (o : Opening) (action : QueueAction) (lane : Option Lane) (f : QueueItem → QueueItem) :
    Opening :=
  let change (item : QueueItem) : QueueItem :=
    if lane = none ∨ lane = some item.lane then f item else item
  match action with
  | .prepare => { o with prepare := o.prepare.map change }
  | .submit => { o with submit := o.submit.map change }

end Opening

/-- The order of a claim: UNCERTAIN openings last, then priority, then age. -/
def claimKey (o : Opening) (item : QueueItem) : List Int :=
  [ if o.candidate.bind CandidateOpportunity.eligibilityStatus = some .uncertain then 1 else 0,
    -item.priority, item.availableAt, item.createdAt ]

namespace DB

def parkExhaustedLeases (action : QueueAction) (lane : Option Lane) (db : DB) : DB :=
  { db with openings := db.openings.mapRows fun _ o => o.onItem action lane fun item =>
      if item.exhausted db.now then item.parkExhausted db.now else item }

/-- The runnable items of the action and lane, in claiming order. -/
def claimable (action : QueueAction) (lane : Option Lane) (db : DB) : List OpportunityId :=
  let rows := db.openings.rows.filterMap fun r =>
    match r.2.item action with
    | none => none
    | some item =>
      if item.runnable db.now ∧ (lane = none ∨ lane = some item.lane) then
        some (r.1, claimKey r.2 item)
      else none
  (sortBy Prod.snd rows).map Prod.fst

/-- `claim`: up to `limit` runnable items go to the worker, each by an update that is guarded
by the row being as it was read. -/
def claim (env : Env) (worker : WorkerId) (action : QueueAction) (lane : Option Lane)
    (limit : Nat) (db : DB) : DB :=
  let db := db.parkExhaustedLeases action lane
  let chosen := (db.claimable action lane).take limit
  { db with openings := db.openings.mapRows fun i o =>
      if i ∈ chosen then o.onItem action lane fun item =>
        if item.runnable db.now then item.take db.now worker (leaseFor env action) else item
      else o }

end DB

/-! ### Effects on the store -/

section Effects
variable {db db' : DB} {i : OpportunityId}

@[simp] theorem DB.put_openings (s : Slice) : (db.put i s).openings = db.openings.put i s.opening :=
  rfl

@[simp] theorem DB.put_now (s : Slice) : (db.put i s).now = db.now := rfl

@[simp] theorem DB.put_policy (s : Slice) : (db.put i s).policy = db.policy := rfl

@[simp] theorem DB.put_ledger (s : Slice) : (db.put i s).ledger = s.ledger := rfl

theorem DB.act_cases {α : Type} (f : Slice → Res (Slice × α)) :
    db.act i f = (db, none) ∨ ∃ o s a, db.openings.get i = some o ∧
      f ⟨o, db.ledger⟩ = .ok (s, a) ∧ db.act i f = (db.put i s, some a) := by
  unfold act
  split
  · exact .inl rfl
  · rename_i o found
    split
    · exact .inl rfl
    · rename_i s a done
      exact .inr ⟨o, s, a, found, done, rfl⟩

theorem DB.act_some {α : Type} {f : Slice → Res (Slice × α)} {a : α}
    (answered : (db.act i f).2 = some a) : ∃ o s, db.openings.get i = some o ∧
      f ⟨o, db.ledger⟩ = .ok (s, a) ∧ (db.act i f).1 = db.put i s := by
  rcases (DB.act_cases f : db.act i f = (db, none) ∨ _) with same | ⟨o, s, a', found, done, same⟩
  · rw [same] at answered
    contradiction
  · rw [same] at answered
    cases Option.some.inj answered
    exact ⟨o, s, found, done, congrArg Prod.fst same⟩

theorem DB.update_cases (f : Slice → Slice) :
    db.update i f = db ∨
      ∃ o, db.openings.get i = some o ∧ db.update i f = db.put i (f ⟨o, db.ledger⟩) := by
  unfold update
  split
  · exact .inl rfl
  · rename_i o found
    exact .inr ⟨o, found, rfl⟩

theorem DB.get_put_other (s : Slice) {j : OpportunityId} (other : j ≠ i) :
    (db.put i s).openings.get j = db.openings.get j :=
  Table.get_put_other _ _ other

theorem DB.get_put_self (s : Slice) {o : Opening} (found : db.openings.get i = some o) :
    (db.put i s).openings.get i = some s.opening :=
  Table.get_put_self found

end Effects

end RangeApply
