import RangeApply.Charges
import RangeApply.Quota

/-! Conservation of slots: the ledger never counts fewer slots of a period than attempts that hold
one, whatever moves are made, and an attempt gives its slot back once. -/
namespace RangeApply

def DB.holders (db : DB) (kind : PeriodKind) (key : String) : Finset OpportunityId :=
  db.openings.select fun o => o.charged kind key

/-- The ledger has a slot for every attempt that holds one. -/
def Covered (db : DB) : Prop :=
  ∀ kind key, ((db.holders kind key).card : Int) ≤ db.ledger.balance kind key

section Holders
variable {db : DB} {i : OpportunityId} {o : Opening} {s : Slice} {kind : PeriodKind} {key : String}

theorem mem_holders (found : db.openings.get i = some o) :
    i ∈ db.holders kind key ↔ o.charged kind key = true := by
  simp [DB.holders, Table.mem_select, found]

theorem mem_holders_put (found : db.openings.get i = some o) :
    i ∈ (db.put i s).holders kind key ↔ s.opening.charged kind key = true :=
  Table.mem_select_put found

theorem mem_holders_other {j : OpportunityId} (other : j ≠ i) :
    j ∈ (db.put i s).holders kind key ↔ j ∈ db.holders kind key :=
  Table.mem_select_put_other other

theorem Covered.put {policy : ApplicationPolicy} {keys : PeriodKeys} {may : Prop} (covered : Covered db)
    (found : db.openings.get i = some o) (charged : Charged policy keys may ⟨o, db.ledger⟩ s) :
    Covered (db.put i s) := by
  intro kind key
  refine Quota.covered_of_booked (covered kind key) (fun j other => mem_holders_other other) ?_
  simp only [mem_holders found, mem_holders_put found]
  exact charged.booked kind key

theorem Covered.arrive (covered : Covered db) (l : Label) : Covered (db.arrive l) := by
  cases l with
  | discover i company title w =>
    intro kind key
    have same : (db.arrive (.discover i company title w)).holders kind key = db.holders kind key :=
      Table.select_insertNew rfl
    rw [same]
    exact covered kind key
  | _ => exact covered

end Holders

theorem step_covered {env : Env} {ident : ProcId → WorkerId} (s : Sys) (l : Label)
    (covered : Covered s.db) : Covered (s.step env ident l).db :=
  (Sys.step_ops env ident s l).store Covered
    (fun _ _ _ _ _ covered found op => covered.put found (op_charged op)) (covered.arrive l)

/-! ### Releasing again and again -/

/-- One call of `release` on the attempt, after others have worked on the ledger. -/
structure ReleaseCall where
  meanwhile : CapLedger → CapLedger
  now : Time
  status : ApplicationStatus
  reason : String

def releaseAll (ledger : CapLedger) (row : Application) : List ReleaseCall → CapLedger × Application
  | [] => (ledger, row)
  | call :: calls =>
    let released := row.release call.now (call.meanwhile ledger) call.status call.reason
    releaseAll released.1 released.2 calls

def meanwhileAll (ledger : CapLedger) (calls : List ReleaseCall) : CapLedger :=
  calls.foldl (fun ledger call => call.meanwhile ledger) ledger

theorem releaseAll_free {row : Application} (free : row.holdsSlot = false) (ledger : CapLedger)
    (calls : List ReleaseCall) : (releaseAll ledger row calls).1 = meanwhileAll ledger calls := by
  induction calls generalizing ledger row with
  | nil => rfl
  | cons call calls ih =>
    have still := (Application.release_spec call.now row (call.meanwhile ledger) call.status
      call.reason).2
    have kept := Application.release_ledger call.now row (call.meanwhile ledger) call.status call.reason
    rw [free] at kept
    rw [releaseAll, ih still, kept]
    rfl

theorem releaseAll_once (ledger : CapLedger) (row : Application) (call : ReleaseCall)
    (calls : List ReleaseCall) : (releaseAll ledger row (call :: calls)).1 =
      meanwhileAll (if row.holdsSlot then (call.meanwhile ledger).release row.capDay row.capWeek
        else call.meanwhile ledger) calls := by
  have free := (Application.release_spec call.now row (call.meanwhile ledger) call.status
    call.reason).2
  rw [releaseAll, releaseAll_free free, Application.release_ledger]

/-! ### Conservation -/

/-- In every state that is reached, the usage of a period is at least the number of attempts that
hold a slot of it; and however often an attempt is released, the ledger has one refund of it. -/
theorem slots_conserved (env : Env) (ident : ProcId → WorkerId) (policy : ApplicationPolicy)
    (now : Time) (ls : List Label) :
    let db := (Trace.run (Sys.step env ident) (.initial policy now) ls).db
    (∀ kind key, ((db.holders kind key).card : Int) ≤ db.ledger.usage kind key) ∧
      ∀ (ledger : CapLedger) (row : Application) (call : ReleaseCall) (calls : List ReleaseCall),
        (releaseAll ledger row (call :: calls)).1 =
          meanwhileAll (if row.holdsSlot then (call.meanwhile ledger).release row.capDay row.capWeek
            else call.meanwhile ledger) calls := by
  have initial : Covered (Sys.initial policy now).db := fun kind key => Int.le_refl 0
  have covered : Covered (Trace.run (Sys.step env ident) (.initial policy now) ls).db :=
    Trace.run_invariant (fun s : Sys => Covered s.db) (fun s l covered _ => step_covered s l covered)
      initial (Trace.guarded_of_forall (fun _ _ => trivial) _)
  exact ⟨fun kind key => Int.le_trans (covered kind key) (le_max_right _ _), releaseAll_once⟩

end RangeApply
