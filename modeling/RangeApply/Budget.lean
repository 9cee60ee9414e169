import RangeApply.Slots

/-! How many attempts pass the gate in one tenant-local day or week. The caps are checked when a
slot is reserved; what is sent is bounded through the slots, as long as an attempt that has passed
the gate keeps the slot it passed with. -/
namespace RangeApply

def GatePass.key (g : GatePass) : PeriodKind → String
  | .day => g.day
  | .week => g.week

/-- The openings whose attempt passed the gate in this period. -/
def Sys.sent (s : Sys) (kind : PeriodKind) (key : String) : Finset OpportunityId :=
  ((s.passes.filter fun g => g.key kind = key).map GatePass.opening).toFinset

abbrev Uses := PeriodKind → String → Finset OpportunityId

/-- The account of one period: its slots as the rows, the gate and the ledger have them. -/
def DB.account (db : DB) (used : Uses) (kind : PeriodKind) (key : String) :
    Quota.Account OpportunityId := ⟨db.holders kind key, used kind key, db.ledger.balance kind key⟩

def Funded (caps : PeriodKind → Int) (used : Uses) (db : DB) : Prop :=
  ∀ kind key, Quota.Sound (caps kind) (db.account used kind key)

/-- The attempts that have passed the gate in the current periods hold a slot of them. -/
def Backed (keys : PeriodKeys) (used : Uses) (db : DB) : Prop :=
  ∀ kind, used kind (keys.key kind) ⊆ db.holders kind (keys.key kind)

section Accounts
variable {caps : PeriodKind → Int} {used : Uses} {db db' : DB} {keys : PeriodKeys} {may : Prop}
  {i : OpportunityId} {o : Opening} {s : Slice} {kind : PeriodKind} {key : String}

/-- An operation on one opening moves the slot of one client in every period's account. -/
theorem Charged.quotaMove (charged : Charged db.policy keys may ⟨o, db.ledger⟩ s)
    (found : db.openings.get i = some o) (backed : may → Backed keys used db)
    (kind : PeriodKind) (key : String) : Quota.Move (db.policy.cap kind) i
      (db.account used kind key) ((db.put i s).account used kind key) where
  used := rfl
  others := fun j other => mem_holders_other other
  booked := by
    simp only [DB.account, mem_holders found, mem_holders_put found]
    exact charged.booked kind key
  capped := charged.capped kind key
  fresh := fun held => by
    rcases charged.fresh kind key ((mem_holders_put found).mp held) with old | ⟨yes, current, room⟩
    · exact .inl ((mem_holders found).mpr old)
    · exact .inr ⟨room, current ▸ backed yes kind⟩

theorem Funded.put (funded : Funded caps used db) (same : ∀ kind, db.policy.cap kind = caps kind)
    (found : db.openings.get i = some o) (charged : Charged db.policy keys may ⟨o, db.ledger⟩ s)
    (backed : may → Backed keys used db) : Funded caps used (db.put i s) :=
  fun kind key => (funded kind key).move (same kind ▸ charged.quotaMove found backed kind key)

theorem Funded.use {used' : Uses} (funded : Funded caps used db)
    (holds : ∀ kind, i ∈ db.holders kind (keys.key kind))
    (uses : ∀ kind key, used' kind key =
      if key = keys.key kind then insert i (used kind key) else used kind key) :
    Funded caps used' db := by
  intro kind key
  simp only [DB.account, uses]
  split
  · rename_i current
    exact (funded kind key).use (current ▸ holds kind)
  · exact funded kind key

theorem Funded.chain {touch : DB → OpportunityId → Slice → Slice → Prop} (env : Env)
    (funded : Funded caps used db) (same : ∀ kind, db.policy.cap kind = caps kind)
    (chain : Chain touch db db')
    (quiet : ∀ db i s s', touch db i s s' → Charged db.policy (db.keys env) False s s') :
    Funded caps used db' := by
  refine chain.store (Funded caps used) (fun db₁ i o s settings funded found here => ?_) funded
  exact funded.put (fun kind => by rw [settings.policy]; exact same kind) found
    (quiet db₁ i _ s here) False.elim

end Accounts

/-! ### Steps -/

/-- Before a step that may reserve a slot, every attempt that has passed the gate in the current
day or week holds its slot there; a scheduler run has no reason to stop it. -/
def Sys.backed (env : Env) (s : Sys) (l : Label) : Bool :=
  !l.reserves || s.passes.all fun g => [PeriodKind.day, .week].all fun kind =>
    decide (g.key kind ≠ (s.db.keys env).key kind) ||
      (s.db.openings.get g.opening).any fun o =>
        o.charged kind (g.key kind) && (!l.scheduling || !releases env s.db o)

section Step
variable {env : Env} {ident : ProcId → WorkerId} {caps : PeriodKind → Int} {s : Sys} {l : Label}

theorem mem_sent {kind : PeriodKind} {key : String} {i : OpportunityId} :
    i ∈ s.sent kind key ↔ ∃ g ∈ s.passes, g.key kind = key ∧ g.opening = i := by
  simp [Sys.sent, and_assoc]

theorem sent_cons {s' : Sys} {g : GatePass} (noted : s'.passes = g :: s.passes) (kind : PeriodKind)
    (key : String) : s'.sent kind key =
      if key = g.key kind then insert g.opening (s.sent kind key) else s.sent kind key := by
  by_cases here : key = g.key kind
  · simp [Sys.sent, noted, here]
  · simp [Sys.sent, noted, here, Ne.symm here]

theorem backed_opening {kind : PeriodKind} {i : OpportunityId} (backed : s.backed env l = true)
    (reserves : l.reserves = true) (used : i ∈ s.sent kind ((s.db.keys env).key kind)) :
    ∃ o, s.db.openings.get i = some o ∧ o.charged kind ((s.db.keys env).key kind) = true ∧
      (l.scheduling = true → releases env s.db o = false) := by
  obtain ⟨g, member, current, rfl⟩ := mem_sent.mp used
  simp only [Sys.backed, reserves, Bool.not_true, Bool.false_or, List.all_eq_true] at backed
  have here := backed g member kind (by cases kind <;> simp)
  simp only [current, ne_eq, not_true_eq_false, decide_false, Bool.false_or, Option.any_eq_true,
    Bool.and_eq_true] at here
  obtain ⟨o, found, held, kept⟩ := here
  refine ⟨o, found, held, fun scheduling => ?_⟩
  simpa [scheduling] using kept

theorem backed_of_guard (backed : s.backed env l = true) (reserves : l.reserves = true) :
    Backed (s.db.keys env) s.sent s.db := by
  intro kind i used
  obtain ⟨o, found, held, -⟩ := backed_opening backed reserves used
  exact (mem_holders found).mpr held

theorem Funded.arrive {used : Uses} {db : DB} (funded : Funded caps used db) (l : Label) :
    Funded caps used (db.arrive l) := by
  cases l with
  | discover i company title w =>
    intro kind key
    have same : (db.arrive (.discover i company title w)).holders kind key = db.holders kind key :=
      Table.select_insertNew rfl
    have here := funded kind key
    unfold DB.account at here ⊢
    rw [same]
    exact here
  | _ => exact funded

theorem reconciled_keeps {db : DB} {s s' : Slice} {kind : PeriodKind} {key : String}
    (step : Reconciled env db s s') (kept : releases env db s.opening = false)
    (held : s.opening.charged kind key = true) : s'.opening.charged kind key = true := by
  cases step with
  | kept => exact held
  | stopped row co stop attempt candidate holds found =>
    simp [releases, attempt, candidate, holds, found] at kept
  | followed row attempt =>
    obtain ⟨row', prepare, rows, same⟩ := followPreparation_sameSlot db attempt
    rw [Opening.charged_row attempt] at held
    rw [rows]
    exact same.charged.trans held

/-- A scheduler run: reconciliation gives slots back at most, the pass takes new ones while every
attempt that has passed the gate holds its own, and the items come last. -/
theorem schedule_funded (window : Nat) (funded : Funded caps s.sent s.db)
    (same : ∀ kind, s.db.policy.cap kind = caps kind)
    (backed : s.backed env (.schedule window) = true) :
    Funded caps s.sent (schedule env window s.db) := by
  have settled := reconcileAll_chain env s.db
  have settings := settled.settings
  have reconciled : Funded caps s.sent (reconcileAll env s.db) :=
    funded.chain env same settled fun db i s _ here =>
      here ▸ reconciled_charged (reconcile_reconciled env db s)
  have holds : Backed (s.db.keys env) s.sent (reconcileAll env s.db) := by
    intro kind i used
    obtain ⟨o, found, held, kept⟩ := backed_opening backed rfl used
    exact (mem_holders (reconcileAll_get found)).mpr
      (reconciled_keeps (reconcile_reconciled env s.db ⟨o, s.db.ledger⟩) (kept rfl) held)
  have passed := (Pass.foldl_chain env window (s.db.openPass env) s.db.ordered).store
    (fun db => Funded caps s.sent db ∧ Backed (s.db.keys env) s.sent db)
    (fun db₁ i o s₁ after invariant found here => ?_) ⟨reconciled, holds⟩
  · have after' : SameSettings s.db _ := settings.trans
      (Pass.foldl_chain env window (s.db.openPass env) s.db.ordered).settings
    refine Funded.chain env passed.1 (fun kind => by rw [after'.policy]; exact same kind)
      (enqueueAll_chain env _) fun db i s s' here => ?_
    subst here
    exact .kept rfl (enqueueReady_attempt ..)
  · have whole : SameSettings s.db db₁ := settings.trans after
    have keys : db₁.keys env = s.db.keys env := whole.keys env
    obtain ⟨funded, backed⟩ := invariant
    refine ⟨funded.put (fun kind => by rw [whole.policy]; exact same kind) found
      (considered_charged trivial here) fun _ => keys ▸ backed, fun kind j used => ?_⟩
    have holder := backed kind used
    by_cases mine : j = i
    · subst mine
      rw [mem_holders found] at holder
      exact (mem_holders_put found).mpr
        (keys ▸ considered_keeps here (keys.symm ▸ holder))
    · exact (mem_holders_other mine).mpr holder

theorem reserving_funded (single : l.batch = false) (reserves : l.reserves = true)
    (funded : Funded caps s.sent s.db) (same : ∀ kind, s.db.policy.cap kind = caps kind)
    (backed : s.backed env l = true) : Funded caps s.sent (s.step env ident l).db := by
  have brings : s.db.arrive l = s.db := by cases l <;> first | rfl | contradiction
  have one := Sys.step_op env ident s l single
  rw [brings] at one
  rcases one with kept | ⟨i, o, s', found, op, stored⟩
  · rw [kept]
    exact funded
  · rw [stored]
    exact funded.put same found (op_charged op) fun _ => backed_of_guard backed reserves

theorem quiet_funded (quiet : l.reserves = false) (funded : Funded caps s.sent s.db)
    (same : ∀ kind, (s.db.arrive l).policy.cap kind = caps kind) :
    Funded caps s.sent (s.step env ident l).db := by
  refine (funded.arrive l).chain env same (Sys.step_ops env ident s l) fun db i s₁ s' op => ?_
  have charged := op_charged op
  simpa only [quiet, Bool.false_eq_true] using charged

theorem step_funded (l : Label) (funded : Funded caps s.sent s.db)
    (same : ∀ kind, s.db.policy.cap kind = caps kind) (backed : s.backed env l = true) :
    Funded caps s.sent (s.step env ident l).db := by
  cases l with
  | schedule window => exact schedule_funded window funded same backed
  | setPolicy policy => exact funded
  | start | startFor | gate | gateFor => exact reserving_funded rfl rfl funded same backed
  | _ => exact quiet_funded rfl funded same

theorem passed_charged {db : DB} {i : OpportunityId} {stale : List String} {s : Slice}
    (passed : (preSubmitGate env (db.gateReads i stale) s).1 = []) (kind : PeriodKind) :
    (preSubmitGate env (db.gateReads i stale) s).2.opening.charged kind
      ((db.keys env).key kind) = true := by
  obtain ⟨row, -, ok, stored⟩ := preSubmitGate_passed passed
  have checked := gateCheck_passed ok
  rw [stored, Opening.charged_row rfl]
  exact (charged_current checked.holds checked.day checked.week kind _).mpr rfl

theorem gateProcess_holds {db : DB} {i : OpportunityId} {stale : List String}
    (passed : (db.gateProcess env i stale).2 = some []) (kind : PeriodKind) :
    i ∈ (db.gateProcess env i stale).1.holders kind ((db.keys env).key kind) := by
  obtain ⟨o, s', found, done, stored⟩ := DB.act_some passed
  obtain ⟨rows, answer⟩ := Prod.mk.inj (Except.ok.inj done)
  rw [show (db.gateProcess env i stale).1 = db.put i s' from stored, mem_holders_put found, ← rows]
  exact passed_charged answer kind

theorem gateExtension_holds {db : DB} {worker : WorkerId} {i : OpportunityId} {stale : List String}
    (passed : (db.gateExtension env worker i stale).2 = some []) (kind : PeriodKind) :
    i ∈ (db.gateExtension env worker i stale).1.holders kind ((db.keys env).key kind) := by
  obtain ⟨o, s', found, done, stored⟩ := DB.act_some passed
  obtain ⟨answer, answered, same⟩ := map_ok.mp done
  obtain ⟨rows, empty⟩ := Prod.mk.inj same
  rw [show (db.gateExtension env worker i stale).1 = db.put i s' from stored, mem_holders_put found,
    ← rows]
  rcases gate_ok answered with ⟨failed, -⟩ | ⟨run, -, clear, rfl⟩
  · exact absurd empty failed
  · exact passed_charged clear kind

/-- One more pass, of an attempt that then holds a slot of its periods, or none. -/
def Sys.Counted (env : Env) (s s' : Sys) : Prop := s'.passes = s.passes ∨
  ∃ i, s'.passes = ⟨i, (s.db.keys env).day.key, (s.db.keys env).week.key⟩ :: s.passes ∧
    ∀ kind, i ∈ s'.db.holders kind ((s.db.keys env).key kind)

theorem note_counted {s' : Sys} {i : OpportunityId} (answer : Option (List String))
    (noted : s'.passes = Sys.note env i s.db answer s.passes)
    (holds : answer = some [] → ∀ kind, i ∈ s'.db.holders kind ((s.db.keys env).key kind)) :
    s.Counted env s' := by
  unfold Sys.note at noted
  split at noted
  · rename_i passed
    exact .inr ⟨i, noted, holds passed⟩
  · exact .inl noted

theorem step_counted (l : Label) : s.Counted env (s.step env ident l) := by
  cases l with
  | gate p stale =>
    simp only [Sys.step, Sys.gateStep]
    split
    · rename_i i r here
      exact note_counted (s.db.gateProcess env i stale).2 rfl gateProcess_holds
    · exact .inl rfl
  | gateFor worker i stale => exact note_counted _ rfl gateExtension_holds
  | claim | start | mark | finish | beginPrepare | endPrepare =>
    refine .inl ?_
    simp only [Sys.step, Sys.claimStep, Sys.startStep, Sys.markStep, Sys.finishStep,
      Sys.beginPrepareStep, Sys.endPrepareStep]
    repeat' split
    all_goals rfl
  | _ => exact .inl rfl

theorem step_within (l : Label) (funded : Funded caps s.sent s.db)
    (same : ∀ kind, s.db.policy.cap kind = caps kind) (backed : s.backed env l = true) :
    Funded caps (s.step env ident l).sent (s.step env ident l).db := by
  have after : Funded caps s.sent (s.step env ident l).db := step_funded l funded same backed
  have counted : s.Counted env (s.step env ident l) := step_counted l
  rcases counted with kept | ⟨i, noted, holds⟩
  · have uses : (s.step env ident l).sent = s.sent := by
      unfold Sys.sent
      rw [kept]
    rw [uses]
    exact after
  · refine after.use holds fun kind key => (sent_cons noted kind key).trans ?_
    cases kind <;> rfl

end Step

/-! ### Runs -/

def capsOf (D W : Nat) : PeriodKind → Int
  | .day => D
  | .week => W

/-- A step with these caps in force, taken while every attempt that has passed the gate in a
current period still holds its slot. -/
def Sys.inBudget (env : Env) (D W : Nat) (s : Sys) (l : Label) : Bool :=
  decide (s.db.policy.dailyCap = D ∧ s.db.policy.weeklyCap = W) && s.backed env l

/-- With constant caps, no day and no week sees more attempts pass the gate than its cap, as long
as those that passed keep their slots while others are given out. -/
theorem caps_bound_passes (env : Env) (ident : ProcId → WorkerId) (D W : Nat)
    (policy : ApplicationPolicy) (now : Time) (ls : List Label)
    (budget : Trace.Guarded (Sys.step env ident) (fun s l => s.inBudget env D W l = true)
      (.initial policy now) ls) (key : String) :
    ((Trace.run (Sys.step env ident) (.initial policy now) ls).sent .day key).card ≤ D ∧
      ((Trace.run (Sys.step env ident) (.initial policy now) ls).sent .week key).card ≤ W := by
  have funded := Trace.run_invariant (fun s : Sys => Funded (capsOf D W) s.sent s.db)
    (fun s l funded here => by
      simp only [Sys.inBudget, Bool.and_eq_true, decide_eq_true_eq] at here
      refine step_within l funded (fun kind => ?_) here.2
      cases kind
      · exact here.1.1
      · exact here.1.2)
    (fun kind _ => Quota.sound_empty (by cases kind <;> exact Int.natCast_nonneg _)) budget
  exact ⟨Int.ofNat_le.mp (funded .day key).used_le, Int.ofNat_le.mp (funded .week key).used_le⟩

/-! ### A refund of what was sent -/

def ApplicationPolicy.sparing : ApplicationPolicy := { ApplicationPolicy.initial with dailyCap := 1 }

def Label.submits (i : OpportunityId) (company title : String) : List Label :=
  Label.prepares i company title ++ Label.passes i ++ [.finish 0 .sent]

open Trace in
/-- An attempt is sent, its posting closes, and reconciliation gives the slot back: a second
attempt passes the gate on the same day. -/
theorem closed_posting_refunds :
    ¬ ∀ ls, Guarded (Sys.step .utc toString)
        (fun s _ => s.db.policy.dailyCap = (1 : Nat) ∧ s.db.policy.weeklyCap = (300 : Nat))
        (.initial .sparing 0) ls →
      ∀ key, ((run (Sys.step .utc toString) (.initial .sparing 0) ls).sent .day key).card ≤ 1 ∧
        ((run (Sys.step .utc toString) (.initial .sparing 0) ls).sent .week key).card ≤ 300 := by
  intro all
  have bounded := all (Label.submits 1 "Acme" "Engineer" ++ [.world 1 .closed, .schedule 10] ++
    Label.submits 2 "Globex" "Designer") (by decide +kernel) (Env.utc.periodKeys 0 "UTC").day.key
  exact absurd bounded.1 (by decide +kernel)

open Trace in
/-- While the first posting stays open, the second attempt waits. -/
theorem second_attempt_waits :
    let s := run (Sys.step .utc toString) (.initial .sparing 0)
      (Label.submits 1 "Acme" "Engineer" ++ Label.submits 2 "Globex" "Designer")
    (s.sent .day (Env.utc.periodKeys 0 "UTC").day.key).card ≤ 1 ∧
      (s.sent .week (Env.utc.periodKeys 0 "UTC").day.key).card ≤ 300 :=
  caps_bound_passes .utc toString 1 300 .sparing 0 _ (by decide +kernel) _

end RangeApply
