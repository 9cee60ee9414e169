import RangeApply.Changes
import RangeApply.Served

/-! What every operation does to the cap ledger and to the slot of the attempt it works on: the
ledger never loses more than the attempt gives up, and an attempt comes to a slot of the current
period only, below its cap. -/
namespace RangeApply

def ApplicationPolicy.cap (policy : ApplicationPolicy) : PeriodKind → Int
  | .day => policy.dailyCap
  | .week => policy.weeklyCap

namespace Application

def capKey (row : Application) : PeriodKind → Option String
  | .day => row.capDay
  | .week => row.capWeek

/-- The attempt holds a slot of this period. -/
def charged (row : Application) (kind : PeriodKind) (key : String) : Bool :=
  row.holdsSlot && decide (row.capKey kind = some key)

def slot (row : Application) (kind : PeriodKind) (key : String) : Int :=
  if row.charged kind key then 1 else 0

variable {row row' : Application} {kind : PeriodKind} {key : String}

theorem slot_eq : row.slot kind key =
    if row.holdsSlot then CapLedger.slots row.capDay row.capWeek kind key else 0 := by
  cases held : row.holdsSlot with
  | false => simp [slot, charged, held]
  | true =>
    cases kind with
    | day => by_cases here : row.capDay = some key <;>
        simp [slot, charged, capKey, CapLedger.slots, held, here]
    | week => by_cases here : row.capWeek = some key <;>
        simp [slot, charged, capKey, CapLedger.slots, held, here]

theorem SameSlot.capKey (same : SameSlot row row') : row'.capKey kind = row.capKey kind := by
  cases kind
  · exact same.capDay
  · exact same.capWeek

theorem SameSlot.charged (same : SameSlot row row') : row'.charged kind key = row.charged kind key := by
  unfold Application.charged
  rw [same.holdsSlot, same.capKey]

theorem charged_of_free (free : row.holdsSlot = false) : row.charged kind key = false := by
  simp [charged, free]

end Application

namespace Opening

/-- The opening's attempt holds a slot of this period. -/
def charged (o : Opening) (kind : PeriodKind) (key : String) : Bool :=
  o.attempt.any fun row => row.charged kind key

def slot (o : Opening) (kind : PeriodKind) (key : String) : Int :=
  if o.charged kind key then 1 else 0

theorem slot_nonneg (o : Opening) (kind : PeriodKind) (key : String) : 0 ≤ o.slot kind key := by
  unfold slot
  split <;> decide

theorem charged_row {o : Opening} {row : Application} (attempt : o.attempt = some row)
    (kind : PeriodKind) (key : String) : o.charged kind key = row.charged kind key := by
  simp [charged, attempt]

theorem slot_row {o : Opening} {row : Application} (attempt : o.attempt = some row)
    (kind : PeriodKind) (key : String) : o.slot kind key = row.slot kind key := by
  simp only [slot, charged_row attempt, Application.slot]

end Opening

/-- What an operation on one opening may do to the ledger and to its attempt's slot; `may` says
that it may take a new one. -/
structure Charged (policy : ApplicationPolicy) (keys : PeriodKeys) (may : Prop) (s s' : Slice) :
    Prop where
  booked : ∀ kind key, s'.opening.slot kind key - s.opening.slot kind key ≤
    s'.ledger.balance kind key - s.ledger.balance kind key
  capped : ∀ kind key, s'.ledger.balance kind key ≤ max (s.ledger.balance kind key) (policy.cap kind)
  fresh : ∀ kind key, s'.opening.charged kind key = true → s.opening.charged kind key = true ∨
    (may ∧ key = keys.key kind ∧ s.ledger.balance kind key < policy.cap kind)

section Rules
variable {policy : ApplicationPolicy} {keys : PeriodKeys} {may : Prop} {s s₁ s' : Slice}
  {row row₁ row' : Application}

theorem Charged.same (ledger : ∀ kind key, s'.ledger.balance kind key = s.ledger.balance kind key)
    (charged : ∀ kind key, s'.opening.charged kind key = s.opening.charged kind key) :
    Charged policy keys may s s' where
  booked := fun kind key => by simp [Opening.slot, ledger, charged]
  capped := fun kind key => by rw [ledger]; exact le_max_left _ _
  fresh := fun kind key here => .inl (charged kind key ▸ here)

theorem Charged.refl (s : Slice) : Charged policy keys may s s :=
  .same (fun _ _ => rfl) fun _ _ => rfl

theorem Charged.kept (ledger : s'.ledger = s.ledger) (attempt : s'.opening.attempt = s.opening.attempt) :
    Charged policy keys may s s' :=
  .same (fun _ _ => by rw [ledger]) fun _ _ => by rw [Opening.charged, attempt]; rfl

theorem Charged.along (attempt : s.opening.attempt = some row) (attempt' : s'.opening.attempt = some row')
    (ledger : s'.ledger = s.ledger) (same : Application.SameSlot row row') :
    Charged policy keys may s s' :=
  .same (fun _ _ => by rw [ledger]) fun kind key => by
    rw [Opening.charged_row attempt, Opening.charged_row attempt', same.charged]

theorem Charged.trans (first : Charged policy keys may s s₁)
    (second : Charged policy keys may s₁ s')
    (ledger : ∀ kind key, s.ledger.balance kind key ≤ s₁.ledger.balance kind key ∨
      s'.opening.charged kind key = false) : Charged policy keys may s s' where
  booked := fun kind key => by
    have one := first.booked kind key
    have two := second.booked kind key
    omega
  capped := fun kind key => by
    have one := first.capped kind key
    have two := second.capped kind key
    omega
  fresh := fun kind key here => by
    rcases second.fresh kind key here with old | ⟨may, current, room⟩
    · exact first.fresh kind key old
    · rcases ledger kind key with grown | gone
      · exact .inr ⟨may, current, Int.lt_of_le_of_lt grown room⟩
      · rw [gone] at here
        contradiction

theorem Charged.onto (charged : Charged policy keys may s s₁) (ledger : s'.ledger = s₁.ledger)
    (attempt : s'.opening.attempt = s₁.opening.attempt) : Charged policy keys may s s' := by
  have same (kind : PeriodKind) (key : String) :
      s'.opening.charged kind key = s₁.opening.charged kind key := by
    rw [Opening.charged, attempt]
    rfl
  refine ⟨fun kind key => ?_, fun kind key => ?_, fun kind key here => ?_⟩
  · rw [Opening.slot, same, ledger]
    exact charged.booked kind key
  · rw [ledger]
    exact charged.capped kind key
  · exact charged.fresh kind key (same kind key ▸ here)

theorem Charged.release {now : Time} {status : ApplicationStatus} {reason : String}
    (attempt : s.opening.attempt = some row) (attempt' : s'.opening.attempt = some row')
    (ledger : s'.ledger = (row.release now s.ledger status reason).1)
    (free : row'.holdsSlot = false) : Charged policy keys may s s' := by
  have gone (kind : PeriodKind) (key : String) : s'.opening.charged kind key = false := by
    rw [Opening.charged_row attempt', Application.charged_of_free free]
  have bounds (kind : PeriodKind) (key : String) :
      s'.ledger.balance kind key ≤ s.ledger.balance kind key ∧
        s.ledger.balance kind key - row.slot kind key ≤ s'.ledger.balance kind key := by
    rw [ledger, Application.release_ledger, Application.slot_eq]
    split
    · exact CapLedger.release_bounds ..
    · omega
  refine ⟨fun kind key => ?_, fun kind key => ?_, fun kind key here => ?_⟩
  · rw [Opening.slot, gone, Opening.slot_row attempt]
    have enough := (bounds kind key).2
    simp only [Bool.false_eq_true, if_false]
    omega
  · exact Int.le_trans (bounds kind key).1 (le_max_left _ _)
  · rw [gone] at here
    contradiction

theorem slots_key (keys : PeriodKeys) (kind : PeriodKind) (key : String) :
    CapLedger.slots (some keys.day.key) (some keys.week.key) kind key =
      if key = keys.key kind then 1 else 0 := by
  by_cases here : key = keys.key kind
  · subst here
    cases kind <;> simp [CapLedger.slots, PeriodKeys.key]
  · rw [if_neg here]
    cases kind <;> exact if_neg fun same => here (Option.some.inj same).symm

theorem granted_room {ledger ledger' : CapLedger}
    (granted : ledger.reserve keys policy.dailyCap policy.weeklyCap = (ledger', none))
    (kind : PeriodKind) : ledger.balance kind (keys.key kind) < policy.cap kind := by
  obtain ⟨day, week, -⟩ := CapLedger.reserve_granted granted
  cases kind
  · exact day
  · exact week

theorem charged_current (held : row.holdsSlot = true) (day : row.capDay = some keys.day.key)
    (week : row.capWeek = some keys.week.key) (kind : PeriodKind) (key : String) :
    row.charged kind key = true ↔ key = keys.key kind := by
  have capKey : row.capKey kind = some (keys.key kind) := by
    cases kind
    · exact day
    · exact week
  simp [Application.charged, held, capKey, eq_comm]

theorem Charged.reserve {ledger : CapLedger} (yes : may)
    (granted : s.ledger.reserve keys policy.dailyCap policy.weeklyCap = (ledger, none))
    (attempt' : s'.opening.attempt = some row') (held : row'.holdsSlot = true)
    (day : row'.capDay = some keys.day.key) (week : row'.capWeek = some keys.week.key)
    (ledger' : ∀ kind key, s'.ledger.balance kind key ≤ ledger.balance kind key ∧
      ledger.balance kind key - s.opening.slot kind key ≤ s'.ledger.balance kind key) :
    Charged policy keys may s s' := by
  have taken (kind : PeriodKind) (key : String) : ledger.balance kind key =
      s.ledger.balance kind key + if key = keys.key kind then 1 else 0 := by
    rw [(CapLedger.reserve_granted granted).2.2, slots_key]
  have charged (kind : PeriodKind) (key : String) :
      s'.opening.charged kind key = true ↔ key = keys.key kind := by
    rw [Opening.charged_row attempt']
    exact charged_current held day week kind key
  refine ⟨fun kind key => ?_, fun kind key => ?_, fun kind key here => ?_⟩
  · have enough := (ledger' kind key).2
    rw [taken] at enough
    simp only [Opening.slot, charged] at enough ⊢
    omega
  · have most := (ledger' kind key).1
    rw [taken] at most
    have room := granted_room granted kind
    split at most
    · rename_i current
      subst current
      omega
    · omega
  · rw [charged] at here
    subst here
    exact .inr ⟨yes, rfl, granted_room granted kind⟩

theorem Charged.move {x : CheckInputs} {ledger : CapLedger} (yes : may) (settings : x.policy = policy)
    (attempt : s.opening.attempt = some row) (move : SlotMove x keys s.ledger row ledger row₁)
    (attempt' : s'.opening.attempt = some row') (same : Application.SameSlot row₁ row')
    (ledger' : s'.ledger = ledger) : Charged policy keys may s s' := by
  subst settings ledger'
  generalize written : s'.ledger = ledger at move
  cases move with
  | kept _ balance =>
    refine .same (fun kind key => written ▸ balance kind key) fun kind key => ?_
    rw [Opening.charged_row attempt, Opening.charged_row attempt', same.charged]
  | moved ledger granted =>
    refine .reserve yes granted attempt' ?_ same.capDay same.capWeek fun kind key => ?_
    · rw [same.holdsSlot]
      cases row.reservedAt <;> simp [Application.holdsSlot]
    · rw [written, Opening.slot_row attempt, Application.slot_eq]
      split
      · exact CapLedger.release_bounds ..
      · omega

end Rules

/-! ### The operations -/

def Label.reserves : Label → Bool
  | .schedule _ | .start .. | .startFor .. | .gate .. | .gateFor .. => true
  | _ => false

section Operations
variable {policy : ApplicationPolicy} {env : Env} {may : Prop} {s s' : Slice} {now : Time}
  {worker : WorkerId}
  {row ready : Application}

theorem reclaim_sameSlot (now : Time) (reason : String) (row : Application) :
    Application.SameSlot row (row.reclaim now reason) := by
  have forced : Application.SameSlot { row with submissionKey := none } (row.reclaim now reason) :=
    Application.forceTo_sameSlot
  exact ⟨forced.capDay, forced.capWeek, forced.reservedAt, forced.releasedAt⟩

theorem Charged.recharged {x : CheckInputs} {keys : PeriodKeys} {ledger : CapLedger}
    {row' : Application} (yes : may) (settings : x.policy = policy)
    (attempt : s.opening.attempt = some row) (same : Application.SameSlot row ready)
    (slot : Recharged x keys s.ledger ready ledger row')
    (attempt' : s'.opening.attempt = some row') (ledger' : s'.ledger = ledger) :
    Charged policy keys may s s' := by
  obtain ⟨row₁, move, rest⟩ := slot.move
  have first : Charged policy keys may s { s with opening := { s.opening with attempt := some ready } } :=
    .along attempt rfl rfl same
  exact first.trans (.move yes settings rfl move attempt' rest ledger') fun _ _ => .inl (Int.le_refl _)

theorem startStep_charged {x : StartReads} {out : StartOutcome} (yes : may)
    (settings : x.check.policy = policy) (step : StartStep env x worker s s' out) :
    Charged policy (x.check.keys env) may s s' := by
  cases step with
  | missing => exact .kept rfl rfl
  | lostAfter row item' attempt => exact .along attempt rfl rfl Application.forceTo_sameSlot
  | @entered row ready runs _ _ attempt entry launched =>
    have same : Application.SameSlot row ready := by
      cases entry with
      | straight => exact .refl row
      | abandoned => exact reclaim_sameSlot ..
      | lostBefore => exact reclaim_sameSlot ..
    cases launched with
    | kept => exact .along attempt rfl rfl same
    | raceLost => exact .kept rfl rfl
    | returned _ _ rows _ _ slot => exact .recharged yes settings attempt same slot rows.attempt rfl
    | parked _ _ rows _ _ slot => exact .recharged yes settings attempt same slot rows.attempt rfl
    | submits _ _ rows _ slot => exact .recharged yes settings attempt same slot rows.attempt rfl
    | @closed _ row₁ row' _ _ ledger reason _ _ rows _ slot released =>
      obtain ⟨ledger', row_eq⟩ := Prod.mk.inj released
      have free : row'.holdsSlot = false := row_eq ▸ (Application.release_spec ..).2
      have first : Charged policy (x.check.keys env) may s
          ⟨{ s.opening with attempt := some row₁ }, ledger⟩ :=
        .recharged yes settings attempt same slot rfl rfl
      refine first.trans (.release rfl rows.attempt ledger' free) fun kind key => .inr ?_
      rw [Opening.charged_row rows.attempt, Application.charged_of_free free]

theorem gateStep_charged {g : GateReads} (yes : may) (settings : g.check.policy = policy)
    (step : GateStep env g s s') : Charged policy (g.check.keys env) may s s' := by
  cases step with
  | kept => exact .refl s
  | checked attempt ok =>
    exact .move yes settings attempt (gateCheck_move env g s _) rfl (.refl _) rfl

theorem reportStep_charged {keys : PeriodKeys} {result : ExecutionResult} {r : RunId} {row : Application}
    {item : QueueItem} {run : ExecutionRun} {w : Work}
    (step : ReportStep now worker result r s s' row item run w) : Charged policy keys may s s' := by
  have attempt' : s'.opening.attempt = some w.attempt := step.stored ▸ rfl
  have ledger' : s'.ledger = w.ledger := step.stored ▸ rfl
  rcases step.reported.slot with ⟨-, same, kept⟩ | ⟨-, reason, released, row_eq⟩
  · exact .along step.attempt attempt' (ledger'.trans kept) same
  · exact .release step.attempt attempt' (ledger'.trans released)
      (row_eq ▸ (Application.release_spec ..).2)

theorem recovered_charged {keys : PeriodKeys} {o o' : Opening} {ledger : CapLedger} {r : RunId}
    (recovered : Recovered now o r o') : Charged policy keys may ⟨o, ledger⟩ ⟨o', ledger⟩ := by
  cases recovered with
  | kept => exact .refl _
  | orphaned => exact .kept rfl rfl
  | pressed attempt => exact .along attempt rfl rfl Application.forceTo_sameSlot
  | @unpressed row run attempt =>
    refine .along attempt rfl rfl ?_
    split
    · exact reclaim_sameSlot ..
    · exact .refl row

theorem recoverOpening_charged {keys : PeriodKeys} (now : Time) (s : Slice) :
    Charged policy keys may s { s with opening := recoverOpening now s.opening } :=
  recoverOpening_keeps (P := fun o => Charged policy keys may s { s with opening := o })
    (fun _ _ _ before recovered => before.trans (recovered_charged recovered)
      fun _ _ => .inl (Int.le_refl _)) (.refl s)

theorem readyWith_sameSlot (now : Time) (p : Preparation) (row : Application) :
    Application.SameSlot row (readyWith now p row) := by
  unfold readyWith
  split
  · exact Application.markReady_sameSlot
  · exact .refl row

theorem followPreparation_sameSlot (db : DB) {row : Application} {o : Opening}
    (attempt : o.attempt = some row) : ∃ row' prepare,
      followPreparation db row o = { o with attempt := some row', prepare := prepare } ∧
        Application.SameSlot row row' := by
  obtain ⟨row', prepare, rows, moved⟩ := followPreparation_rows db attempt
  refine ⟨row', prepare, rows, ?_⟩
  rcases moved with rfl | ⟨p, rfl⟩ | ⟨p, rfl⟩
  · exact .refl row'
  · exact readyWith_sameSlot ..
  · exact Application.markPreparing_sameSlot

theorem reconciled_charged {keys : PeriodKeys} {db : DB} (step : Reconciled env db s s') :
    Charged policy keys may s s' := by
  cases step with
  | kept => exact .refl s
  | stopped row co stop attempt =>
    exact .release attempt rfl rfl (Application.release_spec ..).2
  | followed row attempt =>
    obtain ⟨row', prepare, rows, same⟩ := followPreparation_sameSlot db attempt
    rw [rows]
    exact .along attempt rfl rfl same

theorem admitted_current {db : DB} {ledger : CapLedger} {v : Verdict} {existing : Option Application}
    {taken : Bool} {row row' : Application}
    (reserved : Application.reserve db.now s.ledger (db.keys env) db.policy.dailyCap
      db.policy.weeklyCap v.lane v.level existing taken = .ok (ledger, .ok row))
    (readied : row' = row ∨ ∃ p, row' = row.markReady db.now p) :
    s.ledger.reserve (db.keys env) db.policy.dailyCap db.policy.weeklyCap = (ledger, none) ∧
      row'.holdsSlot = true ∧ row'.capDay = some (db.keys env).day.key ∧
      row'.capWeek = some (db.keys env).week.key := by
  obtain ⟨granted, -, holds, day, week, -⟩ := Application.reserve_granted reserved
  have same : Application.SameSlot row row' := by
    rcases readied with rfl | ⟨p, rfl⟩
    · exact .refl row'
    · exact Application.markReady_sameSlot
  exact ⟨granted, same.holdsSlot.trans holds, same.capDay.trans day, same.capWeek.trans week⟩

theorem considered_charged {db : DB} {i : OpportunityId} (yes : may)
    (here : Considered env db i s s') : Charged db.policy (db.keys env) may s s' := by
  rcases here.admission with ⟨code, v, rfl⟩ | ⟨co, v, -, -, admitted⟩
  · exact .kept rfl rfl
  cases admitted with
  | conflict => exact .refl s
  | refused ledger reason found =>
    exact .same (CapLedger.reserve_refused found).2 fun _ _ => rfl
  | granted ledger row row' item co' reserved readied =>
    obtain ⟨granted, holds, day, week⟩ := admitted_current reserved readied
    exact .reserve yes granted rfl holds day week fun kind key =>
      ⟨Int.le_refl _, Int.sub_le_self _ (Opening.slot_nonneg ..)⟩

theorem considered_keeps {db : DB} {i : OpportunityId} {kind : PeriodKind}
    (here : Considered env db i s s') (held : s.opening.charged kind ((db.keys env).key kind) = true) :
    s'.opening.charged kind ((db.keys env).key kind) = true := by
  rcases here.admission with ⟨code, v, rfl⟩ | ⟨co, v, -, -, admitted⟩
  · exact held
  cases admitted with
  | conflict => exact held
  | refused => exact held
  | granted ledger row row' item co' reserved readied =>
    obtain ⟨-, holds, day, week⟩ := admitted_current reserved readied
    exact (charged_current holds day week kind _).mpr rfl

theorem verify_charged {keys : PeriodKeys} {o o' : Opening} {ledger : CapLedger}
    {v : VerificationResult} {r : RunId}
    (done : verify now v r o = .ok o') : Charged policy keys may ⟨o, ledger⟩ ⟨o', ledger⟩ := by
  obtain ⟨run, row, w, -, attempt, -, settled, rfl⟩ := verify_settled done
  exact .along attempt rfl rfl settled.slot

theorem confirm_charged {keys : PeriodKeys} {o o' : Opening} {ledger : CapLedger} {submitted : Bool}
    {reference note : Option String} {r : RunId}
    (done : confirm now submitted reference note r o = .ok o') :
    Charged policy keys may ⟨o, ledger⟩ ⟨o', ledger⟩ := by
  obtain ⟨run, row, -, attempt, verified⟩ := confirm_ok done
  refine Charged.trans ?_ (verify_charged verified) fun _ _ => .inl (Int.le_refl _)
  split
  · unfold finishByHand
    dsimp only
    split
    · exact .kept rfl rfl
    · have forced : Application.SameSlot row
          (row.forceTo now .submitted (some "submitted by the candidate")) :=
        Application.forceTo_sameSlot
      exact .along attempt rfl rfl
        ⟨forced.capDay, forced.capWeek, forced.reservedAt, forced.releasedAt⟩
  · exact .refl _

/-- An attempt that is opened again starts without a slot, or keeps the one it has. -/
theorem reopen_charged {keys : PeriodKeys} {o' : Opening} (now : Time) (reason : Option String)
    (attempt : s.opening.attempt = some row) (attempt' : o'.attempt = some (row.reopen now reason)) :
    Charged policy keys may s { s with opening := o' } := by
  have slots (row₁ : Application) : Application.SameSlot row₁
      (({ row₁ with submissionKey := none, blockedReason := none } : Application).forceTo now .ready
        (some (textOr reason "retried by a person"))) := by
    unfold Application.forceTo
    split <;> exact ⟨rfl, rfl, rfl, rfl⟩
  by_cases ended : row.status = .failed ∨ row.status = .cancelled
  · have free : (row.reopen now reason).holdsSlot = false := by
      simp only [Application.reopen, if_pos ended]
      exact (slots { row with
        attemptNumber := row.attemptNumber + 1, releasedAt := none, reservedAt := none,
        capDay := none, capWeek := none }).holdsSlot
    have gone (kind : PeriodKind) (key : String) : o'.charged kind key = false := by
      rw [Opening.charged_row attempt', Application.charged_of_free free]
    refine ⟨fun kind key => ?_, fun kind key => le_max_left _ _, fun kind key here => ?_⟩
    · have before := s.opening.slot_nonneg kind key
      simp only [Opening.slot, gone, Bool.false_eq_true, if_false] at before ⊢
      omega
    · rw [gone] at here
      contradiction
  · refine .along attempt attempt' rfl ?_
    simp only [Application.reopen, if_neg ended]
    exact slots row

end Operations

theorem op_charged {env : Env} {ident : ProcId → WorkerId} {phase : ProcId → Phase} {db : DB}
    {i : OpportunityId} {s s' : Slice} {l : Label} (op : Op env ident phase db i s l s') :
    Charged db.policy (db.keys env) (l.reserves = true) s s' := by
  cases op with
  | world => exact .kept rfl rfl
  | exhausted => exact .kept rfl (onItem_attempt ..)
  | taken => exact .kept rfl (onItem_attempt ..)
  | started p args item out submit done => exact startStep_charged rfl rfl (start_step done).2.2
  | startedFor worker args item out submit done => exact startStep_charged rfl rfl (start_step done).2.2
  | marked => exact .kept rfl rfl
  | gated p r stale =>
    exact gateStep_charged (g := db.gateReads i stale) rfl rfl (preSubmitGate_step ..)
  | gatedFor worker stale answer done =>
    rcases gate_ok done with ⟨-, step⟩ | ⟨run, -, -, rfl⟩
    · exact gateStep_charged rfl rfl step
    · exact Charged.onto (gateStep_charged (g := db.gateReads i stale) rfl rfl
        (preSubmitGate_step ..)) rfl rfl
  | finished p r ending here done =>
    obtain ⟨row, item, run, w, step⟩ := finishRun_ok done
    exact reportStep_charged step
  | reported worker r v done =>
    obtain ⟨run, row, item, w, -, step⟩ := reportResult_ok done
    exact reportStep_charged step
  | recovered => exact recoverOpening_charged ..
  | prepareBegun => exact .kept rfl rfl
  | prepareEnded => exact .kept rfl rfl
  | reconciled => exact reconciled_charged (reconcile_reconciled env db s)
  | considered window here => exact considered_charged rfl here
  | enqueued => exact .kept rfl (enqueueReady_attempt ..)
  | claimedFor => exact .kept rfl rfl
  | beaten worker done =>
    obtain ⟨old, item, -, -, rfl⟩ := heartbeat_ok done
    exact .kept rfl rfl
  | verified r v done => exact verify_charged done
  | confirmed r submitted reference note done => exact confirm_charged done
  | retried reason done =>
    obtain ⟨row, item, attempt, -, -, -, -, rfl⟩ := retry_ok done
    exact reopen_charged db.now reason attempt rfl
  | cancelled actor reason done =>
    obtain ⟨row, submit, prepare, attempt, -, -, -, rfl⟩ := cancel_ok done
    exact .release attempt rfl rfl (Application.release_spec ..).2

end RangeApply
