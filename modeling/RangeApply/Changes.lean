import RangeApply.System

/-! What a step does to the store, as a chain of changes to single openings: an invariant of
the rows, or of the rows with the ledger, is checked against one operation at a time. -/
namespace RangeApply

/-! ### Chains -/

/-- The settings and the instant of two stores agree. -/
structure SameSettings (db db' : DB) : Prop where
  now : db'.now = db.now
  policy : db'.policy = db.policy
  switches : db'.switches = db.switches
  live : db'.live = db.live
  answersAt : db'.answersAt = db.answersAt

theorem SameSettings.refl (db : DB) : SameSettings db db := ⟨rfl, rfl, rfl, rfl, rfl⟩

theorem SameSettings.trans {a b c : DB} (first : SameSettings a b) (second : SameSettings b c) :
    SameSettings a c :=
  ⟨second.now.trans first.now, second.policy.trans first.policy,
    second.switches.trans first.switches, second.live.trans first.live,
    second.answersAt.trans first.answersAt⟩

theorem SameSettings.put (db : DB) (i : OpportunityId) (s : Slice) : SameSettings db (db.put i s) :=
  ⟨rfl, rfl, rfl, rfl, rfl⟩

theorem SameSettings.keys {db db' : DB} (same : SameSettings db db') (env : Env) :
    db'.keys env = db.keys env := by
  rw [DB.keys, DB.keys, same.now, same.policy]

/-- Changes of single openings, one after the other. -/
inductive Chain (touch : DB → OpportunityId → Slice → Slice → Prop) : DB → DB → Prop
  | done (db : DB) : Chain touch db db
  | next {db db' : DB} {i : OpportunityId} {o : Opening} {s : Slice}
      (found : db.openings.get i = some o) (here : touch db i ⟨o, db.ledger⟩ s)
      (rest : Chain touch (db.put i s) db') : Chain touch db db'

section Rules
variable {touch touch' : DB → OpportunityId → Slice → Slice → Prop} {db db' db'' : DB}

theorem Chain.trans (first : Chain touch db db') (second : Chain touch db' db'') :
    Chain touch db db'' := by
  induction first with
  | done => exact second
  | next found here _ ih => exact .next found here (ih second)

theorem Chain.mono (weaker : ∀ db i s s', touch db i s s' → touch' db i s s')
    (chain : Chain touch db db') : Chain touch' db db' := by
  induction chain with
  | done db => exact .done db
  | next found here _ ih => exact .next found (weaker _ _ _ _ here) ih

theorem Chain.settings (chain : Chain touch db db') : SameSettings db db' := by
  induction chain with
  | done db => exact .refl db
  | next _ _ _ ih => exact (SameSettings.put _ _ _).trans ih

/-- What every change keeps holds of the store at the end of a chain. -/
theorem Chain.store (P : DB → Prop) (chain : Chain touch db db')
    (keeps : ∀ db₁ i o s, SameSettings db db₁ → P db₁ → db₁.openings.get i = some o →
      touch db₁ i ⟨o, db₁.ledger⟩ s → P (db₁.put i s))
    (initial : P db) : P db' := by
  induction chain with
  | done => exact initial
  | next found here _ ih =>
    exact ih (fun db₁ i o s same => keeps db₁ i o s ((SameSettings.put _ _ _).trans same))
      (keeps _ _ _ _ (.refl _) initial found here)

theorem Chain.opening (P : Opening → Prop) {j : OpportunityId} {o : Opening}
    (chain : Chain touch db db')
    (keeps : ∀ db₁ o s, SameSettings db db₁ → P o → touch db₁ j ⟨o, db₁.ledger⟩ s → P s.opening)
    (found : db.openings.get j = some o) (here : P o) :
    ∃ o', db'.openings.get j = some o' ∧ P o' := by
  refine chain.store (fun db => ∃ o, db.openings.get j = some o ∧ P o) ?_ ⟨o, found, here⟩
  rintro db₁ i o₁ s same ⟨o₂, found₂, here₂⟩ found₁ changed
  by_cases mine : i = j
  · subst mine
    cases Option.some.inj (found₁.symm.trans found₂)
    exact ⟨s.opening, DB.get_put_self s found₁, keeps db₁ o₁ s same here₂ changed⟩
  · exact ⟨o₂, (DB.get_put_other s (Ne.symm mine)).trans found₂, here₂⟩

theorem Chain.all {P : OpportunityId → Opening → Prop} (chain : Chain touch db db')
    (keeps : ∀ db₁ i o s, SameSettings db db₁ → P i o → db₁.openings.get i = some o →
      touch db₁ i ⟨o, db₁.ledger⟩ s → P i s.opening) (initial : db.openings.All P) :
    db'.openings.All P := by
  induction chain with
  | done => exact initial
  | next found here _ ih =>
    exact ih (fun db₁ i o s same => keeps db₁ i o s ((SameSettings.put _ _ _).trans same))
      (Table.all_put initial (keeps _ _ _ _ (.refl _) (initial.get found) found here))

def Touched (touch : DB → OpportunityId → Slice → Slice → Prop) (db db' : DB) : Prop :=
  db' = db ∨ ∃ i o s, db.openings.get i = some o ∧ touch db i ⟨o, db.ledger⟩ s ∧ db' = db.put i s

theorem Touched.chain (touched : Touched touch db db') : Chain touch db db' := by
  rcases touched with rfl | ⟨i, o, s, found, here, rfl⟩
  · exact .done db'
  · exact .next found here (.done _)

theorem Touched.update {i : OpportunityId} (f : Slice → Slice)
    (here : ∀ o, db.openings.get i = some o → touch db i ⟨o, db.ledger⟩ (f ⟨o, db.ledger⟩)) :
    Touched touch db (db.update i f) := by
  rcases DB.update_cases f with same | ⟨o, found, changed⟩
  · exact .inl same
  · exact .inr ⟨i, o, _, found, here o found, changed⟩

theorem Touched.act {α : Type} {i : OpportunityId} (f : Slice → Res (Slice × α))
    (here : ∀ o s a, db.openings.get i = some o → f ⟨o, db.ledger⟩ = .ok (s, a) →
      touch db i ⟨o, db.ledger⟩ s) : Touched touch db (db.act i f).1 := by
  rcases DB.act_cases f with same | ⟨o, s, a, found, done, changed⟩
  · exact .inl (congrArg Prod.fst same)
  · exact .inr ⟨i, o, s, found, here o s a found done, congrArg Prod.fst changed⟩

theorem Touched.change {i : OpportunityId} (f : Slice → Res Slice)
    (here : ∀ o s, db.openings.get i = some o → f ⟨o, db.ledger⟩ = .ok s →
      touch db i ⟨o, db.ledger⟩ s) : Touched touch db (db.change i f) := by
  refine Touched.act (plain f) fun o s a found done => ?_
  obtain ⟨s', ok, same⟩ := map_ok.mp done
  exact (Prod.mk.inj same).1 ▸ here o s' found ok

theorem Touched.changeOpening {i : OpportunityId} (f : Opening → Res Opening)
    (here : ∀ o o', db.openings.get i = some o → f o = .ok o' →
      touch db i ⟨o, db.ledger⟩ ⟨o', db.ledger⟩) : Touched touch db (db.changeOpening i f) := by
  refine Touched.change _ fun o s found done => ?_
  obtain ⟨o', ok, same⟩ := map_ok.mp done
  exact same ▸ here o o' found ok

theorem Chain.mapRows (f : OpportunityId → Opening → Opening)
    (each : ∀ db₁ i o, SameSettings db db₁ →
      f i o = o ∨ touch db₁ i ⟨o, db₁.ledger⟩ ⟨f i o, db₁.ledger⟩) :
    Chain touch db { db with openings := db.openings.mapRows f } := by
  rw [Table.mapRows_eq_foldl]
  generalize db.openings.rows.map Prod.fst = ids
  induction ids generalizing db with
  | nil => exact .done db
  | cons i ids ih =>
    rw [List.foldl_cons]
    cases found : db.openings.get i with
    | none =>
      rw [Table.modify_of_none _ found]
      exact ih each
    | some o =>
      rw [Table.modify_eq_put _ found]
      rcases each db i o (.refl db) with same | here
      · rw [same, Table.put_get found]
        exact ih each
      · exact .next found here
          (ih fun db₁ i o same => each db₁ i o ((SameSettings.put _ _ ⟨f _ _, _⟩).trans same))

end Rules

/-! ### Operations -/

/-- The step reconciles the attempts of the tenant. -/
def Label.scheduling : Label → Bool
  | .schedule _ | .settlePrepared => true
  | _ => false

/-- What one candidate of a scheduling pass changes: the decision kept on its row, or an
admission against the indexes of the pass. -/
inductive Considered (env : Env) (db : DB) (i : OpportunityId) (s : Slice) : Slice → Prop
  | stamped (code : AdmissionReason) (v : Verdict) :
      Considered env db i s { s with opening := { s.opening with
        candidate := s.opening.candidate.map (·.stamp db.now code v db.policy.version) } }
  | admitted (co : CandidateOpportunity) (index : Indexes) (candidate : s.opening.candidate = some co)
      (admissible : (decideOpening env ⟨db.policy, db.now, index⟩ s.opening co).admissible = true) :
      Considered env db i s
        (admitCandidate env db (decideOpening env ⟨db.policy, db.now, index⟩ s.opening co) co s).2

/-- One committed operation on the rows of an opening, by the label of the step it is part of
and the phase its process is in. -/
inductive Op (env : Env) (ident : ProcId → WorkerId) (phase : ProcId → Phase) (db : DB)
    (i : OpportunityId) (s : Slice) : Label → Slice → Prop
  | world (w : World) : Op env ident phase db i s (.world i w) { s with opening := s.opening.withWorld w }
  | exhausted (p : ProcId) (action : QueueAction) (lane : Option Lane) (limit : Nat) :
      Op env ident phase db i s (.claim p action lane limit)
        { s with opening := s.opening.onItem action lane fun item =>
            if item.exhausted db.now then item.parkExhausted db.now else item }
  | taken (p : ProcId) (action : QueueAction) (lane : Option Lane) (limit : Nat) :
      Op env ident phase db i s (.claim p action lane limit)
        { s with opening := s.opening.onItem action lane fun item =>
            if item.runnable db.now then item.take db.now (ident p) (leaseFor env action) else item }
  | started {s' : Slice} (p : ProcId) (args : StartArgs) (item : QueueItem) (out : StartOutcome)
      (submit : s.opening.submit = some item)
      (done : start env (db.startReads i args) (ident p) s item = .ok (s', out)) :
      Op env ident phase db i s (.start p i args) s'
  | marked (p : ProcId) (r : RunId) (here : phase p = .discovering i r) :
      Op env ident phase db i s (.mark p) { s with opening := markSubmit r s.opening }
  | gated (p : ProcId) (r : RunId) (stale : List String) (here : phase p = .filling i r) :
      Op env ident phase db i s (.gate p stale) (preSubmitGate env (db.gateReads i stale) s).2
  | finished {s' : Slice} (p : ProcId) (r : RunId) (ending : Ending)
      (here : (phase p).running = some (i, r))
      (done : finishRun env db.policy db.now (ident p) r (phase p).dry ending s = .ok s') :
      Op env ident phase db i s (.finish p ending) s'
  | recovered : Op env ident phase db i s .recover { s with opening := recoverOpening db.now s.opening }
  | prepareBegun (p : ProcId) (item item' : QueueItem) (prepare : s.opening.prepare = some item)
      (done : item.start db.now (ident p) = .ok item') :
      Op env ident phase db i s (.beginPrepare p i)
        { s with opening := { s.opening with prepare := some item' } }
  | prepareEnded (p : ProcId) (ending : PrepareEnding) (item item' : QueueItem)
      (here : phase p = .packaging i) (prepare : s.opening.prepare = some item)
      (done : settlePrepareItem db.now (ident p) ending item = .ok item') :
      Op env ident phase db i s (.endPrepare p ending)
        { s with opening := { s.opening with prepare := some item' } }
  | reconciled (l : Label) (scheduling : l.scheduling = true) :
      Op env ident phase db i s l (reconcile env db s)
  | considered {s' : Slice} (window : Nat) (here : Considered env db i s s') :
      Op env ident phase db i s (.schedule window) s'
  | enqueued (l : Label) (scheduling : l.scheduling = true ∨ l.human = true) :
      Op env ident phase db i s l { s with opening := enqueueReady env db.now s.opening }
  | claimedFor (worker : WorkerId) :
      Op env ident phase db i s (.claimItem worker i) { s with opening := { s.opening with
        submit := s.opening.submit.map fun item =>
          (item.claimItem db.now worker env.leaseSeconds).1 } }
  | beaten {o' : Opening} (worker : WorkerId)
      (done : RangeApply.heartbeat env db.now worker s.opening = .ok o') :
      Op env ident phase db i s (.heartbeat worker i) { s with opening := o' }
  | startedFor {s' : Slice} (worker : WorkerId) (args : StartArgs) (item : QueueItem)
      (out : StartOutcome) (submit : s.opening.submit = some item)
      (done : start env (db.startReads i args) worker s item = .ok (s', out)) :
      Op env ident phase db i s (.startFor worker i args) s'
  | gatedFor (worker : WorkerId) (stale : List String) (answer : List String × Slice)
      (done : gate env (db.gateReads i stale) worker s = .ok answer) :
      Op env ident phase db i s (.gateFor worker i stale) answer.2
  | reported {s' : Slice} (worker : WorkerId) (r : ExecutionResult) (v : VerificationResult)
      (done : reportResult env db.policy db.now worker r v s = .ok s') :
      Op env ident phase db i s (.reportFor worker i r v) s'
  | verified {o' : Opening} (r : RunId) (v : VerificationResult)
      (done : RangeApply.verify db.now v r s.opening = .ok o') :
      Op env ident phase db i s (.verify i r v) { s with opening := o' }
  | confirmed {o' : Opening} (r : RunId) (submitted : Bool) (reference note : Option String)
      (done : RangeApply.confirm db.now submitted reference note r s.opening = .ok o') :
      Op env ident phase db i s (.confirm i r submitted reference note) { s with opening := o' }
  | retried {o' : Opening} (reason : Option String)
      (done : RangeApply.retry db.now reason s.opening = .ok o') :
      Op env ident phase db i s (.retry i reason) { s with opening := o' }
  | cancelled {s' : Slice} (actor : String) (reason : Option String)
      (done : RangeApply.cancel db.now actor reason s = .ok s') :
      Op env ident phase db i s (.cancel i actor reason) s'

/-! ### The scheduler -/

section Scheduling
variable {env : Env} {db db₀ : DB}

/-- What reconciliation does with one opening. -/
inductive Reconciled (env : Env) (db : DB) (s : Slice) : Slice → Prop
  | kept : Reconciled env db s s
  | stopped (row : Application) (co : CandidateOpportunity) (stop : String × ApplicationStatus)
      (attempt : s.opening.attempt = some row) (candidate : s.opening.candidate = some co)
      (holds : row.holdsSlot = true) (found : reconcileStop env db.policy s.opening co = some stop) :
      Reconciled env db s (stopAttempt db row co stop s)
  | followed (row : Application) (attempt : s.opening.attempt = some row)
      (free : row.status ≠ .blocked ∧ row.status ≠ .needsUserInput ∧ row.status ≠ .needsReview)
      (unsent : row.status.inSubmittedStatuses = false) (holds : row.holdsSlot = true) :
      Reconciled env db s { s with opening := followPreparation db row s.opening }

theorem reconcile_reconciled (env : Env) (db : DB) (s : Slice) :
    Reconciled env db s (reconcile env db s) := by
  unfold reconcile
  split
  · rename_i row co attempt candidate
    split
    · rename_i holds
      split
      · rename_i stop found
        exact .stopped row co stop attempt candidate holds found
      · split
        · exact .kept
        · rename_i follows
          simp only [not_or, Bool.not_eq_true] at follows
          exact .followed row attempt ⟨follows.1, follows.2.1, follows.2.2.1⟩ follows.2.2.2 holds
    · exact .kept
  · exact .kept

theorem reconcileStop_ended {policy : ApplicationPolicy} {o : Opening} {co : CandidateOpportunity}
    {stop : String × ApplicationStatus} (found : reconcileStop env policy o co = some stop) :
    stop.2 = .closed ∨ stop.2 = .failed := by
  unfold reconcileStop at found
  dsimp only at found
  repeat' split at found
  all_goals first | contradiction | (cases found; simp)

theorem followPreparation_rows (db : DB) {row : Application} {o : Opening}
    (attempt : o.attempt = some row) : ∃ row' prepare,
      followPreparation db row o = { o with attempt := some row', prepare := prepare } ∧
        (row' = row ∨ (∃ p, row' = readyWith db.now p row) ∨ ∃ p, row' = row.markPreparing db.now p) := by
  have same : o = { o with attempt := some row, prepare := o.prepare } := by rw [← attempt]
  unfold followPreparation
  dsimp only
  split
  · exact ⟨row, _, same, .inl rfl⟩
  split
  · rename_i p _
    split
    · exact ⟨_, _, rfl, .inr (.inl ⟨p, rfl⟩)⟩
    · split
      · exact ⟨_, _, rfl, .inr (.inl ⟨p, rfl⟩)⟩
      · exact ⟨row, _, same, .inl rfl⟩
  · split
    · exact ⟨_, _, rfl, .inr (.inr ⟨_, rfl⟩)⟩
    · split
      · exact ⟨_, _, rfl, .inr (.inr ⟨_, rfl⟩)⟩
      · exact ⟨row, _, same, .inl rfl⟩

/-- What an admission did: nothing, after a conflict; nothing but the counters of a refused
reservation; or the reserved attempt with its PREPARE item. -/
inductive Admitted (env : Env) (db : DB) (v : Verdict) (s : Slice) : Slice → Prop
  | conflict : Admitted env db v s s
  | refused (ledger : CapLedger) (reason : AdmissionReason)
      (found : s.ledger.reserve (db.keys env) db.policy.dailyCap db.policy.weeklyCap =
        (ledger, some reason)) : Admitted env db v s { s with ledger := ledger }
  | granted (ledger : CapLedger) (row row' : Application) (item : QueueItem)
      (co : CandidateOpportunity)
      (reserved : Application.reserve db.now s.ledger (db.keys env) db.policy.dailyCap
        db.policy.weeklyCap v.lane v.level (s.opening.attempt <|> s.opening.legacy)
        s.opening.jobTaken = .ok (ledger, .ok row))
      (readied : row' = row ∨ ∃ p, row' = row.markReady db.now p) :
      Admitted env db v s ⟨{ s.opening with
        attempt := some row', prepare := some item, candidate := some co }, ledger⟩

theorem admittedItem_ok {now : Time} {v : Verdict} {co : CandidateOpportunity} {o : Opening}
    {row row' : Application} {item : QueueItem} (done : admittedItem now v co row o = .ok (row', item)) :
    row' = row ∨ ∃ p, row' = row.markReady now p := by
  unfold admittedItem at done
  split at done
  · cases Except.ok.inj done
    exact .inl rfl
  · split at done
    · split at done
      · rename_i p _
        cases Except.ok.inj done
        exact .inr ⟨p.id, rfl⟩
      · obtain ⟨item, -, same⟩ := map_ok.mp done
        cases same
        exact .inl rfl
    · cases Except.ok.inj done
      exact .inl rfl

theorem admit_admitted (env : Env) (db : DB) (v : Verdict) (co : CandidateOpportunity) (s : Slice) :
    Admitted env db v s (admitCandidate env db v co s).2 := by
  unfold admitCandidate
  split
  · exact .conflict
  · rename_i ledger reason refused
    exact .refused ledger reason (Application.reserve_refused refused)
  · rename_i ledger row reserved
    split
    · exact .conflict
    · rename_i row' item taken
      exact .granted ledger row row' item _ reserved (admittedItem_ok taken)

theorem Considered.admission {i : OpportunityId} {s s' : Slice} (here : Considered env db i s s') :
    (∃ code v, s' = { s with opening := { s.opening with
      candidate := s.opening.candidate.map (·.stamp db.now code v db.policy.version) } }) ∨
    ∃ co v, s.opening.candidate = some co ∧ v.admissible = true ∧ Admitted env db v s s' := by
  cases here with
  | stamped code v => exact .inl ⟨code, v, rfl⟩
  | admitted co index candidate admissible =>
    exact .inr ⟨co, _, candidate, admissible, admit_admitted env db _ co s⟩

/-- Reconciliation reads nothing of the store but its settings. -/
theorem reconcile_settings (same : SameSettings db₀ db) (s : Slice) :
    reconcile env db₀ s = reconcile env db s := by
  simp only [reconcile, stopAttempt, followPreparation, same.now, same.policy, same.answersAt]

theorem reconcileAll_chain (env : Env) (db : DB) :
    Chain (fun db _ s s' => s' = reconcile env db s) db (reconcileAll env db) := by
  have each (ids : List OpportunityId) (db₁ : DB) (same : SameSettings db db₁) :
      Chain (fun db _ s s' => s' = reconcile env db s) db₁
        (ids.foldl (fun acc i => acc.update i (reconcile env db)) db₁) := by
    induction ids generalizing db₁ with
    | nil => exact .done db₁
    | cons i ids ih =>
      have here : Chain (fun db _ s s' => s' = reconcile env db s) db₁
          (db₁.update i (reconcile env db)) :=
        (Touched.update _ fun o _ => reconcile_settings same _).chain
      exact here.trans (ih _ (same.trans here.settings))
  exact each db.ids db (.refl db)

theorem release_row (now : Time) (ledger ledger' : CapLedger) (row : Application)
    (status : ApplicationStatus) (reason : String) :
    (row.release now ledger status reason).2 = (row.release now ledger' status reason).2 := by
  unfold Application.release
  split
  · rfl
  · split <;> rfl

/-- What reconciliation writes on an opening does not depend on the ledger. -/
theorem reconcile_opening (env : Env) (db : DB) (o : Opening) (ledger ledger' : CapLedger) :
    (reconcile env db ⟨o, ledger⟩).opening = (reconcile env db ⟨o, ledger'⟩).opening := by
  unfold reconcile
  dsimp only
  split
  · split
    · split
      · rename_i row _ _ _ _ _ stop _
        simp only [stopAttempt, release_row db.now ledger ledger' row stop.2 stop.1]
      · split <;> rfl
    · rfl
  · rfl

theorem foldl_update_get (f : Slice → Slice)
    (alone : ∀ o ledger ledger', (f ⟨o, ledger⟩).opening = (f ⟨o, ledger'⟩).opening)
    {ids : List OpportunityId} (nodup : ids.Nodup) (db : DB) {j : OpportunityId} {o : Opening}
    (found : db.openings.get j = some o) :
    (ids.foldl (fun acc i => acc.update i f) db).openings.get j =
      some (if j ∈ ids then (f ⟨o, db.ledger⟩).opening else o) := by
  induction ids generalizing db o with
  | nil => simpa using found
  | cons i ids ih =>
    have fresh : i ∉ ids := (List.nodup_cons.mp nodup).1
    rw [List.foldl_cons]
    by_cases mine : j = i
    · subst mine
      have here : (db.update j f).openings.get j = some (f ⟨o, db.ledger⟩).opening := by
        simp only [DB.update, found]
        exact DB.get_put_self _ found
      rw [ih (List.nodup_cons.mp nodup).2 _ here]
      simp [fresh]
    · have here : (db.update i f).openings.get j = some o := by
        rcases (DB.update_cases f : db.update i f = db ∨ _) with same | ⟨o', -, stored⟩
        · rw [same, found]
        · rw [stored, DB.get_put_other _ mine, found]
      rw [ih (List.nodup_cons.mp nodup).2 _ here]
      simp [mine, alone o (db.update i f).ledger db.ledger]

theorem reconcileAll_get {j : OpportunityId} {o : Opening} (found : db.openings.get j = some o) :
    (reconcileAll env db).openings.get j = some (reconcile env db ⟨o, db.ledger⟩).opening := by
  have member : j ∈ db.ids := List.mem_map_of_mem (Table.get_eq_some.mp found)
  have nodup : db.ids.Nodup := db.openings.nodup
  rw [reconcileAll, foldl_update_get _ (fun o => reconcile_opening env db o) nodup db found,
    if_pos member]

theorem Pass.stamp_chain (i : OpportunityId) (code : AdmissionReason) (v : Verdict) (p : Pass) :
    Chain (Considered env) p.db (p.stamp i code v).db :=
  Touched.chain <| Touched.update (fun s => { s with opening := { s.opening with
      candidate := s.opening.candidate.map (·.stamp p.db.now code v p.db.policy.version) } })
    fun _ _ => .stamped code v

theorem Pass.settleAdmission_db (i : OpportunityId) (outcome : AdmissionReason × Slice) (p : Pass) :
    (p.settleAdmission env i outcome).db = p.db.update i fun _ => outcome.2 := by
  unfold settleAdmission
  split <;> rfl

/-- The turn of one candidate: it is passed over, it is refused and the code kept, or an admission
is tried. -/
inductive Pass.Turn (env : Env) (p : Pass) (i : OpportunityId) : Pass → Prop
  | skipped : Turn env p i p
  | refused (code : AdmissionReason) (v : Verdict) : Turn env p i (p.stamp i code v)
  | tried {o : Opening} {co : CandidateOpportunity} (found : p.db.openings.get i = some o)
      (candidate : o.candidate = some co)
      (admissible : (decideOpening env p.context o co).admissible = true)
      {outcome : AdmissionReason × Slice}
      (done : outcome = admitCandidate env p.db (decideOpening env p.context o co) co ⟨o, p.db.ledger⟩) :
      Turn env p i ((p.settleAdmission env i outcome).stamp i outcome.1
        (decideOpening env p.context o co))

theorem Pass.consider_turn (env : Env) (window : Nat) (p : Pass) (i : OpportunityId) :
    Turn env p i (p.consider env window i) := by
  unfold consider
  split
  · exact .skipped
  rename_i o found
  split
  · exact .skipped
  rename_i co candidate
  dsimp only
  split
  · exact .refused _ _
  rename_i admissible
  split
  · exact .refused _ _
  split
  · exact .refused _ _
  · exact .tried found candidate (by simpa using admissible) rfl

theorem Pass.consider_chain (env : Env) (window : Nat) (p : Pass) (i : OpportunityId) :
    Chain (Considered env) p.db (p.consider env window i).db := by
  have turn := consider_turn env window p i
  generalize p.consider env window i = p' at turn ⊢
  cases turn with
  | skipped => exact .done _
  | refused code v => exact stamp_chain i code v p
  | tried found candidate admissible done =>
    refine .trans ?_ (stamp_chain i _ _ _)
    rw [settleAdmission_db, done]
    refine Touched.chain <| Touched.update _ fun o' found' => ?_
    cases Option.some.inj (found.symm.trans found')
    exact .admitted _ p.index candidate admissible

theorem Pass.foldl_chain (env : Env) (window : Nat) (p : Pass) (ids : List OpportunityId) :
    Chain (Considered env) p.db (ids.foldl (Pass.consider env window) p).db := by
  induction ids generalizing p with
  | nil => exact .done _
  | cons i ids ih => exact (consider_chain env window p i).trans (ih _)

theorem enqueueAll_chain (env : Env) (db : DB) :
    Chain (fun db _ s s' => s' = { s with opening := enqueueReady env db.now s.opening }) db
      (db.enqueueAll env) :=
  .mapRows (fun _ o => enqueueReady env db.now o) fun db₁ i o same => .inr (by rw [same.now])

theorem onItem_attempt (o : Opening) (action : QueueAction) (lane : Option Lane)
    (f : QueueItem → QueueItem) : (o.onItem action lane f).attempt = o.attempt := by
  unfold Opening.onItem
  cases action <;> rfl

theorem enqueueReady_attempt (env : Env) (now : Time) (o : Opening) :
    (enqueueReady env now o).attempt = o.attempt := by
  unfold enqueueReady
  split
  · split <;> rfl
  · rfl

end Scheduling

/-! ### Steps -/

/-- The store with the settings, the instant and the new row a label brings. -/
def DB.arrive (db : DB) : Label → DB
  | .tick elapsed => { db with now := db.now + elapsed }
  | .discover i company title w =>
    { db with openings := db.openings.insertNew i (.discovered i company title w) }
  | .setPolicy policy => { db with policy := policy }
  | .setSwitches switches => { db with switches := switches }
  | .setLive live => { db with live := live }
  | .answersApproved at_ => { db with answersAt := some at_ }
  | _ => db

theorem Op.arrive {env : Env} {ident : ProcId → WorkerId} {phase : ProcId → Phase} {db : DB}
    {i : OpportunityId} {s s' : Slice} {l : Label} (op : Op env ident phase db i s l s') (db₀ : DB) :
    db₀.arrive l = db₀ := by
  cases op with
  | reconciled l yes => cases l <;> first | rfl | contradiction
  | enqueued l yes => cases l <;> first | rfl | simp [Label.scheduling, Label.human] at yes
  | _ => rfl

theorem arrive_get {db : DB} {i : OpportunityId} {o : Opening} (l : Label)
    (found : db.openings.get i = some o) :
    (db.arrive l).openings.get i = some o := by
  cases l with
  | discover => exact Table.get_insertNew found
  | _ => exact found

section Step
variable (env : Env) (ident : ProcId → WorkerId) (phase : ProcId → Phase)

def Ops (l : Label) : DB → DB → Prop := Chain fun db i s s' => Op env ident phase db i s l s'

theorem schedule_ops (window : Nat) (db : DB) :
    Ops env ident phase (.schedule window) db (schedule env window db) := by
  refine .trans (.mono ?_ (reconcileAll_chain env db)) (.trans (.mono ?_
    (Pass.foldl_chain env window (db.openPass env) db.ordered)) (.mono ?_
      (enqueueAll_chain env _)))
  · rintro db i s _ rfl
    exact .reconciled _ rfl
  · exact fun db i s s' here => .considered window here
  · rintro db i s _ rfl
    exact .enqueued _ (.inl rfl)

theorem settlePrepared_ops (db : DB) :
    Ops env ident phase .settlePrepared db (settlePrepared env db) := by
  refine .trans (.mono ?_ (reconcileAll_chain env db)) (.mono ?_ (enqueueAll_chain env _))
  · rintro db i s _ rfl
    exact .reconciled _ rfl
  · rintro db i s _ rfl
    exact .enqueued _ (.inl rfl)

theorem claim_ops (p : ProcId) (action : QueueAction) (lane : Option Lane) (limit : Nat) (db : DB) :
    Ops env ident phase (.claim p action lane limit) db (db.claim env (ident p) action lane limit) := by
  unfold DB.claim
  refine .trans (.mapRows _ fun db₁ i o same => .inr ?_) (.mapRows _ fun db₁ i o same => ?_)
  · rw [← same.now]
    exact .exhausted p action lane limit
  · split
    · refine .inr ?_
      rw [show (db.parkExhaustedLeases action lane).now = db₁.now from same.now.symm]
      exact .taken p action lane limit
    · exact .inl rfl

theorem recover_ops (db : DB) : Ops env ident phase .recover db db.recover := by
  refine Chain.mapRows (fun _ o => recoverOpening db.now o) fun db₁ i o same => .inr ?_
  rw [show db.now = db₁.now from same.now.symm]
  exact .recovered

theorem retry_ops (i : OpportunityId) (reason : Option String) (db : DB) :
    Ops env ident phase (.retry i reason) db (db.retry env i reason) := by
  have chain : Ops env ident phase (.retry i reason) db (db.act i (onOpening fun o =>
      (RangeApply.retry db.now reason o).map fun o' => (o', o.submit.isNone))).1 := by
    refine Touched.chain <| Touched.act _ fun o s' a _ done => ?_
    obtain ⟨found, retried, same⟩ := map_ok.mp done
    obtain ⟨o', ok, rows⟩ := map_ok.mp retried
    subst rows
    exact (Prod.mk.inj same).1 ▸ .retried reason ok
  unfold DB.retry
  split
  · rename_i db' acted
    rw [acted] at chain
    refine chain.trans (.mono ?_ (enqueueAll_chain env db'))
    rintro db₁ j s _ rfl
    exact .enqueued _ (.inr rfl)
  · rename_i acted
    rw [acted] at chain
    exact chain

/-- The steps that work through the rows of the tenant. -/
def Label.batch : Label → Bool
  | .claim .. | .recover | .schedule _ | .settlePrepared | .retry .. => true
  | _ => false

def OneOp (l : Label) : DB → DB → Prop := Touched fun db i s s' => Op env ident phase db i s l s'

theorem start_op (worker : WorkerId) (i : OpportunityId) (args : StartArgs) (db : DB) (l : Label)
    (here : ∀ db s s' item out, s.opening.submit = some item →
      start env (db.startReads i args) worker s item = .ok (s', out) → Op env ident phase db i s l s') :
    OneOp env ident phase l db (db.start env worker i args).1 := by
  refine Touched.act _ fun o s out _ done => ?_
  split at done
  · contradiction
  · rename_i item submit
    exact here _ _ _ item out submit done

theorem DB.start_some {worker : WorkerId} {i : OpportunityId} {args : StartArgs} {db : DB}
    {out : StartOutcome} (answered : (db.start env worker i args).2 = some out) :
    ∃ o item s', db.openings.get i = some o ∧ o.submit = some item ∧
      RangeApply.start env (db.startReads i args) worker ⟨o, db.ledger⟩ item = .ok (s', out) ∧
      (db.start env worker i args).1 = db.put i s' := by
  obtain ⟨o, s', found, done, stored⟩ := DB.act_some answered
  split at done
  · contradiction
  · rename_i item submit
    exact ⟨o, item, s', found, submit, done, stored⟩

theorem DB.changeOpening_ok {i : OpportunityId} {f : Opening → Res Opening} {db : DB}
    {o o' : Opening} (found : db.openings.get i = some o) (done : f o = .ok o') :
    db.changeOpening i f = db.put i ⟨o', db.ledger⟩ := by
  simp only [changeOpening, change, act, plain, found, done, Except.map]

theorem DB.gateProcess_eq {i : OpportunityId} {stale : List String} {db : DB} {o : Opening}
    (found : db.openings.get i = some o) : db.gateProcess env i stale =
      (db.put i (preSubmitGate env (db.gateReads i stale) ⟨o, db.ledger⟩).2,
        some (preSubmitGate env (db.gateReads i stale) ⟨o, db.ledger⟩).1) := by
  simp only [gateProcess, act, found]

theorem beginPrepare_op (p : ProcId) (i : OpportunityId) (db : DB) :
    OneOp env ident phase (.beginPrepare p i) db (db.beginPrepare (ident p) i).1 := by
  refine Touched.act _ fun o s' a _ done => ?_
  obtain ⟨found, began, same⟩ := map_ok.mp done
  dsimp only at began
  split at began
  · contradiction
  · rename_i item prepare
    obtain ⟨item', started, rows⟩ := map_ok.mp began
    subst rows
    exact (Prod.mk.inj same).1 ▸ .prepareBegun p item item' prepare started

theorem endPrepare_op (p : ProcId) (i : OpportunityId) (ending : PrepareEnding) (db : DB)
    (here : phase p = .packaging i) :
    OneOp env ident phase (.endPrepare p ending) db (db.endPrepare (ident p) i ending) := by
  refine Touched.changeOpening _ fun o o' _ done => ?_
  split at done
  · contradiction
  · rename_i item prepare
    obtain ⟨item', settled, rows⟩ := map_ok.mp done
    exact rows ▸ .prepareEnded p ending item item' here prepare settled

end Step

namespace Sys

section Step
variable (env : Env) (ident : ProcId → WorkerId)

theorem gateStep_eq {s : Sys} {p : ProcId} {i : OpportunityId} {r : RunId} {stale : List String}
    {o : Opening}
    (at_ : s.phase p = .filling i r) (found : s.db.openings.get i = some o) :
    let answer := preSubmitGate env (s.db.gateReads i stale) ⟨o, s.db.ledger⟩
    s.gateStep env p stale = { s.enter p (.gated i r (answer.1 = [])) (s.db.put i answer.2) with
      passes := if answer.1 = [] then ⟨i, (s.db.keys env).day.key, (s.db.keys env).week.key⟩ :: s.passes
        else s.passes } := by
  simp only [Sys.gateStep, at_, DB.gateProcess_eq env found, Sys.note, Option.some.injEq]

/-- Every other step is at most one operation, after what its label brought. -/
theorem step_op (s : Sys) (l : Label) (single : l.batch = false) :
    OneOp env ident s.phase l (s.db.arrive l) (s.step env ident l).db := by
  cases l with
  | tick | discover | setPolicy | setSwitches | setLive | answersApproved | crash => exact .inl rfl
  | claim | recover | schedule | settlePrepared | retry => contradiction
  | world i w =>
    refine Touched.changeOpening (fun o => .ok (o.withWorld w)) fun o o' _ done => ?_
    cases Except.ok.inj done
    exact .world w
  | start p i args =>
    have one := start_op env ident s.phase (ident p) i args s.db (.start p i args)
      fun db s s' item out submit done => .started p args item out submit done
    simp only [step, startStep]
    split
    · split <;> rename_i started <;> rw [started] at one <;> exact one
    · exact .inl rfl
  | mark p =>
    simp only [step, markStep]
    split
    · rename_i i r here
      refine Touched.changeOpening (fun o => .ok (markSubmit r o)) fun o o' _ done => ?_
      cases Except.ok.inj done
      exact .marked p r here
    · exact .inl rfl
  | gate p stale =>
    simp only [step, gateStep]
    split
    · rename_i i r here
      refine Touched.act _ fun o s a _ done => ?_
      cases Except.ok.inj done
      exact .gated p r stale here
    · exact .inl rfl
  | finish p ending =>
    simp only [step, finishStep]
    split
    · rename_i i r here
      exact Touched.change _ fun o s _ done =>
        .finished p r ending (by rw [here]; rfl) (by rw [here]; exact done)
    · rename_i i r here
      exact Touched.change _ fun o s _ done =>
        .finished p r ending (by rw [here]; rfl) (by rw [here]; exact done)
    · rename_i i r passed here
      exact Touched.change _ fun o s _ done =>
        .finished p r ending (by rw [here]; rfl) (by rw [here]; exact done)
    · exact .inl rfl
  | beginPrepare p i =>
    have one := beginPrepare_op env ident s.phase p i s.db
    simp only [step, beginPrepareStep]
    split
    · split
      · rename_i began
        rw [began] at one
        exact one
      · exact .inl rfl
    · exact .inl rfl
  | endPrepare p ending =>
    simp only [step, endPrepareStep]
    split
    · rename_i i here
      exact endPrepare_op env ident s.phase p i ending s.db here
    · exact .inl rfl
  | claimItem worker i =>
    have one : OneOp env ident s.phase (.claimItem worker i) s.db (s.db.claimItem env worker i) := by
      refine Touched.changeOpening _ fun o o' _ done => ?_
      cases Except.ok.inj done
      exact .claimedFor worker
    exact one
  | heartbeat worker i => exact Touched.changeOpening _ fun o o' _ done => .beaten worker done
  | startFor worker i args =>
    exact start_op env ident s.phase worker i args s.db (.startFor worker i args)
      fun db s s' item out submit done => .startedFor worker args item out submit done
  | gateFor worker i stale =>
    refine Touched.act _ fun o s' a _ done => ?_
    obtain ⟨answer, answered, same⟩ := map_ok.mp done
    exact (Prod.mk.inj same).1 ▸ .gatedFor worker stale answer answered
  | reportFor worker i r v => exact Touched.change _ fun o s _ done => .reported worker r v done
  | verify i r v => exact Touched.changeOpening _ fun o o' _ done => .verified r v done
  | confirm i r submitted reference note =>
    exact Touched.changeOpening _ fun o o' _ done => .confirmed r submitted reference note done
  | cancel i actor reason => exact Touched.change _ fun o s _ done => .cancelled actor reason done

/-- The store a step leaves is reached from what the label brought by a chain of operations. -/
theorem step_ops (s : Sys) (l : Label) :
    Ops env ident s.phase l (s.db.arrive l) (s.step env ident l).db := by
  by_cases batch : l.batch = false
  · exact (step_op env ident s l batch).chain
  cases l with
  | claim p action lane limit =>
    simp only [step, claimStep]
    split
    · exact claim_ops env ident s.phase p action lane limit s.db
    · exact .done _
  | recover => exact recover_ops env ident s.phase s.db
  | schedule window => exact schedule_ops env ident s.phase window s.db
  | settlePrepared => exact settlePrepared_ops env ident s.phase s.db
  | retry i reason => exact retry_ops env ident s.phase i reason s.db
  | _ => exact absurd rfl batch

end Step

end Sys

end RangeApply
