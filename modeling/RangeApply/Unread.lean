import RangeApply.Tally

/-! What a scheduling run does not read. A change of such columns of the openings commutes with
reconciliation, with the indexes and so with the opening of a pass. -/
namespace RangeApply

/-- `g` changes columns of an opening, and by `h` columns of its candidate row, that neither
reconciliation nor the indexes look at. -/
structure Unread (h : CandidateOpportunity → CandidateOpportunity) (g : Opening → Opening) : Prop where
  candidate : ∀ o, (g o).candidate = o.candidate.map h
  attempt : ∀ o, (g o).attempt = o.attempt
  prepare : ∀ o, (g o).prepare = o.prepare
  preparations : ∀ o, (g o).preparations = o.preparations
  id : ∀ o, (g o).opportunity.id = o.opportunity.id
  company : ∀ o, (g o).opportunity.company = o.opportunity.company
  title : ∀ o, (g o).opportunity.title = o.opportunity.title
  status : ∀ o, (g o).opportunity.status = o.opportunity.status
  setAttempt : ∀ o a, g { o with attempt := a } = { g o with attempt := a }
  setPrepare : ∀ o p, g { o with prepare := p } = { g o with prepare := p }
  setCandidate : ∀ o c, g { o with candidate := c } = { g o with candidate := c.map h }
  state : ∀ co, (h co).state = co.state
  stateChangedAt : ∀ co, (h co).stateChangedAt = co.stateChangedAt
  policyAdmitted : ∀ co, (h co).policyAdmitted = co.policyAdmitted
  transition : ∀ co now state reason,
    (h co).transition now state reason = (co.transition now state reason).map h

def DB.revise (g : OpportunityId → Opening → Opening) (db : DB) : DB :=
  { db with openings := db.openings.mapRows g }

section Revise
variable {env : Env} {db : DB} {i : OpportunityId} {h : CandidateOpportunity → CandidateOpportunity}
  {g : Opening → Opening} {gs : OpportunityId → Opening → Opening}
  {hs : OpportunityId → CandidateOpportunity → CandidateOpportunity}

theorem get_revise : (db.revise gs).openings.get i = (db.openings.get i).map (gs i) :=
  Table.get_mapRows _ _ _

theorem update_revise {f f' : Slice → Slice}
    (same : ∀ o, db.openings.get i = some o →
      f ⟨gs i o, db.ledger⟩ = ⟨gs i (f' ⟨o, db.ledger⟩).opening, (f' ⟨o, db.ledger⟩).ledger⟩) :
    (db.revise gs).update i f = (db.update i f').revise gs := by
  unfold DB.update
  rw [get_revise]
  cases found : db.openings.get i with
  | none => rfl
  | some o =>
    have here : f ⟨gs i o, (db.revise gs).ledger⟩ = _ := same o found
    simp only [Option.map_some, here]
    unfold DB.put DB.revise
    congr 1
    exact (Table.mapRows_put _ _ _ _).symm

theorem Unread.stop (unread : Unread h g) (policy : ApplicationPolicy) (o : Opening)
    (co : CandidateOpportunity) :
    reconcileStop env policy (g o) (h co) = reconcileStop env policy o co := by
  unfold reconcileStop
  simp only [unread.prepare, unread.status, unread.company, unread.state, unread.policyAdmitted]

theorem Unread.write (unread : Unread h g) (o : Opening) (a : Option Application)
    (p : Option QueueItem) (c : Option CandidateOpportunity) :
    g { o with attempt := a, prepare := p, candidate := c } =
      { g o with attempt := a, prepare := p, candidate := c.map h } := by
  have candidate := unread.setCandidate { o with attempt := a, prepare := p } c
  have prepare := unread.setPrepare { o with attempt := a } p
  have attempt := unread.setAttempt o a
  dsimp only at candidate prepare
  rw [candidate, prepare, attempt]

theorem Unread.stopAttempt (unread : Unread h g) (row : Application) (co : CandidateOpportunity)
    (stop : String × ApplicationStatus) (o : Opening) (ledger : CapLedger) :
    RangeApply.stopAttempt (db.revise gs) row (h co) stop ⟨g o, ledger⟩ =
      ⟨g (RangeApply.stopAttempt db row co stop ⟨o, ledger⟩).opening,
        (RangeApply.stopAttempt db row co stop ⟨o, ledger⟩).ledger⟩ := by
  have now : (db.revise gs).now = db.now := rfl
  unfold RangeApply.stopAttempt
  dsimp only
  rw [now, unread.prepare o, unread.state, unread.transition]
  refine congrArg (Slice.mk · _) (Eq.trans ?_ (unread.write o _ _ (some _)).symm)
  rw [Option.map_some]
  congr 2
  split
  · cases co.transition db.now .closed stop.1 with
    | ok co' => rfl
    | error e => rfl
  · rfl

theorem Unread.followPreparation (unread : Unread h g) (row : Application) (o : Opening) :
    RangeApply.followPreparation (db.revise gs) row (g o) =
      g (RangeApply.followPreparation db row o) := by
  have both (a : Option Application) (p : Option QueueItem) :
      g { o with attempt := a, prepare := p } = { g o with attempt := a, prepare := p } := by
    have prepare := unread.setPrepare { o with attempt := a } p
    have attempt := unread.setAttempt o a
    dsimp only at prepare
    rw [prepare, attempt]
  have latest : (g o).latestPreparation = o.latestPreparation := by
    unfold Opening.latestPreparation
    rw [unread.preparations]
  unfold RangeApply.followPreparation
  dsimp only
  rw [unread.prepare, latest]
  cases o.prepare with
  | none => rfl
  | some item =>
    dsimp only
    cases o.latestPreparation.filter fun p => p.status = .ready with
    | none =>
      dsimp only
      have answers : (db.revise gs).answersAt = db.answersAt := rfl
      rw [answers]
      split
      · exact (both _ _).symm
      split
      · exact (both _ _).symm
      · rfl
    | some p =>
      dsimp only
      split
      · exact (both _ _).symm
      split
      · exact (both _ _).symm
      · rfl

theorem Unread.reconcile (unread : Unread h g) (o : Opening) (ledger : CapLedger) :
    RangeApply.reconcile env (db.revise gs) ⟨g o, ledger⟩ =
      ⟨g (RangeApply.reconcile env db ⟨o, ledger⟩).opening,
        (RangeApply.reconcile env db ⟨o, ledger⟩).ledger⟩ := by
  unfold RangeApply.reconcile
  dsimp only
  rw [unread.attempt, unread.candidate]
  cases o.attempt with
  | none => rfl
  | some row =>
    cases o.candidate with
    | none => rfl
    | some co =>
      have policy : (db.revise gs).policy = db.policy := rfl
      dsimp only [Option.map_some]
      rw [policy, unread.stop]
      split
      · cases reconcileStop env db.policy o co with
        | some stop => exact unread.stopAttempt row co stop o ledger
        | none =>
          dsimp only
          split
          · rfl
          · rw [unread.followPreparation]
      · rfl

theorem Unread.releases (unread : Unread h g) (o : Opening) :
    RangeApply.releases env (db.revise gs) (g o) = RangeApply.releases env db o := by
  unfold RangeApply.releases
  rw [unread.attempt, unread.candidate]
  cases o.attempt with
  | none => rfl
  | some row =>
    cases o.candidate with
    | none => rfl
    | some co =>
      have policy : (db.revise gs).policy = db.policy := rfl
      dsimp only [Option.map_some]
      rw [policy, unread.stop]

theorem Unread.addAttempt (unread : Unread h g) (d : Int) (index : Indexes) (o : Opening) :
    index.addAttempt env d (g o) = index.addAttempt env d o := by
  unfold Indexes.addAttempt Indexes.addCooldown Indexes.addDuplicate
  rw [unread.attempt, unread.company, unread.title, unread.id]

theorem Unread.addCandidate (unread : Unread h g) (d : Int) (index : Indexes) (o : Opening) :
    index.addCandidate env d (g o) = index.addCandidate env d o := by
  unfold Indexes.addCandidate Indexes.addCooldown Indexes.addDuplicate
  rw [unread.candidate, unread.attempt, unread.company, unread.title, unread.id]
  cases o.candidate with
  | none => rfl
  | some co =>
    dsimp only [Option.map_some]
    rw [unread.state, unread.stateChangedAt]

theorem candidates_revise (unread : ∀ i, Unread (hs i) (gs i)) : (db.revise gs).candidates = db.candidates.map fun r => (r.1, gs r.1 r.2) := by
  unfold DB.candidates DB.revise
  rw [Table.mapRows_rows, List.filter_map]
  congr 1
  refine List.filter_congr fun r _ => ?_
  rw [Function.comp_apply, (unread r.1).candidate, Option.isSome_map]

theorem indexes_revise (unread : ∀ i, Unread (hs i) (gs i)) :
    (db.revise gs).indexes env = db.indexes env := by
  unfold DB.indexes Indexes.build
  have attempts : (fun index (r : OpportunityId × Opening) =>
        Indexes.addAttempt env db.policy.cooldownDays index (gs r.1 r.2)) =
      fun index r => Indexes.addAttempt env db.policy.cooldownDays index r.2 := by
    funext index r
    exact (unread r.1).addAttempt _ index r.2
  have candidates : (fun index (r : OpportunityId × Opening) =>
        Indexes.addCandidate env db.policy.cooldownDays index (gs r.1 r.2)) =
      fun index r => Indexes.addCandidate env db.policy.cooldownDays index r.2 := by
    funext index r
    exact (unread r.1).addCandidate _ index r.2
  have policy : (db.revise gs).policy = db.policy := rfl
  rw [candidates_revise unread, List.map_map, policy, List.foldl_map, List.foldl_map, List.foldl_map,
    List.foldl_map]
  simp only [Function.comp_apply]
  rw [attempts, candidates]

theorem reconcileAll_revise (unread : ∀ i, Unread (hs i) (gs i)) :
    reconcileAll env (db.revise gs) = (reconcileAll env db).revise gs := by
  unfold reconcileAll
  have ids : (db.revise gs).ids = db.ids := by
    unfold DB.ids DB.revise
    rw [Table.mapRows_rows, List.map_map]
    rfl
  rw [ids]
  have all (ids : List OpportunityId) (acc : DB) :
      ids.foldl (fun acc i => acc.update i (reconcile env (db.revise gs))) (acc.revise gs) =
        (ids.foldl (fun acc i => acc.update i (reconcile env db)) acc).revise gs := by
    induction ids generalizing acc with
    | nil => rfl
    | cons i ids ih =>
      rw [List.foldl_cons, List.foldl_cons,
        update_revise fun o _ => (unread i).reconcile o acc.ledger, ih]
  exact all db.ids db

/-- The opening of a pass. -/
theorem openPass_revise (unread : ∀ i, Unread (hs i) (gs i)) : (db.revise gs).openPass env =
    { db.openPass env with db := (db.openPass env).db.revise gs } := by
  have releases : ((db.revise gs).openings.rows.any fun r => releases env (db.revise gs) r.2) =
      db.openings.rows.any fun r => releases env db r.2 := by
    have rows : (db.revise gs).openings.rows = db.openings.rows.map fun r => (r.1, gs r.1 r.2) := rfl
    rw [rows, List.any_map]
    congr 1
    funext r
    exact (unread r.1).releases r.2
  unfold DB.openPass
  simp only [releases, reconcileAll_revise unread, indexes_revise unread]

end Revise

end RangeApply
