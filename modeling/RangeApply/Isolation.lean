import RangeApply.LiveVersion

/-! Whether the failures of a batch stay their own: for the matching of jobs and for the preparing
of many opportunities, both of which commit in groups and roll back as a whole. -/
namespace RangeApply

/-! ### Nothing but the given exceptions is raised -/

theorem movePrepared_ok (now : Time) (status : PreparationStatus) (co : CandidateOpportunity) :
    ∃ moved, movePrepared now status co = .ok moved := by
  have open_ (target : OpportunityState) (reason : String)
      (allowed : target ∈ co.state.transitions) :
      ∃ moved, co.transition now target reason = .ok moved :=
    ⟨_, if_pos (.inr allowed)⟩
  unfold movePrepared
  split
  · rename_i ready
    apply open_
    revert ready
    cases co.state <;> simp [preparedFrom, OpportunityState.transitions]
  · split
    · rename_i review
      apply open_
      revert review
      cases co.state <;> simp [reviewFrom, OpportunityState.transitions]
    · exact ⟨co, rfl⟩

theorem moveTarget_ok (now : Time) (db : PreparationTables) (co : OpportunityId)
    (status : PreparationStatus) : ∃ db', db.moveTarget now co status = .ok db' := by
  unfold PreparationTables.moveTarget
  split
  · exact ⟨_, rfl⟩
  · rename_i t _
    obtain ⟨moved, done⟩ := movePrepared_ok now status t.co
    exact ⟨_, by rw [done]; rfl⟩

theorem persist_ok (now : Time) (db : PreparationTables) (previous : Option PreparationRow)
    (row : PreparationRow) : ∃ db', persist now db previous row = .ok db' :=
  moveTarget_ok now _ row.co row.status

section Isolation
variable (env : ComposerEnv) (ctx : PreparationContext) (now : Time) (options : PrepareOptions)

theorem prepareTarget_ok (db : PreparationTables) (id : PreparationId) (co : OpportunityId)
    (t : Target) (previous : Option PreparationRow) :
    ∃ result, prepareTarget env ctx now db id co t previous options = .ok result := by
  unfold prepareTarget
  dsimp only
  split
  · exact ⟨_, rfl⟩
  · split
    · exact ⟨_, rfl⟩
    · obtain ⟨db', stored⟩ := persist_ok now db previous (nextVersion id co previous
        (fingerprint env ctx t (options.level.getD (ctx.policy.level t.co.fitBand))
          (questionsFor env previous options.questions))
        (build env ctx t (options.level.getD (ctx.policy.level t.co.fitBand))
          (questionsFor env previous options.questions)))
      exact ⟨_, by rw [stored]; rfl⟩

/-! ### The verdicts of a pass -/

def turnVerdict : Option (Except Raised Prepared) → Batch.Verdict
  | some (.error _) => .failed
  | some (.ok (.created _ _)) => .saved
  | _ => .passed

/-- A turn that leaves no trace when it raises. -/
def spare (every : Nat) (s : PreparationPass) (item : BatchItem) : PreparationPass :=
  match s.turn env ctx now options item with
  | some (.ok result) => s.settle every item.co result
  | _ => s

/-- What becomes of the targets when those that raise leave no trace. -/
def verdicts (every : Nat) : PreparationPass → List BatchItem → List Batch.Verdict
  | _, [] => []
  | s, item :: items =>
    turnVerdict (s.turn env ctx now options item) ::
      verdicts every (spare env ctx now options every s item) items

/-- What becomes of the targets as the pass goes. -/
def ran (every : Nat) : PreparationPass → List BatchItem → List Batch.Verdict
  | _, [] => []
  | s, item :: items =>
    turnVerdict (s.turn env ctx now options item) ::
      ran every (prepareItem env ctx now options every s item) items

/-- Two passes that handle their targets alike. -/
structure SameView (s s' : PreparationPass) : Prop where
  working : s.tables.working = s'.tables.working
  latest : s.latest = s'.latest
  nextId : s.nextId = s'.nextId

section View
variable (every : Nat) {s s' : PreparationPass}

theorem turn_congr (same : SameView s s') (item : BatchItem) :
    s.turn env ctx now options item = s'.turn env ctx now options item := by
  simp only [PreparationPass.turn, PreparationPass.previous, same.working, same.latest, same.nextId]

theorem settle_congr (same : SameView s s') (co : OpportunityId) (result : Prepared) :
    SameView (s.settle every co result) (s'.settle every co result) := by
  cases result with
  | blocked message => exact ⟨same.working, same.latest, same.nextId⟩
  | reused row => exact ⟨same.working, same.latest, same.nextId⟩
  | created row db =>
    constructor
    · simp only [PreparationPass.settle, Batch.save_working]
    · simp only [PreparationPass.settle, same.latest]
    · simp only [PreparationPass.settle, same.nextId]

theorem spare_congr (same : SameView s s') (item : BatchItem) :
    SameView (spare env ctx now options every s item)
      (spare env ctx now options every s' item) := by
  unfold spare
  rw [turn_congr env ctx now options same item]
  split
  · exact settle_congr every same _ _
  · exact same

theorem verdicts_congr (same : SameView s s') (items : List BatchItem) :
    verdicts env ctx now options every s items = verdicts env ctx now options every s' items := by
  induction items generalizing s s' with
  | nil => rfl
  | cons item items ih =>
    simp only [verdicts, turn_congr env ctx now options same item,
      ih (spare_congr env ctx now options every same item)]

theorem foldl_spare_congr (same : SameView s s') (items : List BatchItem) :
    SameView (items.foldl (spare env ctx now options every) s)
      (items.foldl (spare env ctx now options every) s') := by
  induction items generalizing s s' with
  | nil => exact same
  | cons item items ih => exact ih (spare_congr env ctx now options every same item)

/-- A turn does what it would do without the failures, or it fails. -/
theorem prepareItem_cases (s : PreparationPass) (item : BatchItem) :
    (prepareItem env ctx now options every s item = spare env ctx now options every s item ∧
      turnVerdict (s.turn env ctx now options item) ≠ .failed) ∨
    ∃ e, s.turn env ctx now options item = some (.error e) ∧
      prepareItem env ctx now options every s item = s.fail item.co e ∧
      spare env ctx now options every s item = s := by
  unfold prepareItem spare
  cases turn : s.turn env ctx now options item with
  | none => exact .inl ⟨rfl, by simp [turnVerdict]⟩
  | some handled =>
    cases handled with
    | error e => exact .inr ⟨e, rfl, rfl, rfl⟩
    | ok result => exact .inl ⟨rfl, by cases result <;> simp [turnVerdict]⟩

/-- With nothing pending a failure changes nothing but the report. -/
theorem fail_view (sound : s.tables.Lossless) (settled : s.tables.pending = 0)
    (co : OpportunityId) (e : Raised) :
    (s.fail co e).tables = s.tables ∧ SameView (s.fail co e) s := by
  have same : s.tables.rollback = s.tables := Batch.rollback_of_settled sound settled
  exact ⟨same, by simp only [PreparationPass.fail, same], rfl, rfl⟩

theorem spare_tables (sound : s.tables.Lossless) (item : BatchItem) :
    (spare env ctx now options every s item).tables.Lossless ∧
      (turnVerdict (s.turn env ctx now options item) ≠ .failed →
        (spare env ctx now options every s item).tables.pending =
          (turnVerdict (s.turn env ctx now options item)).pending every s.tables.pending) := by
  unfold spare
  cases s.turn env ctx now options item with
  | none => exact ⟨sound, fun _ => rfl⟩
  | some handled =>
    cases handled with
    | error e => exact ⟨sound, fun failed => absurd rfl failed⟩
    | ok result =>
      cases result with
      | blocked message => exact ⟨sound, fun _ => rfl⟩
      | reused row => exact ⟨sound, fun _ => rfl⟩
      | created row db =>
        exact ⟨Batch.save_lossless _ _ _, fun _ => Batch.save_pending _ _ _⟩

/-- Both accounts of the verdicts agree on whether every failure finds nothing pending. -/
theorem aligned_ran (sound : s.tables.Lossless) (items : List BatchItem) :
    Batch.Aligned every s.tables.pending (ran env ctx now options every s items) ↔
      Batch.Aligned every s.tables.pending (verdicts env ctx now options every s items) := by
  induction items generalizing s with
  | nil => exact Iff.rfl
  | cons item items ih =>
    simp only [ran, verdicts, Batch.aligned_cons]
    apply and_congr_right
    intro timely
    obtain ⟨lossless, pending⟩ := spare_tables env ctx now options every sound item
    rcases prepareItem_cases env ctx now options every s item with
      ⟨same, kept⟩ | ⟨e, turn, failed, spared⟩
    · rw [same, ← pending kept]
      exact ih lossless
    · have settled : s.tables.pending = 0 := timely (by rw [turn]; rfl)
      obtain ⟨tables, view⟩ := fail_view sound settled item.co e
      have rest := ih (s := s.fail item.co e) (tables ▸ sound)
      rw [verdicts_congr env ctx now options every view, tables, settled] at rest
      rw [failed, spared, turn]
      exact rest

/-- When every failure finds nothing pending, the pass goes as if they had left no trace. -/
theorem prepareAll_view (sound : s.tables.Lossless) (items : List BatchItem)
    (aligned : Batch.Aligned every s.tables.pending (verdicts env ctx now options every s items)) :
    SameView (items.foldl (prepareItem env ctx now options every) s)
      (items.foldl (spare env ctx now options every) s) := by
  induction items generalizing s with
  | nil => exact ⟨rfl, rfl, rfl⟩
  | cons item items ih =>
    simp only [verdicts, Batch.aligned_cons] at aligned
    obtain ⟨timely, aligned⟩ := aligned
    obtain ⟨lossless, pending⟩ := spare_tables env ctx now options every sound item
    simp only [List.foldl_cons]
    rcases prepareItem_cases env ctx now options every s item with
      ⟨same, kept⟩ | ⟨e, turn, failed, spared⟩
    · rw [same]
      exact ih lossless (pending kept ▸ aligned)
    · have settled : s.tables.pending = 0 := timely (by rw [turn]; rfl)
      obtain ⟨tables, view⟩ := fail_view sound settled item.co e
      rw [failed, spared]
      rw [spared, turn] at aligned
      have rest := ih (s := s.fail item.co e) (tables ▸ sound)
        (by rw [verdicts_congr env ctx now options every view, tables, settled]; exact aligned)
      have after := foldl_spare_congr env ctx now options every view items
      exact ⟨rest.working.trans after.working, rest.latest.trans after.latest,
        rest.nextId.trans after.nextId⟩

/-- The packages of a transaction are those committed and those pending. -/
def Counted (s : PreparationPass) : Prop :=
  s.tables.working.rows.length = s.tables.stored.rows.length + s.tables.pending

theorem length_superseded (db : PreparationTables) (previous : Option PreparationRow) :
    (superseded db previous).rows.length = db.rows.length := by
  cases previous with
  | none => rfl
  | some p => exact List.length_map ..

theorem created_length {item : BatchItem} {row : PreparationRow} {db : PreparationTables}
    (turn : s.turn env ctx now options item = some (.ok (.created row db))) :
    db.rows.length = s.tables.working.rows.length + 1 := by
  obtain ⟨t, made⟩ := turn_created turn
  rw [persist_rows (prepareTarget_created made).1, List.length_append, length_superseded,
    List.length_singleton]

/-- What a turn does to the rows, to what is pending and to the count. -/
theorem prepareItem_counts (counted : Counted s) (item : BatchItem) :
    let s' := prepareItem env ctx now options every s item
    let verdict := turnVerdict (s.turn env ctx now options item)
    Counted s' ∧ s'.tables.pending = verdict.pending every s.tables.pending ∧
      s'.report.created + s.tables.working.rows.length =
        s'.tables.working.rows.length + s.report.created +
          (if verdict = .failed then s.tables.pending else 0) := by
  unfold prepareItem
  cases turn : s.turn env ctx now options item with
  | none => exact ⟨counted, rfl, Nat.add_comm ..⟩
  | some handled =>
    cases handled with
    | error e =>
      refine ⟨rfl, rfl, ?_⟩
      unfold Counted at counted
      simp only [PreparationPass.fail, PrepareManyReport.skip, Batch.rollback, Batch.clean_working,
        turnVerdict, if_true]
      omega
    | ok result =>
      cases result with
      | blocked message => exact ⟨counted, rfl, Nat.add_comm ..⟩
      | reused row => exact ⟨counted, rfl, Nat.add_comm ..⟩
      | created row db =>
        have longer := created_length env ctx now options turn
        refine ⟨?_, Batch.save_pending _ _ _, ?_⟩
        · unfold Counted at *
          simp only [PreparationPass.settle, Batch.save]
          split
          · simp
          · simp only
            omega
        · simp only [PreparationPass.settle, Batch.save_working, turnVerdict, reduceCtorEq,
            if_false]
          omega

/-- Counted as created, less what was lost, is stored. -/
theorem pass_balance (counted : Counted s) (items : List BatchItem) :
    let done := items.foldl (prepareItem env ctx now options every) s
    done.report.created + s.tables.working.rows.length =
      done.tables.working.rows.length + s.report.created +
        Batch.lost every s.tables.pending (ran env ctx now options every s items) := by
  induction items generalizing s with
  | nil => exact Nat.add_comm ..
  | cons item items ih =>
    obtain ⟨counted', pending, created⟩ := prepareItem_counts env ctx now options every counted item
    have rest := ih counted'
    simp only [List.foldl_cons, ran, Batch.lost_cons] at *
    rw [pending] at rest
    omega

end View

section Statement
variable (every : Nat) (db : PreparationTables) (nextId : PreparationId) (items : List BatchItem)

/-- The targets that raise might as well not have been given, and the packages counted as created
are those that are stored. -/
structure PrepareIsolated : Prop where
  rows : (prepareMany env ctx now options every db nextId items).1.rows =
    (prepareMany env ctx now options every db nextId
      (items.filter fun item => item.raises.isNone)).1.rows
  created : (prepareMany env ctx now options every db nextId items).2.created + db.rows.length =
    (prepareMany env ctx now options every db nextId items).1.rows.length

/-- Each target that raises comes when no package created before it is uncommitted. -/
def PrepareAligned : Prop :=
  Batch.Aligned every 0 (verdicts env ctx now options every (startPass db nextId items) items)

theorem spare_raising {s : PreparationPass} {item : BatchItem} (raises : item.raises ≠ none) :
    spare env ctx now options every s item = s := by
  obtain ⟨e, raised⟩ := Option.ne_none_iff_exists'.mp raises
  unfold spare PreparationPass.turn
  cases s.tables.working.targets item.co <;> simp [raised]

theorem foldl_spare_filter (s : PreparationPass) :
    (items.filter fun item => item.raises.isNone).foldl (spare env ctx now options every) s =
      items.foldl (spare env ctx now options every) s := by
  rw [List.foldl_filter]
  congr 1
  funext s item
  split
  · rfl
  · rename_i raising
    exact (spare_raising env ctx now options every fun quiet => raising (by simp [quiet])).symm

theorem turn_unfailed {s : PreparationPass} {item : BatchItem} (quiet : item.raises = none) :
    turnVerdict (s.turn env ctx now options item) ≠ .failed := by
  unfold PreparationPass.turn
  cases s.tables.working.targets item.co with
  | none => simp [turnVerdict]
  | some t =>
    obtain ⟨result, made⟩ := prepareTarget_ok env ctx now options s.tables.working s.nextId
      item.co t (s.previous item.co)
    cases result <;> simp [quiet, made, Except.mapError, turnVerdict]

theorem verdicts_unfailed (s : PreparationPass) (quiet : ∀ item ∈ items, item.raises = none) :
    .failed ∉ verdicts env ctx now options every s items := by
  induction items generalizing s with
  | nil => simp [verdicts]
  | cons item items ih =>
    rw [verdicts, List.mem_cons, not_or]
    exact ⟨(turn_unfailed env ctx now options (quiet item (by simp))).symm,
      ih _ fun i member => quiet i (by simp [member])⟩

/-- Batch isolation holds of a call exactly when no target raises while created packages are
pending. -/
theorem prepareIsolated_iff :
    PrepareIsolated env ctx now options every db nextId items ↔
      PrepareAligned env ctx now options every db nextId items := by
  have sound (given : List BatchItem) : (startPass db nextId given).tables.Lossless :=
    Batch.clean_lossless db
  have balance : (prepareMany env ctx now options every db nextId items).2.created +
      db.rows.length = (prepareMany env ctx now options every db nextId items).1.rows.length +
        Batch.lost every 0 (ran env ctx now options every (startPass db nextId items) items) := by
    have counted : Counted (startPass db nextId items) := rfl
    exact pass_balance env ctx now options every counted items
  have agree : Batch.Aligned every 0
      (ran env ctx now options every (startPass db nextId items) items) ↔
        PrepareAligned env ctx now options every db nextId items :=
    aligned_ran env ctx now options every (sound items) items
  constructor
  · intro isolated
    apply agree.mp
    rw [← Batch.lost_eq_zero]
    have := isolated.created
    omega
  · intro aligned
    constructor
    · let kept := items.filter fun item => item.raises.isNone
      have quiet : ∀ item ∈ kept, item.raises = none := by
        intro item member
        simpa using (List.mem_filter.mp member).2
      have here := prepareAll_view env ctx now options every (sound items) items aligned
      have there : SameView (kept.foldl (prepareItem env ctx now options every)
            (startPass db nextId kept))
          (kept.foldl (spare env ctx now options every) (startPass db nextId kept)) :=
        prepareAll_view env ctx now options every (sound kept) kept
          (Batch.aligned_of_no_failure every 0
            (verdicts_unfailed env ctx now options every kept _ quiet))
      have begun : SameView (startPass db nextId items) (startPass db nextId kept) :=
        ⟨rfl, rfl, rfl⟩
      have alike := foldl_spare_congr env ctx now options every begun items
      rw [foldl_spare_filter env ctx now options every items] at there
      have same := (here.working.trans alike.working).trans there.working.symm
      exact congrArg PreparationTables.rows same
    · have nothing := (Batch.lost_eq_zero ..).mpr (agree.mpr aligned)
      omega

end Statement
end Isolation

/-- When the failures of a batch stay their own. -/
theorem batch_isolation {Job Match Row : Type} (engine : MatchEngine Job Match Row)
    (jobs : List Job) (env : ComposerEnv) (ctx : PreparationContext) (now : Time)
    (options : PrepareOptions) (every : Nat) (db : PreparationTables) (nextId : PreparationId)
    (items : List BatchItem) :
    (engine.Isolated jobs ↔
      Batch.Aligned matchCommitBatch 0 (jobs.map engine.verdict) ∧
        ∀ job ∈ jobs, engine.raisesLate job = false) ∧
      (PrepareIsolated env ctx now options every db nextId items ↔
        PrepareAligned env ctx now options every db nextId items) :=
  ⟨engine.isolated_iff jobs, prepareIsolated_iff env ctx now options every db nextId items⟩

/-- An engine that cannot score the job `0`. -/
def strictEngine : MatchEngine Nat Nat Nat where
  jobId := toString
  title := fun _ => "Engineer"
  evaluate := fun job => if job = 0 then .error ⟨"ValueError", "no title"⟩ else .ok job
  persist := fun _ found => .ok found
  release := fun _ => .ok ()

def lastFails : List BatchItem := [⟨0, none⟩, ⟨1, some ⟨"ValueError", "bad profile"⟩⟩]

/-- One item done, then one that raises: what was done is counted and is gone. -/
theorem batch_lost :
    ¬strictEngine.Isolated [1, 0] ∧
      ¬PrepareIsolated bareEnv bareContext 0 forced 100 ⟨[], fun _ => some bareTarget⟩ 0
        lastFails := by
  constructor
  · intro isolated
    exact absurd isolated.matched (by decide +kernel)
  · intro isolated
    exact absurd isolated.created (by decide +kernel)

end RangeApply
