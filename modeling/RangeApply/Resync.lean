import RangeApply.Confluence
import RangeApply.Sync

/-! Syncing a run again, and in another order. -/
namespace RangeApply.Sync
open Postings

/-! ### What recording writes -/

section Rows

@[simp] theorem record_row (c : Candidate) (action : String) (before : Option Snapshot)
    (gates : Option GateReport) (summary : Option String) :
    (c.record action before gates summary).row = c.row := rfl

@[simp] theorem record_decisions (c : Candidate) (action : String) (before : Option Snapshot)
    (gates : Option GateReport) (summary : Option String) :
    (c.record action before gates summary).decisions = c.decisions := rfl

@[simp] theorem record_priorities (c : Candidate) (action : String) (before : Option Snapshot)
    (gates : Option GateReport) (summary : Option String) :
    (c.record action before gates summary).priorities = c.priorities := rfl

theorem recordEligibility_written (ctx : Context) (c : Candidate) (d : Decision) :
    (c.recordEligibility ctx d).decisions = c.decisions ++ [d] ∧
      (c.recordEligibility ctx d).row.decisionId = some c.decisions.length := by
  unfold Candidate.recordEligibility
  dsimp only
  split <;> exact ⟨rfl, rfl⟩

theorem recordFit_written (ctx : Context) (c : Candidate) (m : JobMatch) (band : FitBand) :
    (c.recordFit ctx m band).decisions = c.decisions ∧
      (c.recordFit ctx m band).priorities = c.priorities ∧
      (c.recordFit ctx m band).row = { c.row with
        matchId := some m.id
        lastEvaluatedAt := some ctx.now
        shown := { c.row.shown with
          fitScore := some m.fitScore
          fitBand := some band
          fitPolicyVersion := some ctx.policy.version } } := by
  unfold Candidate.recordFit
  dsimp only
  split <;> exact ⟨rfl, rfl, rfl⟩

theorem recordPriority_written (c : Candidate) (p : PriorityRow) :
    (c.recordPriority p).decisions = c.decisions ∧
      (c.recordPriority p).priorities = c.priorities ++ [p] ∧
      (c.recordPriority p).row = { c.row with
        priorityScoreId := some c.priorities.length
        shown := { c.row.shown with priorityScore := some p.result.score } } := by
  unfold Candidate.recordPriority
  dsimp only
  split <;> exact ⟨rfl, rfl, rfl⟩

theorem recordAdmission_written (ctx : Context) (c : Candidate) (a : Admission) :
    (c.recordAdmission ctx a).decisions = c.decisions ∧
      (c.recordAdmission ctx a).priorities = c.priorities ∧
      (c.recordAdmission ctx a).row = { c.row with
        shown := { c.row.shown with
          policyAdmitted := some a.admitted
          policyReason := some (clip 256 a.reason)
          admissionPolicyVersion := some ctx.policy.version
          gateRulesetVersion := some a.gates.rulesetVersion } } := by
  unfold Candidate.recordAdmission
  dsimp only
  split <;> exact ⟨rfl, rfl, rfl⟩

end Rows

/-! ### A match synced twice -/

section Twice
variable (ctx : Context) (m : JobMatch) (job : JobRow) (o : OpeningRow)

/-- The candidate opportunity holds what the match says of its eligibility. -/
def Decided (c : Candidate) : Prop :=
  ∃ d, c.decisions.getLast? = some d ∧ d.jobContentHash = job.contentHash ∧
    d.decision = decisionFor m.eligibilityStatus ∧
    c.row.decisionId = some (c.decisions.length - 1)

def Fitted (c : Candidate) : Prop :=
  c.row.matchId = some m.id ∧ c.row.lastEvaluatedAt = some ctx.now ∧
    c.row.shown.fitScore = some m.fitScore ∧
    c.row.shown.fitBand = some (bandFor ctx m.fitScore) ∧
    c.row.shown.fitPolicyVersion = some ctx.policy.version

def Prioritised (c : Candidate) : Prop :=
  c.row.shown.priorityScore = some (m.priority ctx job o).result.score ∧
    c.row.priorityScoreId ≠ none ∧ learnedChanged c (m.priority ctx job o) = false

def Admitted (c : Candidate) : Prop :=
  c.row.shown.policyAdmitted = some (admission ctx m job o c).admitted ∧
    c.row.shown.policyReason = some (clip 256 (admission ctx m job o c).reason) ∧
    c.row.shown.admissionPolicyVersion = some ctx.policy.version ∧
    c.row.shown.gateRulesetVersion = some (admission ctx m job o c).gates.rulesetVersion

variable {ctx m job o} {c : Candidate}

theorem syncEligibility_decided (ctx : Context) (m : JobMatch) (job : JobRow) (c : Candidate) :
    Decided m job (syncEligibility ctx m job c) := by
  have recorded : Decided m job (c.recordEligibility ctx (m.decision job)) := by
    obtain ⟨decisions, current⟩ := recordEligibility_written ctx c (m.decision job)
    exact ⟨m.decision job, by rw [decisions, List.getLast?_concat], rfl, rfl,
      by rw [current, decisions, List.length_append]; rfl⟩
  unfold syncEligibility
  dsimp only
  split
  · exact recorded
  · rename_i latest last
    split
    · exact recorded
    · rename_i same
      obtain ⟨hash, decision⟩ := not_or.mp same
      split
      · exact ⟨latest, last, not_not.mp hash, not_not.mp decision, rfl⟩
      · rename_i current
        exact ⟨latest, last, not_not.mp hash, not_not.mp decision, not_not.mp current⟩

theorem Decided.fixed (decided : Decided m job c) : syncEligibility ctx m job c = c := by
  obtain ⟨d, last, hash, decision, current⟩ := decided
  simp [syncEligibility, last, JobMatch.decision, hash, decision, current]

theorem recordFit_fitted (ctx : Context) (m : JobMatch) (c : Candidate) :
    Fitted ctx m (c.recordFit ctx m (bandFor ctx m.fitScore)) := by
  obtain ⟨-, -, row⟩ := recordFit_written ctx c m (bandFor ctx m.fitScore)
  simp [Fitted, row]

theorem Fitted.fixed (fitted : Fitted ctx m c) :
    c.recordFit ctx m (bandFor ctx m.fitScore) = c := by
  obtain ⟨⟨shown, at_, matchId, decisionId, priorityId, evaluated⟩, decisions, priorities, audit⟩ :=
    c
  obtain ⟨rfl, rfl, score, band, version⟩ := fitted
  dsimp only at score band version
  simp [Candidate.recordFit, ← score, ← band, ← version]

theorem syncPriority_prioritised (ctx : Context) (m : JobMatch) (job : JobRow) (o : OpeningRow)
    (c : Candidate) :
    Prioritised ctx m job o (syncPriority ctx m job o c) := by
  unfold syncPriority
  dsimp only
  split
  · obtain ⟨-, priorities, row⟩ := recordPriority_written c (m.priority ctx job o)
    refine ⟨by rw [row], by rw [row]; simp, ?_⟩
    simp only [learnedChanged, priorities, row, Option.isSome_some, if_true,
      List.getLast?_concat]
    cases learned : (m.priority ctx job o).learned <;> simp [learned]
  · rename_i kept
    simp only [not_or, not_not, Bool.not_eq_true] at kept
    exact kept

theorem Prioritised.fixed (prioritised : Prioritised ctx m job o c) :
    syncPriority ctx m job o c = c := by
  obtain ⟨score, id, same⟩ := prioritised
  simp [syncPriority, score, id, same]

theorem admission_congr {c' : Candidate} (same : c'.row.shown.state = c.row.shown.state) :
    admission ctx m job o c' = admission ctx m job o c := by
  rw [admission, admission, same]

theorem syncAdmission_admitted (ctx : Context) (m : JobMatch) (job : JobRow) (o : OpeningRow)
    (c : Candidate) :
    Admitted ctx m job o (syncAdmission ctx m job o c) := by
  obtain ⟨-, -, row⟩ := recordAdmission_written ctx c (admission ctx m job o c)
  have verdict : admission ctx m job o (syncAdmission ctx m job o c) = admission ctx m job o c :=
    admission_congr (by rw [syncAdmission, row])
  unfold Admitted
  rw [verdict]
  simp only [syncAdmission, row, and_self]

theorem Admitted.fixed (admitted : Admitted ctx m job o c) : syncAdmission ctx m job o c = c := by
  unfold Admitted at admitted
  unfold syncAdmission
  generalize admission ctx m job o c = a at admitted ⊢
  obtain ⟨⟨shown, at_, matchId, decisionId, priorityId, evaluated⟩, decisions, priorities, audit⟩ :=
    c
  obtain ⟨passed, reason, version, ruleset⟩ := admitted
  dsimp only at passed reason version ruleset
  simp [Candidate.recordAdmission, ← passed, ← reason, ← version, ← ruleset]

/-! What one step established the later steps keep. -/

variable (ctx) in
theorem recordFit_keeps (decided : Decided m job c) :
    Decided m job (c.recordFit ctx m (bandFor ctx m.fitScore)) := by
  obtain ⟨decisions, -, row⟩ := recordFit_written ctx c m (bandFor ctx m.fitScore)
  unfold Decided
  rw [decisions, row]
  exact decided

theorem syncPriority_keeps (decided : Decided m job c) (fitted : Fitted ctx m c) :
    Decided m job (syncPriority ctx m job o c) ∧ Fitted ctx m (syncPriority ctx m job o c) := by
  unfold syncPriority
  dsimp only
  split
  · obtain ⟨decisions, -, row⟩ := recordPriority_written c (m.priority ctx job o)
    unfold Decided Fitted
    rw [decisions, row]
    exact ⟨decided, fitted⟩
  · exact ⟨decided, fitted⟩

theorem syncAdmission_keeps (decided : Decided m job c) (fitted : Fitted ctx m c)
    (prioritised : Prioritised ctx m job o c) :
    Decided m job (syncAdmission ctx m job o c) ∧ Fitted ctx m (syncAdmission ctx m job o c) ∧
      Prioritised ctx m job o (syncAdmission ctx m job o c) := by
  obtain ⟨decisions, priorities, row⟩ :=
    recordAdmission_written ctx c (admission ctx m job o c)
  unfold Decided Fitted Prioritised learnedChanged syncAdmission
  rw [decisions, priorities, row]
  exact ⟨decided, fitted, prioritised⟩

/-- What `evaluate` leaves holds what the match says, in every part. -/
theorem evaluate_holds (ctx : Context) (m : JobMatch) (job : JobRow) (o : OpeningRow)
    (c : Candidate) :
    Decided m job (evaluate ctx m job o c) ∧ Fitted ctx m (evaluate ctx m job o c) ∧
      Prioritised ctx m job o (evaluate ctx m job o c) ∧
      Admitted ctx m job o (evaluate ctx m job o c) := by
  have decided := recordFit_keeps ctx (syncEligibility_decided ctx m job c)
  obtain ⟨decided, fitted⟩ := syncPriority_keeps (o := o) decided (recordFit_fitted ctx m _)
  obtain ⟨decided, fitted, prioritised⟩ :=
    syncAdmission_keeps decided fitted (syncPriority_prioritised ctx m job o _)
  exact ⟨decided, fitted, prioritised, syncAdmission_admitted ctx m job o _⟩

theorem evaluate_twice (c : Candidate) :
    evaluate ctx m job o (evaluate ctx m job o c) = evaluate ctx m job o c := by
  obtain ⟨decided, fitted, prioritised, admitted⟩ := evaluate_holds ctx m job o c
  generalize evaluate ctx m job o c = done at *
  simp only [evaluate]
  rw [decided.fixed, fitted.fixed, prioritised.fixed, admitted.fixed]

end Twice

/-! ### The matches of a run -/

section Run
variable {ctx : Context} {w s : World} {m m' : JobMatch} {job job' : JobRow}

/-- What syncing a match makes of the world; nothing when it raises. -/
def World.sync (ctx : Context) (w : World) (m : JobMatch) : World :=
  match syncMatch ctx w m with
  | .ok (w', _) => w'
  | .error _ => w

theorem syncRun_world (ctx : Context) (w : World) (matches_ : List JobMatch) :
    (syncRun ctx w matches_).1 = matches_.foldl (World.sync ctx) w := by
  have all (s : World × SyncReport) :
      (matches_.foldl (syncNext ctx) s).1 = matches_.foldl (World.sync ctx) s.1 := by
    induction matches_ generalizing s with
    | nil => rfl
    | cons m matches_ ih =>
      have first : (syncNext ctx s m).1 = World.sync ctx s.1 m := by
        unfold syncNext World.sync
        cases syncMatch ctx s.1 m <;> rfl
      rw [List.foldl_cons, List.foldl_cons, ih, first]
  exact all _

/-- The opening whose candidate opportunity the match is written onto. -/
def World.keyOf (ctx : Context) (w : World) (m : JobMatch) (job : JobRow) : OpeningKey :=
  w.market.target ctx.identity m.job job

/-- What the match leaves of its candidate opportunity. -/
def World.written (ctx : Context) (w : World) (m : JobMatch) (job : JobRow) : Candidate :=
  evaluate ctx m job (w.market.resolved ctx.identity ctx.now m.job job)
    ((w.candidates (w.keyOf ctx m job)).getD (Candidate.created ctx))

def World.after (ctx : Context) (w : World) (m : JobMatch) (job : JobRow) : World where
  market := w.market.link m.job (w.keyOf ctx m job)
    (w.market.resolved ctx.identity ctx.now m.job job)
  candidates := Function.update w.candidates (w.keyOf ctx m job) (some (w.written ctx m job))

theorem sync_after (weighted : ctx.weighted = true) (found : w.market.jobs.get m.job = some job) :
    w.sync ctx m = w.after ctx m job := by
  obtain ⟨market, key⟩ := resolveOpportunity_eq ctx.identity ctx.now job (m := w.market) (j := m.job) linkFor_none
  unfold World.sync syncMatch
  simp only [found, market, key, Market.link_openings, Function.update_self, weighted,
    Bool.not_true, Bool.false_eq_true, if_false]
  rfl

theorem sync_refused (refused : ctx.weighted = false ∨ w.market.jobs.get m.job = none) :
    w.sync ctx m = w := by
  unfold World.sync syncMatch
  rcases refused with unweighted | missing
  · cases found : w.market.jobs.get m.job with
    | none => rfl
    | some job =>
      obtain ⟨market, key⟩ := resolveOpportunity_eq ctx.identity ctx.now job (m := w.market) (j := m.job) linkFor_none
      simp [market, key, unweighted]
  · simp only [missing]

/-- A match is synced, or raises: the weights and the postings decide, which no sync changes. -/
theorem sync_cases (ctx : Context) (w : World) (m : JobMatch) :
    (∃ job, ctx.weighted = true ∧ w.market.jobs.get m.job = some job ∧
      w.sync ctx m = w.after ctx m job) ∨
    ((ctx.weighted = false ∨ w.market.jobs.get m.job = none) ∧ w.sync ctx m = w) := by
  cases weighted : ctx.weighted with
  | false => exact .inr ⟨.inl rfl, sync_refused (.inl weighted)⟩
  | true =>
    cases found : w.market.jobs.get m.job with
    | none => exact .inr ⟨.inr rfl, sync_refused (.inr found)⟩
    | some job => exact .inl ⟨job, rfl, rfl, sync_after weighted found⟩

theorem sync_jobs : (w.sync ctx m).market.jobs = w.market.jobs := by
  rcases sync_cases ctx w m with ⟨job, -, -, same⟩ | ⟨-, same⟩
  · rw [same]
    rfl
  · rw [same]

/-! #### Syncing a match twice, and two matches of two openings -/

theorem sync_twice (w : World) : (w.sync ctx m).sync ctx m = w.sync ctx m := by
  rcases sync_cases ctx w m with ⟨job, weighted, found, same⟩ | ⟨-, same⟩
  · rw [same]
    refine (sync_after (w := w.after ctx m job) weighted found).trans ?_
    have key : (w.after ctx m job).keyOf ctx m job = w.keyOf ctx m job :=
      target_link fun _ => rfl
    have resolved : (w.after ctx m job).market.link m.job ((w.after ctx m job).keyOf ctx m job)
        ((w.after ctx m job).market.resolved ctx.identity ctx.now m.job job) =
          (w.after ctx m job).market := resolved_twice
    have opening : (w.after ctx m job).market.resolved ctx.identity ctx.now m.job job =
        w.market.resolved ctx.identity ctx.now m.job job := by
      have found := congrArg (fun mk => mk.openings (w.keyOf ctx m job)) resolved
      rw [key] at found
      simpa [World.after] using found
    have written : (w.after ctx m job).written ctx m job = w.written ctx m job := by
      rw [World.written, key, opening]
      simp only [World.after, Function.update_self, Option.getD_some]
      exact evaluate_twice _
    have candidates : Function.update (w.after ctx m job).candidates (w.keyOf ctx m job)
        (some (w.written ctx m job)) = (w.after ctx m job).candidates :=
      Function.update_idem _ _ _
    calc (w.after ctx m job).after ctx m job
        = ⟨_, Function.update (w.after ctx m job).candidates
            ((w.after ctx m job).keyOf ctx m job)
            (some ((w.after ctx m job).written ctx m job))⟩ := rfl
      _ = ⟨(w.after ctx m job).market, (w.after ctx m job).candidates⟩ := by
        rw [resolved, key, written, candidates]
  · rw [same, same]

theorem after_swap (other : w.keyOf ctx m job ≠ w.keyOf ctx m' job')
    (otherJob : m.job ≠ m'.job) :
    (w.after ctx m job).after ctx m' job' = (w.after ctx m' job').after ctx m job := by
  have side {a b : JobMatch} {ja jb : JobRow} (other : w.keyOf ctx a ja ≠ w.keyOf ctx b jb)
      (otherJob : a.job ≠ b.job) :
      (w.after ctx a ja).keyOf ctx b jb = w.keyOf ctx b jb ∧
      (w.after ctx a ja).market.resolved ctx.identity ctx.now b.job jb =
        w.market.resolved ctx.identity ctx.now b.job jb ∧
      (w.after ctx a ja).written ctx b jb = w.written ctx b jb := by
    have key : (w.after ctx a ja).keyOf ctx b jb = w.keyOf ctx b jb :=
      target_link fun same => absurd same.symm otherJob
    have resolved : (w.after ctx a ja).market.resolved ctx.identity ctx.now b.job jb =
        w.market.resolved ctx.identity ctx.now b.job jb :=
      resolved_link (Ne.symm otherJob) (Ne.symm other)
    refine ⟨key, resolved, ?_⟩
    rw [World.written, World.written, key, resolved]
    simp only [World.after, Function.update_of_ne (Ne.symm other)]
  obtain ⟨key', resolved', written'⟩ := side other otherJob
  obtain ⟨key, resolved, written⟩ := side (Ne.symm other) (Ne.symm otherJob)
  have market : (w.after ctx m job).market.link m'.job (w.keyOf ctx m' job')
      (w.market.resolved ctx.identity ctx.now m'.job job') =
      (w.after ctx m' job').market.link m.job (w.keyOf ctx m job)
        (w.market.resolved ctx.identity ctx.now m.job job) := link_comm otherJob other
  have candidates : Function.update (w.after ctx m job).candidates (w.keyOf ctx m' job')
      (some (w.written ctx m' job')) =
      Function.update (w.after ctx m' job').candidates (w.keyOf ctx m job)
        (some (w.written ctx m job)) := Function.update_comm other _ _ _
  unfold World.after at *
  rw [key, key', resolved, resolved', written, written', market, candidates]

end Run

/-! ### The run as a whole -/

/-- The matches of one run, in the order they are read. -/
structure RunMatches where
  list : List JobMatch
  distinct : (list.map JobMatch.id).Nodup

section Whole
variable (ctx : Context) (w : World) (run : RunMatches)

/-- Syncing the run again writes nothing, and the order of the matches does not matter. -/
structure Lawful : Prop where
  again : (syncRun ctx (syncRun ctx w run.list).1 run.list).1.candidates =
    (syncRun ctx w run.list).1.candidates
  order : ∀ list, list.Perm run.list →
    (syncRun ctx w list).1.candidates = (syncRun ctx w run.list).1.candidates

/-- No two matches are written onto one candidate opportunity. -/
def Separate : Prop :=
  ∀ a ∈ run.list, ∀ b ∈ run.list, ∀ ja jb, w.market.jobs.get a.job = some ja →
    w.market.jobs.get b.job = some jb → w.keyOf ctx a ja = w.keyOf ctx b jb → a = b

/-- Which postings there are and where each belongs stays as it was. -/
structure World.Settled (s : World) : Prop where
  jobs : s.market.jobs = w.market.jobs
  keys : ∀ m job, w.market.jobs.get m.job = some job → s.keyOf ctx m job = w.keyOf ctx m job

variable {ctx w run} {s : World} {m : JobMatch} {job : JobRow}

theorem World.Settled.sync (settled : w.Settled ctx s) (m : JobMatch) :
    w.Settled ctx (s.sync ctx m) := by
  refine ⟨sync_jobs.trans settled.jobs, fun m' job' found' => ?_⟩
  rw [← settled.keys m' job' found']
  rcases sync_cases ctx s m with ⟨job, -, found, same⟩ | ⟨-, same⟩
  · rw [same]
    refine target_link fun sameJob => ?_
    rw [settled.jobs, ← sameJob, found'] at found
    exact Option.some.inj found
  · rw [same]

theorem World.Settled.foldl (settled : w.Settled ctx s) (list : List JobMatch) :
    w.Settled ctx (list.foldl (World.sync ctx) s) := by
  induction list generalizing s with
  | nil => exact settled
  | cons m list ih => exact ih (settled.sync m)

theorem Separate.commuting (separate : ctx.weighted = true → Separate ctx w run) :
    Commuting (World.sync ctx) (w.Settled ctx) run.list where
  keeps _ a settled := settled.sync a
  swap a here b there s settled := by
    rcases sync_cases ctx s a with ⟨ja, weighted, founda, synca⟩ | ⟨refuseda, keepa⟩
    · rcases sync_cases ctx s b with ⟨jb, -, foundb, syncb⟩ | ⟨refusedb, keepb⟩
      · by_cases same : a = b
        · rw [same]
        · have afterb : (s.after ctx a ja).sync ctx b = (s.after ctx a ja).after ctx b jb :=
            sync_after weighted foundb
          have aftera : (s.after ctx b jb).sync ctx a = (s.after ctx b jb).after ctx a ja :=
            sync_after weighted founda
          rw [synca, syncb, afterb, aftera]
          rw [settled.jobs] at founda foundb
          have other : s.keyOf ctx a ja ≠ s.keyOf ctx b jb := by
            rw [settled.keys a ja founda, settled.keys b jb foundb]
            exact fun keys => same (separate weighted a here b there ja jb founda foundb keys)
          refine after_swap other fun jobs => other ?_
          -- two matches of one posting have one opening
          rw [jobs, foundb] at founda
          cases founda
          exact congrArg (fun j => s.market.target ctx.identity j ja) jobs
      · have refused : ctx.weighted = false ∨ (s.sync ctx a).market.jobs.get b.job = none := by
          rwa [sync_jobs]
        rw [sync_refused refused, keepb]
    · have refused : ctx.weighted = false ∨ (s.sync ctx b).market.jobs.get a.job = none := by
        rwa [sync_jobs]
      rw [sync_refused refused, keepa]

/-- A match leaves its own id on its candidate opportunity. -/
theorem sync_matchId (weighted : ctx.weighted = true) (found : s.market.jobs.get m.job = some job) :
    ((s.sync ctx m).candidates (s.keyOf ctx m job)).bind (·.row.matchId) = some m.id := by
  have written : (s.after ctx m job).candidates (s.keyOf ctx m job) =
      some (s.written ctx m job) := Function.update_self _ _ _
  rw [sync_after weighted found, written]
  exact (evaluate_holds ctx m job _ _).2.1.1

/-- Of two matches of one opening, the one read last is the one that stays. -/
theorem last_stays {a b : JobMatch} {ja jb : JobRow} (weighted : ctx.weighted = true)
    (settled : w.Settled ctx s)
    (foundb : w.market.jobs.get b.job = some jb) (keys : w.keyOf ctx a ja = w.keyOf ctx b jb) :
    (((s.sync ctx a).sync ctx b).candidates (w.keyOf ctx a ja)).bind (·.row.matchId) =
      some b.id := by
  have after := settled.sync a
  rw [keys, ← after.keys b jb foundb]
  exact sync_matchId weighted (by rw [after.jobs, foundb])

theorem Lawful.separate (lawful : Lawful ctx w run) (weighted : ctx.weighted = true) :
    Separate ctx w run := by
  intro a here b there ja jb founda foundb keys
  by_contra other
  have there : b ∈ run.list.erase a := (List.mem_erase_of_ne (Ne.symm other)).mpr there
  let rest := (run.list.erase a).erase b
  have listed : (a :: b :: rest).Perm run.list :=
    ((List.perm_cons_erase here).trans ((List.perm_cons_erase there).cons a)).symm
  have ab : (rest ++ [a, b]).Perm run.list := List.perm_append_comm.trans listed
  have ba : (rest ++ [b, a]).Perm run.list :=
    List.perm_append_comm.trans ((List.Perm.swap a b rest).trans listed)
  have orders := (lawful.order _ ab).trans (lawful.order _ ba).symm
  rw [syncRun_world, syncRun_world, List.foldl_append, List.foldl_append] at orders
  -- the two orders leave the two ids
  have untouched : w.Settled ctx w := ⟨rfl, fun _ _ _ => rfl⟩
  have settled := untouched.foldl rest
  have lastb := last_stays weighted settled foundb keys
  have lasta := last_stays weighted settled founda keys.symm
  have same : a.id = b.id := by
    have read := congrArg (fun c => (c (w.keyOf ctx a ja)).bind (·.row.matchId)) orders
    dsimp only [List.foldl_cons, List.foldl_nil] at read
    rw [lastb, keys, lasta] at read
    exact (Option.some.inj read).symm
  exact other (List.inj_on_of_nodup_map run.distinct here (List.mem_of_mem_erase there) same)

/-- A run is synced lawfully exactly when no two of its matches belong to one opening, unless the
weights refuse every match. -/
theorem sync_lawful_iff (ctx : Context) (w : World) (run : RunMatches) :
    Lawful ctx w run ↔ (ctx.weighted = true → Separate ctx w run) := by
  refine ⟨fun lawful => lawful.separate, fun separate => ?_⟩
  have commuting := Separate.commuting separate
  have settled : w.Settled ctx w := ⟨rfl, fun _ _ _ => rfl⟩
  refine ⟨?_, fun list perm => ?_⟩
  · rw [syncRun_world, syncRun_world,
      commuting.foldl_twice (fun a _ s _ => sync_twice s) settled]
  · rw [syncRun_world, syncRun_world, commuting.foldl_perm perm.symm settled]

end Whole

/-! #### Two postings of one opening -/

/-- Two cities advertise one role, and the identity key is the employer alone. -/
def sharedContext : Context where
  env := .utc
  policy := .initial
  highThreshold := 70
  mediumThreshold := 45
  weighted := true
  computePriority i := ⟨i.fitScore, ⟨0, 0, 0, 0, 0, 0⟩, ⟨0, 0, 0, 0, 0, 0⟩⟩
  learned _ := none
  geography _ := none
  role _ := none
  identity job := job.company
  rowId := PostingKey.sourceJobId
  now := 10

def sharedPosting (canonicalKey contentHash : String) : JobRow where
  canonicalKey := canonicalKey
  sourceIdentifier := some "acme"
  company := "Acme"
  originalTitle := "Engineer"
  content := ⟨"Engineer", contentHash, none, [], "unknown", ""⟩
  contentHash := contentHash
  sourceUrl := "https://jobs.example/acme"
  applicationUrl := none
  normalizedSourceUrl := none
  normalizedApplicationUrl := none
  postedAt := none
  sourceUpdatedAt := none
  deadline := none
  firstSeenAt := 1
  lastSeenAt := 1
  closedAt := none
  status := .active

def sharedWorld : World where
  market :=
    { jobs := ⟨[(⟨"greenhouse", "a"⟩, sharedPosting "a" "h0"), (⟨"greenhouse", "b"⟩, sharedPosting "b" "h1")],
        by decide⟩
      links := fun _ => none
      openings := fun _ => none
      linksFound := nothing_linked }
  candidates := fun _ => none

def sharedRun : RunMatches where
  list :=
    [⟨0, ⟨"greenhouse", "a"⟩, 90, .eligible, none, [], [], []⟩,
      ⟨1, ⟨"greenhouse", "b"⟩, 20, .ineligible, none, [], [], []⟩]
  distinct := by decide

/-- The second sync records two more decisions, and the order says whether the candidate is
eligible. -/
theorem shared_opening_resynced :
    ¬Lawful sharedContext sharedWorld sharedRun ∧
      (let once := (syncRun sharedContext sharedWorld sharedRun.list).1
      let twice := (syncRun sharedContext once sharedRun.list).1
      let reversed := (syncRun sharedContext sharedWorld sharedRun.list.reverse).1
      (once.candidates "Acme").map (·.decisions.length) = some 2 ∧
        (twice.candidates "Acme").map (·.decisions.length) = some 4 ∧
        (once.candidates "Acme").map (·.row.shown.state) = some .ineligible ∧
        (reversed.candidates "Acme").map (·.row.shown.state) = some .eligible) := by
  refine ⟨fun lawful => ?_, by decide +kernel, by decide +kernel, by decide +kernel,
    by decide +kernel⟩
  have read := congrArg (fun c => (c "Acme").map (·.decisions.length)) lawful.again
  exact absurd read (by decide +kernel)

end RangeApply.Sync
