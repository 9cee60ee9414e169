import RangeApply.Batch
import RangeApply.Rows

/-! Scoring jobs and storing the scores: each job in a savepoint, a commit for every 25 of them, and
a rollback of the whole transaction when one fails. -/
namespace RangeApply

/-- An exception, as a report of it reads. -/
structure Raised where
  kind : String
  text : String
  deriving DecidableEq

/-- What scoring one job does. `persist` writes the match; its assessments are written when the
savepoint is left, which is after the job was counted. -/
structure MatchEngine (Job Match Row : Type) where
  jobId : Job → String
  title : Job → String
  evaluate : Job → Except Raised Match
  persist : Job → Match → Except Raised Row
  release : Row → Except Raised Unit

inductive MatchRunStatus
  | completed
  | partially
  deriving DecidableEq

/-- A row of `match_runs`, once it is finished. -/
structure MatchRun where
  status : MatchRunStatus
  processed : Nat
  matched : Nat
  failed : Nat
  errors : List String

structure MatchPass (Row : Type) where
  processed : Nat
  matched : Nat
  failed : Nat
  errors : List String
  matches_ : Batch (List Row)

def matchCommitBatch : Nat := 25

namespace MatchEngine
variable {Job Match Row : Type} (engine : MatchEngine Job Match Row)

def score (job : Job) : Except Raised Row := do
  let found ← engine.evaluate job
  engine.persist job found

/-- The handler: everything since the last commit is rolled back. -/
def handle (job : Job) (e : Raised) (s : MatchPass Row) : MatchPass Row :=
  { s with
    failed := s.failed + 1
    errors := s.errors ++
      ["[" ++ e.kind ++ "] job " ++ engine.jobId job ++ " ('" ++ engine.title job ++ "'): " ++ e.text]
    matches_ := s.matches_.rollback }

def matchJob (s : MatchPass Row) (job : Job) : MatchPass Row :=
  let s := { s with processed := s.processed + 1 }
  match engine.score job with
  | .error e => engine.handle job e s
  | .ok row =>
    let s := { s with matched := s.matched + 1 }
    match engine.release row with
    | .error e => engine.handle job e s
    | .ok () => { s with matches_ := s.matches_.save matchCommitBatch (s.matches_.working ++ [row]) }

def matchAll (jobs : List Job) : MatchPass Row :=
  jobs.foldl engine.matchJob ⟨0, 0, 0, [], .clean []⟩

/-- `run_matching`: the finished run, and the matches stored for it. -/
def runMatching (jobs : List Job) : MatchRun × List Row :=
  let s := engine.matchAll jobs
  (⟨if s.failed = 0 then .completed else .partially, s.processed, s.matched, s.failed, s.errors⟩,
    s.matches_.commit.stored)

/-! ### What failures cost -/

/-- The row of a job whose scoring does not raise. -/
def stored? (job : Job) : Option Row :=
  match engine.score job with
  | .error _ => none
  | .ok row => match engine.release row with
    | .error _ => none
    | .ok () => some row

/-- The job is counted as matched, and raises after that. -/
def raisesLate (job : Job) : Bool :=
  match engine.score job with
  | .error _ => false
  | .ok row => match engine.release row with
    | .error _ => true
    | .ok () => false

def verdict (job : Job) : Batch.Verdict :=
  if (engine.stored? job).isSome then .saved else .failed

/-- What one job does: it is stored, or it fails. -/
theorem matchJob_cases (s : MatchPass Row) (job : Job) :
    (∃ row, engine.stored? job = some row ∧ engine.raisesLate job = false ∧
      (engine.matchJob s job).matched = s.matched + 1 ∧
      (engine.matchJob s job).matches_ =
        s.matches_.save matchCommitBatch (s.matches_.working ++ [row])) ∨
    (engine.stored? job = none ∧
      (engine.matchJob s job).matched = s.matched + (engine.raisesLate job).toNat ∧
      (engine.matchJob s job).matches_ = s.matches_.rollback) := by
  unfold matchJob stored? raisesLate
  cases engine.score job with
  | error e => exact .inr ⟨rfl, rfl, rfl⟩
  | ok row =>
    cases released : engine.release row with
    | error e => exact .inr (by simp [handle, released])
    | ok _ => exact .inl ⟨row, by simp [released]⟩

/-- The matches of a transaction are those committed and those pending. -/
def Appends (b : Batch (List Row)) : Prop := b.working.length = b.stored.length + b.pending

theorem appends_save {b : Batch (List Row)} (sound : Appends b) (row : Row) :
    Appends (b.save matchCommitBatch (b.working ++ [row])) := by
  unfold Appends Batch.save at *
  split
  · simp
  · simp only [List.length_append, List.length_singleton]
    omega

theorem appends_rollback (b : Batch (List Row)) : Appends b.rollback := by
  simp [Appends, Batch.rollback]

theorem rollback_of_appends {b : Batch (List Row)} (sound : Appends b) :
    b.rollback.working.length + b.pending = b.working.length := by
  rw [sound]
  rfl

/-- Counted, less what was lost and what was counted before it failed, is stored. -/
theorem matchAll_balance (s : MatchPass Row) (sound : Appends s.matches_) (jobs : List Job) :
    let done := jobs.foldl engine.matchJob s
    done.matched + s.matches_.working.length =
      done.matches_.working.length + s.matched +
        Batch.lost matchCommitBatch s.matches_.pending (jobs.map engine.verdict) +
        jobs.countP engine.raisesLate := by
  induction jobs generalizing s with
  | nil => simp [Batch.lost, Nat.add_comm]
  | cons job jobs ih =>
    rcases engine.matchJob_cases s job with ⟨row, stored, timely, counted, saved⟩ |
      ⟨unstored, counted, undone⟩
    · have rest := ih (engine.matchJob s job) (saved ▸ appends_save sound row)
      have kept : engine.verdict job = .saved := by simp [verdict, stored]
      simp only [List.foldl_cons, List.map_cons, kept, Batch.lost, List.countP_cons, timely] at *
      rw [saved, counted, Batch.save_working, Batch.save_pending, List.length_append] at rest
      simp only [List.length_singleton] at rest
      simp only [Bool.false_eq_true, if_false]
      omega
    · have rest := ih (engine.matchJob s job) (undone ▸ appends_rollback _)
      have dropped : engine.verdict job = .failed := by simp [verdict, unstored]
      have back := rollback_of_appends sound
      simp only [List.foldl_cons, List.map_cons, dropped, Batch.lost, List.countP_cons] at *
      rw [undone, counted] at rest
      simp only [Batch.rollback, Batch.clean_working, Batch.clean_pending] at rest back
      cases late : engine.raisesLate job <;> simp only [late, Bool.toNat_true, Bool.toNat_false,
        if_true, Bool.false_eq_true, if_false] at rest ⊢ <;> omega

/-- Failures that find nothing pending leave the matches of the other jobs. -/
theorem matchAll_rows (s : MatchPass Row) (sound : s.matches_.Lossless) (jobs : List Job)
    (aligned : Batch.Aligned matchCommitBatch s.matches_.pending (jobs.map engine.verdict)) :
    (jobs.foldl engine.matchJob s).matches_.working =
      s.matches_.working ++ jobs.filterMap engine.stored? := by
  induction jobs generalizing s with
  | nil => simp
  | cons job jobs ih =>
    rcases engine.matchJob_cases s job with ⟨row, stored, -, -, saved⟩ | ⟨unstored, -, undone⟩
    · have kept : engine.verdict job = .saved := by simp [verdict, stored]
      simp only [List.map_cons, kept, Batch.Aligned] at aligned
      rw [List.foldl_cons, ih _ (saved ▸ Batch.save_lossless _ _ _)
        (by simpa only [saved, Batch.save_pending] using aligned), saved, Batch.save_working,
        List.filterMap_cons_some stored, List.append_assoc, List.singleton_append]
    · have dropped : engine.verdict job = .failed := by simp [verdict, unstored]
      simp only [List.map_cons, dropped, Batch.Aligned] at aligned
      have same := Batch.rollback_of_settled sound aligned.1
      rw [List.foldl_cons, ih _ (undone ▸ Batch.clean_lossless _)
        (by simpa only [undone, Batch.rollback, Batch.clean_pending] using aligned.2), undone, same,
        List.filterMap_cons_none unstored]

/-- The jobs that raise might as well not have been given. -/
structure Isolated (jobs : List Job) : Prop where
  rows : (engine.runMatching jobs).2 =
    (engine.runMatching (jobs.filter fun job => (engine.stored? job).isSome)).2
  matched : (engine.runMatching jobs).1.matched = (engine.runMatching jobs).2.length

theorem matchAll_matched (jobs : List Job) :
    (engine.runMatching jobs).1.matched = (engine.runMatching jobs).2.length +
      Batch.lost matchCommitBatch 0 (jobs.map engine.verdict) + jobs.countP engine.raisesLate := by
  have balance := engine.matchAll_balance ⟨0, 0, 0, [], .clean []⟩ rfl jobs
  simpa [runMatching, matchAll] using balance

/-- Batch isolation holds of a run exactly when no job raises while counted ones are pending, and
none raises after it was counted. -/
theorem isolated_iff (jobs : List Job) :
    engine.Isolated jobs ↔
      Batch.Aligned matchCommitBatch 0 (jobs.map engine.verdict) ∧
        ∀ job ∈ jobs, engine.raisesLate job = false := by
  have counted := engine.matchAll_matched jobs
  constructor
  · intro isolated
    have nothing : Batch.lost matchCommitBatch 0 (jobs.map engine.verdict) = 0 ∧
        jobs.countP engine.raisesLate = 0 := by
      have := isolated.matched
      omega
    refine ⟨(Batch.lost_eq_zero ..).mp nothing.1, fun job member => ?_⟩
    simpa using List.countP_eq_zero.mp nothing.2 job member
  · rintro ⟨aligned, timely⟩
    have rows (given : List Job)
        (aligned : Batch.Aligned matchCommitBatch 0 (given.map engine.verdict)) :
        (engine.runMatching given).2 = given.filterMap engine.stored? :=
      engine.matchAll_rows ⟨0, 0, 0, [], .clean []⟩ (Batch.clean_lossless _) given aligned
    constructor
    · have kept : .failed ∉
          (jobs.filter fun job => (engine.stored? job).isSome).map engine.verdict := by
        intro member
        obtain ⟨job, given, failed⟩ := List.mem_map.mp member
        simp [verdict, (List.mem_filter.mp given).2] at failed
      rw [rows jobs aligned, rows _ (Batch.aligned_of_no_failure _ _ kept), List.filterMap_filter]
      apply List.filterMap_congr
      intro job _
      cases engine.stored? job <;> rfl
    · have late : jobs.countP engine.raisesLate = 0 := by
        rw [List.countP_eq_zero]
        intro job member
        simp [timely job member]
      have none_ := (Batch.lost_eq_zero ..).mpr aligned
      omega

end MatchEngine
end RangeApply
