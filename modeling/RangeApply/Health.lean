import Mathlib.Algebra.Order.Ring.Rat
import RangeApply.Fetching
import RangeApply.Rows
import RangeApply.Streak
import RangeApply.Trace

/-! The reliability record of the boards: what each discovery run adds to it, and when the board is
asked next. -/
namespace RangeApply.Health

inductive RunStatus
  | running | completed | partly | failed | interrupted
  deriving DecidableEq

/-- What a finished run is read for. -/
structure DiscoveryRun where
  id : String
  source : String
  sourceIdentifier : String
  companyName : Option String
  status : RunStatus
  failureKind : Option String
  completedAt : Option Time
  durationSeconds : Option ℚ
  candidatesDiscovered : ℕ
  jobsNew : ℕ
  jobsUpdated : ℕ
  jobsDuplicate : ℕ
  jobsRejected : ℕ
  errors : List String
  deriving DecidableEq

def DiscoveryRun.succeeded (run : DiscoveryRun) : Bool :=
  decide (run.status = .completed ∨ run.status = .partly)

def DiscoveryRun.limited (run : DiscoveryRun) : Bool :=
  decide (run.failureKind = some Fetching.Kind.rateLimited.value ∨
    run.failureKind = some Fetching.Kind.circuitOpen.value)

/-- `(source, source_identifier)`. -/
structure Board where
  source : String
  identifier : String
  deriving DecidableEq

def DiscoveryRun.board (run : DiscoveryRun) : Board := ⟨run.source, run.sourceIdentifier⟩

structure SourceHealth where
  companyName : Option String
  enabled : Bool
  pollIntervalMinutes : ℕ
  nextPollAt : Option Time
  lastRunId : Option String
  lastRunAt : Option Time
  lastSuccessAt : Option Time
  lastFailureAt : Option Time
  lastFailureKind : Option String
  lastError : Option String
  consecutiveFailures : ℕ
  runsTotal : ℕ
  runsSuccess : ℕ
  runsPartial : ℕ
  runsFailed : ℕ
  runsRateLimited : ℕ
  jobsFetchedTotal : ℕ
  jobsParsedTotal : ℕ
  jobsRejectedTotal : ℕ
  duplicatesTotal : ℕ
  lastJobsFetched : ℕ
  lastJobsNew : ℕ
  lastFreshPostedAt : Option Time
  avgDurationSeconds : Option ℚ
  deriving DecidableEq

/-- The settings, and `round(x, 3)`. -/
structure Polling where
  defaultPollMinutes : ℕ
  round : ℚ → ℚ

def maxBackoffMinutes : ℕ := 24 * 60

namespace SourceHealth

/-- A row as `upsert_target` adds it. -/
def new (companyName : Option String) (pollIntervalMinutes : ℕ) (now : Time) : SourceHealth where
  companyName := companyName
  enabled := true
  pollIntervalMinutes := pollIntervalMinutes
  nextPollAt := some now
  lastRunId := none
  lastRunAt := none
  lastSuccessAt := none
  lastFailureAt := none
  lastFailureKind := none
  lastError := none
  consecutiveFailures := 0
  runsTotal := 0
  runsSuccess := 0
  runsPartial := 0
  runsFailed := 0
  runsRateLimited := 0
  jobsFetchedTotal := 0
  jobsParsedTotal := 0
  jobsRejectedTotal := 0
  duplicatesTotal := 0
  lastJobsFetched := 0
  lastJobsNew := 0
  lastFreshPostedAt := none
  avgDurationSeconds := none

/-- The fields of a row that is there already. -/
def target (row : SourceHealth) (companyName : Option String) (pollIntervalMinutes : Option ℕ) :
    SourceHealth :=
  { row with
    companyName := if textOr companyName "" = "" then row.companyName else companyName
    pollIntervalMinutes :=
      if pollIntervalMinutes.getD 0 = 0 then row.pollIntervalMinutes
      else pollIntervalMinutes.getD 0 }

/-- A failing board is asked after twice as long with every failure, up to a day. -/
def backoff (interval failures : ℕ) : ℕ := min (interval * 2 ^ min failures 6) maxBackoffMinutes

def average (round : ℚ → ℚ) (before : Option ℚ) (duration : Option ℚ) : Option ℚ :=
  match duration, before with
  | none, before => before
  | some d, none => some d
  | some d, some a => some (round (8 / 10 * a + 2 / 10 * d))

/-- What every run adds. -/
def count (round : ℚ → ℚ) (now : Time) (run : DiscoveryRun) (fresh : Option Time)
    (row : SourceHealth) : SourceHealth :=
  { row with
    lastRunId := some run.id
    lastRunAt := some (run.completedAt.getD now)
    runsTotal := row.runsTotal + 1
    jobsFetchedTotal := row.jobsFetchedTotal + run.candidatesDiscovered
    jobsParsedTotal := row.jobsParsedTotal + (run.jobsNew + run.jobsUpdated + run.jobsDuplicate)
    jobsRejectedTotal := row.jobsRejectedTotal + run.jobsRejected
    duplicatesTotal := row.duplicatesTotal + run.jobsDuplicate
    lastJobsFetched := run.candidatesDiscovered
    lastJobsNew := run.jobsNew
    lastFreshPostedAt :=
      match fresh, row.lastFreshPostedAt with
      | none, before => before
      | some t, none => some t
      | some t, some before => some (max t before)
    avgDurationSeconds := average round row.avgDurationSeconds run.durationSeconds }

/-- What a run adds that reached its end. -/
def succeed (run : DiscoveryRun) (row : SourceHealth) : SourceHealth :=
  { row with
    runsSuccess := row.runsSuccess + 1
    runsPartial := row.runsPartial + if run.status = .partly then 1 else 0
    lastSuccessAt := row.lastRunAt
    consecutiveFailures := 0
    lastFailureKind := none }

def fail (run : DiscoveryRun) (row : SourceHealth) : SourceHealth :=
  { row with
    runsFailed := row.runsFailed + 1
    lastFailureAt := row.lastRunAt
    lastFailureKind := run.failureKind
    lastError := some (clip 512 (run.errors.getLastD "unknown failure"))
    consecutiveFailures := row.consecutiveFailures + 1
    runsRateLimited := row.runsRateLimited + if run.limited then 1 else 0 }

def settle (run : DiscoveryRun) (row : SourceHealth) : SourceHealth :=
  if run.succeeded then row.succeed run else row.fail run

/-- The minutes until the next poll. -/
def interval (run : DiscoveryRun) (row : SourceHealth) : ℕ :=
  if run.succeeded then row.pollIntervalMinutes
  else backoff row.pollIntervalMinutes row.consecutiveFailures

/-- The row once a run has ended. -/
def record (round : ℚ → ℚ) (now : Time) (run : DiscoveryRun) (fresh : Option Time)
    (row : SourceHealth) : SourceHealth :=
  let row := (row.count round now run fresh).settle run
  { row with nextPollAt := some (now + minutes (row.interval run)) }

end SourceHealth

/-- `source_health`. -/
abbrev Boards := Table Board SourceHealth

namespace Boards
variable (p : Polling) (now : Time) (t : Boards)

/-- The row that `upsert_target` works on. -/
def row (board : Board) (companyName : Option String) (pollIntervalMinutes : Option ℕ) :
    SourceHealth :=
  match t.get board with
  | some row => row.target companyName pollIntervalMinutes
  | none =>
    let given := pollIntervalMinutes.getD 0
    .new companyName (if given = 0 then p.defaultPollMinutes else given) now

def upsertTarget (board : Board) (companyName : Option String) (pollIntervalMinutes : Option ℕ)
    (enabled : Option Bool) : Boards :=
  let row := t.row p now board companyName pollIntervalMinutes
  t.set board { row with enabled := enabled.getD row.enabled }

def recordRun (run : DiscoveryRun) (fresh : Option Time) : Boards :=
  t.set run.board ((t.row p now run.board run.companyName none).record p.round now run fresh)

end Boards

/-! ### A row and its runs -/

/-- What changes the table: a board that is registered, or a run that ends. -/
inductive Op
  | target (board : Board) (companyName : Option String) (pollIntervalMinutes : Option ℕ)
    (enabled : Option Bool) (now : Time)
  | ended (run : DiscoveryRun) (fresh : Option Time) (now : Time)

def step (p : Polling) (t : Boards) : Op → Boards
  | .target board companyName pollIntervalMinutes enabled now =>
    t.upsertTarget p now board companyName pollIntervalMinutes enabled
  | .ended run fresh now => t.recordRun p now run fresh

def Op.runOf (board : Board) : Op → Option DiscoveryRun
  | .target _ _ _ _ _ => none
  | .ended run _ _ => if run.board = board then some run else none

/-- The runs of a board that have ended, oldest first. -/
def runsOf (board : Board) (ops : List Op) : List DiscoveryRun := ops.filterMap (Op.runOf board)

def DiscoveryRun.mark (run : DiscoveryRun) : Streak.Mark :=
  if run.succeeded then .clears else .counts

/-- The failures of a board since its last success. -/
def failuresOf (runs : List DiscoveryRun) : ℕ := (Streak.since DiscoveryRun.mark runs).length

/-- What was fetched and how often, over all runs. -/
structure Totals (runs : List DiscoveryRun) (row : SourceHealth) : Prop where
  total : row.runsTotal = runs.length
  fetched : row.jobsFetchedTotal = (runs.map (·.candidatesDiscovered)).sum
  parsed : row.jobsParsedTotal =
    (runs.map fun run => run.jobsNew + run.jobsUpdated + run.jobsDuplicate).sum
  rejected : row.jobsRejectedTotal = (runs.map (·.jobsRejected)).sum
  duplicates : row.duplicatesTotal = (runs.map (·.jobsDuplicate)).sum

/-- How the runs ended. -/
structure Outcomes (runs : List DiscoveryRun) (row : SourceHealth) : Prop where
  success : row.runsSuccess = runs.countP (·.succeeded)
  partly : row.runsPartial = runs.countP fun run => decide (run.status = .partly)
  failed : row.runsFailed = runs.countP fun run => !run.succeeded
  limited : row.runsRateLimited = runs.countP fun run => !run.succeeded && run.limited
  streak : row.consecutiveFailures = failuresOf runs

/-- The numbers of a row are those of its runs. -/
structure Tallied (runs : List DiscoveryRun) (row : SourceHealth) : Prop
  extends Totals runs row, Outcomes runs row

variable {p : Polling} {now : Time} {t : Boards} {runs : List DiscoveryRun} {row : SourceHealth}
  {run : DiscoveryRun} {fresh : Option Time} {board : Board}

theorem tallied_new (companyName : Option String) (interval : ℕ) (now : Time) :
    Tallied [] (.new companyName interval now) :=
  ⟨⟨rfl, rfl, rfl, rfl, rfl⟩, ⟨rfl, rfl, rfl, rfl, rfl⟩⟩

theorem Tallied.target (tallied : Tallied runs row) (companyName : Option String)
    (interval : Option ℕ) : Tallied runs (row.target companyName interval) := by
  obtain ⟨⟨total, fetched, parsed, rejected, duplicates⟩, ends⟩ := tallied
  obtain ⟨success, partly, failed, limited, streak⟩ := ends
  exact ⟨⟨total, fetched, parsed, rejected, duplicates⟩,
    ⟨success, partly, failed, limited, streak⟩⟩

theorem Tallied.enabled (tallied : Tallied runs row) (enabled : Bool) :
    Tallied runs { row with enabled } := by
  obtain ⟨⟨total, fetched, parsed, rejected, duplicates⟩, ends⟩ := tallied
  obtain ⟨success, partly, failed, limited, streak⟩ := ends
  exact ⟨⟨total, fetched, parsed, rejected, duplicates⟩,
    ⟨success, partly, failed, limited, streak⟩⟩

theorem failuresOf_concat :
    failuresOf (runs ++ [run]) = if run.succeeded then 0 else failuresOf runs + 1 := by
  unfold failuresOf
  cases ended : run.succeeded with
  | true =>
    rw [Streak.since_clears (by rw [DiscoveryRun.mark, ended]; rfl)]
    rfl
  | false =>
    rw [Streak.since_counts (by rw [DiscoveryRun.mark, ended]; rfl), List.length_append]
    rfl

/-- A run that reached its end, and one that did not. -/
theorem record_cases (round : ℚ → ℚ) (now : Time) (run : DiscoveryRun) (fresh : Option Time)
    (row : SourceHealth) :
    (run.succeeded = true ∧ row.record round now run fresh =
      { (row.count round now run fresh).succeed run with
        nextPollAt := some (now + minutes row.pollIntervalMinutes) }) ∨
    (run.succeeded = false ∧ row.record round now run fresh =
      { (row.count round now run fresh).fail run with
        nextPollAt := some (now + minutes
          (SourceHealth.backoff row.pollIntervalMinutes (row.consecutiveFailures + 1))) }) := by
  unfold SourceHealth.record SourceHealth.settle SourceHealth.interval
  cases run.succeeded with
  | true => exact .inl ⟨rfl, rfl⟩
  | false => exact .inr ⟨rfl, rfl⟩

theorem Totals.record (totals : Totals runs row) (round : ℚ → ℚ) (now : Time)
    (run : DiscoveryRun) (fresh : Option Time) :
    Totals (runs ++ [run]) (row.record round now run fresh) := by
  obtain ⟨total, fetched, parsed, rejected, duplicates⟩ := totals
  have sums (f : DiscoveryRun → ℕ) : ((runs ++ [run]).map f).sum = (runs.map f).sum + f run := by
    simp
  have counted : Totals (runs ++ [run]) (row.count round now run fresh) := by
    constructor
    · rw [List.length_append, ← total]
      rfl
    · rw [sums, ← fetched]
      rfl
    · rw [sums, ← parsed]
      rfl
    · rw [sums, ← rejected]
      rfl
    · rw [sums, ← duplicates]
      rfl
  obtain ⟨total, fetched, parsed, rejected, duplicates⟩ := counted
  rcases record_cases round now run fresh row with ⟨-, same⟩ | ⟨-, same⟩
  · rw [same]
    exact ⟨total, fetched, parsed, rejected, duplicates⟩
  · rw [same]
    exact ⟨total, fetched, parsed, rejected, duplicates⟩

theorem Outcomes.record (outcomes : Outcomes runs row) (round : ℚ → ℚ) (now : Time)
    (run : DiscoveryRun) (fresh : Option Time) :
    Outcomes (runs ++ [run]) (row.record round now run fresh) := by
  obtain ⟨success, partly, failed, limited, streak⟩ := outcomes
  have counts (f : DiscoveryRun → Bool) :
      (runs ++ [run]).countP f = runs.countP f + if f run = true then 1 else 0 := by
    rw [List.countP_append, List.countP_singleton]
  rcases record_cases round now run fresh row with ⟨ended, same⟩ | ⟨ended, same⟩
  · rw [same]
    constructor
    · rw [counts, ← success, ended]
      rfl
    · rw [counts, ← partly]
      simp [SourceHealth.succeed, SourceHealth.count]
    · rw [counts, ← failed, ended]
      rfl
    · rw [counts, ← limited, ended]
      rfl
    · rw [failuresOf_concat, ended]
      rfl
  · have whole : run.status ≠ .partly := by
      intro status
      simp [DiscoveryRun.succeeded, status] at ended
    rw [same]
    constructor
    · rw [counts, ← success, ended]
      rfl
    · rw [counts, ← partly]
      simp [whole, SourceHealth.fail, SourceHealth.count]
    · rw [counts, ← failed, ended]
      rfl
    · rw [counts, ← limited, ended]
      rfl
    · rw [failuresOf_concat, ended, ← streak]
      rfl

theorem Tallied.record (tallied : Tallied runs row) (round : ℚ → ℚ) (now : Time)
    (run : DiscoveryRun) (fresh : Option Time) :
    Tallied (runs ++ [run]) (row.record round now run fresh) :=
  ⟨tallied.toTotals.record round now run fresh, tallied.toOutcomes.record round now run fresh⟩

/-- The numbers of a board's row are those of its runs, and a board without a row had none. -/
def Recorded (ops : List Op) (t : Boards) : Prop :=
  ∀ board, (∀ row, t.get board = some row → Tallied (runsOf board ops) row) ∧
    (t.get board = none → runsOf board ops = [])

theorem runsOf_concat (board : Board) (ops : List Op) (op : Op) :
    runsOf board (ops ++ [op]) = runsOf board ops ++ (op.runOf board).toList := by
  rw [runsOf, List.filterMap_append]
  cases known : op.runOf board with
  | none => simp [known, runsOf]
  | some run => simp [known, runsOf]

theorem row_tallied (p : Polling) (now : Time) {ops : List Op} (recorded : Recorded ops t)
    (board : Board) (companyName : Option String) (interval : Option ℕ) :
    Tallied (runsOf board ops) (t.row p now board companyName interval) := by
  unfold Boards.row
  cases found : t.get board with
  | some row => exact ((recorded board).1 row found).target companyName interval
  | none =>
    rw [(recorded board).2 found]
    exact tallied_new _ _ _

theorem Recorded.set {ops : List Op} {op : Op} (recorded : Recorded ops t)
    (here : Tallied (runsOf board (ops ++ [op])) row)
    (elsewhere : ∀ other, other ≠ board → op.runOf other = none) :
    Recorded (ops ++ [op]) (t.set board row) := by
  intro other
  by_cases own : other = board
  · subst own
    rw [Table.get_set_self]
    refine ⟨fun later same => ?_, fun none_ => by cases none_⟩
    cases same
    exact here
  · rw [Table.get_set_other _ _ own, runsOf_concat, elsewhere other own, Option.toList_none,
      List.append_nil]
    exact recorded other

theorem Recorded.step {ops : List Op} (recorded : Recorded ops t) (p : Polling) (op : Op) :
    Recorded (ops ++ [op]) (Health.step p t op) := by
  cases op with
  | target board companyName interval enabled now =>
    refine recorded.set ?_ fun other _ => rfl
    rw [runsOf_concat, Op.runOf, Option.toList_none, List.append_nil]
    exact (row_tallied p now recorded board companyName interval).enabled _
  | ended run fresh now =>
    refine recorded.set ?_ fun other elsewhere => if_neg (Ne.symm elsewhere)
    rw [runsOf_concat, Op.runOf, if_pos rfl]
    exact (row_tallied p now recorded run.board run.companyName none).record p.round now run fresh

theorem recorded_run (p : Polling) (ops : List Op) :
    Recorded ops (ops.foldl (Health.step p) .empty) := by
  induction ops using List.reverseRecOn with
  | nil =>
    intro board
    refine ⟨fun row found => ?_, fun _ => rfl⟩
    cases found
  | append_singleton ops op ih =>
    rw [List.foldl_concat]
    exact ih.step p op

/-! ### The next poll -/

theorem backoff_pos {interval : ℕ} (failures : ℕ) (positive : 0 < interval) :
    0 < SourceHealth.backoff interval failures := by
  have product := Nat.mul_pos positive (Nat.two_pow_pos (min failures 6))
  unfold SourceHealth.backoff maxBackoffMinutes
  omega

/-- Whatever has happened before, the row of a board counts its runs, and a run that ends sets the
next poll by the failures since the last success. -/
theorem ended_row (p : Polling) (ops : List Op) (run : DiscoveryRun) (fresh : Option Time)
    (now : Time) :
    ∃ row, ((ops ++ [Op.ended run fresh now]).foldl (step p) .empty).get run.board = some row ∧
      Tallied (runsOf run.board ops ++ [run]) row ∧
      row.nextPollAt = some (now + minutes (
        if run.succeeded then row.pollIntervalMinutes
        else SourceHealth.backoff row.pollIntervalMinutes
          (failuresOf (runsOf run.board ops ++ [run])))) := by
  have recorded := recorded_run p ops
  rw [List.foldl_concat]
  refine ⟨_, Table.get_set_self _ _ _, ?_, ?_⟩
  · exact (row_tallied p now recorded run.board run.companyName none).record p.round now run fresh
  · have tallied := row_tallied p now recorded run.board run.companyName none
    have streak := (tallied.record p.round now run fresh).streak
    rw [← streak]
    rcases record_cases p.round now run fresh
      ((ops.foldl (step p) .empty : Boards).row p now run.board run.companyName none) with
      ⟨ended, same⟩ | ⟨ended, same⟩
    · rw [ended, same]
      rfl
    · rw [ended, same]
      rfl

end RangeApply.Health
