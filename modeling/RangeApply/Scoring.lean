import RangeApply.Openings
import RangeApply.Sorting

/-! The runs that score jobs and what is read of them later: which run is the latest, which matches
a sync reads, which jobs are scored again. -/
namespace RangeApply.Scoring

open Postings (JobId JobStatus)

abbrev MatchRunId := Nat

structure Job where
  contentHash : String
  status : JobStatus
  deriving DecidableEq

inductive RunStatus
  | running | completed | partial_ | failed
  deriving DecidableEq

/-- A run, and the tenant whose Career Brain it scores against. -/
structure MatchRun where
  tenant : Option String
  startedAt : Time
  status : RunStatus
  deriving DecidableEq

structure JobMatch where
  jobContentHash : String
  deriving DecidableEq

def Job.isOpen (j : Job) : Bool := decide (j.status ≠ .closed)

def MatchRun.finished (r : MatchRun) : Bool :=
  decide (r.status = .completed ∨ r.status = .partial_)

/-- The jobs, the runs, and the matches: one to a job and a run. -/
structure Db where
  jobs : Table JobId Job
  runs : Table MatchRunId MatchRun
  matches_ : Table (JobId × MatchRunId) JobMatch

namespace Db
variable (db : Db)

/-! ### What is read -/

/-- Most recent match run that produced results. -/
def latestRun : Option (MatchRunId × MatchRun) :=
  greatest (fun r => [r.2.startedAt]) (db.runs.rows.filter fun r => MatchRun.finished r.2)

/-- The matches of a run, by default of the latest; none when no run has ever completed. -/
def latestMatches (run : Option MatchRunId) : Option (List ((JobId × MatchRunId) × JobMatch)) :=
  (run <|> db.latestRun.map Prod.fst).map fun k =>
    db.matches_.rows.filter fun m => decide (m.1.2 = k)

/-- Jobs whose content changed since they were last scored. -/
def staleJobIds (run : Option MatchRunId) : List JobId :=
  match db.latestMatches run with
  | none => db.jobs.rows.map Prod.fst
  | some scored =>
    let scoredById (j : JobId) : Option String :=
      (scored.find? fun m => m.1.1 = j).map fun m => m.2.jobContentHash
    (db.jobs.rows.filter fun j => decide (scoredById j.1 ≠ some j.2.contentHash)).map Prod.fst

/-- The jobs the match step of a tenant finds changed; it does nothing when there are none. The
tenant is not asked for. -/
def changedJobs (_tenant : String) : List JobId :=
  (db.staleJobIds none).filter fun k => (db.jobs.get k).any Job.isOpen

/-- The matches that `sync_run` reads; with no run to read it does nothing. -/
def syncRun (_tenant : String) (run : Option MatchRunId) :
    List ((JobId × MatchRunId) × JobMatch) :=
  (db.latestMatches run).getD []

/-! ### What each tenant's runs found -/

/-- The content a job had when one of the tenant's own runs last scored it. -/
def lastScoring (tenant : String) (j : JobId) : Option String :=
  (greatest (fun r : MatchRunId × MatchRun => [r.2.startedAt])
    ((db.runs.rows.filter fun r => MatchRun.finished r.2).filter fun r =>
      decide (r.2.tenant = some tenant) && (db.matches_.get (j, r.1)).isSome)).bind fun r =>
    (db.matches_.get (j, r.1)).map JobMatch.jobContentHash

/-- The tenant's own runs never scored the job as it is now. -/
def Changed (tenant : String) (j : JobId) (job : Job) : Prop :=
  db.lastScoring tenant j ≠ some job.contentHash

/-- What stands in for the tenant's runs are the tenant's runs. -/
structure KeepsTo (tenant : String) : Prop where
  reads : ∀ m ∈ db.syncRun tenant none, ∃ r, db.runs.get m.1.2 = some r ∧ r.tenant = some tenant
  stale : ∀ j job, db.jobs.get j = some job → Job.isOpen job → db.Changed tenant j job →
    j ∈ db.staleJobIds none
  honest : db.changedJobs tenant = [] → ∀ j job, db.jobs.get j = some job → Job.isOpen job →
    ¬db.Changed tenant j job

/-- The latest run, if any, is the tenant's own or has no matches. -/
def LatestOwn (tenant : String) : Prop :=
  ∀ k r, db.latestRun = some (k, r) →
    r.tenant = some tenant ∨ ∀ j, db.matches_.get (j, k) = none

end Db

/-! ### Histories -/

/-- What happens to the jobs and the runs, in any order: a run scores what it comes to, all jobs or
some, before or after others end. -/
inductive Op
  | list (j : JobId) (job : Job)
  | change (j : JobId) (job : Job)
  | begin (k : MatchRunId) (tenant : Option String) (now : Time)
  | score (k : MatchRunId) (j : JobId)
  | finish (k : MatchRunId) (status : RunStatus)

def Db.perform (db : Db) : Op → Db
  | .list j job => { db with jobs := db.jobs.insertNew j job }
  | .change j job => { db with jobs := db.jobs.put j job }
  | .begin k tenant now => { db with runs := db.runs.insertNew k ⟨tenant, now, .running⟩ }
  | .score k j =>
    match db.jobs.get j, db.runs.get k with
    | some job, some _ =>
      { db with matches_ := db.matches_.insertNew (j, k) ⟨job.contentHash⟩ }
    | _, _ => db
  | .finish k status => { db with runs := db.runs.modify k fun r => { r with status := status } }

def reached (history : List Op) : Db := history.foldl Db.perform ⟨.empty, .empty, .empty⟩

/-! ### When the tenants are kept apart -/

namespace Db
variable {db : Db} {tenant : String}

theorem latestRun_found {k : MatchRunId} {r : MatchRun} (latest : db.latestRun = some (k, r)) :
    db.runs.get k = some r := by
  have member := (greatest_spec latest).1
  exact Table.get_eq_some.mpr (List.mem_filter.mp member).1

theorem latestMatches_of {k : MatchRunId} {r : MatchRun} (latest : db.latestRun = some (k, r)) :
    db.latestMatches none =
      some (db.matches_.rows.filter fun m => decide (m.1.2 = k)) := by
  simp [latestMatches, latest]

theorem staleJobIds_none (missing : db.latestMatches none = none ∨ db.latestMatches none = some [])
    {j : JobId} {job : Job} (stored : db.jobs.get j = some job) : j ∈ db.staleJobIds none := by
  have listed : j ∈ db.jobs.rows.map Prod.fst := List.mem_map_of_mem (Table.get_eq_some.mp stored)
  rcases missing with none_yet | empty
  · simpa only [staleJobIds, none_yet] using listed
  · simpa [staleJobIds, empty] using ⟨job, Table.get_eq_some.mp stored⟩

/-- A job that is not stale was scored by the latest run as it is now. -/
theorem scored_of_not_stale {k : MatchRunId} {r : MatchRun} (latest : db.latestRun = some (k, r))
    {j : JobId} {job : Job} (stored : db.jobs.get j = some job) (fresh : j ∉ db.staleJobIds none) :
    db.matches_.get (j, k) = some ⟨job.contentHash⟩ := by
  simp only [staleJobIds, latestMatches_of latest] at fresh
  by_contra unscored
  refine fresh (List.mem_map.mpr ⟨(j, job), List.mem_filter.mpr
    ⟨Table.get_eq_some.mp stored, decide_eq_true fun scored => unscored ?_⟩, rfl⟩)
  obtain ⟨m, found, same⟩ := Option.map_eq_some_iff.mp scored
  obtain ⟨⟨j', k'⟩, hash⟩ := m
  have here := List.find?_some found
  obtain ⟨member, there⟩ := List.mem_filter.mp (List.mem_of_find?_eq_some found)
  simp only [decide_eq_true_iff] at here there
  subst here there
  rw [Table.get_eq_some]
  exact same ▸ member

/-- What the tenant's own latest run scored is what the tenant last scored. -/
theorem lastScoring_latest {k : MatchRunId} {r : MatchRun} (latest : db.latestRun = some (k, r))
    (own : r.tenant = some tenant) {j : JobId} {m : JobMatch}
    (scored : db.matches_.get (j, k) = some m) :
    db.lastScoring tenant j = some m.jobContentHash := by
  have newest := greatest_filter (p := fun r : MatchRunId × MatchRun =>
    decide (r.2.tenant = some tenant) && (db.matches_.get (j, r.1)).isSome) latest
    (by simp [own, scored])
  rw [lastScoring, newest, Option.bind_some, scored, Option.map_some]

theorem stale_of_latestOwn (own : db.LatestOwn tenant) {j : JobId} {job : Job}
    (stored : db.jobs.get j = some job) (changed : db.Changed tenant j job) :
    j ∈ db.staleJobIds none := by
  cases latest : db.latestRun with
  | none => exact staleJobIds_none (.inl (by simp [latestMatches, latest])) stored
  | some found =>
    obtain ⟨k, r⟩ := found
    rcases own k r latest with mine | empty
    · by_contra fresh
      exact changed (lastScoring_latest latest mine (scored_of_not_stale latest stored fresh))
    · by_contra fresh
      have scored := scored_of_not_stale latest stored fresh
      rw [empty] at scored
      cases scored

theorem keepsTo_iff : db.KeepsTo tenant ↔ db.LatestOwn tenant := by
  constructor
  · intro kept k r latest
    by_contra other
    obtain ⟨foreign, scored⟩ := not_or.mp other
    obtain ⟨j, some_match⟩ := not_forall.mp scored
    obtain ⟨m, found⟩ := Option.ne_none_iff_exists'.mp some_match
    have read : ((j, k), m) ∈ db.syncRun tenant none := by
      rw [syncRun, latestMatches_of latest, Option.getD_some]
      exact List.mem_filter.mpr ⟨Table.get_eq_some.mp found, decide_eq_true rfl⟩
    obtain ⟨r', run, mine⟩ := kept.reads _ read
    rw [latestRun_found latest] at run
    cases run
    exact foreign mine
  · intro own
    have stale {j : JobId} {job : Job} (stored : db.jobs.get j = some job)
        (changed : db.Changed tenant j job) : j ∈ db.staleJobIds none :=
      stale_of_latestOwn own stored changed
    refine ⟨fun m read => ?_, fun j job stored _ => stale stored, ?_⟩
    · cases latest : db.latestRun with
      | none => simp [syncRun, latestMatches, latest] at read
      | some found =>
        obtain ⟨k, r⟩ := found
        rw [syncRun, latestMatches_of latest, Option.getD_some] at read
        obtain ⟨member, here⟩ := List.mem_filter.mp read
        have ran : m.1.2 = k := of_decide_eq_true here
        subst ran
        refine ⟨r, latestRun_found latest, (own _ r latest).resolve_right fun empty => ?_⟩
        have scored : db.matches_.get m.1 = some m.2 := Table.get_eq_some.mpr member
        rw [empty m.1.1] at scored
        cases scored
    · intro nothing j job stored isOpen changed
      have listed : j ∈ db.changedJobs tenant :=
        List.mem_filter.mpr ⟨stale stored changed, by rw [stored]; exact isOpen⟩
      rw [nothing] at listed
      cases listed

end Db

/-- After any history of runs, what stands in for the tenant's runs are the tenant's runs just
when the latest run is the tenant's own, or there is none, or it has no matches. -/
theorem tenant_runs_iff (history : List Op) (tenant : String) :
    (reached history).KeepsTo tenant ↔ (reached history).LatestOwn tenant :=
  Db.keepsTo_iff

/-- One job, scored for one tenant. -/
def scoredForAda : List Op :=
  [.list ⟨"acme", "0"⟩ ⟨"h", .active⟩, .begin 0 (some "ada") 1, .score 0 ⟨"acme", "0"⟩, .finish 0 .completed]

/-- Another tenant's sync reads that match, and its match step finds nothing to do. -/
theorem other_tenant_unscored : ¬(reached scoredForAda).KeepsTo "bob" := by
  intro kept
  refine kept.honest (by decide) ⟨"acme", "0"⟩ ⟨"h", .active⟩ (by decide) (by decide) ?_
  unfold Db.Changed
  decide

end RangeApply.Scoring
