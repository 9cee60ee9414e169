import RangeApply.Normalizer

/-! Storing one posting: finding the row it belongs to, writing it, and attaching the row to its
opening. -/
namespace RangeApply.Postings

/-- A row of `job_source_references`: a posting, and the row it was found to be. -/
structure RefRow where
  job : JobId
  sourceUrl : String
  applicationUrl : Option String
  firstSeenAt : Time
  lastSeenAt : Time
  contentHash : Option String
  fetchedAt : Option Time
  parseStatus : Option String
  deriving DecidableEq

/-- A row of `job_versions`: what a posting was before it changed. -/
structure VersionRow where
  job : JobId
  contentHash : String
  title : String
  description : String
  changesSummary : String
  createdAt : Time
  deriving DecidableEq

/-- The store of postings. -/
@[ext] structure Store where
  market : Market
  refs : PostingKey → Option RefRow
  versions : List VersionRow

namespace Market

/-- Write the row of a posting. -/
def putJob (m : Market) (j : JobId) (row : JobRow) : Market where
  jobs := m.jobs.set j row
  links := m.links
  openings := m.openings
  linksFound := m.linksFound

@[simp] theorem putJob_links (m : Market) (j : JobId) (row : JobRow) :
    (m.putJob j row).links = m.links := rfl

@[simp] theorem putJob_openings (m : Market) (j : JobId) (row : JobRow) :
    (m.putJob j row).openings = m.openings := rfl

@[simp] theorem putJob_jobs (m : Market) (j : JobId) (row : JobRow) :
    (m.putJob j row).jobs = m.jobs.set j row := rfl

end Market

namespace Store

def putJob (s : Store) (j : JobId) (row : JobRow) : Store :=
  { s with market := s.market.putJob j row }

def putRef (s : Store) (k : PostingKey) (ref : RefRow) : Store :=
  { s with refs := Function.update s.refs k (some ref) }

end Store

/-! ### Whose row it is -/

/-- The identity level that resolved a posting. -/
inductive MatchedBy
  | sourceJobId | sourceReference | applicationUrl | sourceUrl | canonicalKey | contentHash
  deriving DecidableEq

section Find
variable {μ : Type} (x : Extractors μ) (job : NormalizedJob)

def sameApplicationUrl (row : JobRow) : Bool :=
  given (x.normalizeUrl job.applicationUrl) &&
    decide (row.normalizedApplicationUrl = x.normalizeUrl job.applicationUrl)

def sameSourceUrl (row : JobRow) : Bool :=
  given (x.normalizeUrl (some job.sourceUrl)) &&
    decide (row.normalizedSourceUrl = x.normalizeUrl (some job.sourceUrl))

def sameCanonicalKey (row : JobRow) : Bool := decide (row.canonicalKey = job.canonicalKey)

/-- Identical content of one company, and in one place when the posting names one. -/
def sameContent (row : JobRow) : Bool :=
  decide (job.contentHash ≠ "") && decide (row.company = job.company) &&
    decide (row.contentHash = job.contentHash) &&
    (!given job.content.location || decide (row.content.location = job.content.location))

def alike (row : JobRow) : Bool :=
  sameApplicationUrl x job row || sameSourceUrl x job row || sameCanonicalKey job row ||
    sameContent job row

/-- The rows that some level matches, as one query finds them. -/
def candidates (s : Store) : List (JobId × JobRow) :=
  (s.market.jobs.rows.filter fun r => alike x job r.2).take 50

def findByLevel (rows : List (JobId × JobRow)) : Option (JobId × MatchedBy) :=
  ((rows.find? fun r => sameApplicationUrl x job r.2).map fun r => (r.1, .applicationUrl)) <|>
  ((rows.find? fun r => sameSourceUrl x job r.2).map fun r => (r.1, .sourceUrl)) <|>
  ((rows.find? fun r => sameCanonicalKey job r.2).map fun r => (r.1, .canonicalKey)) <|>
  ((rows.find? fun r => sameContent job r.2).map fun r => (r.1, .contentHash))

/-- The row that the posting itself made, or was found to be before. -/
def findBySource (s : Store) : Option (JobId × MatchedBy) :=
  if (s.market.jobs.get job.key).isSome then some (job.key, .sourceJobId)
  else ((s.refs job.key).filter fun ref => (s.market.jobs.get ref.job).isSome).map
    fun ref => (ref.job, .sourceReference)

def findExistingJob (s : Store) (skipSourceLookup : Bool) : Option (JobId × MatchedBy) :=
  (if skipSourceLookup then none else findBySource job s) <|>
    findByLevel x job (candidates x job s)

end Find

/-! ### Writing it -/

inductive DedupStatus
  | new | updated | duplicate | crossSourceDuplicate
  deriving DecidableEq

structure DedupResult where
  store : Store
  job : JobId
  status : DedupStatus
  reopened : Bool

section Process
variable {μ : Type} (x : Extractors μ) (job : NormalizedJob) (now : Time)

def newRow : JobRow where
  canonicalKey := job.canonicalKey
  sourceIdentifier := job.sourceIdentifier
  company := job.company
  originalTitle := job.originalTitle
  content := job.content
  contentHash := job.contentHash
  sourceUrl := job.sourceUrl
  applicationUrl := job.applicationUrl
  normalizedSourceUrl := x.normalizeUrl (some job.sourceUrl)
  normalizedApplicationUrl := x.normalizeUrl job.applicationUrl
  postedAt := job.postedAt
  sourceUpdatedAt := job.sourceUpdatedAt
  deadline := job.deadline
  firstSeenAt := now
  lastSeenAt := now
  closedAt := none
  status := job.jobStatus

def newRef (j : JobId) : RefRow where
  job := j
  sourceUrl := job.sourceUrl
  applicationUrl := job.applicationUrl
  firstSeenAt := now
  lastSeenAt := now
  contentHash := none
  fetchedAt := none
  parseStatus := none

/-- A stored row that was seen again: live, and told what it did not know. -/
def JobRow.sighted (row : JobRow) (matchedBy : MatchedBy) : JobRow :=
  let moved := decide (matchedBy = .sourceJobId ∨ matchedBy = .sourceReference) &&
    given job.applicationUrl && decide (job.applicationUrl ≠ row.applicationUrl)
  let applyUrl := orElse row.normalizedApplicationUrl
    (if given (x.normalizeUrl job.applicationUrl) then x.normalizeUrl job.applicationUrl
      else row.normalizedApplicationUrl)
  { row with
    lastSeenAt := now
    status := if row.status.gone then job.jobStatus else row.status
    closedAt := if row.status.gone then none else row.closedAt
    normalizedSourceUrl := orElse row.normalizedSourceUrl
      (if given (x.normalizeUrl (some job.sourceUrl)) then x.normalizeUrl (some job.sourceUrl)
        else row.normalizedSourceUrl)
    -- the same posting on the same source points applicants elsewhere
    applicationUrl := if moved then job.applicationUrl else row.applicationUrl
    normalizedApplicationUrl :=
      if moved then orElse (x.normalizeUrl job.applicationUrl) applyUrl else applyUrl
    sourceIdentifier := orElse row.sourceIdentifier
      (if given job.sourceIdentifier then job.sourceIdentifier else row.sourceIdentifier)
    postedAt := row.postedAt <|> job.postedAt
    sourceUpdatedAt := job.sourceUpdatedAt <|> row.sourceUpdatedAt }

def JobRow.rewritten (row : JobRow) : JobRow :=
  { row with content := job.content, contentHash := job.contentHash }

def JobRow.version (row : JobRow) (j : JobId) : VersionRow where
  job := j
  contentHash := row.contentHash
  title := row.content.title
  description := row.content.description
  changesSummary :=
    s!"Content updated from hash {row.contentHash.take 8} to {job.contentHash.take 8}"
  createdAt := now

/-- Record a sighting of a stored row, and decide whether its content moved. -/
def sight (s : Store) (j : JobId) (row : JobRow) (matchedBy : MatchedBy) : DedupResult :=
  let seen := row.sighted x job now matchedBy
  let known := s.refs job.key
  let s := s.putRef job.key (match known with
    | none => newRef job now j
    | some ref => { ref with lastSeenAt := now })
  if row.contentHash ≠ job.contentHash then
    { store := { s.putJob j (seen.rewritten job) with
        versions := s.versions ++ [row.version job now j] }
      job := j
      status := .updated
      reopened := row.status.gone }
  else
    { store := s.putJob j seen
      job := j
      status := if known.isNone then .crossSourceDuplicate else .duplicate
      reopened := row.status.gone }

/-- `JobDeduplicator.process`; nothing when the rows it inserts break a unique key. -/
def process (s : Store) (skipSourceLookup : Bool) : Option DedupResult :=
  match findExistingJob x job s skipSourceLookup with
  | none =>
    if (s.market.jobs.get job.key).isSome || (s.refs job.key).isSome then none
    else some
      { store := (s.putJob job.key (newRow x job now)).putRef job.key (newRef job now job.key)
        job := job.key
        status := .new
        reopened := false }
  | some (j, matchedBy) =>
    (s.market.jobs.get j).map fun row => sight x job now s j row matchedBy

/-- The row as a sighting leaves it. -/
def JobRow.after (row : JobRow) (matchedBy : MatchedBy) : JobRow :=
  if row.contentHash ≠ job.contentHash then (row.sighted x job now matchedBy).rewritten job
  else row.sighted x job now matchedBy

end Process

/-! ### What storing does -/

section Spec
variable {μ : Type} {x : Extractors μ} {job : NormalizedJob} {now : Time} {s : Store}
  {skip : Bool} {d : DedupResult}

/-- A posting makes a row of its own, or is a sighting of the row that was found. -/
theorem process_cases (done : process x job now s skip = some d) :
    (findExistingJob x job s skip = none ∧ s.market.jobs.get job.key = none ∧
      s.refs job.key = none ∧
      d = ⟨(s.putJob job.key (newRow x job now)).putRef job.key (newRef job now job.key), job.key,
        .new, false⟩) ∨
    ∃ j matchedBy row, findExistingJob x job s skip = some (j, matchedBy) ∧
      s.market.jobs.get j = some row ∧ d = sight x job now s j row matchedBy := by
  unfold process at done
  split at done
  · rename_i found
    split at done
    · cases done
    · rename_i free
      simp only [Bool.or_eq_true, not_or, Bool.not_eq_true, Option.isSome_eq_false_iff,
        Option.isNone_iff_eq_none] at free
      exact .inl ⟨found, free.1, free.2, (Option.some.inj done).symm⟩
  · rename_i j matchedBy found
    obtain ⟨row, stored, rfl⟩ := Option.map_eq_some_iff.mp done
    exact .inr ⟨j, matchedBy, row, found, stored, rfl⟩

theorem sight_job (j : JobId) (row : JobRow) (matchedBy : MatchedBy) :
    (sight x job now s j row matchedBy).job = j := by
  unfold sight
  dsimp only
  split <;> rfl

theorem sight_market (j : JobId) (row : JobRow) (matchedBy : MatchedBy) :
    (sight x job now s j row matchedBy).store.market =
      s.market.putJob j (row.after x job now matchedBy) := by
  unfold sight JobRow.after
  dsimp only
  split <;> rfl

end Spec

end RangeApply.Postings
