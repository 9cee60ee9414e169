import RangeApply.Batch
import RangeApply.Ingest

/-! A discovery run: the fetched postings ingested one by one in a transaction that is committed
every few of them, then the sweep that closes what the source no longer lists. -/
namespace RangeApply.Postings

structure Counters where
  new : Nat
  updated : Nat
  duplicate : Nat
  failed : Nat
  closed : Nat
  rejected : Nat
  unchanged : Nat
  versioned : Nat
  reposted : Nat
  filtered : Nat
  resumedSkipped : Nat
  opportunitiesNew : Nat
  opportunitiesLinked : Nat
  filteredGeography : Nat
  deriving DecidableEq

def Counters.zero : Counters := ⟨0, 0, 0, 0, 0, 0, 0, 0, 0, 0, 0, 0, 0, 0⟩

/-- An entry of the prefetched index: a stored reference, or one whose row a rollback took. -/
inductive Indexed
  | row (key : PostingKey)
  | gone (lastSeenAt : Time)
  deriving DecidableEq

/-- What the loop carries from posting to posting about references and links. -/
structure Hints where
  refs : List (String × Indexed)
  links : JobId → Option OpeningKey

/-- The reference that a posting is known by. -/
inductive KnownRef
  | stored (key : PostingKey) (ref : RefRow)
  | gone (lastSeenAt : Time)

def KnownRef.lastSeenAt : KnownRef → Time
  | .stored _ ref => ref.lastSeenAt
  | .gone t => t

/-- What a run is asked to do. -/
structure RunConfig (μ : Type) where
  extractors : Extractors μ
  identity : JobRow → OpeningKey
  source : String
  identifier : String
  companyName : Option String
  closeMissing : Bool
  resumeCutoff : Option Time
  /-- The allow-list of titles, when there is one. -/
  titleMatches : Option (String → Bool)
  /-- The location is excluded, when a geography is projected. -/
  excluded : Option (RawJob μ → Bool)
  maxFailureRatio : Rat

/-! ### One posting -/

section One
variable {μ : Type} (c : RunConfig μ) (raw : RawJob μ) (now : Time) (s : Store) (h : Hints)
  (n : Counters)

/-- What ingesting a posting leaves, in the store and in the loop. -/
structure Ingested where
  store : Store
  refs : List (String × Indexed)
  counters : Counters
  observed : Option JobId

def knownRef : Option KnownRef :=
  match h.refs.lookup raw.sourceJobId with
  | some (.row key) => (s.refs key).map (.stored key)
  | some (.gone t) => some (.gone t)
  | none =>
    if h.refs.isEmpty then
      (s.refs ⟨raw.source, raw.sourceJobId⟩).map (.stored ⟨raw.source, raw.sourceJobId⟩)
    else none

/-- The row of a reference, when it has one. -/
def KnownRef.job (s : Store) : KnownRef → Option (JobId × JobRow)
  | .stored _ ref => (s.market.jobs.get ref.job).map (ref.job, ·)
  | .gone _ => none

/-- The interrupted run already handled this posting. -/
def resumed (known : Option KnownRef) : Bool :=
  known.any fun ref => c.resumeCutoff.any fun cutoff => decide (cutoff ≤ ref.lastSeenAt)

def Counters.countOpportunity (how : How) : Counters :=
  { n with
    opportunitiesNew := n.opportunitiesNew + if how = .new then 1 else 0
    opportunitiesLinked :=
      n.opportunitiesLinked + if how = .identityKey ∨ how = .repost then 1 else 0
    reposted := n.reposted + if how = .repost then 1 else 0 }

def JobRow.touched (row : JobRow) : JobRow :=
  { row with
    lastSeenAt := now
    status := if row.status.gone then .active else row.status
    closedAt := if row.status.gone then none else row.closedAt }

/-- The payload is the one we have: the stored row is touched, and live. -/
def touch (key : PostingKey) (ref : RefRow) (j : JobId) (row : JobRow) : Ingested :=
  let row := row.touched now
  let s := (s.putRef key { ref with lastSeenAt := now, fetchedAt := some now }).putJob j row
  let (market, _, how) := resolveOpportunity c.identity now s.market j row (h.links j) false
  let n := n.countOpportunity how
  { store := { s with market := market }
    refs := h.refs
    counters := { n with unchanged := n.unchanged + 1, duplicate := n.duplicate + 1 }
    observed := some j }

def Counters.countDedup (status : DedupStatus) (reposted : Bool) : Counters :=
  { n with
    reposted := n.reposted + reposted.toNat
    new := n.new + if status = .new then 1 else 0
    updated := n.updated + if status = .updated then 1 else 0
    versioned := n.versioned + if status = .updated then 1 else 0
    duplicate := n.duplicate +
      if status = .duplicate ∨ status = .crossSourceDuplicate then 1 else 0 }

/-- The reference after deduplication, and the index that knows it: a new one is looked up. -/
def afterDedup (known : Option KnownRef) (s : Store) :
    List (String × Indexed) × Option (PostingKey × RefRow) :=
  match known with
  | some (.stored key _) => (h.refs, (s.refs key).map (key, ·))
  | some (.gone _) => (h.refs, none)
  | none =>
    match s.refs ⟨raw.source, raw.sourceJobId⟩ with
    | none => (h.refs, none)
    | some ref => ((raw.sourceJobId, .row ⟨raw.source, raw.sourceJobId⟩) :: h.refs,
        some (⟨raw.source, raw.sourceJobId⟩, ref))

/-- What a reference records of the payload it was last seen with. -/
def Store.stamp (s : Store) (ref : Option (PostingKey × RefRow)) (rawHash parseStatus : String)
    (now : Time) : Store :=
  match ref with
  | none => s
  | some (key, ref) => s.putRef key { ref with
      contentHash := some rawHash
      fetchedAt := some now
      parseStatus := some parseStatus }

/-- Normalise, deduplicate, store, and attach to the opening. -/
def store (known : Option KnownRef) : Option Ingested := do
  let x := c.extractors
  let job := x.enriched c.companyName raw
  let r ← process x job now s (!h.refs.isEmpty && known.isNone)
  let (refs, ref) := afterDedup raw h known r.store
  let s := r.store.stamp ref (x.computeRawHash raw) job.processingStatus now
  let row ← s.market.jobs.get r.job
  let (market, _, how) := resolveOpportunity c.identity now s.market r.job row (h.links r.job)
    (decide (r.status = .new))
  let n := n.countOpportunity how
  return {
    store := { s with market := market }
    refs := refs
    counters := n.countDedup r.status (r.reopened && decide (how ≠ .repost))
    observed := some r.job }

/-- `_ingest_one`: skip, touch or store; nothing when a unique key is broken. -/
def ingestOne : Option Ingested :=
  let known := knownRef raw s h
  if resumed c known then
    some
      { store := s
        refs := h.refs
        counters := { n with resumedSkipped := n.resumedSkipped + 1 }
        observed := (known.bind (·.job s)).map Prod.fst }
  else
    match known with
    | some (.stored key ref) =>
      match s.market.jobs.get ref.job with
      | some row =>
        if ref.contentHash = some (c.extractors.computeRawHash raw) then
          some (touch c now s h n key ref ref.job row)
        else store c raw now s h n known
      | none => store c raw now s h n known
    | _ => store c raw now s h n known

end One

/-! ### What ingesting does -/

section Spec
variable {μ : Type} {c : RunConfig μ} {raw : RawJob μ} {now : Time} {s : Store} {h : Hints}
  {n : Counters} {known : Option KnownRef} {r : Ingested}

@[simp] theorem Store.stamp_market (s : Store) (ref : Option (PostingKey × RefRow))
    (rawHash parseStatus : String) (now : Time) :
    (s.stamp ref rawHash parseStatus now).market = s.market := by
  cases ref <;> rfl

theorem store_eq_some (done : store c raw now s h n known = some r) :
    ∃ d row, process c.extractors (c.extractors.enriched c.companyName raw) now s
        (!h.refs.isEmpty && known.isNone) = some d ∧
      d.store.market.jobs.get d.job = some row ∧
      r = {
        store := { d.store.stamp (afterDedup raw h known d.store).2
            (c.extractors.computeRawHash raw)
            (c.extractors.enriched c.companyName raw).processingStatus now with
          market := (resolveOpportunity c.identity now d.store.market d.job row
            (h.links d.job) (decide (d.status = .new))).1 }
        refs := (afterDedup raw h known d.store).1
        counters := (n.countOpportunity (resolveOpportunity c.identity now d.store.market d.job row
            (h.links d.job) (decide (d.status = .new))).2.2).countDedup d.status
          (d.reopened && decide ((resolveOpportunity c.identity now d.store.market d.job row
            (h.links d.job) (decide (d.status = .new))).2.2 ≠ .repost))
        observed := some d.job } := by
  unfold store at done
  simp only [Option.bind_eq_bind, Option.bind_eq_some_iff, Store.stamp_market] at done
  obtain ⟨d, processed, row, found, done⟩ := done
  cases done
  exact ⟨d, row, processed, found, rfl⟩

/-- A posting is skipped, touched or stored. -/
theorem ingestOne_cases (done : ingestOne c raw now s h n = some r) :
    (resumed c (knownRef raw s h) = true ∧
      r = ⟨s, h.refs, { n with resumedSkipped := n.resumedSkipped + 1 },
        ((knownRef raw s h).bind (·.job s)).map Prod.fst⟩) ∨
    resumed c (knownRef raw s h) = false ∧
      ((∃ key ref row, knownRef raw s h = some (.stored key ref) ∧
          s.market.jobs.get ref.job = some row ∧
          ref.contentHash = some (c.extractors.computeRawHash raw) ∧
          r = touch c now s h n key ref ref.job row) ∨
        (∀ key ref row, knownRef raw s h = some (.stored key ref) →
          s.market.jobs.get ref.job = some row →
          ref.contentHash ≠ some (c.extractors.computeRawHash raw)) ∧
        store c raw now s h n (knownRef raw s h) = some r) := by
  unfold ingestOne at done
  dsimp only at done
  split at done
  · rename_i resumed
    exact .inl ⟨resumed, (Option.some.inj done).symm⟩
  · rename_i fresh
    refine .inr ⟨by simpa using fresh, ?_⟩
    split at done
    · rename_i key ref known
      split at done
      · rename_i row found
        split at done
        · rename_i same
          exact .inl ⟨key, ref, row, known, found, same, (Option.some.inj done).symm⟩
        · rename_i other
          refine .inr ⟨fun key' ref' row' known' found' => ?_, done⟩
          rw [known] at known'
          cases known'
          exact other
      · rename_i missing
        refine .inr ⟨fun key' ref' row' known' found' => ?_, done⟩
        rw [known] at known'
        cases known'
        rw [missing] at found'
        cases found'
    · rename_i unstored
      exact .inr ⟨fun key ref row known _ => absurd known (unstored key ref), done⟩

end Spec

/-! ### The loop -/

/-- Where an ingestion raises: before its reference is indexed, after that, or when its savepoint is
left and everything is counted. -/
inductive RaisedAt
  | unstored
  | indexed
  | counted
  deriving DecidableEq

/-- A fetched posting, and how its ingestion goes. -/
structure Fetched (μ : Type) where
  raw : RawJob μ
  now : Time
  raises : Option RaisedAt

structure LoopState where
  data : Batch Store
  hints : Hints
  counters : Counters
  observed : List JobId

/-- `COMMIT_BATCH_SIZE`. -/
def commitBatchSize : Nat := 25

/-- What becomes of a posting before it is ingested. -/
inductive Exit
  | rejected | titleFiltered | geographyFiltered | ingested
  deriving DecidableEq

def RunConfig.exit {μ : Type} (c : RunConfig μ) (raw : RawJob μ) : Exit :=
  if (c.extractors.validateRawJob raw).isSome then .rejected
  else if c.titleMatches.any fun wanted => !wanted raw.rawTitle then .titleFiltered
  else if c.excluded.any fun excluded => excluded raw then .geographyFiltered
  else .ingested

section Loop
variable {μ : Type} (c : RunConfig μ)

/-- A rollback takes the rows that were not committed; their references stay in the index. -/
def Indexed.afterRollback (before after : Store) : Indexed → Indexed
  | .row key =>
    match after.refs key, before.refs key with
    | none, some ref => .gone ref.lastSeenAt
    | _, _ => .row key
  | .gone t => .gone t

/-- The session is rolled back. `lost` is the store as the failed ingestion left it. -/
def LoopState.rollback (l : LoopState) (lost : Store) (refs : List (String × Indexed))
    (n : Counters) (observed : List JobId) : LoopState where
  data := l.data.rollback
  hints := { l.hints with refs := refs.map fun e =>
    (e.1, e.2.afterRollback lost l.data.rollback.working) }
  counters := { n with failed := n.failed + 1 }
  observed := observed

def LoopState.observe (l : LoopState) (j : Option JobId) : List JobId := j.toList ++ l.observed

/-- One posting in its savepoint. -/
def LoopState.ingest (l : LoopState) (p : Fetched μ) : LoopState :=
  match ingestOne c p.raw p.now l.data.working l.hints l.counters, p.raises with
  | some r, none =>
    { data := l.data.save commitBatchSize r.store
      hints := { l.hints with refs := r.refs }
      counters := r.counters
      observed := l.observe r.observed }
  | some r, some .indexed => l.rollback r.store r.refs l.counters l.observed
  | some r, some .counted => l.rollback r.store r.refs r.counters (l.observe r.observed)
  | _, _ => l.rollback l.data.working l.hints.refs l.counters l.observed

/-- The row that the prefetched index knows a posting by. -/
def LoopState.indexedJob (l : LoopState) (raw : RawJob μ) : Option JobId :=
  match l.hints.refs.lookup raw.sourceJobId with
  | some (.row key) =>
    ((l.data.working.refs key).bind fun ref =>
      (l.data.working.market.jobs.get ref.job).map fun _ => ref.job)
  | _ => none

def LoopState.next (l : LoopState) (p : Fetched μ) : LoopState :=
  match c.exit p.raw with
  | .rejected =>
    { l with counters := { l.counters with rejected := l.counters.rejected + 1 } }
  | .titleFiltered =>
    { l with counters := { l.counters with filtered := l.counters.filtered + 1 } }
  | .geographyFiltered =>
    { l with
      counters := { l.counters with
        filtered := l.counters.filtered + 1
        filteredGeography := l.counters.filteredGeography + 1 }
      -- still open at the source: the sweep must not close it
      observed := l.observe (l.indexedJob p.raw) }
  | .ingested => l.ingest c p

/-- `_prefetch_references`: the stored references of the fetched ids. -/
def prefetchReferences (source : String) (s : Store) (postings : List (Fetched μ)) :
    List (String × Indexed) :=
  ((postings.map fun p => p.raw.sourceJobId).dedup.filter fun id =>
    decide (id ≠ "") && (s.refs ⟨source, id⟩).isSome).map fun id => (id, .row ⟨source, id⟩)

/-- `_prefetch_links`: the stored links of the rows behind those references. -/
def prefetchLinks (s : Store) (refs : List (String × Indexed)) : JobId → Option OpeningKey :=
  fun j => if refs.any fun e =>
      match e.2 with
      | .row key => (s.refs key).any fun ref => decide (ref.job = j)
      | .gone _ => false
    then s.market.links j else none

def LoopState.start (s : Store) (postings : List (Fetched μ)) : LoopState where
  data := .clean s
  hints :=
    { refs := prefetchReferences c.source s postings
      links := prefetchLinks s (prefetchReferences c.source s postings) }
  counters := .zero
  observed := []

/-- The loop over the fetched postings, and the commit after it. -/
def ingestAll (s : Store) (postings : List (Fetched μ)) : LoopState :=
  let l := postings.foldl (LoopState.next c) (.start c s postings)
  { l with data := l.data.commit }

end Loop

/-! ### The sweep -/

section Sweep
variable {μ : Type} (c : RunConfig μ)

/-- `should_sweep`, for a run that completed. -/
def shouldSweep (discovered failed : Nat) : Bool :=
  decide (0 < discovered) && !decide (c.maxFailureRatio < (failed : Rat) / discovered)

/-- A live posting of the board that the run did not observe. -/
def Missing (observed : List JobId) (j : JobId) (row : JobRow) : Bool :=
  decide (j.source = c.source) && decide (row.sourceIdentifier = some c.identifier) &&
    decide (row.status = .active) && decide (j ∉ observed)

def closeMissingJobs (m : Market) (observed : List JobId) (now : Time) : Market where
  jobs := m.jobs.mapRows fun j row =>
    if Missing c observed j row then { row with status := .closed, closedAt := some now } else row
  links := m.links
  openings := m.openings
  linksFound := m.linksFound

def countMissing (m : Market) (observed : List JobId) : Nat :=
  (m.jobs.rows.filter fun r => Missing c observed r.1 r.2).length

/-- `_close_opportunities`: the openings of the postings of the board that were closed since. -/
def closeOpportunities (m : Market) (since : Time) : Market :=
  (m.jobs.rows.filter fun r => decide (r.1.source = c.source) &&
      decide (r.2.sourceIdentifier = some c.identifier) && decide (r.2.status = .closed) &&
      r.2.closedAt.any fun t => decide (since ≤ t)).foldl
    (fun m r => match m.links r.1 with
      | none => m
      | some k => closeIfAllGone m k) m

/-- What a run does once the fetch succeeded. `closed` is when the sweep closes. -/
structure Times where
  started : Time
  closed : Time
  forward : started ≤ closed

def sweep (l : LoopState) (discovered : Nat) (t : Times) : Store × Counters :=
  let s := l.data.stored
  if c.closeMissing && shouldSweep c discovered l.counters.failed then
    let m := closeMissingJobs c s.market l.observed t.closed
    let n := countMissing c s.market l.observed
    ({ s with market := if n = 0 then m else closeOpportunities c m t.started },
      { l.counters with closed := n })
  else (s, l.counters)

/-- `run_discovery` on what the source returned; when the fetch fails nothing is ingested. -/
def runDiscovery (s : Store) (fetched : Option (List (Fetched μ))) (t : Times) : Store × Counters :=
  match fetched with
  | none => (s, .zero)
  | some postings => sweep c (ingestAll c s postings) postings.length t

end Sweep

/-! ### A board to run the model on -/

def plainExtractors : Extractors Unit where
  lower := id
  strip := id
  squeeze := id
  digest := id
  cleanHtml := id
  normalizeCompany := id
  normalizeTitle title _ := title
  normalizeUrl := id
  boardToken _ := some "acme"
  companySlug _ := none
  boardName _ := none
  applyUrl _ := none
  applyUrlCamel _ := none
  sourceLocations _ := []
  remoteType _ _ _ _ := "UNKNOWN"
  extracted _ _ _ := ""
  llm := none

def acmeBoard : RunConfig Unit where
  extractors := plainExtractors
  identity row := row.company
  source := "GREENHOUSE"
  identifier := "acme"
  companyName := none
  closeMissing := true
  resumeCutoff := none
  titleMatches := none
  excluded := none
  maxFailureRatio := 1 / 4

def acmePosting (sourceJobId title : String) : RawJob Unit where
  source := "GREENHOUSE"
  sourceJobId := sourceJobId
  sourceUrl := "https://boards.example/acme/" ++ sourceJobId
  rawTitle := title
  rawContent := ""
  rawLocation := none
  sourcePostedAt := none
  sourceUpdatedAt := none
  sourceDeadline := none
  metadata := ()

end RangeApply.Postings
