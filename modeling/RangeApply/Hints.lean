import RangeApply.Tracking

/-! What an ingestion does depends on the store, not on what was prefetched of it. -/
namespace RangeApply.Postings

section Hinted
variable {μ : Type} {c : RunConfig μ} {raw : RawJob μ} {now : Time} {s : Store} {h h' : Hints}
  {n : Counters} {known : Option KnownRef} {r : Ingested}

theorem resolveOpportunity_congr (identity : JobRow → OpeningKey) (now : Time) {m : Market} {j : JobId}
    (job : JobRow) {hint hint' : Option OpeningKey} {new : Bool}
    (same : m.linkFor j hint new = m.linkFor j hint' new) :
    resolveOpportunity identity now m j job hint new =
      resolveOpportunity identity now m j job hint' new := by
  unfold resolveOpportunity
  rw [same]

/-- Two ingestions that differ only in the index they leave. -/
structure Ingested.Same (r r' : Ingested) : Prop where
  store : r'.store = r.store
  counters : r'.counters = r.counters
  observed : r'.observed = r.observed

theorem findExistingJob_skip (sound : s.Sound) {x : Extractors μ} {job : NormalizedJob}
    (unknown : s.refs job.key = none) (skip : Bool) :
    findExistingJob x job s skip = findExistingJob x job s true := by
  have free : s.market.jobs.get job.key = none := by
    cases found : s.market.jobs.get job.key with
    | none => rfl
    | some row =>
      obtain ⟨ref, stored, -⟩ := sound.own job.key (by rw [found]; rfl)
      rw [unknown] at stored
      cases stored
  have bySource : findBySource job s = none := by
    unfold findBySource
    rw [free, unknown]
    rfl
  unfold findExistingJob
  rw [bySource, ite_self, ite_self]

theorem process_skip (sound : s.Sound) {x : Extractors μ} {job : NormalizedJob}
    (unknown : s.refs job.key = none) (skip : Bool) :
    process x job now s skip = process x job now s true := by
  unfold process
  rw [findExistingJob_skip sound unknown skip]

theorem Hints.Fits.linkFor_eq {m : Market} (fits : h.Fits m) (fits' : h'.Fits m) {j : JobId}
    (new : Bool) (unlinked : new = true → m.links j = none) :
    m.linkFor j (h'.links j) new = m.linkFor j (h.links j) new :=
  (fits'.linkFor unlinked).trans (fits.linkFor unlinked).symm

theorem touch_same (fits : h.Fits s.market) (fits' : h'.Fits s.market) {key : PostingKey}
    {ref : RefRow} {j : JobId} {row : JobRow} :
    (touch c now s h n key ref j row).Same (touch c now s h' n key ref j row) := by
  have fits : h.Fits (s.market.putJob j (row.touched now)) := fits
  have fits' : h'.Fits (s.market.putJob j (row.touched now)) := fits'
  have links := resolveOpportunity_congr c.identity now (row.touched now)
    (fits.linkFor_eq fits' (j := j) false nofun)
  refine ⟨?_, ?_, rfl⟩
  · unfold touch
    dsimp only [Store.putJob, Store.putRef]
    rw [links]
  · unfold touch
    dsimp only [Store.putJob, Store.putRef]
    rw [links]

theorem store_same (sound : s.Sound) (current : h.Current s raw) (current' : h'.Current s raw)
    (same : knownRef raw s h' = knownRef raw s h)
    (done : store c raw now s h n (knownRef raw s h) = some r) :
    ∃ r', store c raw now s h' n (knownRef raw s h') = some r' ∧ r.Same r' := by
  obtain ⟨d, row, processed, found, made⟩ := store_eq_some done
  have processed' : process c.extractors (c.extractors.enriched c.companyName raw) now s
      (!h'.refs.isEmpty && (knownRef raw s h').isNone) = some d := by
    rw [same]
    cases known : knownRef raw s h with
    | none =>
      have unknown : s.refs (c.extractors.enriched c.companyName raw).key = none := by
        rw [enriched_key]
        exact current.unknown known
      rw [process_skip sound unknown] at processed ⊢
      exact processed
    | some ref =>
      rw [known, Option.isNone_some, Bool.and_false] at processed
      rw [Option.isNone_some, Bool.and_false]
      exact processed
  obtain ⟨row', written, live, new⟩ := process_market (enriched_jobStatus _ _ _) processed
  have fits : h.Fits d.store.market := by
    rw [written]
    exact current.fits
  have fits' : h'.Fits d.store.market := by
    rw [written]
    exact current'.fits
  have links := resolveOpportunity_congr c.identity now row
    (fits.linkFor_eq fits' (j := d.job) (decide (d.status = .new)) fun isNew => by
      have free := new (of_decide_eq_true isNew)
      rw [written, Market.putJob_links]
      cases linked : s.market.links d.job with
      | none => rfl
      | some k =>
        have present := sound.kept.stored d.job k linked
        rw [free] at present
        cases present)
  have stamped : (afterDedup raw h' (knownRef raw s h') d.store).2 =
      (afterDedup raw h (knownRef raw s h) d.store).2 := by
    rw [same]
    unfold afterDedup
    cases knownRef raw s h with
    | none =>
      dsimp only
      split <;> rfl
    | some ref => cases ref <;> rfl
  refine ⟨{ r with refs := (afterDedup raw h' (knownRef raw s h') d.store).1 }, ?_, rfl, rfl, rfl⟩
  subst made
  unfold store
  simp only [Option.bind_eq_bind, processed', Option.bind_some, Store.stamp_market, found, stamped,
    links]
  rfl

/-- What an ingestion does to the store and counts does not depend on the hints, while they are
current and no reference was lost to a rollback. -/
theorem ingestOne_same (sound : s.Sound) (current : h.Current s raw) (current' : h'.Current s raw)
    (same : knownRef raw s h' = knownRef raw s h) (done : ingestOne c raw now s h n = some r) :
    ∃ r', ingestOne c raw now s h' n = some r' ∧ r.Same r' := by
  rcases ingestOne_cases done with ⟨again, rfl⟩ | ⟨fresh, ⟨key, ref, row, known, found, hash, rfl⟩ |
    ⟨changed, stored⟩⟩
  · refine ⟨⟨s, h'.refs, { n with resumedSkipped := n.resumedSkipped + 1 },
      ((knownRef raw s h).bind (·.job s)).map Prod.fst⟩, ?_, rfl, rfl, rfl⟩
    unfold ingestOne
    simp only [same, again, if_true]
  · refine ⟨_, ?_, touch_same current.fits current'.fits⟩
    rw [known] at fresh
    unfold ingestOne
    simp only [same, known, fresh, found, hash, Bool.false_eq_true, if_false, if_true]
  · obtain ⟨r', done', samer⟩ := store_same sound current current' same stored
    refine ⟨r', ?_, samer⟩
    rw [same] at done'
    unfold ingestOne
    simp only [same, fresh, Bool.false_eq_true, if_false]
    split
    · rename_i key ref known
      split
      · rename_i row found
        rw [if_neg (changed key ref row known found)]
        exact done'
      · exact done'
    · exact done'

/-- The reference that the store has of a posting. -/
def storedRef (raw : RawJob μ) (s : Store) : Option KnownRef :=
  (s.refs raw.key).map (.stored raw.key)

theorem Hints.Current.knownRef (current : h.Current s raw)
    (indexed : ∀ t, knownRef raw s h ≠ some (.gone t)) : knownRef raw s h = storedRef raw s := by
  cases known : Postings.knownRef raw s h with
  | none => rw [storedRef, current.unknown known]; rfl
  | some k =>
    cases k with
    | gone t => exact absurd known (indexed t)
    | stored key ref =>
      obtain ⟨rfl, stored⟩ := current.stored known
      rw [storedRef, stored]
      rfl

theorem knownRef_gone (t : Time) : Postings.knownRef raw s h = some (.gone t) ↔
    h.refs.lookup raw.sourceJobId = some (.gone t) := by
  unfold Postings.knownRef
  constructor
  · intro known
    split at known
    · obtain ⟨ref, -, same⟩ := Option.map_eq_some_iff.mp known
      cases same
    · rename_i lost
      cases known
      exact lost
    · split at known
      · obtain ⟨ref, -, same⟩ := Option.map_eq_some_iff.mp known
        cases same
      · cases known
  · intro lost
    rw [lost]

end Hinted

end RangeApply.Postings
