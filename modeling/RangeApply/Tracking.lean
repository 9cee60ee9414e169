import RangeApply.Upkeep

/-! What one ingestion does to the store: the row it writes is the one its reference leads to. -/
namespace RangeApply.Postings

/-- Every row of a posting has its own reference, and every reference its row. -/
structure Store.Sound (s : Store) : Prop where
  kept : s.market.Kept
  own : ∀ j, (s.market.jobs.get j).isSome → ∃ ref, s.refs j = some ref ∧ ref.job = j
  found : ∀ k ref, s.refs k = some ref → (s.market.jobs.get ref.job).isSome

theorem Store.Sound.empty : Store.empty.Sound where
  kept := .empty
  own := nofun
  found := nofun

section Track
variable {μ : Type} {c : RunConfig μ} {raw : RawJob μ} {now : Time} {s : Store} {h : Hints}
  {n : Counters} {known : Option KnownRef} {r : Ingested} {j : JobId}

def RawJob.key (raw : RawJob μ) : PostingKey := ⟨raw.source, raw.sourceJobId⟩

@[simp] theorem enriched_key (x : Extractors μ) (companyName : Option String) (raw : RawJob μ) :
    (x.enriched companyName raw).key = raw.key := by
  unfold Extractors.enriched
  cases x.llm <;> rfl

/-- What the index holds about a posting is what the store holds. -/
structure Hints.Current (h : Hints) (s : Store) (raw : RawJob μ) : Prop where
  row : ∀ key, h.refs.lookup raw.sourceJobId = some (.row key) →
    key = raw.key ∧ (s.refs key).isSome
  none : h.refs.lookup raw.sourceJobId = none → h.refs ≠ [] → s.refs raw.key = none
  fits : h.Fits s.market

namespace Hints.Current

theorem stored (current : h.Current s raw) {key : PostingKey} {ref : RefRow}
    (known : knownRef raw s h = some (.stored key ref)) :
    key = raw.key ∧ s.refs raw.key = some ref := by
  unfold knownRef at known
  split at known
  · rename_i indexed
    obtain ⟨ref', there, same⟩ := Option.map_eq_some_iff.mp known
    cases same
    obtain ⟨rfl, -⟩ := current.row key indexed
    exact ⟨rfl, there⟩
  · cases known
  · split at known
    · obtain ⟨ref', there, same⟩ := Option.map_eq_some_iff.mp known
      cases same
      exact ⟨rfl, there⟩
    · cases known

theorem unknown (current : h.Current s raw) (known : knownRef raw s h = .none) :
    s.refs raw.key = .none := by
  unfold knownRef at known
  split at known
  · rename_i key indexed
    obtain ⟨-, present⟩ := current.row key indexed
    rw [Option.map_eq_none_iff.mp known] at present
    cases present
  · cases known
  · rename_i missing
    split at known
    · exact Option.map_eq_none_iff.mp known
    · rename_i filled
      exact current.none missing (by simpa using filled)

end Hints.Current

/-- An ingestion wrote the row of one posting. -/
structure Ingested.Writes (s : Store) (raw : RawJob μ) (r : Ingested) (j : JobId) : Prop where
  observed : r.observed = some j
  others : ∀ j', j' ≠ j → r.store.market.jobs.get j' = s.market.jobs.get j'
  here : (r.store.market.jobs.get j).isSome
  refs : ∀ k, k ≠ raw.key → r.store.refs k = s.refs k
  ref : ∃ ref, r.store.refs raw.key = some ref ∧ ref.job = j
  whose : ∀ ref, s.refs raw.key = some ref → ref.job = j
  fresh : s.market.jobs.get j = none → j = raw.key

theorem Ingested.Writes.sound (writes : r.Writes s raw j) (sound : s.Sound)
    (kept : r.store.market.Kept) : r.store.Sound where
  kept := kept
  own j' present := by
    by_cases here : j' = j
    · subst here
      by_cases own : j' = raw.key
      · rw [own]
        obtain ⟨ref, stored, same⟩ := writes.ref
        exact ⟨ref, stored, same.trans own⟩
      · have before : (s.market.jobs.get j').isSome := by
          cases found : s.market.jobs.get j' with
          | none => exact absurd (writes.fresh found) own
          | some row => rfl
        rw [writes.refs j' own]
        exact sound.own j' before
    · rw [writes.others j' here] at present
      obtain ⟨ref, stored, same⟩ := sound.own j' present
      have other : j' ≠ raw.key := by
        rintro rfl
        exact here (same.symm.trans (writes.whose ref stored))
      rw [writes.refs j' other]
      exact ⟨ref, stored, same⟩
  found k ref stored := by
    by_cases here : k = raw.key
    · subst here
      obtain ⟨ref', stored', same⟩ := writes.ref
      rw [stored] at stored'
      cases stored'
      rw [same]
      exact writes.here
    · rw [writes.refs k here] at stored
      have before := sound.found k ref stored
      by_cases own : ref.job = j
      · rw [own]
        exact writes.here
      · rwa [writes.others _ own]

/-! ### Storing -/

/-- A posting that is looked up by its source is found where its reference leads. -/
theorem findExistingJob_whose {x : Extractors μ} {job : NormalizedJob} {skip : Bool}
    {matchedBy : MatchedBy} (sound : s.Sound) (skipped : skip = true → s.refs job.key = none)
    (found : findExistingJob x job s skip = some (j, matchedBy)) {ref : RefRow}
    (stored : s.refs job.key = some ref) : ref.job = j := by
  cases skip with
  | true =>
    rw [skipped rfl] at stored
    cases stored
  | false =>
    have bySource : findBySource job s = some (j, matchedBy) := by
      have looked : ∃ m, findBySource job s = some m := by
        unfold findBySource
        split
        · exact ⟨_, rfl⟩
        · have row := sound.found job.key ref stored
          exact ⟨(ref.job, .sourceReference), by simp [stored, Option.filter, row]⟩
      obtain ⟨m, looked⟩ := looked
      unfold findExistingJob at found
      simp only [Bool.false_eq_true, if_false, looked, Option.orElse_eq_orElse,
        Option.orElse_eq_or, Option.some_or] at found
      rw [looked, found]
    unfold findBySource at bySource
    split at bySource
    · rename_i own
      cases bySource
      obtain ⟨ref', stored', same⟩ := sound.own job.key own
      rw [stored] at stored'
      cases stored'
      exact same
    · obtain ⟨ref', present, same⟩ := Option.map_eq_some_iff.mp bySource
      cases same
      rw [stored] at present
      cases (Option.filter_eq_some_iff.mp present).1
      rfl

theorem findByLevel_alike {x : Extractors μ} {job : NormalizedJob} (matchedBy : MatchedBy)
    (found : findByLevel x job (candidates x job s) = some (j, matchedBy)) :
    ∃ row, s.market.jobs.get j = some row ∧ alike x job row = true := by
  have member {p : JobId × JobRow → Bool} {level : MatchedBy}
      (here : ((candidates x job s).find? p).map (fun r => (r.1, level)) = some (j, matchedBy)) :
      ∃ row, s.market.jobs.get j = some row ∧ alike x job row = true := by
    obtain ⟨r, first, same⟩ := Option.map_eq_some_iff.mp here
    cases same
    obtain ⟨stored, matched⟩ :=
      List.mem_filter.mp (List.mem_of_mem_take (List.mem_of_find?_eq_some first))
    exact ⟨r.2, Table.get_eq_some.mpr stored, matched⟩
  unfold findByLevel at found
  simp only [Option.orElse_eq_orElse, Option.orElse_eq_or, Option.or_eq_some_iff] at found
  rcases found with here | ⟨-, here | ⟨-, here | ⟨-, here⟩⟩⟩
  all_goals exact member here

theorem findExistingJob_stored {x : Extractors μ} {job : NormalizedJob} {skip : Bool}
    {matchedBy : MatchedBy} (found : findExistingJob x job s skip = some (j, matchedBy)) :
    (s.market.jobs.get j).isSome := by
  unfold findExistingJob at found
  simp only [Option.orElse_eq_orElse, Option.orElse_eq_or, Option.or_eq_some_iff] at found
  rcases found with bySource | ⟨-, byLevel⟩
  · split at bySource
    · cases bySource
    · unfold findBySource at bySource
      split at bySource
      · rename_i own
        cases bySource
        exact own
      · obtain ⟨ref, present, same⟩ := Option.map_eq_some_iff.mp bySource
        cases same
        exact (Option.filter_eq_some_iff.mp present).2
  · obtain ⟨row, stored, -⟩ := findByLevel_alike _ byLevel
    rw [stored]
    rfl

/-- The reference of a posting as its sighting leaves it. -/
theorem sight_refs (x : Extractors μ) (job : NormalizedJob) (now : Time) (s : Store) (j : JobId) (row : JobRow)
    (matchedBy : MatchedBy) :
    (sight x job now s j row matchedBy).store.refs = Function.update s.refs job.key
      (some (match s.refs job.key with
        | none => newRef job now j
        | some ref => { ref with lastSeenAt := now })) := by
  unfold sight
  dsimp only
  split <;> rfl

theorem afterDedup_stored (current : h.Current s raw) (t : Store) :
    (afterDedup raw h (knownRef raw s h) t).2 = none ∨
      ∃ ref, (afterDedup raw h (knownRef raw s h) t).2 = some (raw.key, ref) ∧
        t.refs raw.key = some ref := by
  unfold afterDedup
  cases known : knownRef raw s h with
  | none =>
    dsimp only
    split
    · exact .inl rfl
    · rename_i ref present
      exact .inr ⟨ref, rfl, present⟩
  | some ref =>
    cases ref with
    | gone at_ => exact .inl rfl
    | stored key ref =>
      obtain ⟨rfl, -⟩ := current.stored known
      cases present : t.refs raw.key with
      | none => exact .inl (by simp [present])
      | some ref' => exact .inr ⟨ref', by simp [present], rfl⟩

/-- A stamp writes no reference but the posting's, and leaves it where it leads. -/
theorem stamp_refs (now : Time) (current : h.Current s raw) (t : Store)
    (leads : ∃ ref, t.refs raw.key = some ref ∧ ref.job = j) (rawHash parseStatus : String) :
    (∀ k, k ≠ raw.key →
      (t.stamp (afterDedup raw h (knownRef raw s h) t).2 rawHash parseStatus now).refs k =
        t.refs k) ∧
    ∃ ref, (t.stamp (afterDedup raw h (knownRef raw s h) t).2 rawHash parseStatus now).refs
      raw.key = some ref ∧ ref.job = j := by
  rcases afterDedup_stored current t with unstamped | ⟨ref, stamped, present⟩
  · rw [unstamped]
    exact ⟨fun _ _ => rfl, leads⟩
  · obtain ⟨ref', present', same⟩ := leads
    rw [present] at present'
    cases present'
    rw [stamped]
    exact ⟨fun k other => Function.update_of_ne other _ _, _, Function.update_self _ _ _, same⟩

theorem touch_writes {ref : RefRow} {row : JobRow} (fits : h.Fits s.market)
    (known : s.refs raw.key = some ref) (found : s.market.jobs.get ref.job = some row) :
    (touch c now s h n raw.key ref ref.job row).Writes s raw ref.job := by
  have jobs : (touch c now s h n raw.key ref ref.job row).store.market.jobs =
      s.market.jobs.set ref.job (row.touched now) := by
    have attached : Attached c now s.market (touch c now s h n raw.key ref ref.job row).store.market
      ref.job (row.touched now) := touch_attached fits
    rw [attached]
    rfl
  refine ⟨rfl, fun j' other => ?_, ?_, fun k other => ?_, ?_, fun ref' known' => ?_, fun free => ?_⟩
  · rw [jobs, Table.get_set_other _ _ other]
  · rw [jobs, Table.get_set_self]
    rfl
  · exact Function.update_of_ne other _ _
  · exact ⟨_, Function.update_self _ _ _, rfl⟩
  · rw [known] at known'
    cases known'
    rfl
  · rw [found] at free
    cases free

theorem store_writes (sound : s.Sound) (current : h.Current s raw)
    (done : store c raw now s h n (knownRef raw s h) = some r) : ∃ j, r.Writes s raw j := by
  obtain ⟨j, row, -, observed, attached⟩ := store_attached sound.kept current.fits done
  obtain ⟨d, row', processed, found, rfl⟩ := store_eq_some done
  cases observed
  have jobs : ∀ j', j' ≠ d.job → (s.market.putJob d.job row).jobs.get j' = s.market.jobs.get j' :=
    fun j' other => Table.get_set_other _ _ other
  have skipped : (!h.refs.isEmpty && (knownRef raw s h).isNone) = true →
      s.refs (c.extractors.enriched c.companyName raw).key = none := by
    intro skip
    rw [Bool.and_eq_true, Option.isNone_iff_eq_none] at skip
    rw [enriched_key]
    exact current.unknown skip.2
  -- what deduplication does to the references
  have written : (∀ k, k ≠ raw.key → d.store.refs k = s.refs k) ∧
      (∃ ref, d.store.refs raw.key = some ref ∧ ref.job = d.job) ∧
      (∀ ref, s.refs raw.key = some ref → ref.job = d.job) ∧
      (s.market.jobs.get d.job = none → d.job = raw.key) := by
    rcases process_cases processed with ⟨-, -, free, rfl⟩ | ⟨j, matchedBy, before, known, there, rfl⟩
    · rw [enriched_key] at free
      refine ⟨fun k other => Function.update_of_ne (by rwa [enriched_key]) _ _,
        ⟨newRef (c.extractors.enriched c.companyName raw) now
          (c.extractors.enriched c.companyName raw).key, ?_, rfl⟩,
        fun ref present => ?_, fun _ => enriched_key _ _ _⟩
      · rw [← enriched_key c.extractors c.companyName raw]
        exact Function.update_self _ _ _
      · rw [free] at present
        cases present
    · have whose (ref : RefRow) (present : s.refs _ = some ref) : ref.job = j :=
        findExistingJob_whose sound skipped known present
      rw [enriched_key] at whose
      rw [sight_job, sight_refs, enriched_key]
      refine ⟨fun k other => Function.update_of_ne other _ _, ⟨_, Function.update_self _ _ _, ?_⟩,
        whose, fun free => ?_⟩
      · cases present : s.refs raw.key with
        | none => rfl
        | some ref => exact whose ref present
      · rw [there] at free
        cases free
  obtain ⟨others, leads, whose, fresh⟩ := written
  obtain ⟨unstamped, stamped⟩ := stamp_refs now current d.store leads
    (c.extractors.computeRawHash raw) (c.extractors.enriched c.companyName raw).processingStatus
  refine ⟨d.job, rfl, fun j' other => ?_, ?_, fun k other => ?_, stamped, whose, fresh⟩
  · rw [attached]
    exact jobs j' other
  · rw [attached]
    exact (by simp : ((s.market.jobs.set d.job row).get d.job).isSome)
  · exact (unstamped k other).trans (others k other)

/-- An ingestion skips the posting or writes its row. -/
theorem ingestOne_tracks (sound : s.Sound) (current : h.Current s raw)
    (done : ingestOne c raw now s h n = some r) :
    r = ⟨s, h.refs, { n with resumedSkipped := n.resumedSkipped + 1 },
        ((knownRef raw s h).bind (·.job s)).map Prod.fst⟩ ∧ knownRef raw s h ≠ none ∨
      ∃ j, r.Writes s raw j := by
  rcases ingestOne_cases done with ⟨resumed, rfl⟩ | ⟨-, ⟨key, ref, row, known, found, -, rfl⟩ |
    ⟨-, stored⟩⟩
  · refine .inl ⟨rfl, fun unknown => ?_⟩
    rw [unknown] at resumed
    cases resumed
  · obtain ⟨rfl, present⟩ := current.stored known
    exact .inr ⟨ref.job, touch_writes current.fits present found⟩
  · exact .inr (store_writes sound current stored)

theorem ingestOne_sound (sound : s.Sound) (current : h.Current s raw)
    (done : ingestOne c raw now s h n = some r) : r.store.Sound := by
  rcases ingestOne_tracks sound current done with ⟨rfl, -⟩ | ⟨j, writes⟩
  · exact sound
  · exact writes.sound sound (ingestOne_kept sound.kept current.fits done)

/-- A posting with no reference makes its own row, or is found to be a row that is alike. -/
theorem ingestOne_alike (sound : s.Sound) (current : h.Current s raw)
    (done : ingestOne c raw now s h n = some r) (unknown : s.refs raw.key = none)
    (writes : r.Writes s raw j) : j = raw.key ∨ ∃ row, s.market.jobs.get j = some row ∧
      alike c.extractors (c.extractors.enriched c.companyName raw) row = true := by
  have free : s.market.jobs.get raw.key = none := by
    cases present : s.market.jobs.get raw.key with
    | none => rfl
    | some row =>
      obtain ⟨ref, stored, -⟩ := sound.own raw.key (by rw [present]; rfl)
      rw [unknown] at stored
      cases stored
  rcases ingestOne_cases done with ⟨-, rfl⟩ | ⟨-, ⟨key, ref, row, known, found, -, rfl⟩ |
    ⟨-, stored⟩⟩
  · obtain ⟨ref, present, -⟩ := writes.ref
    rw [unknown] at present
    cases present
  · rw [(current.stored known).2] at unknown
    cases unknown
  · obtain ⟨d, row, processed, -, rfl⟩ := store_eq_some stored
    cases writes.observed
    rcases process_cases processed with ⟨-, -, -, rfl⟩ | ⟨j', matchedBy, before, found, -, rfl⟩
    · exact .inl (enriched_key _ _ _)
    · rw [sight_job]
      refine .inr (findByLevel_alike matchedBy ?_)
      have bySource : findBySource (c.extractors.enriched c.companyName raw) s = none := by
        unfold findBySource
        rw [enriched_key, free, unknown]
        rfl
      unfold findExistingJob at found
      rw [bySource] at found
      simpa using found

/-- No reference is lost or leads elsewhere afterwards. -/
theorem ingestOne_ref (sound : s.Sound) (current : h.Current s raw)
    (done : ingestOne c raw now s h n = some r) {k : PostingKey} {ref : RefRow}
    (stored : s.refs k = some ref) : ∃ ref', r.store.refs k = some ref' ∧ ref'.job = ref.job := by
  rcases ingestOne_tracks sound current done with ⟨rfl, -⟩ | ⟨j, writes⟩
  · exact ⟨ref, stored, rfl⟩
  · by_cases here : k = raw.key
    · subst here
      obtain ⟨ref', after, leads⟩ := writes.ref
      exact ⟨ref', after, leads.trans (writes.whose ref stored).symm⟩
    · exact ⟨ref, (writes.refs k here).trans stored, rfl⟩

/-- A posting whose reference is known is observed to be the row that its reference leads to. -/
theorem ingestOne_observed (sound : s.Sound) (current : h.Current s raw)
    (done : ingestOne c raw now s h n = some r) {key : PostingKey} {ref : RefRow}
    (known : knownRef raw s h = some (.stored key ref)) : r.observed = some ref.job := by
  rcases ingestOne_tracks sound current done with ⟨rfl, -⟩ | ⟨j, writes⟩
  · obtain ⟨-, present⟩ := current.stored known
    obtain ⟨row, found⟩ := Option.isSome_iff_exists.mp (sound.found _ ref present)
    simp [known, KnownRef.job, found]
  · rw [writes.observed, writes.whose ref (current.stored known).2]

/-- While the index is current, nothing that is inserted breaks a unique key. -/
theorem ingestOne_isSome (c : RunConfig μ) (now : Time) (n : Counters) (sound : s.Sound) (current : h.Current s raw) :
    ∃ r, ingestOne c raw now s h n = some r := by
  have storing : ∃ r, store c raw now s h n (knownRef raw s h) = some r := by
    have processed : ∃ d, process c.extractors (c.extractors.enriched c.companyName raw) now s
        (!h.refs.isEmpty && (knownRef raw s h).isNone) = some d := by
      unfold process
      split
      · rename_i missed
        have bySource : s.refs raw.key = none := by
          cases known : knownRef raw s h with
          | none => exact current.unknown known
          | some ref =>
            unfold findExistingJob at missed
            simp only [known, Option.isNone_some, Bool.and_false, Bool.false_eq_true, if_false,
              Option.orElse_eq_orElse, Option.orElse_eq_or, Option.or_eq_none_iff] at missed
            have missed := missed.1
            unfold findBySource at missed
            split at missed
            · cases missed
            · rw [Option.map_eq_none_iff, enriched_key] at missed
              cases present : s.refs raw.key with
              | none => rfl
              | some ref' =>
                rw [present, Option.filter, if_pos (sound.found _ ref' present)] at missed
                cases missed
        have own : s.market.jobs.get raw.key = none := by
          cases present : s.market.jobs.get raw.key with
          | none => rfl
          | some row =>
            obtain ⟨ref, stored, -⟩ := sound.own raw.key (by rw [present]; rfl)
            rw [bySource] at stored
            cases stored
        rw [enriched_key, own, bySource]
        exact ⟨_, rfl⟩
      · rename_i j matchedBy found
        obtain ⟨row, stored⟩ := Option.isSome_iff_exists.mp (findExistingJob_stored found)
        rw [stored]
        exact ⟨_, rfl⟩
    obtain ⟨d, processed⟩ := processed
    obtain ⟨row, written, -, -⟩ := process_market (enriched_jobStatus _ _ _) processed
    have found : d.store.market.jobs.get d.job = some row := by
      rw [written, Market.putJob_jobs, Table.get_set_self]
    unfold store
    simp only [Option.bind_eq_bind, processed, Option.bind_some, Store.stamp_market, found]
    exact ⟨_, rfl⟩
  unfold ingestOne
  dsimp only
  split
  · exact ⟨_, rfl⟩
  · split
    · split
      · split
        · exact ⟨_, rfl⟩
        · exact storing
      · exact storing
    · exact storing

theorem process_ref {x : Extractors μ} {job : NormalizedJob} {skip : Bool} {d : DedupResult}
    (done : process x job now s skip = some d) : (d.store.refs job.key).isSome := by
  rcases process_cases done with ⟨-, -, -, rfl⟩ | ⟨j, matchedBy, row, -, -, rfl⟩
  · simp [Store.putRef]
  · rw [sight_refs, Function.update_self]
    rfl

/-- What is not known when a posting is stored is indexed afterwards. -/
theorem ingestOne_refs (done : ingestOne c raw now s h n = some r) :
    knownRef raw s h ≠ none ∧ r.refs = h.refs ∨
      knownRef raw s h = none ∧ r.refs = (raw.sourceJobId, .row raw.key) :: h.refs := by
  cases known : knownRef raw s h with
  | some ref =>
    refine .inl ⟨nofun, ?_⟩
    rcases ingestOne_cases done with ⟨-, rfl⟩ | ⟨-, ⟨key, ref, row, -, -, -, rfl⟩ | ⟨-, stored⟩⟩
    · rfl
    · rfl
    · obtain ⟨d, row, -, -, rfl⟩ := store_eq_some stored
      rw [known]
      cases ref <;> rfl
  | none =>
    refine .inr ⟨rfl, ?_⟩
    rcases ingestOne_cases done with ⟨resumed, -⟩ | ⟨-, ⟨key, ref, row, stored, -⟩ | ⟨-, stored⟩⟩
    · rw [known] at resumed
      cases resumed
    · rw [known] at stored
      cases stored
    · obtain ⟨d, row, processed, -, rfl⟩ := store_eq_some stored
      obtain ⟨ref, present⟩ := Option.isSome_iff_exists.mp (process_ref processed)
      rw [enriched_key, RawJob.key] at present
      rw [known]
      simp [afterDedup, present, RawJob.key]

end Track

/-! ### The loop -/

section Loop
variable {μ : Type} {c : RunConfig μ} {l : LoopState} {p : Fetched μ} {ids : List String}

/-- The stores are sound, and the index says of the fetched ids what both stores say. -/
structure LoopState.Tracks (source : String) (ids : List String) (l : LoopState) : Prop where
  sound : l.data.Holds Store.Sound
  fits : l.data.Holds fun s => l.hints.Fits s.market
  row : ∀ id key, l.hints.refs.lookup id = some (.row key) →
    key = ⟨source, id⟩ ∧ (l.data.working.refs key).isSome
  absent : ∀ id ∈ ids, l.hints.refs.lookup id = none →
    l.data.Holds fun s => s.refs ⟨source, id⟩ = none

theorem LoopState.Tracks.current (tracks : l.Tracks c.source ids) (own : p.raw.source = c.source)
    (listed : p.raw.sourceJobId ∈ ids) : l.hints.Current l.data.working p.raw where
  row key indexed := by
    rw [RawJob.key, own]
    exact tracks.row _ key indexed
  none missing _ := by
    rw [RawJob.key, own]
    exact (tracks.absent _ listed missing).working
  fits := tracks.fits.working

/-- The four ways an ingestion goes. -/
theorem ingest_cases (tracks : l.Tracks c.source ids) (own : p.raw.source = c.source)
    (listed : p.raw.sourceJobId ∈ ids) :
    ∃ r, ingestOne c p.raw p.now l.data.working l.hints l.counters = some r ∧
      (p.raises = none ∧ l.ingest c p = ⟨l.data.save commitBatchSize r.store,
          ⟨r.refs, l.hints.links⟩, r.counters, l.observe r.observed⟩ ∨
        p.raises = some .unstored ∧ l.ingest c p =
          l.rollback l.data.working l.hints.refs l.counters l.observed ∨
        p.raises = some .indexed ∧ l.ingest c p =
          l.rollback r.store r.refs l.counters l.observed ∨
        p.raises = some .counted ∧ l.ingest c p =
          l.rollback r.store r.refs r.counters (l.observe r.observed)) := by
  obtain ⟨r, done⟩ := ingestOne_isSome c p.now l.counters
    tracks.sound.working (tracks.current own listed)
  refine ⟨r, done, ?_⟩
  unfold LoopState.ingest
  rw [done]
  cases raises : p.raises with
  | none => exact .inl ⟨rfl, rfl⟩
  | some stage =>
    cases stage with
    | unstored => exact .inr (.inl ⟨rfl, rfl⟩)
    | indexed => exact .inr (.inr (.inl ⟨rfl, rfl⟩))
    | counted => exact .inr (.inr (.inr ⟨rfl, rfl⟩))

theorem lookup_map {α β γ : Type} [BEq α] (f : β → γ) (entries : List (α × β)) (k : α) :
    (entries.map fun e => (e.1, f e.2)).lookup k = (entries.lookup k).map f := by
  induction entries with
  | nil => rfl
  | cons e entries ih =>
    rw [List.map_cons, List.lookup_cons, List.lookup_cons, ih]
    split <;> rfl

/-- A rollback from a store that the index was current with. -/
theorem LoopState.Tracks.rollback {lost : Store} {refs : List (String × Indexed)}
    (tracks : l.Tracks c.source ids)
    (row : ∀ id key, refs.lookup id = some (.row key) →
      key = ⟨c.source, id⟩ ∧ (lost.refs key).isSome)
    (absent : ∀ id ∈ ids, refs.lookup id = none → l.hints.refs.lookup id = none)
    (n : Counters) (observed : List JobId) :
    (l.rollback lost refs n observed).Tracks c.source ids where
  sound := tracks.sound.rollback
  fits := tracks.fits.rollback
  row id key indexed := by
    rw [LoopState.rollback] at indexed
    dsimp only at indexed
    rw [lookup_map, Option.map_eq_some_iff] at indexed
    obtain ⟨e, before, after⟩ := indexed
    cases e with
    | gone t => cases after
    | row key' =>
      obtain ⟨rfl, present⟩ := row id key' before
      obtain ⟨ref, present⟩ := Option.isSome_iff_exists.mp present
      unfold Indexed.afterRollback at after
      dsimp only at after
      rw [present] at after
      cases kept : l.data.rollback.working.refs ⟨c.source, id⟩ with
      | none =>
        rw [kept] at after
        cases after
      | some ref' =>
        rw [kept] at after
        cases after
        exact ⟨rfl, by rw [LoopState.rollback]; dsimp only; rw [kept]; rfl⟩
  absent id listed missing := by
    rw [LoopState.rollback] at missing
    dsimp only at missing
    rw [lookup_map, Option.map_eq_none_iff] at missing
    exact (tracks.absent id listed (absent id listed missing)).rollback

/-- What is indexed after an ingestion is stored then, and what is not was not before. -/
theorem ingestOne_index {r : Ingested} (tracks : l.Tracks c.source ids)
    (own : p.raw.source = c.source) (listed : p.raw.sourceJobId ∈ ids)
    (done : ingestOne c p.raw p.now l.data.working l.hints l.counters = some r) :
    (∀ id key, r.refs.lookup id = some (.row key) →
      key = ⟨c.source, id⟩ ∧ (r.store.refs key).isSome) ∧
    ∀ id, r.refs.lookup id = none → l.hints.refs.lookup id = none ∧
      (l.data.working.refs ⟨c.source, id⟩ = none → r.store.refs ⟨c.source, id⟩ = none) := by
  have current := tracks.current own listed
  have key : p.raw.key = ⟨c.source, p.raw.sourceJobId⟩ := by rw [RawJob.key, own]
  have present : ∀ k, (l.data.working.refs k).isSome → (r.store.refs k).isSome := by
    intro k before
    rcases ingestOne_tracks tracks.sound.working current done with ⟨rfl, -⟩ | ⟨j, writes⟩
    · exact before
    · by_cases here : k = p.raw.key
      · obtain ⟨ref, stored, -⟩ := writes.ref
        rw [here, stored]
        rfl
      · rwa [writes.refs k here]
  have absent : ∀ k, k ≠ p.raw.key → r.store.refs k = l.data.working.refs k := by
    intro k other
    rcases ingestOne_tracks tracks.sound.working current done with ⟨rfl, -⟩ | ⟨j, writes⟩
    · rfl
    · exact writes.refs k other
  rcases ingestOne_refs done with ⟨known, same⟩ | ⟨known, more⟩
  · rw [same]
    refine ⟨fun id k indexed => ?_, fun id missing => ⟨missing, fun free => ?_⟩⟩
    · obtain ⟨rfl, before⟩ := tracks.row id k indexed
      exact ⟨rfl, present _ before⟩
    · by_cases here : id = p.raw.sourceJobId
      · subst here
        exact absurd (by simp [knownRef, missing, own, free]) known
      · rw [absent _ (by rw [key]; simpa using here), free]
  · rw [more]
    refine ⟨fun id k indexed => ?_, fun id missing => ?_⟩
    · rw [List.lookup_cons] at indexed
      by_cases here : id = p.raw.sourceJobId
      · subst here
        rw [beq_self_eq_true] at indexed
        cases indexed
        refine ⟨key, ?_⟩
        rcases ingestOne_tracks tracks.sound.working current done with ⟨-, unknown⟩ | ⟨j, writes⟩
        · exact absurd known unknown
        · obtain ⟨ref, stored, -⟩ := writes.ref
          rw [stored]
          rfl
      · rw [beq_eq_false_iff_ne.mpr here] at indexed
        obtain ⟨rfl, before⟩ := tracks.row id k indexed
        exact ⟨rfl, present _ before⟩
    · rw [List.lookup_cons] at missing
      by_cases here : id = p.raw.sourceJobId
      · subst here
        rw [beq_self_eq_true] at missing
        cases missing
      · rw [beq_eq_false_iff_ne.mpr here] at missing
        exact ⟨missing, fun free => by rw [absent _ (by rw [key]; simpa using here), free]⟩

theorem ingest_tracks (tracks : l.Tracks c.source ids) (own : p.raw.source = c.source)
    (listed : p.raw.sourceJobId ∈ ids) : (l.ingest c p).Tracks c.source ids := by
  have current := tracks.current own listed
  obtain ⟨r, done, went⟩ := ingest_cases tracks own listed
  have sound := ingestOne_sound tracks.sound.working current done
  have refs := ingestOne_index tracks own listed done
  rcases went with ⟨-, went⟩ | ⟨-, went⟩ | ⟨-, went⟩ | ⟨-, went⟩
  · rw [went]
    refine ⟨tracks.sound.save _ sound, tracks.fits.save _ fun j k hint => ?_, fun id k indexed => ?_,
      fun id listed missing => ?_⟩
    · exact ingestOne_links tracks.sound.working.kept current.fits done
        (tracks.fits.working j k hint)
    · dsimp only at indexed ⊢
      rw [Batch.save_working]
      exact refs.1 id k indexed
    · obtain ⟨before, free⟩ := refs.2 id missing
      have holds := tracks.absent id listed before
      exact holds.save _ (free holds.working)
  · rw [went]
    exact tracks.rollback tracks.row (fun _ _ missing => missing) _ _
  · rw [went]
    exact tracks.rollback refs.1 (fun id _ missing => (refs.2 id missing).1) _ _
  · rw [went]
    exact tracks.rollback refs.1 (fun id _ missing => (refs.2 id missing).1) _ _

theorem next_tracks (tracks : l.Tracks c.source ids) (own : p.raw.source = c.source)
    (listed : c.exit p.raw = .ingested → p.raw.sourceJobId ∈ ids) :
    (l.next c p).Tracks c.source ids := by
  unfold LoopState.next
  split
  · exact ⟨tracks.sound, tracks.fits, tracks.row, tracks.absent⟩
  · exact ⟨tracks.sound, tracks.fits, tracks.row, tracks.absent⟩
  · exact ⟨tracks.sound, tracks.fits, tracks.row, tracks.absent⟩
  · rename_i ingested
    exact ingest_tracks tracks own (listed ingested)

end Loop

/-- The ids that references are prefetched for. -/
def fetchedIds {μ : Type} (postings : List (Fetched μ)) : List String :=
  (postings.map fun p => p.raw.sourceJobId).filter (· ≠ "")

section Start
variable {μ : Type} {c : RunConfig μ} {s : Store} {postings : List (Fetched μ)}

theorem ingested_id {p : Fetched μ} (listed : p ∈ postings) (ingested : c.exit p.raw = .ingested) :
    p.raw.sourceJobId ∈ fetchedIds postings := by
  refine List.mem_filter.mpr ⟨List.mem_map_of_mem listed, ?_⟩
  simp only [decide_eq_true_eq]
  intro empty
  simp [RunConfig.exit, Extractors.validateRawJob, empty] at ingested

theorem lookup_graph_iff {α β : Type} [DecidableEq α] (f : α → β) (keys : List α) (k : α) :
    (keys.map fun k => (k, f k)).lookup k = if k ∈ keys then some (f k) else none := by
  induction keys with
  | nil => rfl
  | cons k' keys ih =>
    rw [List.map_cons, List.lookup_cons, ih]
    by_cases here : k = k'
    · simp [here]
    · simp [here, beq_eq_false_iff_ne.mpr here]

theorem prefetch_lookup (id : String) : (prefetchReferences c.source s postings).lookup id =
    if id ∈ fetchedIds postings ∧ (s.refs ⟨c.source, id⟩).isSome then some (.row ⟨c.source, id⟩)
    else none := by
  unfold prefetchReferences
  rw [lookup_graph_iff fun id => Indexed.row ⟨c.source, id⟩]
  refine if_congr ?_ rfl rfl
  simp only [fetchedIds, List.mem_filter, List.mem_dedup, Bool.and_eq_true, decide_eq_true_eq,
    and_assoc]

theorem start_tracks (sound : s.Sound) :
    (LoopState.start c s postings).Tracks c.source (fetchedIds postings) where
  sound := .clean sound
  fits := .clean (prefetchLinks_fits _)
  row id key indexed := by
    rw [LoopState.start] at indexed
    dsimp only at indexed
    rw [prefetch_lookup] at indexed
    split at indexed
    · rename_i stored
      cases indexed
      exact ⟨rfl, stored.2⟩
    · cases indexed
  absent id listed missing := by
    rw [LoopState.start] at missing
    dsimp only at missing
    rw [prefetch_lookup] at missing
    split at missing
    · cases missing
    · rename_i free
      refine .clean ?_
      simpa [listed] using free

end Start

end RangeApply.Postings
