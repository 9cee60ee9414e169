import RangeApply.Hints
import RangeApply.Listing

/-! A run with failing postings beside the run without them. -/
namespace RangeApply.Postings

section Isolation
variable {μ : Type} {c : RunConfig μ}

/-- What becomes of a posting: passed over, saved or failed. -/
def Fetched.verdict (c : RunConfig μ) (p : Fetched μ) : Batch.Verdict :=
  if c.exit p.raw = .ingested then if p.raises.isSome then .failed else .saved else .passed

/-- The fetch without the postings that raise. -/
def Fetch.survivors (f : Fetch c) : Fetch c where
  postings := f.postings.filter fun p => decide (p.verdict c ≠ .failed)
  own p member := f.own p (List.mem_filter.mp member).1

/-- The run stores and counts what it does without the failing postings. -/
structure Isolated (f : Fetch c) (s : Store) : Prop where
  store : (ingestAll c s f.postings).data.stored = (ingestAll c s f.survivors.postings).data.stored
  new : (ingestAll c s f.postings).counters.new =
    (ingestAll c s f.survivors.postings).counters.new
  updated : (ingestAll c s f.postings).counters.updated =
    (ingestAll c s f.survivors.postings).counters.updated
  duplicate : (ingestAll c s f.postings).counters.duplicate =
    (ingestAll c s f.survivors.postings).counters.duplicate

/-- A posting that raises after its reference was indexed is not saved later on. -/
def Once (c : RunConfig μ) (p q : Fetched μ) : Prop :=
  p.verdict c = .failed → p.raises = some .indexed → q.verdict c = .saved →
    q.raw.sourceJobId ≠ p.raw.sourceJobId

/-- Every posting that raises does so when nothing is uncommitted, and leaves nothing behind in the
loop: it is not counted, and its reference not indexed, or not asked for again. -/
structure Calm (c : RunConfig μ) (postings : List (Fetched μ)) : Prop where
  aligned : Batch.Aligned commitBatchSize 0 (postings.map (Fetched.verdict c))
  uncounted : ∀ p ∈ postings, p.verdict c = .failed → p.raises ≠ some .counted
  once : postings.Pairwise (Once c)

variable {p : Fetched μ}

theorem verdict_saved : p.verdict c = .saved ↔ c.exit p.raw = .ingested ∧ p.raises = none := by
  unfold Fetched.verdict
  cases p.raises <;> by_cases ingested : c.exit p.raw = .ingested <;> simp [ingested]

theorem verdict_failed :
    p.verdict c = .failed ↔ c.exit p.raw = .ingested ∧ ∃ stage, p.raises = some stage := by
  unfold Fetched.verdict
  cases p.raises <;> by_cases ingested : c.exit p.raw = .ingested <;> simp [ingested]

theorem verdict_passed : p.verdict c = .passed ↔ c.exit p.raw ≠ .ingested := by
  unfold Fetched.verdict
  cases p.raises <;> by_cases ingested : c.exit p.raw = .ingested <;> simp [ingested]

theorem next_passed {l : LoopState} (passing : p.verdict c = .passed) :
    (l.next c p).data = l.data := by
  have exit := verdict_passed.mp passing
  unfold LoopState.next
  split
  · rfl
  · rfl
  · rfl
  · rename_i ingested
    exact absurd ingested exit

/-! ### Counting failures changes no other counter -/

theorem ingestOne_failing {raw : RawJob μ} {now : Time} {s : Store} {h : Hints} {n : Counters}
    {r : Ingested} (k : Nat) (done : ingestOne c raw now s h n = some r) :
    ingestOne c raw now s h { n with failed := k } =
      some { r with counters := { r.counters with failed := k } } := by
  unfold ingestOne at done ⊢
  dsimp only at done ⊢
  have storing (known : Option KnownRef) (done : store c raw now s h n known = some r) :
      store c raw now s h { n with failed := k } known =
        some { r with counters := { r.counters with failed := k } } := by
    obtain ⟨d, row, processed, found, rfl⟩ := store_eq_some done
    unfold store
    simp only [Option.bind_eq_bind, processed, Option.bind_some, Store.stamp_market, found]
    rfl
  split at done
  · rename_i again
    cases done
    rw [if_pos again]
  · rename_i fresh
    rw [if_neg fresh]
    split at done
    · split at done
      · split at done
        · rename_i hash
          cases done
          rw [if_pos hash]
          rfl
        · rename_i hash
          rw [if_neg hash]
          exact storing _ done
      · exact storing _ done
    · exact storing _ done

/-! ### The two runs, posting by posting -/

/-- The run with the failing postings and the run without them, before the postings that are left:
what is saved next has no reference that was lost. -/
structure Beside (f : Fetch c) (rest : List (Fetched μ)) (l l' : LoopState) : Prop where
  tracks : l.Tracks c.source (fetchedIds f.postings)
  tracks' : l'.Tracks c.source (fetchedIds f.survivors.postings)
  data : l'.data = l.data
  lossless : l.data.Lossless
  counters : l'.counters = { l.counters with failed := 0 }
  indexed : ∀ q ∈ rest, q.verdict c = .saved →
    ∀ t, l.hints.refs.lookup q.raw.sourceJobId ≠ some (.gone t)
  indexed' : ∀ id t, l'.hints.refs.lookup id ≠ some (.gone t)

namespace Beside
variable {f : Fetch c} {rest : List (Fetched μ)} {l l' : LoopState}

theorem start {s : Store} (sound : s.Sound) :
    Beside f f.postings (.start c s f.postings) (.start c s f.survivors.postings) where
  tracks := start_tracks sound
  tracks' := start_tracks sound
  data := rfl
  lossless := Batch.clean_lossless s
  counters := rfl
  indexed q _ _ t lost := by
    rw [LoopState.start] at lost
    dsimp only at lost
    rw [prefetch_lookup] at lost
    split at lost <;> cases lost
  indexed' id t lost := by
    rw [LoopState.start] at lost
    dsimp only at lost
    rw [prefetch_lookup] at lost
    split at lost <;> cases lost

/-- No reference is lost by an ingestion. -/
theorem lookup_gone {raw : RawJob μ} {now : Time} {s : Store} {h : Hints} {n : Counters}
    {r : Ingested} (done : ingestOne c raw now s h n = some r) {id : String} {t : Time}
    (lost : r.refs.lookup id = some (.gone t)) : h.refs.lookup id = some (.gone t) := by
  rcases ingestOne_refs done with ⟨-, same⟩ | ⟨-, more⟩
  · rwa [same] at lost
  · rw [more, List.lookup_cons] at lost
    split at lost
    · cases lost
    · exact lost

theorem passed (beside : Beside f (p :: rest) l l') (passing : p.verdict c = .passed) :
    Beside f rest (l.next c p) (l'.next c p) := by
  have exit := verdict_passed.mp passing
  have indexed := fun q member => beside.indexed q (List.mem_cons_of_mem p member)
  have tracks := beside.tracks
  have tracks' := beside.tracks'
  cases exits : c.exit p.raw with
  | ingested => exact absurd exits exit
  | _ =>
    simp only [LoopState.next, exits]
    refine ⟨⟨tracks.sound, tracks.fits, tracks.row, tracks.absent⟩,
      ⟨tracks'.sound, tracks'.fits, tracks'.row, tracks'.absent⟩, beside.data, beside.lossless,
      ?_, indexed, beside.indexed'⟩
    rw [beside.counters]

theorem saved (beside : Beside f (p :: rest) l l') (member : p ∈ f.postings)
    (kept : p.verdict c = .saved) : Beside f rest (l.next c p) (l'.next c p) ∧
      (l.next c p).data.pending = Batch.advance commitBatchSize l.data.pending := by
  obtain ⟨exit, raises⟩ := verdict_saved.mp kept
  have own := f.own p member
  have member' : p ∈ f.survivors.postings :=
    List.mem_filter.mpr ⟨member, by rw [kept]; decide⟩
  have listed := ingested_id member exit
  have listed' := ingested_id member' exit
  have current := beside.tracks.current own listed
  have current' := beside.tracks'.current own listed'
  obtain ⟨r, done, went⟩ := ingest_cases beside.tracks own listed
  obtain ⟨r', done', went'⟩ := ingest_cases beside.tracks' own listed'
  have next : l.next c p = ⟨l.data.save commitBatchSize r.store, ⟨r.refs, l.hints.links⟩, r.counters,
      l.observe r.observed⟩ := by
    rw [LoopState.next, exit]
    simpa [raises] using went
  have next' : l'.next c p = ⟨l'.data.save commitBatchSize r'.store, ⟨r'.refs, l'.hints.links⟩,
      r'.counters, l'.observe r'.observed⟩ := by
    rw [LoopState.next, exit]
    simpa [raises] using went'
  rw [beside.data] at current' done'
  have same : knownRef p.raw l.data.working l'.hints = knownRef p.raw l.data.working l.hints := by
    rw [current.knownRef fun t lost => beside.indexed p List.mem_cons_self kept t
        ((knownRef_gone t).mp lost),
      current'.knownRef fun t lost => beside.indexed' _ t ((knownRef_gone t).mp lost)]
  obtain ⟨r₂, done₂, alike⟩ := ingestOne_same beside.tracks.sound.working current current' same done
  rw [beside.counters, ingestOne_failing 0 done₂] at done'
  cases done'
  have tracks := next_tracks beside.tracks own fun _ => listed
  have tracks' := next_tracks beside.tracks' own fun _ => listed'
  rw [next] at tracks ⊢
  rw [next'] at tracks' ⊢
  refine ⟨⟨tracks, tracks', ?_, Batch.save_lossless _ _ _, ?_, ?_, ?_⟩, Batch.save_pending _ _ _⟩
  · dsimp only
    rw [beside.data, alike.store]
  · dsimp only
    rw [alike.counters]
  · intro q later kept t lost
    exact beside.indexed q (List.mem_cons_of_mem p later) kept t (lookup_gone done lost)
  · intro id t lost
    exact beside.indexed' id t (lookup_gone done₂ lost)

/-- A posting that raises with nothing uncommitted leaves the run where it was. -/
theorem failed (beside : Beside f (p :: rest) l l') (member : p ∈ f.postings)
    (fails : p.verdict c = .failed) (settled : l.data.pending = 0)
    (uncounted : p.raises ≠ some .counted) (once : ∀ q ∈ rest, Once c p q) :
    Beside f rest (l.next c p) l' ∧ (l.next c p).data.pending = 0 := by
  obtain ⟨exit, stage, raises⟩ := verdict_failed.mp fails
  have own := f.own p member
  have listed := ingested_id member exit
  obtain ⟨r, done, went⟩ := ingest_cases beside.tracks own listed
  have back : l.data.rollback = l.data := Batch.rollback_of_settled beside.lossless settled
  have tracks := next_tracks beside.tracks own fun _ => listed
  have next : l.next c p = l.ingest c p := by rw [LoopState.next, exit]
  rw [next] at tracks ⊢
  have lookup {lost : Store} {refs : List (String × Indexed)} {id : String} {t : Time}
      (kept : ∀ key, refs.lookup id = some (.row key) → lost.refs key = l.data.working.refs key)
      (found : refs.lookup id ≠ some (.gone t)) :
      (l.rollback lost refs l.counters l.observed).hints.refs.lookup id ≠ some (.gone t) := by
    rw [LoopState.rollback]
    dsimp only
    rw [lookup_map, back]
    intro gone
    obtain ⟨e, indexed, after⟩ := Option.map_eq_some_iff.mp gone
    cases e with
    | gone t' =>
      cases after
      exact found indexed
    | row key =>
      rw [Indexed.afterRollback, kept key indexed] at after
      cases present : l.data.working.refs key <;> simp [present] at after
  rcases went with ⟨none_, -⟩ | ⟨-, went⟩ | ⟨indexed, went⟩ | ⟨counted, -⟩
  · rw [raises] at none_
    cases none_
  · rw [went] at tracks ⊢
    refine ⟨⟨tracks, beside.tracks', ?_, ?_, ?_, ?_, beside.indexed'⟩, rfl⟩
    · rw [beside.data]
      exact back.symm
    · exact Batch.clean_lossless _
    · rw [beside.counters]
      rfl
    · intro q later kept t
      exact lookup (fun _ _ => rfl) (beside.indexed q (List.mem_cons_of_mem p later) kept t)
  · rw [went] at tracks ⊢
    refine ⟨⟨tracks, beside.tracks', ?_, ?_, ?_, ?_, beside.indexed'⟩, rfl⟩
    · rw [beside.data]
      exact back.symm
    · exact Batch.clean_lossless _
    · rw [beside.counters]
      rfl
    · intro q later kept t
      refine lookup (fun key found => ?_) fun lost =>
        beside.indexed q (List.mem_cons_of_mem p later) kept t (lookup_gone done lost)
      obtain ⟨rfl, -⟩ := (ingestOne_index beside.tracks own listed done).1 _ key found
      have other : (⟨c.source, q.raw.sourceJobId⟩ : PostingKey) ≠ p.raw.key := by
        intro same
        exact once q later fails indexed kept (congrArg PostingKey.sourceJobId same)
      rcases ingestOne_tracks beside.tracks.sound.working (beside.tracks.current own listed) done with
        ⟨rfl, -⟩ | ⟨j, writes⟩
      · rfl
      · exact writes.refs _ other
  · exact absurd counted uncounted

theorem run (listed : rest ⊆ f.postings)
    (aligned : Batch.Aligned commitBatchSize l.data.pending (rest.map (Fetched.verdict c)))
    (uncounted : ∀ p ∈ rest, p.verdict c = .failed → p.raises ≠ some .counted)
    (once : rest.Pairwise (Once c)) (beside : Beside f rest l l') :
    Beside f [] (rest.foldl (LoopState.next c) l)
      ((rest.filter fun p => decide (p.verdict c ≠ .failed)).foldl (LoopState.next c) l') := by
  induction rest generalizing l l' with
  | nil => exact beside
  | cons p rest ih =>
    have member := listed List.mem_cons_self
    have listed := List.subset_of_cons_subset listed
    have uncounted' := fun q later => uncounted q (List.mem_cons_of_mem p later)
    obtain ⟨once, onceRest⟩ := List.pairwise_cons.mp once
    rw [List.map_cons, Batch.aligned_cons] at aligned
    obtain ⟨settled, aligned⟩ := aligned
    rw [List.foldl_cons]
    cases verdict : p.verdict c with
    | passed =>
      have step := beside.passed verdict
      rw [verdict, Batch.Verdict.pending, ← congrArg Batch.pending (next_passed verdict)] at aligned
      rw [List.filter_cons_of_pos (by rw [verdict]; decide), List.foldl_cons]
      exact ih listed aligned uncounted' onceRest step
    | saved =>
      obtain ⟨step, pending⟩ := beside.saved member verdict
      rw [verdict, Batch.Verdict.pending, ← pending] at aligned
      rw [List.filter_cons_of_pos (by rw [verdict]; decide), List.foldl_cons]
      exact ih listed aligned uncounted' onceRest step
    | failed =>
      obtain ⟨step, pending⟩ := beside.failed member verdict (settled verdict)
        (uncounted p List.mem_cons_self verdict) once
      rw [verdict, Batch.Verdict.pending, ← pending] at aligned
      rw [List.filter_cons_of_neg (by rw [verdict]; decide)]
      exact ih listed aligned uncounted' onceRest step

end Beside

/-- Calm failures are as if the postings had not been there. -/
theorem isolated_of_calm {f : Fetch c} {s : Store} (sound : s.Sound) (calm : Calm c f.postings) :
    Isolated f s := by
  have all := (Beside.start (f := f) sound).run (List.Subset.refl _) calm.aligned calm.uncounted
    calm.once
  have data : (ingestAll c s f.survivors.postings).data = (ingestAll c s f.postings).data :=
    congrArg Batch.commit all.data
  have counters : (ingestAll c s f.survivors.postings).counters =
      { (ingestAll c s f.postings).counters with failed := 0 } := all.counters
  exact ⟨by rw [data], by rw [counters], by rw [counters], by rw [counters]⟩

/-! ### What failures take with them -/

def Counters.found (n : Counters) : Nat := n.new + n.updated + n.duplicate

/-- The posting is counted when it was not there before. -/
def Fetched.counts (c : RunConfig μ) (p : Fetched μ) : Bool :=
  decide (p.verdict c = .saved) ||
    decide (p.verdict c = .failed) && decide (p.raises = some .counted)

/-- The postings that are left have ids of their own, which the index does not know. -/
structure Fresh (rest : List (Fetched μ)) (l : LoopState) : Prop where
  distinct : (rest.map fun q => q.raw.sourceJobId).Nodup
  unmet : ∀ q ∈ rest, l.hints.refs.lookup q.raw.sourceJobId = none

section Needed
variable {f : Fetch c} {rest : List (Fetched μ)} {l : LoopState}

theorem Fresh.start {postings : List (Fetched μ)}
    (distinct : (postings.map fun q => q.raw.sourceJobId).Nodup) :
    Fresh postings (.start c .empty postings) where
  distinct := distinct
  unmet q _ := by
    rw [LoopState.start]
    dsimp only
    rw [prefetch_lookup, if_neg]
    rintro ⟨-, present⟩
    cases present

theorem Fresh.other (fresh : Fresh (p :: rest) l) :
    ∀ q ∈ rest, q.raw.sourceJobId ≠ p.raw.sourceJobId := by
  intro q later same
  exact (List.nodup_cons.mp fresh.distinct).1 (List.mem_map.mpr ⟨q, later, same⟩)

theorem Fresh.unknown (fresh : Fresh (p :: rest) l) (tracks : l.Tracks c.source (fetchedIds f.postings))
    (own : p.raw.source = c.source) (listed : p.raw.sourceJobId ∈ fetchedIds f.postings) :
    knownRef p.raw l.data.working l.hints = none := by
  have missing := fresh.unmet p List.mem_cons_self
  have free := (tracks.absent _ listed missing).working
  unfold knownRef
  rw [missing, own, free]
  simp

theorem Fresh.next (fresh : Fresh (p :: rest) l)
    (tracks : l.Tracks c.source (fetchedIds f.postings)) (member : p ∈ f.postings) :
    Fresh rest (l.next c p) where
  distinct := (List.nodup_cons.mp fresh.distinct).2
  unmet q later := by
    have missing := fresh.unmet q (List.mem_cons_of_mem p later)
    cases exit : c.exit p.raw with
    | rejected =>
      rw [LoopState.next, exit]
      exact missing
    | titleFiltered =>
      rw [LoopState.next, exit]
      exact missing
    | geographyFiltered =>
      rw [LoopState.next, exit]
      exact missing
    | ingested =>
      obtain ⟨r, done, went⟩ := ingest_cases tracks (f.own p member) (ingested_id member exit)
      have after : r.refs.lookup q.raw.sourceJobId = none := by
        rcases ingestOne_refs done with ⟨-, same⟩ | ⟨-, more⟩
        · rw [same, missing]
        · rw [more, List.lookup_cons, beq_eq_false_iff_ne.mpr (fresh.other q later), missing]
      have next : l.next c p = l.ingest c p := by rw [LoopState.next, exit]
      rw [next]
      rcases went with ⟨-, went⟩ | ⟨-, went⟩ | ⟨-, went⟩ | ⟨-, went⟩
      · rw [went]
        exact after
      all_goals
        rw [went, LoopState.rollback]
        dsimp only
        rw [lookup_map]
      · rw [missing]
        rfl
      · rw [after]
        rfl
      · rw [after]
        rfl

/-- What every step keeps while the ids are new holds at the end. -/
theorem Fresh.run {P : List (Fetched μ) → LoopState → Prop}
    (step : ∀ p ∈ f.postings, ∀ rest l, l.Tracks c.source (fetchedIds f.postings) →
      Fresh (p :: rest) l → P (p :: rest) l → P rest (l.next c p))
    (listed : rest ⊆ f.postings) (tracks : l.Tracks c.source (fetchedIds f.postings))
    (fresh : Fresh rest l) (start : P rest l) : P [] (rest.foldl (LoopState.next c) l) := by
  induction rest generalizing l with
  | nil => exact start
  | cons p rest ih =>
    have member := listed List.mem_cons_self
    rw [List.foldl_cons]
    exact ih (List.subset_of_cons_subset listed)
      (next_tracks tracks (f.own p member) (ingested_id member)) (fresh.next tracks member)
      (step p member rest l tracks fresh start)

theorem ingestOne_found {raw : RawJob μ} {now : Time} {s : Store} {h : Hints} {n : Counters}
    {r : Ingested} (unknown : knownRef raw s h = none)
    (done : ingestOne c raw now s h n = some r) : r.counters.found = n.found + 1 := by
  rcases ingestOne_cases done with ⟨resumed, -⟩ | ⟨-, ⟨key, ref, row, known, -⟩ | ⟨-, stored⟩⟩
  · rw [unknown] at resumed
    cases resumed
  · rw [unknown] at known
    cases known
  · obtain ⟨d, row, -, -, rfl⟩ := store_eq_some stored
    cases status : d.status <;>
      simp only [Counters.found, Counters.countDedup, Counters.countOpportunity] <;>
      simp <;> omega

theorem Fresh.found (fresh : Fresh (p :: rest) l)
    (tracks : l.Tracks c.source (fetchedIds f.postings)) (member : p ∈ f.postings) :
    (l.next c p).counters.found = l.counters.found + (p.counts c).toNat := by
  cases exit : c.exit p.raw with
  | rejected => simp [LoopState.next, exit, Fetched.counts, Fetched.verdict, Counters.found]
  | titleFiltered => simp [LoopState.next, exit, Fetched.counts, Fetched.verdict, Counters.found]
  | geographyFiltered =>
    simp [LoopState.next, exit, Fetched.counts, Fetched.verdict, Counters.found]
  | ingested =>
    have own := f.own p member
    have listed := ingested_id member exit
    obtain ⟨r, done, went⟩ := ingest_cases tracks own listed
    have counted := ingestOne_found (fresh.unknown tracks own listed) done
    have next : l.next c p = l.ingest c p := by rw [LoopState.next, exit]
    rw [next]
    rcases went with ⟨raises, went⟩ | ⟨raises, went⟩ | ⟨raises, went⟩ | ⟨raises, went⟩
    · rw [went]
      simpa [Fetched.counts, Fetched.verdict, exit, raises] using counted
    · rw [went]
      simp [Fetched.counts, Fetched.verdict, exit, raises, LoopState.rollback, Counters.found]
    · rw [went]
      simp [Fetched.counts, Fetched.verdict, exit, raises, LoopState.rollback, Counters.found]
    · rw [went]
      simpa [Fetched.counts, Fetched.verdict, exit, raises, LoopState.rollback, Counters.found]
        using counted

theorem found_ingestAll (distinct : (f.postings.map fun q => q.raw.sourceJobId).Nodup) :
    (ingestAll c .empty f.postings).counters.found = f.postings.countP (Fetched.counts c) := by
  have all := (Fresh.start (c := c) distinct).run (f := f)
    (P := fun rest l => l.counters.found + rest.countP (Fetched.counts c) =
      f.postings.countP (Fetched.counts c))
    (fun p member rest l tracks fresh here => by
      rw [fresh.found tracks member, ← here, List.countP_cons]
      cases p.counts c with
      | true => simp; omega
      | false => simp)
    (List.Subset.refl _) (start_tracks Store.Sound.empty)
    (by simp [LoopState.start, Counters.found, Counters.zero])
  rw [List.countP_nil, Nat.add_zero] at all
  exact all

theorem next_failed_data (tracks : l.Tracks c.source (fetchedIds f.postings))
    (member : p ∈ f.postings) (fails : p.verdict c = .failed) :
    (l.next c p).data = l.data.rollback := by
  obtain ⟨exit, stage, raises⟩ := verdict_failed.mp fails
  obtain ⟨r, -, went⟩ := ingest_cases tracks (f.own p member) (ingested_id member exit)
  have next : l.next c p = l.ingest c p := by rw [LoopState.next, exit]
  rw [next]
  rcases went with ⟨none_, -⟩ | ⟨-, went⟩ | ⟨-, went⟩ | ⟨-, went⟩
  · rw [raises] at none_
    cases none_
  all_goals
    rw [went]
    rfl

/-- A reference that is not there stays away from every posting but its own. -/
theorem holds_next {k : PostingKey} (tracks : l.Tracks c.source (fetchedIds f.postings))
    (member : p ∈ f.postings) (other : k ≠ p.raw.key)
    (free : l.data.Holds fun s => s.refs k = none) :
    (l.next c p).data.Holds fun s => s.refs k = none := by
  cases exit : c.exit p.raw with
  | rejected => rwa [LoopState.next, exit]
  | titleFiltered => rwa [LoopState.next, exit]
  | geographyFiltered => rwa [LoopState.next, exit]
  | ingested =>
    have own := f.own p member
    have listed := ingested_id member exit
    obtain ⟨r, done, went⟩ := ingest_cases tracks own listed
    have next : l.next c p = l.ingest c p := by rw [LoopState.next, exit]
    rw [next]
    rcases went with ⟨-, went⟩ | ⟨-, went⟩ | ⟨-, went⟩ | ⟨-, went⟩
    · rw [went]
      refine free.save _ ?_
      rcases ingestOne_tracks tracks.sound.working (tracks.current own listed) done with
        ⟨rfl, -⟩ | ⟨j, writes⟩
      · exact free.working
      · rw [writes.refs k other, free.working]
    all_goals
      rw [went]
      exact free.rollback

/-- A saved posting has its reference then. -/
theorem Fresh.stored (fresh : Fresh (p :: rest) l)
    (tracks : l.Tracks c.source (fetchedIds f.postings)) (member : p ∈ f.postings)
    (kept : p.verdict c = .saved) : ∃ r, (l.next c p).data = l.data.save commitBatchSize r ∧
      (r.refs p.raw.key).isSome ∧
      ∀ k, (l.data.working.refs k).isSome → (r.refs k).isSome := by
  obtain ⟨exit, raises⟩ := verdict_saved.mp kept
  have own := f.own p member
  have listed := ingested_id member exit
  have current := tracks.current own listed
  obtain ⟨r, done, went⟩ := ingest_cases tracks own listed
  refine ⟨r.store, ?_, ?_, fun k present => ?_⟩
  · have went : l.ingest c p = ⟨l.data.save commitBatchSize r.store, ⟨r.refs, l.hints.links⟩,
        r.counters, l.observe r.observed⟩ := by simpa [raises] using went
    rw [LoopState.next, exit]
    dsimp only
    rw [went]
  · rcases ingestOne_tracks tracks.sound.working current done with ⟨-, known⟩ | ⟨j, writes⟩
    · exact absurd (fresh.unknown tracks own listed) known
    · obtain ⟨ref, present, -⟩ := writes.ref
      rw [present]
      rfl
  · obtain ⟨ref, present⟩ := Option.isSome_iff_exists.mp present
    obtain ⟨ref', after, -⟩ := ingestOne_ref tracks.sound.working current done present
    rw [after]
    rfl

/-- Without failures, everything that is saved is stored in the end. -/
theorem stored_survivors (distinct : (f.postings.map fun q => q.raw.sourceJobId).Nodup)
    (calm : ∀ p ∈ f.postings, p.verdict c ≠ .failed) :
    ∀ q ∈ f.postings, q.verdict c = .saved →
      ((ingestAll c .empty f.postings).data.stored.refs q.raw.key).isSome := by
  have all := (Fresh.start (c := c) distinct).run (f := f)
    (P := fun rest l => ∀ q ∈ f.postings, q.verdict c = .saved →
      q ∈ rest ∨ (l.data.working.refs q.raw.key).isSome)
    (fun p member rest l tracks fresh here q listed kept => by
      cases verdict : p.verdict c with
      | failed => exact absurd verdict (calm p member)
      | passed =>
        rw [next_passed verdict]
        rcases here q listed kept with waits | present
        · rcases List.mem_cons.mp waits with rfl | later
          · rw [verdict] at kept
            cases kept
          · exact .inl later
        · exact .inr present
      | saved =>
        obtain ⟨s, data, stored, keeps⟩ := fresh.stored tracks member verdict
        rw [data, Batch.save_working]
        rcases here q listed kept with waits | present
        · rcases List.mem_cons.mp waits with rfl | later
          · exact .inr stored
          · exact .inl later
        · exact .inr (keeps _ present))
    (List.Subset.refl _) (start_tracks Store.Sound.empty) fun q listed _ => .inl listed
  intro q listed kept
  rcases all q listed kept with waits | present
  · cases waits
  · exact present

/-- A saved posting that is not met again, and what is so of its key. -/
def Behind (f : Fetch c) (rest : List (Fetched μ)) (at_ : PostingKey → Prop) : Prop :=
  ∃ q ∈ f.postings, q.verdict c = .saved ∧
    (∀ r ∈ rest, r.raw.sourceJobId ≠ q.raw.sourceJobId) ∧ at_ q.raw.key

theorem Behind.tail {at_ at' : PostingKey → Prop} (behind : Behind f (p :: rest) at_)
    (after : ∀ k, k ≠ p.raw.key → at_ k → at' k) : Behind f rest at' := by
  obtain ⟨q, listed, kept, away, here⟩ := behind
  refine ⟨q, listed, kept, fun r later => away r (List.mem_cons_of_mem p later), after _ ?_ here⟩
  intro same
  exact away p List.mem_cons_self (congrArg PostingKey.sourceJobId same).symm

/-- A failure that comes when something is uncommitted takes a saved posting with it for good. -/
theorem lost_of_misaligned (distinct : (f.postings.map fun q => q.raw.sourceJobId).Nodup)
    (misaligned : ¬Batch.Aligned commitBatchSize 0 (f.postings.map (Fetched.verdict c))) :
    ∃ q ∈ f.postings, q.verdict c = .saved ∧
      (ingestAll c .empty f.postings).data.stored.refs q.raw.key = none := by
  have all := (Fresh.start (c := c) distinct).run (f := f)
    (P := fun rest l =>
      Behind f rest (fun k => l.data.Holds fun s => s.refs k = none) ∨
      ¬Batch.Aligned commitBatchSize l.data.pending (rest.map (Fetched.verdict c)) ∧
        (l.data.pending = 0 ∨ Behind f rest fun k => l.data.stored.refs k = none))
    (fun p member rest l tracks fresh here => by
      rcases here with lost | ⟨misaligned, window⟩
      · exact .inl (lost.tail fun k other free => holds_next tracks member other free)
      rw [List.map_cons, Batch.aligned_cons] at misaligned
      cases verdict : p.verdict c with
      | passed =>
        refine .inr ?_
        rw [verdict] at misaligned
        rw [next_passed verdict]
        exact ⟨fun aligned => misaligned ⟨nofun, aligned⟩,
          window.imp_right fun behind => behind.tail fun _ _ free => free⟩
      | saved =>
        refine .inr ?_
        rw [verdict] at misaligned
        obtain ⟨s, data, -, -⟩ := fresh.stored tracks member verdict
        rw [data]
        refine ⟨fun aligned => misaligned ⟨nofun, ?_⟩, ?_⟩
        · rwa [Batch.save_pending] at aligned
        · -- the posting itself is uncommitted now
          have listed := ingested_id member (verdict_saved.mp verdict).1
          have free := (tracks.absent _ listed (fresh.unmet p List.mem_cons_self)).stored
          unfold Batch.save
          split
          · exact .inl rfl
          · refine .inr ⟨p, member, verdict, fresh.other, ?_⟩
            rw [RawJob.key, f.own p member]
            exact free
      | failed =>
        rw [verdict] at misaligned
        rw [next_failed_data tracks member verdict]
        rcases window with settled | behind
        · exact .inr ⟨fun aligned => misaligned ⟨fun _ => settled, aligned⟩, .inl rfl⟩
        · exact .inl (behind.tail fun _ _ free => .clean free))
    (List.Subset.refl _) (start_tracks Store.Sound.empty) (.inr ⟨misaligned, .inl rfl⟩)
  rcases all with ⟨q, listed, kept, -, free⟩ | ⟨misaligned, -⟩
  · exact ⟨q, listed, kept, free.working⟩
  · exact absurd trivial misaligned

/-- With ids of their own, only calm failures are as if the postings had not been there. -/
theorem calm_of_isolated (distinct : (f.postings.map fun q => q.raw.sourceJobId).Nodup)
    (isolated : Isolated f .empty) : Calm c f.postings where
  aligned := by
    by_contra misaligned
    obtain ⟨q, listed, kept, lost⟩ := lost_of_misaligned distinct misaligned
    have spared : q ∈ f.survivors.postings :=
      List.mem_filter.mpr ⟨listed, by rw [kept]; decide⟩
    have present := stored_survivors (f := f.survivors)
      (distinct.sublist (List.filter_sublist.map _))
      (fun p member => of_decide_eq_true (List.mem_filter.mp member).2) q spared kept
    rw [← isolated.store, lost] at present
    cases present
  uncounted := by
    have equal := found_ingestAll (c := c) distinct
    have equal' := found_ingestAll (f := f.survivors)
      (distinct.sublist (List.filter_sublist.map _))
    have same : (ingestAll c .empty f.postings).counters.found =
        (ingestAll c .empty f.survivors.postings).counters.found := by
      rw [Counters.found, Counters.found, isolated.new, isolated.updated, isolated.duplicate]
    have parts := List.countP_eq_countP_filter_add f.postings (Fetched.counts c)
      fun p => decide (p.verdict c ≠ .failed)
    have none_ : ((f.postings.filter fun p => !decide (p.verdict c ≠ .failed)).countP
        (Fetched.counts c)) = 0 := by
      change _ = f.survivors.postings.countP _ + _ at parts
      omega
    intro p member fails counted
    refine List.countP_eq_zero.mp none_ p (List.mem_filter.mpr ⟨member, by simp [fails]⟩) ?_
    simp [Fetched.counts, fails, counted]
  once := (List.pairwise_map.mp distinct).imp fun other _ _ _ => other.symm

end Needed

/-- Failures are isolated when they are calm, and over a fetch whose postings have ids of their own
only then. -/
theorem calm_isolates (f : Fetch c) :
    (Calm c f.postings → ∀ s : Store, s.Sound → Isolated f s) ∧
      ((f.postings.map fun p => p.raw.sourceJobId).Nodup →
        (∀ s : Store, s.Sound → Isolated f s) → Calm c f.postings) :=
  ⟨fun calm _ sound => isolated_of_calm sound calm,
    fun distinct isolated => calm_of_isolated distinct (isolated _ .empty)⟩

end Isolation

/-- The first of two postings is counted as new and lost when the second fails. -/
theorem neighbour_lost :
    ¬Isolated (c := acmeBoard) ⟨[⟨acmePosting "1" "Engineer", 1, none⟩,
      ⟨acmePosting "2" "Designer", 2, some .unstored⟩], by decide⟩ .empty := by
  intro isolated
  have kept := congrArg (fun s => (s.refs ⟨"GREENHOUSE", "1"⟩).isSome) isolated.store
  revert kept
  decide +kernel

end RangeApply.Postings
