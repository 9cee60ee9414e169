import Mathlib.Data.Fintype.EquivFin
import RangeApply.Tracking

/-! The sweep against what the source still lists: which fetches it may be run after. -/
namespace RangeApply.Postings

section Listing
variable {μ : Type}

/-- What one source returned. Every adapter puts its own source on its postings. -/
structure Fetch (c : RunConfig μ) where
  postings : List (Fetched μ)
  own : ∀ p ∈ postings, p.raw.source = c.source

/-- The posting gets far enough for its row to count as observed. -/
def Fetched.handled (c : RunConfig μ) (p : Fetched μ) : Bool :=
  match c.exit p.raw with
  | .rejected | .titleFiltered => false
  | .geographyFiltered => true
  | .ingested => decide (p.raises = none) || decide (p.raises = some .counted)

def failures (c : RunConfig μ) (postings : List (Fetched μ)) : Nat :=
  postings.countP fun p => decide (c.exit p.raw = .ingested) && p.raises.isSome

/-- The run ends with a sweep. -/
def Sweeps (c : RunConfig μ) (postings : List (Fetched μ)) : Prop :=
  (c.closeMissing && shouldSweep c postings.length (failures c postings)) = true

/-- An id that a stored posting can have. -/
def RunConfig.named (c : RunConfig μ) (id : String) : Prop := id ≠ "" ∧ c.extractors.strip id ≠ ""

/-- The sweep leaves the listed postings of the store alone. -/
def Spares (c : RunConfig μ) (f : Fetch c) (t : Times) (s : Store) : Prop :=
  ∀ j row, (ingestAll c s f.postings).data.stored.market.jobs.get j = some row →
    (∃ p ∈ f.postings, p.raw.key = j) →
    (runDiscovery c s (some f.postings) t).1.market.jobs.get j = some row

/-- Every id that is listed is listed by a posting that gets far enough. -/
def Covered (c : RunConfig μ) (f : Fetch c) : Prop :=
  ∀ p ∈ f.postings, c.named p.raw.sourceJobId →
    ∃ q ∈ f.postings, q.raw.sourceJobId = p.raw.sourceJobId ∧ q.handled c = true

variable {c : RunConfig μ} {f : Fetch c} {s : Store} {l : LoopState} {t : Times}

/-! ### What the sweep closes -/

theorem closeOpportunities_jobs (m : Market) (since : Time) :
    (closeOpportunities c m since).jobs = m.jobs := by
  have all (f : Market → JobId × JobRow → Market) (kept : ∀ m r, (f m r).jobs = m.jobs)
      (rows : List (JobId × JobRow)) (m : Market) : (rows.foldl f m).jobs = m.jobs := by
    induction rows generalizing m with
    | nil => rfl
    | cons r rows ih => rw [List.foldl_cons, ih, kept]
  apply all
  intro m r
  split
  · rfl
  · dsimp only [closeIfAllGone]
    split <;> rfl

theorem sweep_get (discovered : Nat) (j : JobId) :
    (sweep c l discovered t).1.market.jobs.get j = (l.data.stored.market.jobs.get j).map fun row =>
      if (c.closeMissing && shouldSweep c discovered l.counters.failed) = true ∧
        Missing c l.observed j row = true
      then { row with status := .closed, closedAt := some t.closed } else row := by
  unfold sweep
  dsimp only
  split
  · rename_i sweeps
    rw [show (if countMissing c l.data.stored.market l.observed = 0 then
        closeMissingJobs c l.data.stored.market l.observed t.closed
      else closeOpportunities c (closeMissingJobs c l.data.stored.market l.observed t.closed)
        t.started).jobs = (closeMissingJobs c l.data.stored.market l.observed t.closed).jobs from by
      split
      · rfl
      · exact closeOpportunities_jobs _ _]
    rw [closeMissing_get]
    simp only [sweeps, true_and]
  · rename_i kept
    simp [kept]

/-! ### The failures are counted -/

theorem ingestOne_failed {raw : RawJob μ} {now : Time} {h : Hints} {n : Counters} {r : Ingested}
    (done : ingestOne c raw now s h n = some r) : r.counters.failed = n.failed := by
  rcases ingestOne_cases done with ⟨-, rfl⟩ | ⟨-, ⟨key, ref, row, -, -, -, rfl⟩ | ⟨-, stored⟩⟩
  · rfl
  · rfl
  · obtain ⟨d, row, -, -, rfl⟩ := store_eq_some stored
    rfl

theorem next_failed {p : Fetched μ} {ids : List String} (tracks : l.Tracks c.source ids)
    (own : p.raw.source = c.source)
    (listed : c.exit p.raw = .ingested → p.raw.sourceJobId ∈ ids) :
    (l.next c p).counters.failed = l.counters.failed +
      (decide (c.exit p.raw = .ingested) && p.raises.isSome).toNat := by
  cases exit : c.exit p.raw with
  | rejected => simp [LoopState.next, exit]
  | titleFiltered => simp [LoopState.next, exit]
  | geographyFiltered => simp [LoopState.next, exit]
  | ingested =>
    have next : l.next c p = l.ingest c p := by rw [LoopState.next, exit]
    obtain ⟨r, done, went⟩ := ingest_cases tracks own (listed exit)
    rcases went with ⟨raises, went⟩ | ⟨raises, went⟩ | ⟨raises, went⟩ | ⟨raises, went⟩
    · rw [next, went, raises]
      exact ingestOne_failed done
    · rw [next, went, raises]
      rfl
    · rw [next, went, raises]
      rfl
    · rw [next, went, raises]
      exact congrArg Nat.succ (ingestOne_failed done)

/-- The loop over some of the fetched postings, step by step. -/
theorem foldl_listed {P : List (Fetched μ) → LoopState → Prop}
    (step : ∀ p ∈ f.postings, ∀ done l, l.Tracks c.source (fetchedIds f.postings) → P done l →
      P (done ++ [p]) (l.next c p))
    (tracks : l.Tracks c.source (fetchedIds f.postings)) (start : P [] l)
    {postings : List (Fetched μ)} (listed : postings ⊆ f.postings) :
    P postings (postings.foldl (LoopState.next c) l) := by
  have all (rest : List (Fetched μ)) : ∀ done l, l.Tracks c.source (fetchedIds f.postings) →
      P done l → rest ⊆ f.postings → P (done ++ rest) (rest.foldl (LoopState.next c) l) := by
    induction rest with
    | nil =>
      intro done l _ here _
      rwa [List.append_nil]
    | cons p rest ih =>
      intro done l tracks here listed
      rw [List.foldl_cons, List.append_cons]
      have member := listed List.mem_cons_self
      have own := f.own p member
      exact ih _ _ (next_tracks tracks own (ingested_id member)) (step p member done l tracks here)
        (List.subset_of_cons_subset listed)
  exact all postings [] l tracks start listed

theorem ingestAll_failed (sound : s.Sound) :
    (ingestAll c s f.postings).counters.failed = failures c f.postings := by
  refine foldl_listed (P := fun done l => l.counters.failed = failures c done)
    (fun p member done l tracks here => ?_) (start_tracks sound) rfl (List.Subset.refl _)
  rw [next_failed tracks (f.own p member) (ingested_id member), here, failures, failures,
    List.countP_append, List.countP_singleton]
  cases decide (c.exit p.raw = .ingested) && p.raises.isSome <;> rfl

/-! ### A covered fetch spares what is listed -/

/-- A posting that was stored before the run is in the index, and its reference stays. -/
structure Known (j : JobId) (l : LoopState) : Prop where
  indexed : l.hints.refs.lookup j.sourceJobId = some (.row j)
  own : l.data.Holds fun s => ∃ ref, s.refs j = some ref ∧ ref.job = j

variable {p : Fetched μ} {ids : List String} {j : JobId}

theorem Known.knownRef (known : Known j l) (here : p.raw.sourceJobId = j.sourceJobId) :
    ∃ ref, knownRef p.raw l.data.working l.hints = some (.stored j ref) ∧ ref.job = j := by
  obtain ⟨ref, stored, own⟩ := known.own.working
  exact ⟨ref, by simp [Postings.knownRef, here, known.indexed, stored], own⟩

theorem Known.rollback (known : Known j l) {lost : Store} {refs : List (String × Indexed)}
    (indexed : refs.lookup j.sourceJobId = some (.row j)) (n : Counters) (observed : List JobId) :
    Known j (l.rollback lost refs n observed) where
  indexed := by
    obtain ⟨ref, stored, -⟩ := known.own.stored
    have kept : l.data.rollback.working.refs j = some ref := stored
    rw [LoopState.rollback]
    dsimp only
    rw [lookup_map, indexed, Option.map_some, Indexed.afterRollback, kept]
  own := known.own.rollback

theorem Known.ingest (known : Known j l) (tracks : l.Tracks c.source ids)
    (own : p.raw.source = c.source) (listed : p.raw.sourceJobId ∈ ids) :
    Known j (l.ingest c p) := by
  have current := tracks.current own listed
  obtain ⟨r, done, went⟩ := ingest_cases tracks own listed
  have indexed : r.refs.lookup j.sourceJobId = some (.row j) := by
    rcases ingestOne_refs done with ⟨-, same⟩ | ⟨unknown, more⟩
    · rw [same, known.indexed]
    · have other : j.sourceJobId ≠ p.raw.sourceJobId := by
        intro here
        obtain ⟨ref, found, -⟩ := known.knownRef here.symm
        rw [unknown] at found
        cases found
      rw [more, List.lookup_cons, beq_eq_false_iff_ne.mpr other, known.indexed]
  rcases went with ⟨-, went⟩ | ⟨-, went⟩ | ⟨-, went⟩ | ⟨-, went⟩
  · rw [went]
    refine ⟨indexed, known.own.save _ ?_⟩
    obtain ⟨ref, stored, leads⟩ := known.own.working
    obtain ⟨ref', after, same⟩ := ingestOne_ref tracks.sound.working current done stored
    exact ⟨ref', after, same.trans leads⟩
  · rw [went]
    exact known.rollback known.indexed _ _
  · rw [went]
    exact known.rollback indexed _ _
  · rw [went]
    exact known.rollback indexed _ _

theorem observe_mono {j' : Option JobId} (seen : j ∈ l.observed) : j ∈ l.observe j' :=
  List.mem_append_right _ seen

theorem mem_observe : j ∈ l.observe (some j) := List.mem_cons_self

/-- Observed rows stay observed. -/
theorem next_observed (seen : j ∈ l.observed) : j ∈ (l.next c p).observed := by
  unfold LoopState.next
  split
  · exact seen
  · exact seen
  · exact observe_mono seen
  · unfold LoopState.ingest
    split
    · exact observe_mono seen
    · exact seen
    · exact observe_mono seen
    · exact seen

theorem Known.next (known : Known j l) (tracks : l.Tracks c.source ids)
    (own : p.raw.source = c.source)
    (listed : c.exit p.raw = .ingested → p.raw.sourceJobId ∈ ids) : Known j (l.next c p) := by
  unfold LoopState.next
  split
  · exact ⟨known.indexed, known.own⟩
  · exact ⟨known.indexed, known.own⟩
  · exact ⟨known.indexed, known.own⟩
  · rename_i ingested
    exact known.ingest tracks own (listed ingested)

/-- A posting that gets far enough is observed. -/
theorem Known.observed (known : Known j l) (tracks : l.Tracks c.source ids)
    (own : p.raw.source = c.source)
    (listed : c.exit p.raw = .ingested → p.raw.sourceJobId ∈ ids)
    (here : p.raw.sourceJobId = j.sourceJobId) (handled : p.handled c = true) :
    j ∈ (l.next c p).observed := by
  obtain ⟨ref, found, leads⟩ := known.knownRef here
  unfold Fetched.handled at handled
  cases exit : c.exit p.raw with
  | rejected => simp [exit] at handled
  | titleFiltered => simp [exit] at handled
  | geographyFiltered =>
    have indexed : l.indexedJob p.raw = some j := by
      obtain ⟨ref, stored, leads⟩ := known.own.working
      obtain ⟨row, present⟩ :=
        Option.isSome_iff_exists.mp (tracks.sound.working.found j ref stored)
      rw [leads] at present
      simp [LoopState.indexedJob, here, known.indexed, stored, leads, present]
    rw [LoopState.next, exit]
    dsimp only
    rw [indexed]
    exact mem_observe
  | ingested =>
    have next : l.next c p = l.ingest c p := by rw [LoopState.next, exit]
    rw [exit] at handled
    obtain ⟨r, done, went⟩ := ingest_cases tracks own (listed exit)
    have observed := ingestOne_observed tracks.sound.working (tracks.current own (listed exit))
      done found
    rw [leads] at observed
    rcases went with ⟨raises, went⟩ | ⟨raises, went⟩ | ⟨raises, went⟩ | ⟨raises, went⟩
    · rw [next, went, observed]
      exact mem_observe
    · simp [raises] at handled
    · simp [raises] at handled
    · rw [next, went, observed]
      exact mem_observe

/-- A row that the run makes is observed. -/
theorem next_new (tracks : l.Tracks c.source ids) (own : p.raw.source = c.source)
    (listed : c.exit p.raw = .ingested → p.raw.sourceJobId ∈ ids)
    (new : l.data.Holds fun s => (s.market.jobs.get j).isSome → j ∈ l.observed) :
    (l.next c p).data.Holds fun s => (s.market.jobs.get j).isSome → j ∈ (l.next c p).observed := by
  have still : l.data.Holds fun s =>
      (s.market.jobs.get j).isSome → j ∈ (l.next c p).observed :=
    new.mono fun _ seen present => next_observed (seen present)
  cases exit : c.exit p.raw with
  | rejected =>
    have data : (l.next c p).data = l.data := by rw [LoopState.next, exit]
    rwa [data]
  | titleFiltered =>
    have data : (l.next c p).data = l.data := by rw [LoopState.next, exit]
    rwa [data]
  | geographyFiltered =>
    have data : (l.next c p).data = l.data := by rw [LoopState.next, exit]
    rwa [data]
  | ingested =>
    have next : l.next c p = l.ingest c p := by rw [LoopState.next, exit]
    obtain ⟨r, done, went⟩ := ingest_cases tracks own (listed exit)
    rcases went with ⟨-, went⟩ | ⟨-, went⟩ | ⟨-, went⟩ | ⟨-, went⟩
    · have data : (l.next c p).data = l.data.save commitBatchSize r.store := by rw [next, went]
      rw [data]
      refine still.save _ fun present => ?_
      rcases ingestOne_tracks tracks.sound.working (tracks.current own (listed exit)) done with
        ⟨rfl, -⟩ | ⟨j', writes⟩
      · exact still.working present
      · by_cases here : j = j'
        · subst here
          rw [next, went, writes.observed]
          exact mem_observe
        · rw [writes.others j here] at present
          exact still.working present
    all_goals
      have data : (l.next c p).data = l.data.rollback := by
        rw [next, went]
        rfl
      rw [data]
      exact still.rollback

/-- Every stored posting has an id that a posting can have. -/
def Named (c : RunConfig μ) (s : Store) : Prop :=
  ∀ j, (s.market.jobs.get j).isSome → c.named j.sourceJobId

theorem Covered.observed (covered : Covered c f) (sound : s.Sound) (named : Named c s)
    (listed : ∃ p ∈ f.postings, p.raw.key = j)
    (stored : ((ingestAll c s f.postings).data.stored.market.jobs.get j).isSome) :
    j ∈ (ingestAll c s f.postings).observed := by
  obtain ⟨p, member, rfl⟩ := listed
  have all := List.Subset.refl f.postings
  cases before : s.market.jobs.get p.raw.key with
  | none =>
    have new := foldl_listed (f := f) (c := c) (P := fun _ l => l.data.Holds fun s =>
        (s.market.jobs.get p.raw.key).isSome → p.raw.key ∈ l.observed)
      (fun q member done l tracks here =>
        next_new tracks (f.own q member) (ingested_id member) here)
      (start_tracks sound) (.clean fun present => by rw [before] at present; cases present) all
    exact new.working stored
  | some row =>
    have present : (s.market.jobs.get p.raw.key).isSome := by rw [before]; rfl
    have start : Known p.raw.key (LoopState.start c s f.postings) := by
      obtain ⟨ref, own, leads⟩ := sound.own p.raw.key present
      have key : p.raw.key = ⟨c.source, p.raw.sourceJobId⟩ := by rw [RawJob.key, f.own p member]
      refine ⟨?_, .clean ⟨ref, own, leads⟩⟩
      rw [key] at own ⊢
      rw [LoopState.start]
      dsimp only
      rw [prefetch_lookup, if_pos]
      exact ⟨List.mem_filter.mpr ⟨List.mem_map_of_mem member, decide_eq_true (named _ present).1⟩,
        by rw [own]; rfl⟩
    obtain ⟨-, observed⟩ := foldl_listed (f := f) (c := c)
      (P := fun done l => Known p.raw.key l ∧ ((∃ q ∈ done, q.raw.sourceJobId = p.raw.sourceJobId ∧
        q.handled c = true) → p.raw.key ∈ l.observed))
      (fun q member done l tracks here => by
        refine ⟨here.1.next tracks (f.own q member) (ingested_id member), ?_⟩
        rintro ⟨q', among, same, handled⟩
        rcases List.mem_append.mp among with earlier | last
        · exact next_observed (here.2 ⟨q', earlier, same, handled⟩)
        · cases List.mem_singleton.mp last
          exact here.1.observed tracks (f.own _ member) (ingested_id member) same handled)
      (start_tracks sound) ⟨start, by rintro ⟨q, none_, -⟩; cases none_⟩ all
    exact observed (covered p member (named _ present))

theorem spares_of_covered (covered : Sweeps c f.postings → Covered c f) (sound : s.Sound)
    (named : Named c s) : Spares c f t s := by
  intro j row stored listed
  rw [runDiscovery, sweep_get, stored, Option.map_some, ingestAll_failed sound, if_neg]
  rintro ⟨sweeps, missing⟩
  have observed := (covered sweeps).observed sound named listed (by rw [stored]; rfl)
  simp [Missing, observed] at missing

/-! ### A fetch that leaves a listed posting out -/

/-- A row that no posting of the fetch can be taken for. -/
structure Apart (c : RunConfig μ) (f : Fetch c) (row : JobRow) : Prop where
  alike : ∀ p ∈ f.postings,
    alike c.extractors (c.extractors.enriched c.companyName p.raw) row = false
  live : row.status = .active
  board : row.sourceIdentifier = some c.identifier

/-- The row of the posting is as it was, unobserved, and no reference leads to it but its own. -/
structure Hidden (j : JobId) (row : JobRow) (l : LoopState) : Prop where
  holds : l.data.Holds fun s => s.market.jobs.get j = some row ∧
    ∀ k ref, s.refs k = some ref → ref.job = j → k = j
  unseen : j ∉ l.observed

variable {row : JobRow}

theorem Hidden.ingestOne {r : Ingested} (hidden : Hidden j row l) (apart : Apart c f row)
    (member : p ∈ f.postings) (tracks : l.Tracks c.source (fetchedIds f.postings))
    (other : p.raw.sourceJobId ≠ j.sourceJobId)
    (listed : p.raw.sourceJobId ∈ fetchedIds f.postings)
    (done : ingestOne c p.raw p.now l.data.working l.hints l.counters = some r) :
    (r.store.market.jobs.get j = some row ∧
      ∀ k ref, r.store.refs k = some ref → ref.job = j → k = j) ∧ r.observed ≠ some j := by
  have current := tracks.current (f.own p member) listed
  obtain ⟨same, alone⟩ := hidden.holds.working
  have key : p.raw.key ≠ j := fun here => other (by rw [← here]; rfl)
  rcases ingestOne_tracks tracks.sound.working current done with ⟨rfl, known⟩ | ⟨j', writes⟩
  · refine ⟨⟨same, alone⟩, fun observed => ?_⟩
    obtain ⟨found, seen, rfl⟩ := Option.map_eq_some_iff.mp observed
    obtain ⟨ref, known, job⟩ := Option.bind_eq_some_iff.mp seen
    cases ref with
    | gone t => cases job
    | stored k ref =>
      obtain ⟨row', -, rfl⟩ := Option.map_eq_some_iff.mp job
      exact key (alone _ ref (current.stored known).2 rfl)
  · have elsewhere : j' ≠ j := by
      rintro rfl
      cases unknown : l.data.working.refs p.raw.key with
      | some ref => exact key (alone _ ref unknown (writes.whose ref unknown))
      | none =>
        rcases ingestOne_alike tracks.sound.working current done unknown writes with rfl | ⟨row', there, alike⟩
        · exact key rfl
        · rw [same] at there
          cases there
          rw [apart.alike p member] at alike
          cases alike
    refine ⟨⟨by rw [writes.others j (Ne.symm elsewhere), same], fun k ref stored leads => ?_⟩, ?_⟩
    · by_cases here : k = p.raw.key
      · subst here
        obtain ⟨ref', stored', leads'⟩ := writes.ref
        rw [stored] at stored'
        cases stored'
        exact absurd (leads'.symm.trans leads) elsewhere
      · rw [writes.refs k here] at stored
        exact alone k ref stored leads
    · rw [writes.observed]
      exact fun observed => elsewhere (Option.some.inj observed)

theorem Hidden.next (hidden : Hidden j row l) (apart : Apart c f row) (member : p ∈ f.postings)
    (tracks : l.Tracks c.source (fetchedIds f.postings))
    (unhandled : p.raw.sourceJobId = j.sourceJobId → p.handled c = false) :
    Hidden j row (l.next c p) := by
  have own := f.own p member
  cases exit : c.exit p.raw with
  | rejected =>
    rw [LoopState.next, exit]
    exact ⟨hidden.holds, hidden.unseen⟩
  | titleFiltered =>
    rw [LoopState.next, exit]
    exact ⟨hidden.holds, hidden.unseen⟩
  | geographyFiltered =>
    have other : p.raw.sourceJobId ≠ j.sourceJobId := fun here => by
      have handled := unhandled here
      simp [Fetched.handled, exit] at handled
    rw [LoopState.next, exit]
    refine ⟨hidden.holds, fun observed => ?_⟩
    rcases List.mem_append.mp observed with indexed | before
    · have indexed : l.indexedJob p.raw = some j := by simpa using indexed
      unfold LoopState.indexedJob at indexed
      split at indexed
      · rename_i key entry
        obtain ⟨ref, stored, same⟩ := Option.bind_eq_some_iff.mp indexed
        obtain ⟨row', -, leads⟩ := Option.map_eq_some_iff.mp same
        obtain ⟨rfl, -⟩ := tracks.row _ key entry
        exact other (by rw [← hidden.holds.working.2 _ ref stored leads])
      · cases indexed
    · exact hidden.unseen before
  | ingested =>
    have next : l.next c p = l.ingest c p := by rw [LoopState.next, exit]
    have listed := ingested_id member exit
    obtain ⟨r, done, went⟩ := ingest_cases tracks own listed
    have rolledBack (lost : Store) (refs : List (String × Indexed)) (n : Counters)
        {observed : List JobId} (unseen : j ∉ observed) :
        Hidden j row (l.rollback lost refs n observed) := ⟨hidden.holds.rollback, unseen⟩
    by_cases here : p.raw.sourceJobId = j.sourceJobId
    · have raised := unhandled here
      rw [Fetched.handled, exit] at raised
      rcases went with ⟨raises, went⟩ | ⟨raises, went⟩ | ⟨raises, went⟩ | ⟨raises, went⟩
      · simp [raises] at raised
      · rw [next, went]
        exact rolledBack _ _ _ hidden.unseen
      · rw [next, went]
        exact rolledBack _ _ _ hidden.unseen
      · simp [raises] at raised
    · obtain ⟨kept, other⟩ := hidden.ingestOne apart member tracks here listed done
      have unseen : j ∉ l.observe r.observed := by
        intro observed
        rcases List.mem_append.mp observed with new | before
        · exact other (by simpa using new)
        · exact hidden.unseen before
      rcases went with ⟨-, went⟩ | ⟨-, went⟩ | ⟨-, went⟩ | ⟨-, went⟩
      · rw [next, went]
        exact ⟨hidden.holds.save _ kept, unseen⟩
      · rw [next, went]
        exact rolledBack _ _ _ hidden.unseen
      · rw [next, went]
        exact rolledBack _ _ _ hidden.unseen
      · rw [next, went]
        exact rolledBack _ _ _ unseen

def RefRow.lone (j : JobId) (row : JobRow) : RefRow where
  job := j
  sourceUrl := row.sourceUrl
  applicationUrl := row.applicationUrl
  firstSeenAt := row.firstSeenAt
  lastSeenAt := row.lastSeenAt
  contentHash := none
  fetchedAt := none
  parseStatus := none

/-- A store of one live posting. -/
def Store.lone (j : JobId) (row : JobRow) : Store where
  market :=
    { jobs := ⟨[(j, row)], List.nodup_singleton _⟩
      links := Function.update (fun _ => none) j (some "")
      openings := Function.update (fun _ => none) "" (some (.ofJob row.firstSeenAt j row))
      linksFound := by
        intro j' k linked
        by_cases here : j' = j
        · subst here
          rw [Function.update_self] at linked
          cases linked
          rw [Function.update_self]
          rfl
        · rw [Function.update_of_ne here] at linked
          cases linked }
  refs := Function.update (fun _ => none) j (some (.lone j row))
  versions := []

theorem lone_get (j j' : JobId) (row : JobRow) :
    (Store.lone j row).market.jobs.get j' = if j' = j then some row else none := by
  by_cases here : j' = j
  · subst here
    simp [Store.lone, Table.get]
  · simp [Store.lone, Table.get, here, Ne.symm here]

theorem lone_refs {j k : JobId} {row : JobRow} {ref : RefRow}
    (stored : (Store.lone j row).refs k = some ref) : k = j ∧ ref.job = j := by
  by_cases here : k = j
  · subst here
    rw [Store.lone] at stored
    dsimp only at stored
    rw [Function.update_self] at stored
    cases stored
    exact ⟨rfl, rfl⟩
  · rw [Store.lone] at stored
    dsimp only at stored
    rw [Function.update_of_ne here] at stored
    cases stored

theorem lone_sound (j : JobId) {row : JobRow} (live : row.status = .active) :
    (Store.lone j row).Sound := by
  have links (j' : JobId) (k : OpeningKey) :
      (Store.lone j row).market.links j' = some k ↔ j' = j ∧ k = "" := by
    by_cases here : j' = j
    · subst here
      simp [Store.lone, eq_comm]
    · simp [Store.lone, here]
  have openings (k : OpeningKey) (o : OpeningRow)
      (found : (Store.lone j row).market.openings k = some o) :
      k = "" ∧ o = .ofJob row.firstSeenAt j row := by
    by_cases here : k = ""
    · subst here
      rw [Store.lone] at found
      dsimp only at found
      rw [Function.update_self] at found
      cases found
      exact ⟨rfl, rfl⟩
    · rw [Store.lone] at found
      dsimp only at found
      rw [Function.update_of_ne here] at found
      cases found
  refine ⟨⟨fun j' k linked => ?_, fun j' stored => ?_, fun k o found => ?_, fun k o found => ?_⟩,
    fun j' stored => ?_, fun k ref stored => ?_⟩
  · rw [((links j' k).mp linked).1, lone_get, if_pos rfl]
    rfl
  · rw [lone_get] at stored
    split at stored
    · rename_i here
      rw [(links j' "").mpr ⟨here, rfl⟩]
      rfl
    · cases stored
  · obtain ⟨rfl, -⟩ := openings k o found
    exact ⟨j, (links j "").mpr ⟨rfl, rfl⟩⟩
  · obtain ⟨rfl, rfl⟩ := openings k o found
    refine iff_of_false (by simp [OpeningRow.ofJob]) fun gone => ?_
    have alive := Market.allGone_iff.mp gone j row (by rw [lone_get, if_pos rfl])
      ((links j "").mpr ⟨rfl, rfl⟩)
    rw [live] at alive
    cases alive
  · rw [lone_get] at stored
    split at stored
    · rename_i here
      subst here
      exact ⟨.lone j' row, by simp [Store.lone], rfl⟩
    · cases stored
  · rw [(lone_refs stored).2, lone_get, if_pos rfl]
    rfl

/-- A row of the board that a key apart tells from every posting of the fetch. -/
def RunConfig.unlike (c : RunConfig μ) (key : String) : JobRow where
  canonicalKey := key
  sourceIdentifier := some c.identifier
  company := ""
  originalTitle := ""
  content := ⟨"", "", none, [], "", ""⟩
  contentHash := key
  sourceUrl := ""
  applicationUrl := none
  normalizedSourceUrl := none
  normalizedApplicationUrl := none
  postedAt := none
  sourceUpdatedAt := none
  deadline := none
  firstSeenAt := 0
  lastSeenAt := 0
  closedAt := none
  status := .active

theorem unlike_alike {job : NormalizedJob} {key : String} (canonical : job.canonicalKey ≠ key)
    (content : job.contentHash ≠ key) : alike c.extractors job (c.unlike key) = false := by
  have applicationUrl : sameApplicationUrl c.extractors job (c.unlike key) = false := by
    unfold sameApplicationUrl
    cases c.extractors.normalizeUrl job.applicationUrl <;> simp [given, RunConfig.unlike]
  have sourceUrl : sameSourceUrl c.extractors job (c.unlike key) = false := by
    unfold sameSourceUrl
    cases c.extractors.normalizeUrl (some job.sourceUrl) <;> simp [given, RunConfig.unlike]
  have canonicalKey : sameCanonicalKey job (c.unlike key) = false :=
    decide_eq_false (Ne.symm canonical)
  have contentHash : sameContent job (c.unlike key) = false := by
    have other : (c.unlike key).contentHash ≠ job.contentHash := Ne.symm content
    simp [sameContent, other]
  rw [alike, applicationUrl, sourceUrl, canonicalKey, contentHash]
  rfl

/-- A sweep after a fetch that leaves a listed posting out closes that posting in some store. -/
theorem covered_of_spares (spares : ∀ s : Store, s.Sound → Named c s → Spares c f t s)
    (sweeps : Sweeps c f.postings) : Covered c f := by
  intro p member named
  by_contra uncovered
  push Not at uncovered
  obtain ⟨key, new⟩ := Infinite.exists_notMem_finset
    ((f.postings.map fun q => (c.extractors.enriched c.companyName q.raw).canonicalKey) ++
      (f.postings.map fun q => (c.extractors.enriched c.companyName q.raw).contentHash)).toFinset
  simp only [List.mem_toFinset, List.mem_append, List.mem_map, not_or, not_exists, not_and] at new
  have apart : Apart c f (c.unlike key) :=
    ⟨fun q member => unlike_alike (new.1 q member) (new.2 q member), rfl, rfl⟩
  let row := c.unlike key
  have sound : (Store.lone p.raw.key row).Sound := lone_sound p.raw.key rfl
  have start : Hidden p.raw.key row (LoopState.start c (Store.lone p.raw.key row) f.postings) :=
    ⟨.clean ⟨by rw [lone_get, if_pos rfl], fun k ref stored _ => (lone_refs stored).1⟩, nofun⟩
  have hidden := foldl_listed (f := f) (c := c) (P := fun _ l => Hidden p.raw.key row l)
    (fun q member done l tracks here => here.next apart member tracks fun same => by
      simpa using uncovered q member same)
    (start_tracks sound) start (List.Subset.refl _)
  have names : Named c (Store.lone p.raw.key row) := by
    intro j stored
    rw [lone_get] at stored
    split at stored
    · rename_i here
      rwa [here]
    · cases stored
  have stored : (ingestAll c (Store.lone p.raw.key row) f.postings).data.stored.market.jobs.get
      p.raw.key = some row := hidden.holds.working.1
  have spared := spares _ sound names p.raw.key row stored ⟨p, member, rfl⟩
  have missing : Missing c (ingestAll c (Store.lone p.raw.key row) f.postings).observed p.raw.key
      row = true := by
    have unseen : p.raw.key ∉ (ingestAll c (Store.lone p.raw.key row) f.postings).observed :=
      hidden.unseen
    simp only [Missing, Bool.and_eq_true, decide_eq_true_eq]
    exact ⟨⟨⟨f.own p member, rfl⟩, rfl⟩, unseen⟩
  rw [runDiscovery, sweep_get, stored, Option.map_some, ingestAll_failed sound,
    if_pos ⟨sweeps, missing⟩] at spared
  cases congrArg JobRow.status (Option.some.inj spared)

/-- A fetch may be swept after exactly when every id that it lists is listed by a posting that is
ingested to its end, or kept out by its location alone. -/
theorem spares_iff (c : RunConfig μ) (f : Fetch c) (t : Times) :
    (∀ s : Store, s.Sound → Named c s → Spares c f t s) ↔
      (Sweeps c f.postings → Covered c f) :=
  ⟨covered_of_spares, fun covered _ sound named => spares_of_covered covered sound named⟩

/-! ### Every run leaves such a store -/

theorem sweep_sound (discovered : Nat) (sound : l.data.stored.Sound) :
    (sweep c l discovered t).1.Sound where
  kept := sweep_kept discovered sound.kept
  own j present := by
    have refs : (sweep c l discovered t).1.refs = l.data.stored.refs := by
      unfold sweep
      dsimp only
      split <;> rfl
    rw [sweep_get, Option.isSome_map] at present
    rw [refs]
    exact sound.own j present
  found k ref stored := by
    have refs : (sweep c l discovered t).1.refs = l.data.stored.refs := by
      unfold sweep
      dsimp only
      split <;> rfl
    rw [refs] at stored
    rw [sweep_get, Option.isSome_map]
    exact sound.found k ref stored

theorem runDiscovery_sound (sound : s.Sound) (f : Fetch c) (t : Times) :
    (runDiscovery c s (some f.postings) t).1.Sound := by
  have tracks := foldl_listed (f := f) (c := c)
    (P := fun _ l => l.Tracks c.source (fetchedIds f.postings))
    (fun p member done l tracks _ => next_tracks tracks (f.own p member) (ingested_id member))
    (start_tracks sound) (start_tracks sound) (List.Subset.refl _)
  exact sweep_sound _ tracks.sound.working

theorem runDiscovery_named (sound : s.Sound) (named : Named c s) (f : Fetch c) (t : Times) :
    Named c (runDiscovery c s (some f.postings) t).1 := by
  have all := foldl_listed (f := f) (c := c) (P := fun _ l => l.data.Holds (Named c))
    (fun p member done l tracks here => by
      cases exit : c.exit p.raw with
      | rejected => rwa [LoopState.next, exit]
      | titleFiltered => rwa [LoopState.next, exit]
      | geographyFiltered => rwa [LoopState.next, exit]
      | ingested =>
        have listed := ingested_id member exit
        have own := f.own p member
        obtain ⟨r, done, went⟩ := ingest_cases tracks own listed
        rw [LoopState.next, exit]
        rcases went with ⟨-, went⟩ | ⟨-, went⟩ | ⟨-, went⟩ | ⟨-, went⟩
        · rw [went]
          refine here.save _ fun j present => ?_
          rcases ingestOne_tracks tracks.sound.working (tracks.current own listed) done with
            ⟨rfl, -⟩ | ⟨j', writes⟩
          · exact here.working j present
          · cases before : l.data.working.market.jobs.get j with
            | some row => exact here.working j (by rw [before]; rfl)
            | none =>
              -- the row is new, and its posting was valid
              have same : j = j' := by
                by_contra other
                rw [writes.others j other, before] at present
                cases present
              subst same
              have key := writes.fresh before
              rw [key]
              unfold RunConfig.exit at exit
              split at exit
              · cases exit
              · rename_i valid
                simp only [Extractors.validateRawJob] at valid
                split at valid
                · simp at valid
                · rename_i blank
                  exact not_or.mp blank
        all_goals
          rw [went]
          exact here.rollback)
    (start_tracks sound) (.clean named) (List.Subset.refl _)
  intro j present
  rw [runDiscovery, sweep_get, Option.isSome_map] at present
  exact all.working j present

end Listing

/-! #### A board whose titles are filtered -/

/-- A posting of the first run that the second lists, and filters by its title. -/
theorem filtered_posting_closed :
    let designers := { acmeBoard with titleMatches := some fun title => title = "Designer" }
    let s := (runDiscovery acmeBoard .empty (some [⟨acmePosting "1" "Engineer", 1, none⟩])
      ⟨0, 2, by decide⟩).1
    ¬Spares designers ⟨[⟨acmePosting "1" "Engineer", 4, none⟩], by decide⟩ ⟨3, 5, by decide⟩ s := by
  intro designers s spares
  have live : ((ingestAll designers s [⟨acmePosting "1" "Engineer", 4, none⟩]).data.stored.market
      |>.jobs.get ⟨"GREENHOUSE", "1"⟩).map (·.status) = some .active := by
    decide +kernel
  have closed : ((runDiscovery designers s (some [⟨acmePosting "1" "Engineer", 4, none⟩])
      ⟨3, 5, by decide⟩).1.market.jobs.get ⟨"GREENHOUSE", "1"⟩).map (·.status) = some .closed := by
    decide +kernel
  obtain ⟨row, stored, status⟩ := Option.map_eq_some_iff.mp live
  rw [spares _ row stored ⟨_, List.mem_singleton_self _, rfl⟩, Option.map_some, status] at closed
  cases closed

end RangeApply.Postings
