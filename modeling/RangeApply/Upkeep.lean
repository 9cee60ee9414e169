import RangeApply.Discovery

/-! Over any history of runs an opening is closed exactly while every posting linked to it is. -/
namespace RangeApply.Postings

/-! ### What holds of the openings -/

theorem Market.allGone_iff {m : Market} {k : OpeningKey} : m.allGone k = true ↔
    ∀ j row, m.jobs.get j = some row → m.links j = some k → row.status.gone = true := by
  unfold Market.allGone Market.linked
  rw [List.all_eq_true]
  constructor
  · intro all j row found linked
    exact all (j, row) (List.mem_filter.mpr ⟨Table.get_eq_some.mp found, by simpa using linked⟩)
  · rintro gone ⟨j, row⟩ member
    obtain ⟨stored, linked⟩ := List.mem_filter.mp member
    exact gone j row (Table.get_eq_some.mpr stored) (by simpa using linked)

/-- Every posting is linked, every opening has a posting, and an opening is closed exactly while
all of its postings are closed or expired. -/
structure Market.Kept (m : Market) : Prop where
  stored : ∀ j k, m.links j = some k → (m.jobs.get j).isSome
  linked : ∀ j, (m.jobs.get j).isSome → (m.links j).isSome
  held : ∀ k o, m.openings k = some o → ∃ j, m.links j = some k
  status : ∀ k o, m.openings k = some o → (o.status = .closed ↔ m.allGone k = true)

namespace Market.Kept
variable {identity : JobRow → OpeningKey} {now : Time} {m : Market} {j : JobId} {row : JobRow}

theorem empty : Market.Kept ⟨.empty, fun _ => none, fun _ => none, nofun⟩ where
  stored := nofun
  linked := nofun
  held := nofun
  status := nofun

/-- A live posting that is stored and attached to its opening keeps all of this. -/
theorem seen (kept : m.Kept) (live : row.status.gone = false) :
    ((m.putJob j row).link j (m.target identity j row)
      ((m.putJob j row).resolved identity now j row)).Kept := by
  have open_ : ((m.putJob j row).resolved identity now j row).status ≠ .closed :=
    (resolved_seen (m := m.putJob j row)).2.2.resolve_left (by simp [live])
  have elsewhere {j' : JobId} {k' : OpeningKey} (before : m.links j' = some k')
      (other : k' ≠ m.target identity j row) : j' ≠ j := by
    rintro rfl
    exact other (by rw [target, before, Option.getD_some])
  refine ⟨fun j' k' here => ?_, fun j' here => ?_, fun k' o here => ?_, fun k' o here => ?_⟩
  · by_cases same : j' = j
    · subst same
      simp
    · rw [link_links, putJob_links, Function.update_of_ne same] at here
      rw [link_jobs, putJob_jobs, Table.get_set_other _ _ same]
      exact kept.stored j' k' here
  · by_cases same : j' = j
    · subst same
      simp
    · rw [link_jobs, putJob_jobs, Table.get_set_other _ _ same] at here
      rw [link_links, putJob_links, Function.update_of_ne same]
      exact kept.linked j' here
  · by_cases same : k' = m.target identity j row
    · exact ⟨j, by rw [link_links, Function.update_self, same]⟩
    · rw [link_openings, putJob_openings, Function.update_of_ne same] at here
      obtain ⟨j', before⟩ := kept.held k' o here
      exact ⟨j', by
        rw [link_links, putJob_links, Function.update_of_ne (elsewhere before same), before]⟩
  · rw [allGone_iff]
    by_cases same : k' = m.target identity j row
    · subst same
      rw [link_openings, Function.update_self] at here
      cases here
      refine iff_of_false open_ fun gone => ?_
      have alive := gone j row (by simp) (by rw [link_links, Function.update_self])
      rw [live] at alive
      cases alive
    · rw [link_openings, putJob_openings, Function.update_of_ne same] at here
      rw [kept.status k' o here, allGone_iff]
      refine forall_congr' fun j' => forall_congr' fun row' => ?_
      by_cases own : j' = j
      · -- the posting itself belongs to another opening, before and after
        subst own
        have before : m.links j' ≠ some k' := fun before => elsewhere before same rfl
        have after : some (m.target identity j' row) ≠ some k' := fun after =>
          same (Option.some.inj after).symm
        simp [before, after]
      · simp only [link_jobs, putJob_jobs, Table.get_set_other _ _ own, link_links, putJob_links,
          Function.update_of_ne own]

/-- Resolving a stored posting again keeps it too. -/
theorem again (kept : m.Kept) (found : m.jobs.get j = some row) :
    (m.link j (m.target identity j row) (m.resolved identity now j row)).Kept := by
  obtain ⟨k, linked⟩ := Option.isSome_iff_exists.mp (kept.linked j (by rw [found]; rfl))
  obtain ⟨o, opening⟩ := Option.isSome_iff_exists.mp (m.linksFound j k linked)
  have target : m.target identity j row = k := by rw [target, linked, Option.getD_some]
  have resolved : (m.resolved identity now j row).status = o.status := by
    unfold Market.resolved
    rw [target, opening]
    simp only [linked, Option.isSome_some, if_true]
    unfold OpeningRow.seenAgain
    dsimp only
    split
    · rename_i reopened
      -- a live posting has an open opening
      obtain ⟨live, closed⟩ := reopened
      have gone := allGone_iff.mp ((kept.status k o opening).mp closed) j row found linked
      simp [gone] at live
    · rfl
  have links : Function.update m.links j (some k) = m.links := by
    rw [← linked, Function.update_eq_self]
  rw [target]
  refine ⟨fun j' k' here => ?_, fun j' here => ?_, fun k' o' here => ?_, fun k' o' here => ?_⟩
  · rw [link_links, links] at here
    exact kept.stored j' k' here
  · rw [link_links, links]
    exact kept.linked j' here
  · rw [link_links, links]
    by_cases same : k' = k
    · exact ⟨j, same ▸ linked⟩
    · rw [link_openings, Function.update_of_ne same] at here
      exact kept.held k' o' here
  · have gone : (m.link j k (m.resolved identity now j row)).allGone k' = m.allGone k' := by
      unfold Market.allGone Market.linked
      rw [link_links, links, link_jobs]
    rw [gone]
    by_cases same : k' = k
    · subst same
      rw [link_openings, Function.update_self] at here
      cases here
      rw [resolved]
      exact kept.status k' o opening
    · rw [link_openings, Function.update_of_ne same] at here
      exact kept.status k' o' here

end Market.Kept

/-! ### The sweep -/

/-- As `Kept`, but for openings of the listed postings that are yet to be closed. -/
structure Market.Closing (m : Market) (rows : List (JobId × JobRow)) : Prop where
  stored : ∀ j k, m.links j = some k → (m.jobs.get j).isSome
  linked : ∀ j, (m.jobs.get j).isSome → (m.links j).isSome
  held : ∀ k o, m.openings k = some o → ∃ j, m.links j = some k
  gone : ∀ k o, m.openings k = some o → o.status = .closed → m.allGone k = true
  due : ∀ k o, m.openings k = some o → m.allGone k = true →
    o.status = .closed ∨ ∃ r ∈ rows, m.links r.1 = some k

namespace Market.Closing
variable {m : Market} {rows : List (JobId × JobRow)} {r : JobId × JobRow}

theorem kept (closing : m.Closing []) : m.Kept where
  stored := closing.stored
  linked := closing.linked
  held := closing.held
  status k o here := by
    refine ⟨closing.gone k o here, fun gone => ?_⟩
    rcases closing.due k o here gone with closed | ⟨r, member, -⟩
    · exact closed
    · cases member

/-- The opening of the next posting is closed if it must be. -/
theorem next {k : OpeningKey} (closing : m.Closing (r :: rows)) (linked : m.links r.1 = some k) :
    (closeIfAllGone m k).Closing rows := by
  unfold closeIfAllGone
  split
  · rename_i gone
    have same (k' : OpeningKey) : (m.close k).allGone k' = m.allGone k' := rfl
    have status {k' : OpeningKey} {o : OpeningRow} (here : (m.close k).openings k' = some o) :
        ∃ before, m.openings k' = some before ∧
          o.status = if k' = k then .closed else before.status := by
      by_cases own : k' = k
      · subst own
        rw [Market.close_openings, Function.update_self, Option.map_eq_some_iff] at here
        obtain ⟨before, found, rfl⟩ := here
        exact ⟨before, found, by rw [if_pos rfl]⟩
      · rw [Market.close_openings, Function.update_of_ne own] at here
        exact ⟨o, here, by rw [if_neg own]⟩
    refine ⟨closing.stored, closing.linked, fun k' o here => ?_, fun k' o here closed => ?_,
      fun k' o here gone' => ?_⟩
    · obtain ⟨before, found, -⟩ := status here
      exact closing.held k' before found
    · obtain ⟨before, found, later⟩ := status here
      rw [same]
      by_cases own : k' = k
      · exact own ▸ gone.2
      · rw [if_neg own] at later
        exact closing.gone k' before found (later ▸ closed)
    · obtain ⟨before, found, later⟩ := status here
      by_cases own : k' = k
      · exact .inl (by rw [later, if_pos own])
      · rw [later, if_neg own]
        rcases closing.due k' before found gone' with closed | ⟨r', member, elsewhere⟩
        · exact .inl closed
        · rcases List.mem_cons.mp member with rfl | member
          · rw [linked] at elsewhere
            exact absurd (Option.some.inj elsewhere).symm own
          · exact .inr ⟨r', member, elsewhere⟩
  · rename_i open_
    refine ⟨closing.stored, closing.linked, closing.held, closing.gone, fun k' o here gone => ?_⟩
    rcases closing.due k' o here gone with closed | ⟨r', member, elsewhere⟩
    · exact .inl closed
    · rcases List.mem_cons.mp member with rfl | member
      · rw [linked] at elsewhere
        cases elsewhere
        -- its opening has this very posting, so it is not all gone
        refine absurd ⟨?_, gone⟩ open_
        obtain ⟨row, found⟩ := Option.isSome_iff_exists.mp (closing.stored _ _ linked)
        exact List.ne_nil_of_mem (List.mem_filter.mpr
          ⟨Table.get_eq_some.mp found, by simpa using linked⟩)
      · exact .inr ⟨r', member, elsewhere⟩

theorem foldl (closing : m.Closing rows) :
    (rows.foldl (fun m r => match m.links r.1 with
      | none => m
      | some k => closeIfAllGone m k) m).Closing [] := by
  induction rows generalizing m with
  | nil => exact closing
  | cons r rows ih =>
    rw [List.foldl_cons]
    cases linked : m.links r.1 with
    | none =>
      refine ih ⟨closing.stored, closing.linked, closing.held, closing.gone, fun k o here gone => ?_⟩
      rcases closing.due k o here gone with closed | ⟨r', member, there⟩
      · exact .inl closed
      · rcases List.mem_cons.mp member with rfl | member
        · rw [linked] at there
          cases there
        · exact .inr ⟨r', member, there⟩
    | some k => exact ih (closing.next linked)

end Market.Closing

section Sweep
variable {μ : Type} {c : RunConfig μ} {m : Market} {observed : List JobId} {t : Times}

theorem closeMissing_get (c : RunConfig μ) (observed : List JobId) (t : Times) (m : Market)
    (j : JobId) :
    (closeMissingJobs c m observed t.closed).jobs.get j = (m.jobs.get j).map fun row =>
      if Missing c observed j row then { row with status := .closed, closedAt := some t.closed }
      else row :=
  Table.get_mapRows _ _ _

theorem closeMissing_isSome (j : JobId) :
    ((closeMissingJobs c m observed t.closed).jobs.get j).isSome = (m.jobs.get j).isSome := by
  rw [closeMissing_get, Option.isSome_map]

/-- Postings only vanish in a sweep, so an opening that was closed stays all gone. -/
theorem closeMissing_gone {k : OpeningKey} (gone : m.allGone k = true) :
    (closeMissingJobs c m observed t.closed).allGone k = true := by
  refine Market.allGone_iff.mpr fun j row found linked => ?_
  rw [closeMissing_get, Option.map_eq_some_iff] at found
  obtain ⟨before, stored, rfl⟩ := found
  split
  · rfl
  · exact Market.allGone_iff.mp gone j before stored linked

/-- What the sweep leaves to be closed are openings of postings it closed just now. -/
theorem closeMissing_closing (kept : m.Kept) :
    (closeMissingJobs c m observed t.closed).Closing
      ((closeMissingJobs c m observed t.closed).jobs.rows.filter fun r =>
        decide (r.1.source = c.source) && decide (r.2.sourceIdentifier = some c.identifier) &&
          decide (r.2.status = .closed) && r.2.closedAt.any fun at_ => decide (t.started ≤ at_)) where
  stored j k here := by
    rw [closeMissing_isSome]
    exact kept.stored j k here
  linked j here := by
    rw [closeMissing_isSome] at here
    exact kept.linked j here
  held := kept.held
  gone k o here closed := closeMissing_gone ((kept.status k o here).mp closed)
  due k o here gone := by
    by_cases closed : o.status = .closed
    · exact .inl closed
    · have live := mt (kept.status k o here).mpr closed
      rw [Market.allGone_iff] at live
      push Not at live
      obtain ⟨j, row, found, linked, alive⟩ := live
      by_cases missing : Missing c observed j row = true
      · refine .inr ⟨(j, { row with status := .closed, closedAt := some t.closed }), ?_, linked⟩
        have stored := closeMissing_get c observed t m j
        rw [found, Option.map_some, if_pos missing] at stored
        refine List.mem_filter.mpr ⟨Table.get_eq_some.mp stored, ?_⟩
        simp only [Missing, Bool.and_eq_true, decide_eq_true_eq] at missing
        simp [missing, t.forward]
      · have stored := closeMissing_get c observed t m j
        rw [found, Option.map_some, if_neg missing] at stored
        exact absurd (Market.allGone_iff.mp gone j row stored linked) alive

theorem closeMissing_none (none_ : countMissing c m observed = 0) :
    closeMissingJobs c m observed t.closed = m := by
  have rows : (closeMissingJobs c m observed t.closed).jobs.rows = m.jobs.rows := by
    refine (List.map_congr_left fun r member => ?_).trans (List.map_id _)
    have present := List.filter_eq_nil_iff.mp (List.length_eq_zero_iff.mp none_) r member
    simp only [if_neg present, id]
  ext1
  · exact Table.eq_of_rows rows
  · rfl
  · rfl

theorem sweep_kept {l : LoopState} (discovered : Nat) (kept : l.data.stored.market.Kept) :
    (sweep c l discovered t).1.market.Kept := by
  unfold sweep
  dsimp only
  split
  · split
    · rename_i none_
      dsimp only
      rwa [closeMissing_none none_]
    · exact (closeMissing_closing kept).foldl.kept
  · exact kept

end Sweep

/-! ### One posting -/

section Ingest
variable {μ : Type} {c : RunConfig μ} {raw : RawJob μ} {now : Time} {s : Store} {h : Hints}
  {n : Counters} {known : Option KnownRef} {r : Ingested}

/-- The prefetched links are stored ones. -/
def Hints.Fits (h : Hints) (m : Market) : Prop := ∀ j k, h.links j = some k → m.links j = some k

theorem Hints.Fits.linkFor {m : Market} (fits : h.Fits m) {j : JobId} {new : Bool}
    (unlinked : new = true → m.links j = none) : m.linkFor j (h.links j) new = m.links j := by
  unfold Market.linkFor
  cases hint : h.links j with
  | none =>
    cases new with
    | false => rfl
    | true => exact (unlinked rfl).symm
  | some k => exact (fits j k hint).symm

@[simp] theorem enriched_jobStatus (x : Extractors μ) (companyName : Option String)
    (raw : RawJob μ) : (x.enriched companyName raw).jobStatus = .active := by
  unfold Extractors.enriched
  cases x.llm <;> rfl

theorem after_live {x : Extractors μ} {job : NormalizedJob} (live : job.jobStatus = .active)
    (row : JobRow) (matchedBy : MatchedBy) :
    (row.after x job now matchedBy).status.gone = false := by
  have status : (row.after x job now matchedBy).status =
      if row.status.gone then job.jobStatus else row.status := by
    unfold JobRow.after
    split <;> rfl
  rw [status, live]
  cases gone : row.status.gone
  · exact gone
  · rfl

/-- Deduplication writes one live row; when it is new, there was none. -/
theorem process_market {x : Extractors μ} {job : NormalizedJob} {skip : Bool} {d : DedupResult}
    (live : job.jobStatus = .active) (done : process x job now s skip = some d) :
    ∃ row, d.store.market = s.market.putJob d.job row ∧ row.status.gone = false ∧
      (d.status = .new → s.market.jobs.get d.job = none) := by
  rcases process_cases done with ⟨-, free, -, rfl⟩ | ⟨j, matchedBy, row, -, found, rfl⟩
  · refine ⟨newRow x job now, rfl, ?_, fun _ => free⟩
    rw [newRow, live]
    rfl
  · rw [sight_job]
    refine ⟨row.after x job now matchedBy, sight_market j row matchedBy,
      after_live live row matchedBy, fun new => ?_⟩
    unfold sight at new
    dsimp only at new
    split at new
    · cases new
    · dsimp only at new
      split at new <;> cases new

theorem touched_live (row : JobRow) : (row.touched now).status.gone = false := by
  unfold JobRow.touched
  cases gone : row.status.gone
  · simpa using gone
  · rfl

/-- A live row was written at a posting, and the posting attached to its opening. -/
def Attached (c : RunConfig μ) (now : Time) (m m' : Market) (j : JobId) (row : JobRow) : Prop :=
  m' = (m.putJob j row).link j (m.target c.identity j row)
    ((m.putJob j row).resolved c.identity now j row)

theorem store_attached (kept : s.market.Kept) (fits : h.Fits s.market)
    (done : store c raw now s h n known = some r) :
    ∃ j row, row.status.gone = false ∧ r.observed = some j ∧
      Attached c now s.market r.store.market j row := by
  obtain ⟨d, row, processed, found, rfl⟩ := store_eq_some done
  obtain ⟨row', written, live, new⟩ := process_market (enriched_jobStatus _ _ _) processed
  rw [written, Market.putJob_jobs, Table.get_set_self] at found
  cases found
  refine ⟨d.job, row, live, rfl, ?_⟩
  have fits : h.Fits (s.market.putJob d.job row) := fits
  dsimp only
  rw [written]
  refine (resolveOpportunity_eq c.identity now row (fits.linkFor fun isNew => ?_)).1
  have free := new (of_decide_eq_true isNew)
  rw [Market.putJob_links]
  cases linked : s.market.links d.job with
  | none => rfl
  | some k =>
    have present := kept.stored d.job k linked
    rw [free] at present
    cases present

theorem touch_attached {key : PostingKey} {ref : RefRow} {j : JobId} {row : JobRow}
    (fits : h.Fits s.market) :
    Attached c now s.market (touch c now s h n key ref j row).store.market j (row.touched now) := by
  have fits : h.Fits (s.market.putJob j (row.touched now)) := fits
  have known : (s.market.putJob j (row.touched now)).linkFor j (h.links j) false =
    (s.market.putJob j (row.touched now)).links j := fits.linkFor nofun
  exact (resolveOpportunity_eq c.identity now (row.touched now) known).1

/-- An ingestion leaves the store alone, or one posting stored live and attached to its opening. -/
theorem ingestOne_attached (kept : s.market.Kept) (fits : h.Fits s.market)
    (done : ingestOne c raw now s h n = some r) :
    r.store = s ∨ ∃ j row, row.status.gone = false ∧ r.observed = some j ∧
      Attached c now s.market r.store.market j row := by
  rcases ingestOne_cases done with ⟨-, rfl⟩ | ⟨-, ⟨key, ref, row, -, -, -, rfl⟩ | ⟨-, stored⟩⟩
  · exact .inl rfl
  · exact .inr ⟨_, row.touched now, touched_live row, rfl, touch_attached fits⟩
  · exact .inr (store_attached kept fits stored)

theorem ingestOne_kept (kept : s.market.Kept) (fits : h.Fits s.market)
    (done : ingestOne c raw now s h n = some r) : r.store.market.Kept := by
  rcases ingestOne_attached kept fits done with same | ⟨j, row, live, -, attached⟩
  · rwa [same]
  · rw [attached]
    exact kept.seen live

/-- No posting loses its link. -/
theorem ingestOne_links (kept : s.market.Kept) (fits : h.Fits s.market)
    (done : ingestOne c raw now s h n = some r) {j : JobId} {k : OpeningKey}
    (linked : s.market.links j = some k) : r.store.market.links j = some k := by
  rcases ingestOne_attached kept fits done with same | ⟨j', row, -, -, attached⟩
  · rwa [same]
  · rw [attached, Market.link_links, Market.putJob_links]
    by_cases here : j = j'
    · subst here
      rw [Function.update_self, Market.target, linked, Option.getD_some]
    · rw [Function.update_of_ne here, linked]

end Ingest

/-! ### A run -/

section Run
variable {μ : Type} {c : RunConfig μ} {s : Store} {l : LoopState}

/-- What holds of the store when a posting is ingested. -/
structure Store.Fit (links : JobId → Option OpeningKey) (s : Store) : Prop where
  kept : s.market.Kept
  fits : ∀ j k, links j = some k → s.market.links j = some k

theorem ingest_holds (p : Fetched μ) (holds : l.data.Holds (Store.Fit l.hints.links)) :
    (l.ingest c p).data.Holds (Store.Fit l.hints.links) ∧
      (l.ingest c p).hints.links = l.hints.links := by
  unfold LoopState.ingest
  split
  · rename_i r done _
    obtain ⟨kept, fits⟩ := holds.working
    refine ⟨holds.save commitBatchSize ⟨ingestOne_kept kept fits done, fun j k linked => ?_⟩, rfl⟩
    exact ingestOne_links kept fits done (fits j k linked)
  · exact ⟨holds.rollback, rfl⟩
  · exact ⟨holds.rollback, rfl⟩
  · exact ⟨holds.rollback, rfl⟩

theorem next_holds (p : Fetched μ) (holds : l.data.Holds (Store.Fit l.hints.links)) :
    (l.next c p).data.Holds (Store.Fit (l.next c p).hints.links) := by
  unfold LoopState.next
  split
  · exact holds
  · exact holds
  · exact holds
  · obtain ⟨ingested, links⟩ := ingest_holds (c := c) p holds
    rwa [links]

theorem foldl_holds (postings : List (Fetched μ)) (holds : l.data.Holds (Store.Fit l.hints.links)) :
    (postings.foldl (LoopState.next c) l).data.Holds
      (Store.Fit (postings.foldl (LoopState.next c) l).hints.links) := by
  induction postings generalizing l with
  | nil => exact holds
  | cons p postings ih => exact ih (next_holds p holds)

theorem prefetchLinks_fits (refs : List (String × Indexed)) (j : JobId) (k : OpeningKey)
    (hint : prefetchLinks s refs j = some k) : s.market.links j = some k := by
  unfold prefetchLinks at hint
  split at hint
  · exact hint
  · cases hint

theorem runDiscovery_kept (kept : s.market.Kept) (fetched : Option (List (Fetched μ))) (t : Times) :
    (runDiscovery c s fetched t).1.market.Kept := by
  cases fetched with
  | none => exact kept
  | some postings =>
    refine sweep_kept postings.length ?_
    have start : (LoopState.start c s postings).data.Holds
        (Store.Fit (LoopState.start c s postings).hints.links) :=
      .clean ⟨kept, prefetchLinks_fits _⟩
    exact (foldl_holds postings start).commit.stored.kept

end Run

/-! ### Histories -/

/-- What happens to the store: runs, and syncs of matches, which resolve the opening of a posting. -/
inductive Op (μ : Type)
  | run (c : RunConfig μ) (fetched : Option (List (Fetched μ))) (t : Times)
  | sync (identity : JobRow → OpeningKey) (now : Time) (j : JobId)

def Op.apply {μ : Type} (s : Store) : Op μ → Store
  | .run c fetched t => (runDiscovery c s fetched t).1
  | .sync identity now j =>
    match s.market.jobs.get j with
    | none => s
    | some row => { s with market := (resolveOpportunity identity now s.market j row none false).1 }

def Store.empty : Store where
  market := ⟨.empty, fun _ => none, fun _ => none, nothing_linked⟩
  refs := fun _ => none
  versions := []

theorem op_kept {μ : Type} {s : Store} (kept : s.market.Kept) (op : Op μ) :
    (op.apply s).market.Kept := by
  cases op with
  | run c fetched t => exact runDiscovery_kept kept fetched t
  | sync identity now j =>
    unfold Op.apply
    dsimp only
    cases found : s.market.jobs.get j with
    | none => exact kept
    | some row =>
      dsimp only
      rw [(resolveOpportunity_eq identity now row linkFor_none).1]
      exact kept.again found

theorem history_kept {μ : Type} (ops : List (Op μ)) {s : Store} (kept : s.market.Kept) :
    (ops.foldl Op.apply s).market.Kept := by
  induction ops generalizing s with
  | nil => exact kept
  | cons op ops ih => exact ih (op_kept kept op)

/-- Every opening is closed exactly while all its postings are closed or expired. -/
def Market.Follows (m : Market) : Prop :=
  ∀ k o, m.openings k = some o → (o.status = .closed ↔
    ∀ j row, m.jobs.get j = some row → m.links j = some k →
      row.status = .closed ∨ row.status = .expired)

/-- Whatever was listed, vanished, came back or was reposted, the openings follow their postings. -/
theorem openings_follow {μ : Type} (ops : List (Op μ)) :
    (ops.foldl Op.apply Store.empty).market.Follows := by
  intro k o found
  have kept : (ops.foldl Op.apply Store.empty).market.Kept := history_kept ops .empty
  have gone (row : JobRow) :
      row.status.gone = true ↔ row.status = .closed ∨ row.status = .expired := by
    cases row.status <;> simp [JobStatus.gone]
  rw [kept.status k o found, Market.allGone_iff]
  simp only [gone]

end RangeApply.Postings
