import Mathlib.Data.List.Induction
import RangeApply.Tracking

/-! The payloads of one posting, one after the other, and what the stored row shows of them. -/
namespace RangeApply.Postings

section Payloads
variable {μ : Type}

/-- The run is not a resumed one, and asks no language model. -/
def RunConfig.plain (c : RunConfig μ) : RunConfig μ :=
  { c with extractors := c.extractors.deterministic, resumeCutoff := none }

/-- What a row shows of a posting: everything but what the text was searched for. -/
def JobContent.shown (content : JobContent) : JobContent := { content with extracted := "" }

section Config
variable (c : RunConfig μ) (raw : RawJob μ)

def RunConfig.rawHash : String := c.extractors.computeRawHash raw

def RunConfig.contentHash : String := (c.extractors.normalize c.companyName raw).contentHash

def RunConfig.shown : JobContent := (c.extractors.content c.companyName raw).shown

end Config

/-- The payloads of one posting. -/
structure Payloads (μ : Type) where
  key : PostingKey
  first : RawJob μ
  rest : List (RawJob μ)
  same : ∀ raw ∈ first :: rest, raw.key = key

/-- The store after payloads of a posting that no other source feeds: the first makes a row, the
others are ingested in this order, and whatever happens between them leaves the row and its
reference as they were. -/
inductive Fed (c : RunConfig μ) (first : RawJob μ) : List (RawJob μ) → Store → Prop
  | first {s : Store} {h : Hints} {n : Counters} {now : Time} {r : Ingested} (sound : s.Sound)
      (current : h.Current s first) (new : knownRef first s h = none)
      (apart : ∀ j row, s.market.jobs.get j = some row →
        alike c.extractors (c.extractors.enriched c.companyName first) row = false)
      (done : ingestOne c first now s h n = some r) : Fed c first [] r.store
  | next {rest : List (RawJob μ)} {raw : RawJob μ} {s : Store} {h : Hints} {n : Counters}
      {now : Time} {r : Ingested} (fed : Fed c first rest s) (key : raw.key = first.key)
      (current : h.Current s raw) (indexed : ∀ t, knownRef raw s h ≠ some (.gone t))
      (done : ingestOne c raw now s h n = some r) : Fed c first (rest ++ [raw]) r.store
  | between {rest : List (RawJob μ)} {s s' : Store} (fed : Fed c first rest s) (sound : s'.Sound)
      (row : ∀ row, s.market.jobs.get first.key = some row →
        ∃ row', s'.market.jobs.get first.key = some row' ∧ row'.content = row.content ∧
          row'.contentHash = row.contentHash)
      (ref : ∀ ref, s.refs first.key = some ref →
        ∃ ref', s'.refs first.key = some ref' ∧ ref'.contentHash = ref.contentHash) :
      Fed c first rest s'

/-- The payload that was stored last, and the payload that came last. -/
structure Stored (μ : Type) where
  written : RawJob μ
  last : RawJob μ

/-- A payload is skipped when its raw hash is the last one's, or its content hash is the one of the
payload that was stored last. -/
def RunConfig.skips (c : RunConfig μ) (st : Stored μ) (raw : RawJob μ) : Prop :=
  c.rawHash raw = c.rawHash st.last ∨ c.contentHash raw = c.contentHash st.written

instance (c : RunConfig μ) (st : Stored μ) (raw : RawJob μ) : Decidable (c.skips st raw) :=
  inferInstanceAs (Decidable (_ ∨ _))

def Stored.next (c : RunConfig μ) (st : Stored μ) (raw : RawJob μ) : Stored μ where
  written := if c.skips st raw then st.written else raw
  last := raw

variable {c : RunConfig μ} {first raw : RawJob μ} {rest : List (RawJob μ)} {s : Store}
  {st : Stored μ}

/-- The stored row is the one of the payload written last, with both hashes beside it. -/
structure Holds (c : RunConfig μ) (key : PostingKey) (st : Stored μ) (s : Store) : Prop where
  sound : s.Sound
  row : ∃ row, s.market.jobs.get key = some row ∧
    row.content = c.extractors.content c.companyName st.written ∧
    row.contentHash = c.contentHash st.written
  ref : ∃ ref, s.refs key = some ref ∧ ref.contentHash = some (c.rawHash st.last)

theorem Holds.known {h : Hints} (holds : Holds c raw.key st s) (current : h.Current s raw)
    (indexed : ∀ t, knownRef raw s h ≠ some (.gone t)) :
    ∃ ref row, knownRef raw s h = some (.stored raw.key ref) ∧ s.refs raw.key = some ref ∧
      ref.job = raw.key ∧ ref.contentHash = some (c.rawHash st.last) ∧
      s.market.jobs.get raw.key = some row ∧
      row.content = c.extractors.content c.companyName st.written ∧
      row.contentHash = c.contentHash st.written := by
  obtain ⟨row, found, content, hash⟩ := holds.row
  obtain ⟨ref, stored, rawHash⟩ := holds.ref
  obtain ⟨ref', own, leads⟩ := holds.sound.own raw.key (by rw [found]; rfl)
  rw [stored] at own
  cases own
  refine ⟨ref, row, ?_, stored, leads, rawHash, found, content, hash⟩
  cases known : knownRef raw s h with
  | none =>
    rw [current.unknown known] at stored
    cases stored
  | some k =>
    cases k with
    | gone t => exact absurd known (indexed t)
    | stored key' ref' =>
      obtain ⟨rfl, same⟩ := current.stored known
      rw [stored] at same
      cases same
      rfl

/-- The content and the hash of a row as a sighting leaves them. -/
theorem after_content (x : Extractors μ) (job : NormalizedJob) (now : Time) (row : JobRow)
    (matchedBy : MatchedBy) :
    (row.after x job now matchedBy).content =
        (if row.contentHash = job.contentHash then row.content else job.content) ∧
      (row.after x job now matchedBy).contentHash = job.contentHash := by
  unfold JobRow.after
  by_cases same : row.contentHash = job.contentHash
  · rw [if_neg (not_not.mpr same), if_pos same]
    exact ⟨rfl, same⟩
  · rw [if_pos same, if_neg same]
    exact ⟨rfl, rfl⟩

/-- A payload is skipped or stored as its hashes say. -/
theorem Holds.next {h : Hints} {n : Counters} {now : Time} {r : Ingested}
    (holds : Holds c.plain raw.key st s) (current : h.Current s raw)
    (indexed : ∀ t, knownRef raw s h ≠ some (.gone t))
    (done : ingestOne c.plain raw now s h n = some r) :
    Holds c.plain raw.key (st.next c.plain raw) r.store := by
  obtain ⟨ref, row, known, stored, leads, rawHash, found, content, hash⟩ :=
    holds.known current indexed
  have sound := ingestOne_sound holds.sound current done
  rcases ingestOne_cases done with ⟨again, -⟩ | ⟨-, touched | ⟨changed, stored'⟩⟩
  · simp [resumed, RunConfig.plain, known] at again
  · -- the raw hash is the one we have
    obtain ⟨key', ref', row', known', found', same, rfl⟩ := touched
    rw [known] at known'
    cases known'
    rw [leads, found] at found'
    cases found'
    have skipped : c.plain.skips st raw := .inl (by
      rw [rawHash] at same
      exact (Option.some.inj same).symm)
    refine ⟨sound, ⟨row.touched now, ?_, ?_, ?_⟩, _, Function.update_self _ _ _, same⟩
    · rw [touch]
      dsimp only
      rw [resolveOpportunity_jobs, leads]
      exact Table.get_set_self _ _ _
    · rw [Stored.next, if_pos skipped]
      exact content
    · rw [Stored.next, if_pos skipped]
      exact hash
  · have other : c.plain.rawHash raw ≠ c.plain.rawHash st.last := by
      intro same
      refine changed raw.key ref row known (by rw [leads, found]) ?_
      rw [rawHash, ← same]
      rfl
    obtain ⟨d, row', processed, -, rfl⟩ := store_eq_some stored'
    have bySource : findExistingJob c.plain.extractors
        (c.plain.extractors.enriched c.plain.companyName raw) s
        (!h.refs.isEmpty && (knownRef raw s h).isNone) = some (raw.key, .sourceJobId) := by
      unfold findExistingJob findBySource
      rw [known, enriched_key, found]
      simp
    rcases process_cases processed with ⟨missed, -⟩ | ⟨j, matchedBy, before, there, stored'', rfl⟩
    · rw [bySource] at missed
      cases missed
    · rw [bySource] at there
      cases there
      rw [found] at stored''
      cases stored''
      let job := c.plain.extractors.enriched c.plain.companyName raw
      obtain ⟨content', hash'⟩ := after_content c.plain.extractors job now
        row .sourceJobId
      have jobHash : job.contentHash = c.plain.contentHash raw := rfl
      have jobContent : job.content = c.plain.extractors.content c.plain.companyName raw := rfl
      have written : (st.next c.plain raw).written =
          if c.plain.contentHash raw = c.plain.contentHash st.written then st.written else raw := by
        have skips : c.plain.skips st raw ↔
            c.plain.contentHash raw = c.plain.contentHash st.written := or_iff_right other
        simp only [Stored.next, skips]
      refine ⟨sound, ⟨row.after c.plain.extractors job now .sourceJobId, ?_, ?_, ?_⟩, ?_⟩
      · dsimp only
        rw [resolveOpportunity_jobs, sight_market]
        exact Table.get_set_self _ _ _
      · rw [content', content, hash, jobHash, jobContent, written]
        by_cases same : c.plain.contentHash raw = c.plain.contentHash st.written
        · rw [if_pos same.symm, if_pos same]
        · rw [if_neg (Ne.symm same), if_neg same]
      · rw [hash', jobHash, written]
        by_cases same : c.plain.contentHash raw = c.plain.contentHash st.written
        · rw [if_pos same, same]
        · rw [if_neg same]
      · have refs := sight_refs c.plain.extractors job now s raw.key row
          .sourceJobId
        rw [enriched_key, stored] at refs
        refine ⟨{ ref with
          lastSeenAt := now
          contentHash := some (c.plain.rawHash raw)
          fetchedAt := some now
          parseStatus := some job.processingStatus }, ?_, rfl⟩
        dsimp only
        rw [known, afterDedup, refs, Function.update_self]
        exact Function.update_self _ _ _

/-- The first payload makes the row. -/
theorem Holds.start {h : Hints} {n : Counters} {now : Time} {r : Ingested} (sound : s.Sound)
    (current : h.Current s raw) (new : knownRef raw s h = none)
    (apart : ∀ j row, s.market.jobs.get j = some row →
      alike c.plain.extractors (c.plain.extractors.enriched c.plain.companyName raw) row = false)
    (done : ingestOne c.plain raw now s h n = some r) :
    Holds c.plain raw.key ⟨raw, raw⟩ r.store := by
  have sound' := ingestOne_sound sound current done
  have unknown := current.unknown new
  have free : s.market.jobs.get raw.key = none := by
    cases found : s.market.jobs.get raw.key with
    | none => rfl
    | some row =>
      obtain ⟨ref, stored, -⟩ := sound.own raw.key (by rw [found]; rfl)
      rw [unknown] at stored
      cases stored
  let job := c.plain.extractors.enriched c.plain.companyName raw
  have key : job.key = raw.key := enriched_key _ _ _
  rcases ingestOne_cases done with ⟨again, -⟩ | ⟨-, ⟨_, ref, row, known, -⟩ | ⟨-, stored⟩⟩
  · simp [resumed, new] at again
  · rw [new] at known
    cases known
  · obtain ⟨d, row', processed, -, rfl⟩ := store_eq_some stored
    rcases process_cases processed with ⟨-, -, -, rfl⟩ | ⟨j, matchedBy, before, found, -, rfl⟩
    · refine ⟨sound', ⟨newRow c.plain.extractors job now, ?_, rfl, rfl⟩,
        ⟨{ newRef job now job.key with
          contentHash := some (c.plain.rawHash raw)
          fetchedAt := some now
          parseStatus := some job.processingStatus }, ?_, rfl⟩⟩
      · dsimp only
        rw [resolveOpportunity_jobs]
        exact Table.get_set_self _ _ _
      · have refs : ((s.putJob job.key (newRow c.plain.extractors job now)).putRef job.key
            (newRef job now job.key)).refs ⟨raw.source, raw.sourceJobId⟩ =
              some (newRef job now job.key) := Function.update_self _ _ _
        dsimp only
        rw [new, afterDedup, refs]
        exact Function.update_self _ _ _
    · have bySource : findBySource job s = none := by
        unfold findBySource
        rw [key, free, unknown]
        rfl
      unfold findExistingJob at found
      rw [bySource] at found
      obtain ⟨row, there, similar⟩ :=
        findByLevel_alike matchedBy (by simpa using found)
      rw [apart j row there] at similar
      cases similar

/-- After any of the payloads the row is that of the payload written last. -/
theorem Fed.holds (fed : Fed c.plain first rest s) :
    Holds c.plain first.key (rest.foldl (Stored.next c.plain) ⟨first, first⟩) s := by
  induction fed with
  | first sound current new apart done => exact .start sound current new apart done
  | next fed key current indexed done ih =>
    rw [List.foldl_append, ← key]
    rw [← key] at ih
    exact ih.next current indexed done
  | between fed sound row ref ih =>
    obtain ⟨row₀, found, content, hash⟩ := ih.row
    obtain ⟨ref₀, stored, rawHash⟩ := ih.ref
    obtain ⟨row', found', content', hash'⟩ := row row₀ found
    obtain ⟨ref', stored', rawHash'⟩ := ref ref₀ stored
    exact ⟨sound, ⟨row', found', content'.trans content, hash'.trans hash⟩,
      ⟨ref', stored', rawHash'.trans rawHash⟩⟩

/-- The row shows the payload. -/
def Shows (c : RunConfig μ) (key : PostingKey) (raw : RawJob μ) (s : Store) : Prop :=
  ∃ row, s.market.jobs.get key = some row ∧ row.content.shown = c.shown raw

theorem Fed.shows_iff (fed : Fed c.plain first rest s) {raw : RawJob μ} :
    Shows c.plain first.key raw s ↔
      c.plain.shown (rest.foldl (Stored.next c.plain) ⟨first, first⟩).written =
        c.plain.shown raw := by
  obtain ⟨row, found, content, -⟩ := fed.holds.row
  constructor
  · rintro ⟨row', found', shows_⟩
    rw [found] at found'
    cases found'
    rw [← shows_, content]
    rfl
  · intro same
    exact ⟨row, found, by rw [content]; exact same⟩

/-- There are stores after any payloads of a posting. -/
theorem fed_exists (c : RunConfig μ) (first : RawJob μ) (rest : List (RawJob μ))
    (same : ∀ raw ∈ rest, raw.key = first.key) : ∃ s, Fed c.plain first rest s := by
  induction rest using List.reverseRecOn with
  | nil =>
    have current : (Hints.mk [] fun _ => none).Current Store.empty first := ⟨nofun, fun _ e => absurd rfl e, nofun⟩
    obtain ⟨r, done⟩ := ingestOne_isSome c.plain 0 .zero Store.Sound.empty
      current
    exact ⟨_, .first .empty current rfl (fun j row stored => by cases stored) done⟩
  | append_singleton rest raw ih =>
    obtain ⟨s, fed⟩ := ih fun raw' member => same raw' (List.mem_append_left _ member)
    have key := same raw (List.mem_append_right _ (List.mem_singleton_self _))
    have current : (Hints.mk [] fun _ => none).Current s raw := ⟨nofun, fun _ e => absurd rfl e, nofun⟩
    obtain ⟨r, done⟩ := ingestOne_isSome c.plain 0 .zero fed.holds.sound
      current
    refine ⟨_, .next fed key current (fun t known => ?_) done⟩
    simp [knownRef] at known

/-! ### When the row is the latest payload's -/

/-- A payload that is skipped shows what the payload before it shows. -/
def RunConfig.Covers (c : RunConfig μ) : Stored μ → List (RawJob μ) → Prop
  | _, [] => True
  | st, raw :: rest =>
    (c.skips st raw → c.shown raw = c.shown st.last) ∧ c.Covers (st.next c raw) rest

theorem covers_iff {st : Stored μ} (level : c.shown st.written = c.shown st.last)
    (rest : List (RawJob μ)) : c.Covers st rest ↔
      ∀ done, done <+: rest → c.shown (done.foldl (Stored.next c) st).written =
        c.shown (done.foldl (Stored.next c) st).last := by
  induction rest generalizing st with
  | nil =>
    refine iff_of_true trivial fun done part => ?_
    rw [List.prefix_nil.mp part]
    exact level
  | cons raw rest ih =>
    have step : c.shown (st.next c raw).written = c.shown (st.next c raw).last ↔
        (c.skips st raw → c.shown raw = c.shown st.last) := by
      by_cases skipped : c.skips st raw
      · have written : (st.next c raw).written = st.written := if_pos skipped
        rw [written, level]
        exact eq_comm.trans ⟨fun same _ => same, fun same => same skipped⟩
      · have written : (st.next c raw).written = raw := if_neg skipped
        rw [written]
        exact iff_of_true rfl fun here => absurd here skipped
    constructor
    · rintro ⟨here, later⟩ done part
      cases done with
      | nil => exact level
      | cons raw' done =>
        obtain ⟨rfl, more⟩ := List.cons_prefix_cons.mp part
        exact (ih (step.mpr here)).mp later done more
    · intro all
      have here := step.mp (all [raw] (by simp))
      refine ⟨here, (ih (step.mpr here)).mpr fun done part => ?_⟩
      exact all (raw :: done) (List.cons_prefix_cons.mpr ⟨rfl, part⟩)

theorem foldl_last (st : Stored μ) (done : List (RawJob μ)) :
    (done.foldl (Stored.next c) st).last = done.getLast?.getD st.last := by
  induction done using List.reverseRecOn with
  | nil => rfl
  | append_singleton done raw _ => simp [List.foldl_append, Stored.next]

/-- After every payload of a posting the row shows that payload, exactly when every payload that is
skipped shows what the payload before it shows. -/
theorem latest_iff (c : RunConfig μ) (ps : Payloads μ) :
    (∀ done, done <+: ps.rest → ∀ s, Fed c.plain ps.first done s →
      Shows c.plain ps.key (done.getLast?.getD ps.first) s) ↔
    c.plain.Covers ⟨ps.first, ps.first⟩ ps.rest := by
  have key : ps.first.key = ps.key := ps.same _ List.mem_cons_self
  rw [covers_iff rfl, ← key]
  constructor
  · intro shows_ done part
    obtain ⟨s, fed⟩ := fed_exists c ps.first done fun raw member =>
      (ps.same raw (List.mem_cons_of_mem _ (part.subset member))).trans key.symm
    rw [foldl_last]
    exact fed.shows_iff.mp (shows_ done part s fed)
  · intro level done part s fed
    rw [fed.shows_iff, level done part, foldl_last]

end Payloads

/-- A posting that moved to another place: its text is the same, so the row keeps the old place. -/
theorem moved_posting_unshown :
    let moved := { acmePosting "1" "Engineer" with rawLocation := some "Berlin" }
    ∃ s, Fed acmeBoard.plain (acmePosting "1" "Engineer") [moved] s ∧
      ¬Shows acmeBoard.plain ⟨"GREENHOUSE", "1"⟩ moved s := by
  intro moved
  obtain ⟨s, fed⟩ := fed_exists acmeBoard (acmePosting "1" "Engineer") [moved] (by decide)
  refine ⟨s, fed, fun shows_ => ?_⟩
  have same := fed.shows_iff.mp shows_
  exact absurd same (by decide +kernel)

end RangeApply.Postings
