import Mathlib.Data.List.Sort
import Mathlib.Data.List.Dedup
import RangeApply.Rows

/-! What the desktop has announced: a watermark for each source, with the ids of the rows at that
very instant, and the page of rows that one poll reads past it. -/
namespace RangeApply.Polling

/-- `SOURCES`. -/
inductive Source
  | applicationEvents | executionRuns | signals
  deriving DecidableEq

def maxTieIds : Nat := 200

def queryLimit : Nat := 500

/-- One source's watermark plus the ids seen at that exact instant. -/
structure Mark (ι : Type) where
  instant : Option Time
  ids : List ι

/-- A row of a source, with the tenant its attempt belongs to. -/
structure Row (τ ι : Type) where
  tenant : τ
  createdAt : Time
  id : ι
  deriving DecidableEq

variable {τ ι : Type} [LinearOrder ι]

namespace Mark

def isNew (m : Mark ι) (at_ : Option Time) (id : ι) : Bool :=
  match m.instant, at_ with
  | none, _ => true
  | some _, none => false
  | some w, some t => if w < t then true else if t < w then false else !decide (id ∈ m.ids)

/-- The greatest ids, as many as are kept. -/
def bounded (ids : List ι) : List ι :=
  if maxTieIds < ids.length then (ids.insertionSort (· ≤ ·)).drop (ids.length - maxTieIds) else ids

def advance (m : Mark ι) (at_ : Option Time) (id : ι) : Mark ι :=
  match at_ with
  | none => m
  | some t =>
    match m.instant with
    | none => ⟨some t, [id]⟩
    | some w =>
      if w < t then ⟨some t, [id]⟩
      else if t = w then { m with ids := bounded (m.ids.insert id) }
      else m

end Mark

/-- The reading position of one tenant in every source. -/
structure Cursor (ι : Type) where
  marks : Source → Mark ι

namespace Cursor

def watermark (c : Cursor ι) (source : Source) : Option Time := (c.marks source).instant

def isNew (c : Cursor ι) (source : Source) (at_ : Option Time) (id : ι) : Bool :=
  (c.marks source).isNew at_ id

def advance (c : Cursor ι) (source : Source) (at_ : Option Time) (id : ι) : Cursor ι :=
  ⟨Function.update c.marks source ((c.marks source).advance at_ id)⟩

/-- Every source starts at this instant, or at the beginning. -/
def start (at_ : Option Time) : Cursor ι := ⟨fun _ => ⟨at_, []⟩⟩

end Cursor

namespace Row

/-- The rows are read by instant, then by id. -/
def before (a b : Row τ ι) : Bool :=
  decide (a.createdAt < b.createdAt) || decide (a.createdAt = b.createdAt) && decide (a.id ≤ b.id)

end Row

section Query
variable [DecidableEq τ]

/-- The tenant's rows that are worth querying. -/
def candidates (rows : List (Row τ ι)) (tenant : τ) (since : Option Time) : List (Row τ ι) :=
  (rows.filter fun r => r.tenant = tenant).filter fun r => since.all fun w => decide (w ≤ r.createdAt)

/-- `_attempt_events`, and the query of the other two sources. -/
def page (rows : List (Row τ ι)) (tenant : τ) (since : Option Time) : List (Row τ ι) :=
  ((candidates rows tenant since).insertionSort fun a b => a.before b).take queryLimit

/-- One loop of `derive_events`: which rows are new is asked of the cursor the poll began with. -/
def handle (cursor moved : Cursor ι) (source : Source) (rows : List (Row τ ι)) :
    List (Row τ ι) × Cursor ι :=
  let fresh := rows.filter fun r => cursor.isNew source (some r.createdAt) r.id
  (fresh, fresh.foldl (fun moved r => moved.advance source (some r.createdAt) r.id) moved)

/-- The application event rows that are handled, and the new cursor. -/
def deriveEvents (rows : Source → List (Row τ ι)) (tenant : τ) (cursor : Cursor ι) :
    List (Row τ ι) × Cursor ι :=
  let read source := page (rows source) tenant (cursor.watermark source)
  let events := handle cursor cursor .applicationEvents (read .applicationEvents)
  let runs := handle cursor events.2 .executionRuns (read .executionRuns)
  let signals := handle cursor runs.2 .signals (read .signals)
  (events.1, signals.2)

/-! ### Appends and polls -/

/-- The tables, the cursor that is kept, and the event rows the polls have handled so far. -/
structure Desk (τ ι : Type) where
  rows : Source → List (Row τ ι)
  cursor : Cursor ι
  handled : List (Row τ ι)

inductive Op (τ ι : Type)
  | append (r : Row τ ι)
  | others (runs signals : List (Row τ ι))
  | poll

namespace Desk

def events (s : Desk τ ι) : List (Row τ ι) := s.rows .applicationEvents

def mark (s : Desk τ ι) : Mark ι := s.cursor.marks .applicationEvents

/-- A row is appended under an id of its own, and not before the rows that are there. -/
def appendable (s : Desk τ ι) (r : Row τ ι) : Bool :=
  s.events.all fun r' => decide (r'.createdAt ≤ r.createdAt) && decide (r'.id ≠ r.id)

def step (tenant : τ) (s : Desk τ ι) : Op τ ι → Desk τ ι
  | .append r =>
    if s.appendable r then
      { s with rows := Function.update s.rows .applicationEvents (s.events ++ [r]) }
    else s
  | .others runs signals =>
    { s with rows := fun
        | .applicationEvents => s.events
        | .executionRuns => runs
        | .signals => signals }
  | .poll =>
    let derived := deriveEvents s.rows tenant s.cursor
    { s with cursor := derived.2, handled := s.handled ++ derived.1 }

def run (tenant : τ) (s : Desk τ ι) (ops : List (Op τ ι)) : Desk τ ι := ops.foldl (step tenant) s

def start (at_ : Option Time) : Desk τ ι := ⟨fun _ => [], .start at_, []⟩

end Desk

end Query

/-! ### The page -/

theorem createdAt_le {q r : Row τ ι} (ordered : q.before r) : q.createdAt ≤ r.createdAt := by
  simp only [Row.before, Bool.or_eq_true, Bool.and_eq_true, decide_eq_true_iff] at ordered
  rcases ordered with lt | ⟨eq, -⟩
  · exact le_of_lt lt
  · exact le_of_eq eq

section Page
variable [DecidableEq τ] {rows : List (Row τ ι)} {tenant : τ} {since : Option Time} {q r : Row τ ι}

omit [LinearOrder ι] in
theorem mem_candidates : r ∈ candidates rows tenant since ↔
    r ∈ rows ∧ r.tenant = tenant ∧ ∀ w, since = some w → w ≤ r.createdAt := by
  cases since <;> simp [candidates, and_comm]

instance : Std.Total (fun a b : Row τ ι => a.before b = true) where
  total a b := by
    rcases lt_trichotomy a.createdAt b.createdAt with lt | eq | gt
    · simp [Row.before, lt]
    · simpa [Row.before, eq] using le_total a.id b.id
    · simp [Row.before, gt]

instance : IsTrans (Row τ ι) (fun a b => a.before b = true) where
  trans a b c := by
    simp only [Row.before, Bool.or_eq_true, Bool.and_eq_true, decide_eq_true_iff]
    rintro (ab | ⟨ab, le⟩) (bc | ⟨bc, le'⟩)
    · exact .inl (ab.trans bc)
    · exact .inl (bc ▸ ab)
    · exact .inl (ab ▸ bc)
    · exact .inr ⟨ab.trans bc, le.trans le'⟩

theorem mem_candidates_of_page (member : r ∈ page rows tenant since) :
    r ∈ candidates rows tenant since :=
  (List.mem_insertionSort _).mp (List.mem_of_mem_take member)

/-- A page that is not full has every candidate. -/
theorem mem_page_of_short (short : (page rows tenant since).length < queryLimit)
    (member : r ∈ candidates rows tenant since) : r ∈ page rows tenant since := by
  rw [page, List.take_of_length_le]
  · exact (List.mem_insertionSort _).mpr member
  · rw [page, List.length_take] at short
    omega

/-- A row that is read has the candidates before its instant read with it. -/
theorem mem_page_of_before (read : r ∈ page rows tenant since)
    (member : q ∈ candidates rows tenant since) (earlier : q.createdAt < r.createdAt) :
    q ∈ page rows tenant since := by
  have sorted := List.pairwise_insertionSort (fun a b : Row τ ι => a.before b = true)
    (candidates rows tenant since)
  rw [← List.take_append_drop queryLimit (List.insertionSort _ _), List.pairwise_append] at sorted
  have inside : q ∈ (candidates rows tenant since).insertionSort fun a b => a.before b :=
    (List.mem_insertionSort _).mpr member
  rw [← List.take_append_drop queryLimit (List.insertionSort _ _)] at inside
  rcases List.mem_append.mp inside with taken | dropped
  · exact taken
  · have after : r.createdAt ≤ q.createdAt := createdAt_le (sorted.2.2 r read q dropped)
    exact absurd earlier (not_lt.mpr after)

theorem page_ids_nodup (ids : (rows.map (·.id)).Nodup) :
    ((page rows tenant since).map (·.id)).Nodup := by
  have kept : ((candidates rows tenant since).map (·.id)).Nodup :=
    ids.sublist ((List.filter_sublist.trans List.filter_sublist).map _)
  have perm := (List.perm_insertionSort (fun a b : Row τ ι => a.before b = true)
    (candidates rows tenant since)).map (·.id)
  exact (perm.nodup_iff.mpr kept).sublist ((List.take_sublist _ _).map _)

end Page

/-! ### What a mark remembers -/

/-- The ids of the handled rows at the mark's instant. -/
def tied (handled : List (Row τ ι)) (m : Mark ι) : List ι :=
  ((handled.filter fun r => m.instant = some r.createdAt).map (·.id)).dedup

/-- The mark stands at the latest of the handled rows and of the instant it started at, and keeps
ids of the rows handled there: all of them while they are few. -/
structure Tracks (start : Option Time) (handled : List (Row τ ι)) (m : Mark ι) : Prop where
  reached : ∀ r ∈ handled, ∃ w, m.instant = some w ∧ r.createdAt ≤ w
  begun : ∀ t, start = some t → ∃ w, m.instant = some w ∧ t ≤ w
  stands : ∀ w, m.instant = some w → start = some w ∨ ∃ r ∈ handled, r.createdAt = w
  nodup : m.ids.Nodup
  few : m.ids.length ≤ maxTieIds
  seen : ∀ i ∈ m.ids, ∃ r ∈ handled, m.instant = some r.createdAt ∧ r.id = i
  kept : (tied handled m).length ≤ maxTieIds →
    ∀ r ∈ handled, m.instant = some r.createdAt → r.id ∈ m.ids

section Marks
variable {start : Option Time} {handled : List (Row τ ι)} {m : Mark ι} {r : Row τ ι} {w : Time}

theorem mem_tied {i : ι} :
    i ∈ tied handled m ↔ ∃ r ∈ handled, m.instant = some r.createdAt ∧ r.id = i := by
  simp [tied, and_assoc]

theorem Tracks.begin (start : Option Time) : Tracks start ([] : List (Row τ ι)) ⟨start, []⟩ where
  reached := by simp
  begun := fun t at_ => ⟨t, at_, le_refl t⟩
  stands := fun _ at_ => .inl at_
  nodup := List.nodup_nil
  few := Nat.zero_le _
  seen := by simp
  kept := by simp

theorem bounded_nodup {ids : List ι} (distinct : ids.Nodup) : (Mark.bounded ids).Nodup := by
  unfold Mark.bounded
  split
  · exact (List.Nodup.sublist (List.drop_sublist _ _)
      ((List.perm_insertionSort _ ids).nodup_iff.mpr distinct))
  · exact distinct

theorem bounded_length (ids : List ι) : (Mark.bounded ids).length ≤ maxTieIds := by
  unfold Mark.bounded
  split
  · rw [List.length_drop, List.length_insertionSort]
    omega
  · omega

theorem bounded_subset {ids : List ι} {i : ι} (member : i ∈ Mark.bounded ids) : i ∈ ids := by
  unfold Mark.bounded at member
  split at member
  · exact (List.mem_insertionSort _).mp (List.mem_of_mem_drop member)
  · exact member

theorem bounded_of_few {ids : List ι} (few : ids.length ≤ maxTieIds) : Mark.bounded ids = ids :=
  if_neg (by omega)

/-- The first row at an instant beyond the mark. -/
theorem Tracks.moved (tracks : Tracks start handled m)
    (beyond : ∀ w, m.instant = some w → w < r.createdAt) :
    Tracks start (handled ++ [r]) ⟨some r.createdAt, [r.id]⟩ where
  reached := by
    intro q member
    refine ⟨r.createdAt, rfl, ?_⟩
    rcases List.mem_append.mp member with old | new
    · obtain ⟨w, at_, le⟩ := tracks.reached q old
      exact le.trans (beyond w at_).le
    · rw [List.mem_singleton.mp new]
  begun := by
    intro t at_
    obtain ⟨w, stood, le⟩ := tracks.begun t at_
    exact ⟨r.createdAt, rfl, le.trans (beyond w stood).le⟩
  stands := by
    intro w at_
    exact .inr ⟨r, by simp, Option.some.inj at_⟩
  nodup := List.nodup_singleton _
  few := (by decide : 1 ≤ maxTieIds)
  seen := by
    intro i member
    rw [List.mem_singleton.mp member]
    exact ⟨r, by simp, rfl, rfl⟩
  kept := by
    intro _ q member at_
    rcases List.mem_append.mp member with old | new
    · obtain ⟨w, stood, le⟩ := tracks.reached q old
      have later := beyond w stood
      rw [Option.some.inj at_] at later
      exact absurd later (not_lt.mpr le)
    · rw [List.mem_singleton.mp new]
      exact List.mem_singleton_self _

/-- One more row at the mark's instant. -/
theorem Tracks.joined (tracks : Tracks start handled m) (here : m.instant = some r.createdAt) :
    Tracks start (handled ++ [r]) { m with ids := Mark.bounded (m.ids.insert r.id) } where
  reached := by
    intro q member
    rcases List.mem_append.mp member with old | new
    · exact tracks.reached q old
    · rw [List.mem_singleton.mp new]
      exact ⟨r.createdAt, here, le_refl _⟩
  begun := tracks.begun
  stands := by
    intro w at_
    rcases tracks.stands w at_ with begun | ⟨q, member, same⟩
    · exact .inl begun
    · exact .inr ⟨q, List.mem_append_left _ member, same⟩
  nodup := bounded_nodup tracks.nodup.insert
  few := bounded_length _
  seen := by
    intro i member
    rcases List.mem_insert_iff.mp (bounded_subset member) with rfl | old
    · exact ⟨r, by simp, here, rfl⟩
    · obtain ⟨q, member, at_, same⟩ := tracks.seen i old
      exact ⟨q, List.mem_append_left _ member, at_, same⟩
  kept := by
    intro few
    have grown : tied handled m ⊆ tied (handled ++ [r]) m := by
      intro i member
      obtain ⟨q, old, at_, same⟩ := mem_tied.mp member
      exact mem_tied.mpr ⟨q, List.mem_append_left _ old, at_, same⟩
    have few' : (tied (handled ++ [r]) m).length ≤ maxTieIds := few
    have before : (tied handled m).length ≤ maxTieIds :=
      ((List.nodup_dedup _).subperm grown).length_le.trans few'
    -- the ids are all tied, so nothing is cut
    have inside : m.ids.insert r.id ⊆ tied (handled ++ [r]) m := by
      intro i member
      rcases List.mem_insert_iff.mp member with rfl | old
      · exact mem_tied.mpr ⟨r, by simp, here, rfl⟩
      · obtain ⟨q, member, at_, same⟩ := tracks.seen i old
        exact mem_tied.mpr ⟨q, List.mem_append_left _ member, at_, same⟩
    have uncut : Mark.bounded (m.ids.insert r.id) = m.ids.insert r.id :=
      bounded_of_few ((tracks.nodup.insert.subperm inside).length_le.trans few')
    intro q member at_
    rw [uncut, List.mem_insert_iff]
    rcases List.mem_append.mp member with old | new
    · exact .inr (tracks.kept before q old at_)
    · exact .inl (by rw [List.mem_singleton.mp new])

/-- A row before the mark leaves it as it is. -/
theorem Tracks.passed (tracks : Tracks start handled m) (stood : m.instant = some w)
    (earlier : r.createdAt < w) : Tracks start (handled ++ [r]) m where
  reached := by
    intro q member
    rcases List.mem_append.mp member with old | new
    · exact tracks.reached q old
    · rw [List.mem_singleton.mp new]
      exact ⟨w, stood, earlier.le⟩
  begun := tracks.begun
  stands := by
    intro v at_
    rcases tracks.stands v at_ with begun | ⟨q, member, same⟩
    · exact .inl begun
    · exact .inr ⟨q, List.mem_append_left _ member, same⟩
  nodup := tracks.nodup
  few := tracks.few
  seen := by
    intro i member
    obtain ⟨q, old, at_, same⟩ := tracks.seen i member
    exact ⟨q, List.mem_append_left _ old, at_, same⟩
  kept := by
    have away : ¬ m.instant = some r.createdAt := by
      rw [stood, Option.some.injEq]
      exact ne_of_gt earlier
    have same : tied (handled ++ [r]) m = tied handled m := by
      simp [tied, List.filter_append, away]
    rw [same]
    intro few q member at_
    rcases List.mem_append.mp member with old | new
    · exact tracks.kept few q old at_
    · rw [List.mem_singleton.mp new] at at_
      exact absurd at_ away

theorem Tracks.advance (tracks : Tracks start handled m) (r : Row τ ι) :
    Tracks start (handled ++ [r]) (m.advance (some r.createdAt) r.id) := by
  cases stood : m.instant with
  | none =>
    have first : m.advance (some r.createdAt) r.id = ⟨some r.createdAt, [r.id]⟩ := by
      simp only [Mark.advance, stood]
    rw [first]
    exact tracks.moved fun w at_ => by rw [stood] at at_; cases at_
  | some w =>
    rcases lt_trichotomy w r.createdAt with later | same | earlier
    · have first : m.advance (some r.createdAt) r.id = ⟨some r.createdAt, [r.id]⟩ := by
        simp only [Mark.advance, stood, if_pos later]
      rw [first]
      refine tracks.moved fun v at_ => ?_
      rw [stood] at at_
      exact Option.some.inj at_ ▸ later
    · have one : m.advance (some r.createdAt) r.id =
          { m with ids := Mark.bounded (m.ids.insert r.id) } := by
        simp only [Mark.advance, stood, same, lt_irrefl, if_true, if_false]
      rw [one]
      exact tracks.joined (by rw [stood, same])
    · have none_ : m.advance (some r.createdAt) r.id = m := by
        simp only [Mark.advance, stood, if_neg (not_lt.mpr earlier.le), if_neg (ne_of_lt earlier)]
      rw [none_]
      exact tracks.passed stood earlier

theorem Tracks.foldl (tracks : Tracks start handled m) (rows : List (Row τ ι)) :
    Tracks start (handled ++ rows)
      (rows.foldl (fun m r => m.advance (some r.createdAt) r.id) m) := by
  induction rows generalizing handled m with
  | nil => simpa using tracks
  | cons r rows ih => simpa using ih (tracks.advance r)

end Marks

/-! ### One poll -/

namespace Desk

variable [DecidableEq τ] {tenant : τ} {start : Option Time} {s : Desk τ ι} {q r : Row τ ι}

/-- The page of event rows a poll would read. -/
def page (tenant : τ) (s : Desk τ ι) : List (Row τ ι) := Polling.page s.events tenant s.mark.instant

/-- The rows of the page that a poll would handle. -/
def fresh (tenant : τ) (s : Desk τ ι) : List (Row τ ι) :=
  (s.page tenant).filter fun r => s.mark.isNew (some r.createdAt) r.id

def poll (tenant : τ) (s : Desk τ ι) : Desk τ ι := s.step tenant .poll

omit [DecidableEq τ] in
theorem handle_mark {cursor moved : Cursor ι} {source other : Source} {rows : List (Row τ ι)} :
    (handle cursor moved source rows).2.marks other =
      if other = source then
        (rows.filter fun r => cursor.isNew source (some r.createdAt) r.id).foldl
          (fun m r => m.advance (some r.createdAt) r.id) (moved.marks source)
      else moved.marks other := by
  simp only [handle]
  induction rows.filter fun r => cursor.isNew source (some r.createdAt) r.id generalizing moved with
  | nil => by_cases here : other = source <;> simp [here]
  | cons r rows ih =>
    rw [List.foldl_cons, List.foldl_cons, ih]
    by_cases here : other = source <;> simp [Cursor.advance, here]

theorem poll_mark : (s.poll tenant).mark =
    (s.fresh tenant).foldl (fun m r => m.advance (some r.createdAt) r.id) s.mark := by
  simp [poll, step, mark, deriveEvents, handle_mark, fresh, page, events, Cursor.watermark,
    Cursor.isNew]

theorem poll_handled : (s.poll tenant).handled = s.handled ++ s.fresh tenant := rfl

theorem poll_events : (s.poll tenant).events = s.events := rfl

/-- What holds of the rows, the mark and the rows handled, after any appends and polls. -/
structure Reading (tenant : τ) (start : Option Time) (s : Desk τ ι) : Prop where
  sorted : s.events.Pairwise fun a b => a.createdAt ≤ b.createdAt
  ids : (s.events.map (·.id)).Nodup
  owned : ∀ r ∈ s.handled, r ∈ s.events ∧ r.tenant = tenant
  tracks : Tracks start s.handled s.mark
  below : ∀ r ∈ s.events, r.tenant = tenant → (∀ t, start = some t → t ≤ r.createdAt) →
    ∀ w, s.mark.instant = some w → r.createdAt < w → r ∈ s.handled

omit [DecidableEq τ] in
theorem Reading.begin (tenant : τ) (at_ : Option Time) :
    (Desk.start at_ : Desk τ ι).Reading tenant at_ where
  sorted := .nil
  ids := List.nodup_nil
  owned := by simp [Desk.start]
  tracks := .begin at_
  below := by simp [Desk.start, Desk.events]

omit [DecidableEq τ] in
theorem Reading.unique (reading : s.Reading tenant start) (left : q ∈ s.events) (right : r ∈ s.events)
    (same : q.id = r.id) : q = r := List.inj_on_of_nodup_map reading.ids left right same

omit [DecidableEq τ] in
theorem isNew_iff {m : Mark ι} : m.isNew (some r.createdAt) r.id ↔
    ∀ w, m.instant = some w → w ≤ r.createdAt ∧ (r.createdAt = w → r.id ∉ m.ids) := by
  cases stood : m.instant with
  | none => simp [Mark.isNew, stood]
  | some w =>
    rcases lt_trichotomy w r.createdAt with later | same | earlier
    · simp [Mark.isNew, stood, later, later.le, later.ne']
    · simp [Mark.isNew, stood, same]
    · simp [Mark.isNew, stood, earlier, not_lt.mpr earlier.le, earlier.not_ge]

theorem mem_page_owned (member : r ∈ s.page tenant) : r ∈ s.events ∧ r.tenant = tenant ∧
    ∀ w, s.mark.instant = some w → w ≤ r.createdAt :=
  mem_candidates.mp (mem_candidates_of_page member)

/-- A row of the page that is not new has been handled, and its id is kept. -/
theorem Reading.handled_of_not_new (reading : s.Reading tenant start) (member : r ∈ s.page tenant)
    (old : ¬ s.mark.isNew (some r.createdAt) r.id) :
    r ∈ s.handled ∧ s.mark.instant = some r.createdAt ∧ r.id ∈ s.mark.ids := by
  obtain ⟨inside, own, after⟩ := mem_page_owned member
  rw [isNew_iff] at old
  push Not at old
  obtain ⟨w, at_, stands⟩ := old
  obtain ⟨same, known⟩ := stands (after w at_)
  obtain ⟨q, handled, -, id⟩ := reading.tracks.seen r.id known
  have one : q = r := reading.unique (reading.owned q handled).1 inside id
  exact ⟨one ▸ handled, by rw [at_, same], known⟩

theorem Reading.mem_poll_handled (reading : s.Reading tenant start) (member : r ∈ s.page tenant) :
    r ∈ (s.poll tenant).handled := by
  rw [poll_handled]
  by_cases new : s.mark.isNew (some r.createdAt) r.id
  · exact List.mem_append_right _ (List.mem_filter.mpr ⟨member, new⟩)
  · exact List.mem_append_left _ (reading.handled_of_not_new member new).1

theorem Reading.tracks_poll (reading : s.Reading tenant start) :
    Tracks start (s.poll tenant).handled (s.poll tenant).mark := by
  rw [poll_mark, poll_handled]
  exact reading.tracks.foldl _

theorem Reading.poll (reading : s.Reading tenant start) : (s.poll tenant).Reading tenant start where
  sorted := reading.sorted
  ids := reading.ids
  owned := by
    intro r member
    rcases List.mem_append.mp member with old | new
    · exact reading.owned r old
    · obtain ⟨inside, own, -⟩ := mem_page_owned (List.mem_filter.mp new).1
      exact ⟨inside, own⟩
  tracks := reading.tracks_poll
  below := by
    intro r inside own begun w' at_ earlier
    by_cases past : ∃ w, s.mark.instant = some w ∧ r.createdAt < w
    · obtain ⟨w, stood, before⟩ := past
      exact List.mem_append_left _ (reading.below r inside own begun w stood before)
    · push Not at past
      rcases reading.tracks_poll.stands w' at_ with first | ⟨q, member, same⟩
      · exact absurd earlier (not_lt.mpr (begun w' first))
      · rcases List.mem_append.mp member with old | new
        · obtain ⟨w, stood, le⟩ := reading.tracks.reached q old
          have before : r.createdAt < w := (same ▸ earlier).trans_le le
          exact absurd before (not_lt.mpr (past w stood))
        · have read : q ∈ s.page tenant := (List.mem_filter.mp new).1
          exact reading.mem_poll_handled (mem_page_of_before read
            (mem_candidates.mpr ⟨inside, own, past⟩) (same ▸ earlier))

theorem Reading.append (reading : s.Reading tenant start) (able : s.appendable r) :
    (s.step tenant (.append r)).Reading tenant start := by
  have allowed : ∀ q ∈ s.events, q.createdAt ≤ r.createdAt ∧ q.id ≠ r.id := by
    simpa [appendable] using able
  have grown : (s.step tenant (.append r)).events = s.events ++ [r] := by
    simp [step, able, events]
  have same : (s.step tenant (.append r)).handled = s.handled := by simp [step, able]
  have stood : (s.step tenant (.append r)).mark = s.mark := by simp [step, able, mark]
  refine ⟨?_, ?_, ?_, ?_, ?_⟩
  · rw [grown, List.pairwise_append]
    refine ⟨reading.sorted, List.pairwise_singleton _ _, fun q member q' new => ?_⟩
    rw [List.mem_singleton.mp new]
    exact (allowed q member).1
  · rw [grown, List.map_append, List.nodup_append]
    refine ⟨reading.ids, List.nodup_singleton _, fun i old j new => ?_⟩
    obtain ⟨q, member, rfl⟩ := List.mem_map.mp old
    rw [List.mem_singleton.mp new]
    exact (allowed q member).2
  · rw [same, grown]
    exact fun q member => ⟨List.mem_append_left _ (reading.owned q member).1,
      (reading.owned q member).2⟩
  · rw [same, stood]
    exact reading.tracks
  · rw [same, stood, grown]
    intro q member own begun w at_ earlier
    rcases List.mem_append.mp member with old | new
    · exact reading.below q old own begun w at_ earlier
    · -- what is appended is not before the mark
      rw [List.mem_singleton.mp new] at begun earlier
      rcases reading.tracks.stands w at_ with first | ⟨h, handled, same⟩
      · exact absurd earlier (not_lt.mpr (begun w first))
      · have le := (allowed h (reading.owned h handled).1).1
        rw [same] at le
        exact absurd earlier (not_lt.mpr le)

theorem Reading.step (reading : s.Reading tenant start) (op : Op τ ι) :
    (s.step tenant op).Reading tenant start := by
  cases op with
  | append r =>
    by_cases able : s.appendable r
    · exact reading.append able
    · simpa only [Desk.step, if_neg able] using reading
  | others runs signals =>
    exact ⟨reading.sorted, reading.ids, reading.owned, reading.tracks, reading.below⟩
  | poll => exact reading.poll

theorem Reading.run (reading : s.Reading tenant start) (ops : List (Op τ ι)) :
    (s.run tenant ops).Reading tenant start := by
  induction ops generalizing s with
  | nil => exact reading
  | cons op ops ih => exact ih (reading.step op)

end Desk

end RangeApply.Polling
