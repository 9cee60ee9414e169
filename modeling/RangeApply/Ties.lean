import RangeApply.Polling

/-! How many rows may share one instant: polls handle every row once while the rows they have
handled at the watermark fit in the ids it keeps, and repeat themselves once they do not. -/
namespace RangeApply.Polling.Desk

variable {τ ι : Type} [LinearOrder ι] [DecidableEq τ] {tenant : τ} {start : Option Time}
  {s : Desk τ ι} {q r : Row τ ι}

/-- The handled rows at the watermark's instant are no more than the ids that are kept. -/
def TiesKept (s : Desk τ ι) : Prop := (tied s.handled s.mark).length ≤ maxTieIds

/-- Every poll of the schedule begins so. -/
def EachKept (tenant : τ) (s : Desk τ ι) : List (Op τ ι) → Prop
  | [] => True
  | op :: ops => (op = .poll → s.TiesKept) ∧ EachKept tenant (s.step tenant op) ops

theorem Reading.poll_nodup (reading : s.Reading tenant start) (kept : s.TiesKept)
    (once : s.handled.Nodup) : (s.poll tenant).handled.Nodup := by
  rw [poll_handled, List.nodup_append]
  have distinct : (s.page tenant).Nodup := List.Nodup.of_map _ (page_ids_nodup reading.ids)
  refine ⟨once, distinct.filter _, fun q old r new same => ?_⟩
  subst same
  obtain ⟨w, stood, le⟩ := reading.tracks.reached q old
  obtain ⟨after, unknown⟩ := isNew_iff.mp (List.mem_filter.mp new).2 w stood
  have here : q.createdAt = w := le_antisymm le after
  exact unknown here (reading.tracks.kept kept q old (by rw [stood, here]))

/-- A page that leaves nothing new to handle is no longer than the ids that are kept. -/
theorem Reading.page_short (reading : s.Reading tenant start)
    (nothing : ∀ r ∈ s.page tenant, r.id ∈ s.mark.ids) : (s.page tenant).length < queryLimit := by
  have inside : (s.page tenant).map (·.id) ⊆ s.mark.ids := by
    intro i member
    obtain ⟨r, read, rfl⟩ := List.mem_map.mp member
    exact nothing r read
  have shorter := ((page_ids_nodup reading.ids).subperm inside).length_le
  rw [List.length_map] at shorter
  have few := reading.tracks.few
  calc (s.page tenant).length ≤ s.mark.ids.length := shorter
    _ ≤ maxTieIds := few
    _ < queryLimit := by decide

/-- While a row is unhandled, a poll handles some row. -/
theorem Reading.poll_progress (reading : s.Reading tenant start) (inside : r ∈ s.events)
    (own : r.tenant = tenant) (begun : ∀ t, start = some t → t ≤ r.createdAt)
    (missing : r ∉ s.handled) : s.fresh tenant ≠ [] := by
  intro nothing
  have old : ∀ q ∈ s.page tenant, ¬ s.mark.isNew (some q.createdAt) q.id := by
    simpa [fresh] using nothing
  have short := reading.page_short fun q read =>
    (reading.handled_of_not_new read (old q read)).2.2
  have worth : ∀ w, s.mark.instant = some w → w ≤ r.createdAt := by
    intro w at_
    by_contra earlier
    exact missing (reading.below r inside own begun w at_ (not_le.mp earlier))
  have read : r ∈ s.page tenant :=
    mem_page_of_short short (mem_candidates.mpr ⟨inside, own, worth⟩)
  exact missing (reading.handled_of_not_new read (old r read)).1

/-! ### More ties than ids -/

/-- Some handled row at the watermark is not remembered, or a row was handled twice already. -/
def Forgetful (s : Desk τ ι) : Prop := ¬ s.handled.Nodup ∨ ¬ s.TiesKept

omit [DecidableEq τ] in
theorem Reading.forgotten (reading : s.Reading tenant start) (forgets : ¬ s.TiesKept) :
    ∃ h ∈ s.handled, s.mark.instant = some h.createdAt ∧ h.id ∉ s.mark.ids := by
  by_contra none_
  push Not at none_
  have inside : tied s.handled s.mark ⊆ s.mark.ids := by
    intro i member
    obtain ⟨h, handled, at_, rfl⟩ := mem_tied.mp member
    exact none_ h handled at_
  exact forgets (((List.nodup_dedup _).subperm inside).length_le.trans reading.tracks.few)

/-- A forgotten row that is read is handled again. -/
theorem repeats_of_forgotten {h : Row τ ι} (handled : h ∈ s.handled)
    (at_ : s.mark.instant = some h.createdAt) (unknown : h.id ∉ s.mark.ids)
    (read : h ∈ s.page tenant) : ¬ (s.poll tenant).handled.Nodup := by
  rw [poll_handled]
  intro once
  have new : h ∈ s.fresh tenant := by
    refine List.mem_filter.mpr ⟨read, isNew_iff.mpr fun w stood => ?_⟩
    have same : h.createdAt = w := by simpa [at_] using stood
    exact ⟨same.ge, fun _ => unknown⟩
  exact (List.nodup_append.mp once).2.2 h handled h new rfl

theorem Reading.candidate (reading : s.Reading tenant start) {h : Row τ ι} (handled : h ∈ s.handled)
    (at_ : s.mark.instant = some h.createdAt) :
    h ∈ candidates s.events tenant s.mark.instant := by
  obtain ⟨inside, own⟩ := reading.owned h handled
  refine mem_candidates.mpr ⟨inside, own, fun w stood => ?_⟩
  rw [at_] at stood
  exact (Option.some.inj stood).ge

/-- With a forgotten row, a poll that repeats nothing does not reach past the watermark. -/
theorem Reading.stays (reading : s.Reading tenant start) (forgets : ¬ s.TiesKept)
    (once : (s.poll tenant).handled.Nodup) : (s.poll tenant).mark.instant = s.mark.instant := by
  obtain ⟨h, handled, at_, unknown⟩ := reading.forgotten forgets
  have unread : h ∉ s.page tenant := fun read => repeats_of_forgotten handled at_ unknown read once
  obtain ⟨w', stood, le⟩ := reading.tracks_poll.reached h (List.mem_append_left _ handled)
  rcases eq_or_lt_of_le le with same | later
  · rw [stood, at_, same]
  · rcases reading.tracks_poll.stands w' stood with first | ⟨q, member, here⟩
    · obtain ⟨w, before, le'⟩ := reading.tracks.begun w' first
      have instant : h.createdAt = w := by simpa [at_] using before
      exact absurd later (not_lt.mpr (instant ▸ le'))
    · rcases List.mem_append.mp member with old | new
      · obtain ⟨w, before, le'⟩ := reading.tracks.reached q old
        have instant : h.createdAt = w := by simpa [at_] using before
        have ahead : h.createdAt < q.createdAt := here ▸ later
        exact absurd ahead (not_lt.mpr (instant ▸ le'))
      · have read : q ∈ s.page tenant := (List.mem_filter.mp new).1
        exact absurd (mem_page_of_before read (reading.candidate handled at_) (here ▸ later)) unread

omit [DecidableEq τ] in
theorem tied_mono {handled more : List (Row τ ι)} {m m' : Mark ι} (same : m'.instant = m.instant) :
    (tied handled m).length ≤ (tied (handled ++ more) m').length := by
  refine List.Subperm.length_le ((List.nodup_dedup _).subperm fun i member => ?_)
  obtain ⟨r, old, at_, id⟩ := mem_tied.mp member
  exact mem_tied.mpr ⟨r, List.mem_append_left _ old, same ▸ at_, id⟩

theorem Reading.forgetful_step (reading : s.Reading tenant start) (forgetful : s.Forgetful)
    (op : Op τ ι) : (s.step tenant op).Forgetful := by
  cases op with
  | append r =>
    by_cases able : s.appendable r
    · simpa [Desk.step, able, Forgetful, TiesKept, mark] using forgetful
    · simpa only [Desk.step, if_neg able] using forgetful
  | others runs signals => exact forgetful
  | poll =>
    by_cases once : (s.poll tenant).handled.Nodup
    · rcases forgetful with twice | forgets
      · exact absurd (List.nodup_append.mp once).1 twice
      · right
        intro kept
        exact forgets ((tied_mono (reading.stays forgets once)).trans kept)
    · exact .inl once

theorem Reading.forgetful_run (reading : s.Reading tenant start) (forgetful : s.Forgetful)
    (ops : List (Op τ ι)) : (s.run tenant ops).Forgetful := by
  induction ops generalizing s with
  | nil => exact forgetful
  | cons op ops ih => exact ih (reading.step op) (reading.forgetful_step forgetful op)

/-- Two more polls handle some row twice. -/
theorem Reading.forgetful_repeats (reading : s.Reading tenant start) (forgetful : s.Forgetful) :
    ¬ ((s.poll tenant).poll tenant).handled.Nodup := by
  intro once'
  have once : (s.poll tenant).handled.Nodup := (List.nodup_append.mp once').1
  have forgets : ¬ s.TiesKept := by
    rcases forgetful with twice | forgets
    · exact absurd (List.nodup_append.mp once).1 twice
    · exact forgets
  have next : (s.poll tenant).Reading tenant start := reading.poll
  have stays := reading.stays forgets once
  have same : (s.poll tenant).page tenant = s.page tenant := by
    rw [page, page, stays, poll_events]
  have forgets' : ¬ (s.poll tenant).TiesKept :=
    (reading.forgetful_step (.inr forgets) .poll).resolve_left (not_not.mpr once)
  obtain ⟨h, handled, at_, unknown⟩ := next.forgotten forgets'
  have unread : h ∉ (s.poll tenant).page tenant := fun read =>
    repeats_of_forgotten handled at_ unknown read once'
  -- the page was handled by the first poll, and what the second reads of it is remembered
  have known : ∀ r ∈ (s.poll tenant).page tenant, r.id ∈ (s.poll tenant).mark.ids := by
    intro r read
    have done : r ∈ (s.poll tenant).handled := reading.mem_poll_handled (same ▸ read)
    by_contra missing
    obtain ⟨w, stood, le⟩ := next.tracks.reached r done
    have here : r.createdAt = w := le_antisymm le ((mem_page_owned read).2.2 w stood)
    exact repeats_of_forgotten done (by rw [stood, here]) missing read once'
  exact unread (mem_page_of_short (next.page_short known) (next.candidate handled at_))

/-! ### Whole schedules -/

theorem Reading.run_nodup (reading : s.Reading tenant start) {ops : List (Op τ ι)}
    (kept : EachKept tenant s ops) (once : s.handled.Nodup) : (s.run tenant ops).handled.Nodup := by
  induction ops generalizing s with
  | nil => exact once
  | cons op ops ih =>
    obtain ⟨here, later⟩ := kept
    refine ih (reading.step op) later ?_
    cases op with
    | append r =>
      by_cases able : s.appendable r <;> simpa [Desk.step, able] using once
    | others runs signals => exact once
    | poll => exact reading.poll_nodup (here rfl) once

theorem Reading.forgetful_of_not_kept (reading : s.Reading tenant start) {ops : List (Op τ ι)}
    (forgets : ¬ EachKept tenant s ops) : (s.run tenant ops).Forgetful := by
  induction ops generalizing s with
  | nil => exact absurd trivial forgets
  | cons op ops ih =>
    by_cases later : EachKept tenant (s.step tenant op) ops
    · have here : ¬ (op = .poll → s.TiesKept) := fun here => forgets ⟨here, later⟩
      push Not at here
      exact (reading.step op).forgetful_run (reading.forgetful_step (.inr here.2) op) ops
    · exact ih (reading.step op) later

/-- The rows the polls are there for: the tenant's, from where they started. -/
def Due (tenant : τ) (start : Option Time) (s : Desk τ ι) (r : Row τ ι) : Prop :=
  r ∈ s.events ∧ r.tenant = tenant ∧ ∀ t, start = some t → t ≤ r.createdAt

def polls (n : Nat) : List (Op τ ι) := List.replicate n .poll

/-- However many polls follow, no row is handled twice, and some number of them handles all. -/
def EachOnce (tenant : τ) (start : Option Time) (s : Desk τ ι) : Prop :=
  (∀ n, (s.run tenant (polls n)).handled.Nodup) ∧
    ∃ n, ∀ r, s.Due tenant start r → r ∈ (s.run tenant (polls n)).handled

theorem Reading.polls_complete (reading : s.Reading tenant start)
    (once : ∀ n, (s.run tenant (polls n)).handled.Nodup) :
    ∃ n, ∀ r, s.Due tenant start r → r ∈ (s.run tenant (polls n)).handled := by
  induction left : s.events.length - s.handled.length using Nat.strong_induction_on
    generalizing s with
  | _ k ih =>
    by_cases done : ∀ r, s.Due tenant start r → r ∈ s.handled
    · exact ⟨0, done⟩
    · push Not at done
      obtain ⟨r, ⟨inside, own, begun⟩, missing⟩ := done
      have next : (s.poll tenant).Reading tenant start := reading.poll
      have some_ : 0 < (s.fresh tenant).length :=
        List.length_pos_of_ne_nil (reading.poll_progress inside own begun missing)
      have grown : (s.poll tenant).handled.length =
          s.handled.length + (s.fresh tenant).length := by rw [poll_handled, List.length_append]
      have fits : (s.poll tenant).handled.length ≤ s.events.length :=
        ((once 1).subperm fun q member => (next.owned q member).1).length_le
      have fewer : (s.poll tenant).events.length - (s.poll tenant).handled.length < k := by
        rw [poll_events]
        omega
      obtain ⟨n, all⟩ := ih _ fewer next (fun n => once (n + 1)) rfl
      exact ⟨n + 1, all⟩

theorem run_append (s : Desk τ ι) (ops more : List (Op τ ι)) :
    s.run tenant (ops ++ more) = (s.run tenant ops).run tenant more := List.foldl_append

theorem run_polls_events (n : Nat) : (s.run tenant (polls n)).events = s.events := by
  induction n generalizing s with
  | zero => rfl
  | succ n ih => exact (ih (s := s.poll tenant)).trans poll_events

/-- After any schedule of appends and polls, the polls to come handle every row exactly once if and
only if each poll, of the schedule and of those to come, begins with no more handled rows at the
watermark than it keeps ids. -/
theorem polled_once_iff (tenant : τ) (start : Option Time) (ops : List (Op τ ι)) :
    ((Desk.start start).run tenant ops).EachOnce tenant start ↔
      ∀ n, EachKept tenant (Desk.start start) (ops ++ polls n) := by
  have begun := Reading.begin (ι := ι) tenant start
  have reading := begun.run ops
  constructor
  · rintro ⟨once, -⟩ n
    by_contra forgets
    have forgetful := begun.forgetful_of_not_kept forgets
    refine (begun.run (ops ++ polls n)).forgetful_repeats forgetful ?_
    have more := once (n + 2)
    rw [polls, List.replicate_add, ← run_append, ← List.append_assoc, run_append] at more
    exact more
  · intro kept
    have once : ∀ n, (((Desk.start start).run tenant ops).run tenant (polls n)).handled.Nodup := by
      intro n
      rw [← run_append]
      exact begun.run_nodup (kept n) List.nodup_nil
    exact ⟨once, reading.polls_complete once⟩

/-- More rows at the latest instant than ids are kept: some row will be handled twice. -/
theorem Reading.crowd_repeats (reading : s.Reading tenant start) {w : Time} {ids : List ι}
    (distinct : ids.Nodup) (many : maxTieIds < ids.length)
    (there : ∀ i ∈ ids, ∃ r, s.Due tenant start r ∧ r.createdAt = w ∧ r.id = i)
    (latest : ∀ r ∈ s.events, r.createdAt ≤ w) : ¬ s.EachOnce tenant start := by
  rintro ⟨once, n, all⟩
  have after : (s.run tenant (polls n)).Reading tenant start := reading.run (polls n)
  have rows : (s.run tenant (polls n)).events = s.events := run_polls_events n
  -- every row of the crowd has been handled, so the watermark stands at its instant
  have instant : ∀ r ∈ (s.run tenant (polls n)).handled, r.createdAt = w →
      (s.run tenant (polls n)).mark.instant = some w := by
    intro r handled same
    obtain ⟨v, stood, le⟩ := after.tracks.reached r handled
    rcases after.tracks.stands v stood with first | ⟨q, member, here⟩
    · obtain ⟨i, member⟩ := List.exists_mem_of_length_pos (Nat.zero_lt_of_lt many)
      obtain ⟨r', ⟨-, -, begun⟩, at_, -⟩ := there i member
      have ge : v ≤ w := (begun v first).trans_eq at_
      rw [stood, le_antisymm ge (same.ge.trans le)]
    · have ge : q.createdAt ≤ w := latest q (rows ▸ (after.owned q member).1)
      rw [stood, le_antisymm (here.ge.trans ge) (same.ge.trans le)]
  have inside : ids ⊆ tied (s.run tenant (polls n)).handled (s.run tenant (polls n)).mark := by
    intro i member
    obtain ⟨r, due, at_, id⟩ := there i member
    have handled := all r due
    exact mem_tied.mpr ⟨r, handled, by rw [instant r handled at_, at_], id⟩
  have forgets : ¬ (s.run tenant (polls n)).TiesKept := by
    have more := (distinct.subperm inside).length_le
    rw [TiesKept]
    omega
  refine after.forgetful_repeats (.inr forgets) ?_
  have more := once (n + 2)
  rw [polls, List.replicate_add, run_append] at more
  exact more

/-- Rows in order, under ids of their own, are all appended. -/
theorem run_appends (rows : List (Row τ ι))
    (able : (s.events ++ rows).Pairwise fun a b => a.createdAt ≤ b.createdAt ∧ a.id ≠ b.id) :
    (s.run tenant (rows.map .append)).events = s.events ++ rows := by
  induction rows generalizing s with
  | nil => simp [run]
  | cons r rows ih =>
    have here : s.appendable r := by
      simpa [appendable] using fun q member =>
        (List.pairwise_append.mp able).2.2 q member r List.mem_cons_self
    have grown : (s.step tenant (.append r)).events = s.events ++ [r] := by
      simp [step, here, events]
    rw [List.append_cons, ← grown] at able ⊢
    exact ih able

/-- One row more than the ids that are kept, all of one instant. -/
def crowd : List (Row Unit Nat) := (List.range 201).map (⟨(), 7, ·⟩)

/-- One of them is announced again. -/
theorem crowd_announced_again :
    ¬ ((Desk.start none).run () (crowd.map .append)).EachOnce () none := by
  have rows : ((Desk.start none).run () (crowd.map .append)).events = crowd := by
    refine run_appends crowd (List.pairwise_map.mpr ?_)
    exact List.nodup_range.imp fun differ => ⟨le_refl _, differ⟩
  refine ((Reading.begin () none).run _).crowd_repeats (w := 7)
    (List.nodup_range (n := 201)) ?_ ?_ ?_
  · rw [List.length_range]
    decide
  · intro i member
    have here : (⟨(), 7, i⟩ : Row Unit Nat) ∈ crowd := List.mem_map.mpr ⟨i, member, rfl⟩
    exact ⟨⟨(), 7, i⟩, ⟨by rw [rows]; exact here, rfl, nofun⟩, rfl, rfl⟩
  · rw [rows]
    intro r member
    obtain ⟨i, -, rfl⟩ := List.mem_map.mp member
    exact le_refl _

end RangeApply.Polling.Desk
