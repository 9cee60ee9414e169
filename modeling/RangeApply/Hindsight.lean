import RangeApply.Dataset

/-! What happens after the instant of a dataset, and whether the dataset of that instant changes.
New rows never show; a row that is changed in place shows in what is read without a time. -/
namespace RangeApply.Dataset

/-- What an operation writes into a time: nothing, no time, or its own time. -/
inductive Stamp
  | keep | clear | now

def Stamp.write (t : Time) (old : Option Time) : Stamp → Option Time
  | .keep => old
  | .clear => none
  | .now => some t

inductive Op
  | begin (i : ApplicationId) (a : Attempt)
  | start (k : RunId) (r : Run)
  | observe (k : EventId) (e : Event)
  | retract (k : EventId)
  | supersede (k : EventId)
  | changeRun (k : RunId) (status : ExecutionStatus) (verification : VerificationStatus)
      (finished : Stamp)
  | changeAttempt (i : ApplicationId) (status : ApplicationStatus)
      (submitted reserved verified : Stamp)

def Run.change (now : Time) (status : ExecutionStatus) (verification : VerificationStatus)
    (finished : Stamp) (r : Run) : Run :=
  { r with
    status := status
    verificationStatus := verification
    finishedAt := finished.write now r.finishedAt }

def Attempt.change (now : Time) (status : ApplicationStatus) (submitted reserved verified : Stamp)
    (a : Attempt) : Attempt :=
  { a with
    status := status
    submittedAt := submitted.write now a.submittedAt
    reservedAt := reserved.write now a.reservedAt
    verifiedAt := verified.write now a.verifiedAt }

def perform (now : Time) : Op → History → History
  | .begin i a, h => { h with attempts := h.attempts.insertNew i { a with createdAt := now } }
  | .start k r, h => { h with runs := h.runs.insertNew k { r with startedAt := now } }
  | .observe k e, h => { h with events := h.events.insertNew k { e with observedAt := now } }
  | .retract k, h => { h with events := h.events.modify k fun e => { e with retracted := true } }
  | .supersede k, h => { h with events := h.events.modify k fun e => { e with superseded := true } }
  | .changeRun k status verification finished, h =>
    { h with runs := h.runs.modify k (Run.change now status verification finished) }
  | .changeAttempt i status submitted reserved verified, h =>
    { h with
      attempts := h.attempts.modify i (Attempt.change now status submitted reserved verified) }

/-- An operation performed after the instant. -/
structure Later (cut : Cut) where
  now : Time
  op : Op
  after : cut.asOf < now

/-- The history, and every one it becomes. -/
def states {cut : Cut} (h : History) : List (Later cut) → List History
  | [] => [h]
  | l :: later => h :: states (perform l.now l.op h) later

/-! ### What does not show -/

section Harmless
variable (cut : Cut) (h : History)

/-- The event counts for nothing at the instant. -/
def EventUnread (k : EventId) : Prop :=
  ∀ e a, h.events.get k = some e → h.attempts.get e.application = some a →
    counted cut a (runsOf cut h e.application) →
    e.tenant = cut.tenant → e.observedAt ≤ cut.asOf → e.standing = false

/-- The run tells the same of its attempt once it is changed. -/
def RunAlike (k : RunId) (change : Run → Run) : Prop :=
  ∀ r a, h.runs.get k = some r → h.attempts.get r.application = some a →
    let runs := runsOf cut h r.application
    counted cut a runs → (k, r) ∈ runs →
    ((change r).verifiedBy cut = r.verifiedBy cut ∨ a.verifiedBy cut ∨
      ∃ other ∈ runs, other.1 ≠ k ∧ other.2.verifiedBy cut) ∧
    (runs.getLast? = some (k, r) →
      (change r).review = r.review ∧ ((change r).unknown = r.unknown ∨ verified cut a runs))

/-- The attempt is dated, verified and uncertain as before once it is changed, or is read neither
before nor after. -/
def AttemptAlike (i : ApplicationId) (change : Attempt → Attempt) : Prop :=
  ∀ a, h.attempts.get i = some a →
    let a' := change a
    let runs := runsOf cut h i
    let dated (a : Attempt) := a.executed ∧ cut.covers (submission a runs)
    a.tenant ≠ some cut.tenant ∨ cut.asOf < a.createdAt ∨ (¬dated a ∧ ¬dated a') ∨
    (dated a ∧ a'.executed ∧ submission a' runs = submission a runs ∧
      (a'.verifiedBy cut = a.verifiedBy cut ∨ ∃ r ∈ runs, r.2.verifiedBy cut) ∧
      (runs ≠ [] ∨ (a'.status = .uncertain ↔ a.status = .uncertain) ∨ a.verifiedBy cut))

/-- The operation writes nothing that the dataset of the instant reads. -/
def Harmless (now : Time) : Op → Prop
  | .begin _ _ | .start _ _ | .observe _ _ => True
  | .retract k | .supersede k => EventUnread cut h k
  | .changeRun k status verification finished =>
    RunAlike cut h k (Run.change now status verification finished)
  | .changeAttempt i status submitted reserved verified =>
    AttemptAlike cut h i (Attempt.change now status submitted reserved verified)

end Harmless

/-! ### The labels of one attempt -/

section Labels
variable {cut : Cut} {a a' : Attempt} {runs runs' : List (RunId × Run)}
  {events events' : List (EventId × Event)}

theorem labels_eq_iff : labels cut a' runs' events = labels cut a runs events ↔
    submission a' runs' = submission a runs ∧ verified cut a' runs' = verified cut a runs ∧
      uncertain cut a' runs' = uncertain cut a runs ∧ needsReview runs' = needsReview runs := by
  constructor
  · intro same
    exact ⟨congrArg Labels.submittedAt same, congrArg Labels.verified same,
      congrArg Labels.uncertain same, congrArg Labels.executionNeedsReview same⟩
  · rintro ⟨dated, checked, unsure, review⟩
    simp only [labels, dated, checked, unsure, review]

/-- Every standing event is counted, or counted as too weak. -/
theorem labels_total (cut : Cut) (a : Attempt) (runs : List (RunId × Run))
    (events : List (EventId × Event)) : (labels cut a runs events).eventsCounted +
    (labels cut a runs events).eventsBelowThreshold = events.length := by
  have within := List.length_filter_le
    (fun e : EventId × Event => decide (cut.minimumEvidence.rank ≤ evidenceRank e.2.evidence))
    events
  simp only [labels]
  omega

theorem labels_filter_iff {k : EventId} :
    labels cut a runs (events.filter fun e => decide (e.1 ≠ k)) = labels cut a runs events ↔
      ∀ e ∈ events, e.1 ≠ k := by
  constructor
  · intro same e member
    have total : (events.filter fun e => decide (e.1 ≠ k)).length = events.length := by
      rw [← labels_total cut a runs, same, labels_total]
    have kept := List.filter_eq_self.mp (List.filter_sublist.eq_of_length total) e member
    exact of_decide_eq_true kept
  · intro all
    rw [List.filter_eq_self.mpr fun e member => decide_eq_true (all e member)]

theorem counted_iff : counted cut a runs ↔ a.tenant = some cut.tenant ∧ a.createdAt ≤ cut.asOf ∧
    a.executed ∧ cut.covers (submission a runs) := by
  simp only [counted, Bool.and_eq_true, decide_eq_true_iff]
  tauto

end Labels

/-! ### Rows that are added -/

section Added
variable {cut : Cut} {h h' : History} {i : ApplicationId} {now : Time}

theorem labelled_congr (attempt : h'.attempts.get i = h.attempts.get i)
    (runs : runsOf cut h' i = runsOf cut h i) (events : eventsOf cut h' i = eventsOf cut h i) :
    labelled cut h' i = labelled cut h i := by
  rw [labelled, labelled, attempt, runs, events]

theorem insertNew_filter {κ ρ : Type} [DecidableEq κ] {t : Table κ ρ} {k : κ} {v : ρ}
    {read : κ × ρ → Bool} (unread : read (k, v) = false) :
    (t.insertNew k v).rows.filter read = t.rows.filter read := by
  unfold Table.insertNew
  split
  · rfl
  · rw [List.filter_append, List.filter_cons, unread]
    simp

theorem labelled_begin {k : ApplicationId} {a : Attempt} (after : cut.asOf < now) :
    labelled cut (perform now (.begin k a) h) i = labelled cut h i := by
  have unseen : counted cut { a with createdAt := now } (runsOf cut h i) = false := by
    have late : ¬now ≤ cut.asOf := not_le.mpr after
    simp [counted, late]
  cases before : h.attempts.get i with
  | some b =>
    have same : (h.attempts.insertNew k { a with createdAt := now }).get i = some b :=
      Table.get_insertNew before
    exact labelled_congr (same.trans before.symm) rfl rfl
  | none =>
    cases found : (h.attempts.insertNew k { a with createdAt := now }).get i with
    | none => exact labelled_congr (found.trans before.symm) rfl rfl
    | some b =>
      obtain ⟨rfl, rfl⟩ := Table.get_insertNew_none before found
      have hidden : runsOf cut (perform now (.begin i a) h) i = runsOf cut h i := rfl
      have fresh : (perform now (.begin i a) h).attempts.get i = some { a with createdAt := now } :=
        found
      simp only [labelled, fresh, before, hidden, unseen]
      rfl

theorem labelled_start {k : RunId} {r : Run} (after : cut.asOf < now) :
    labelled cut (perform now (.start k r) h) i = labelled cut h i := by
  refine labelled_congr rfl ?_ rfl
  have late : ¬now ≤ cut.asOf := not_le.mpr after
  exact congrArg _ (insertNew_filter (by simp [late]))

theorem labelled_observe {k : EventId} {e : Event} (after : cut.asOf < now) :
    labelled cut (perform now (.observe k e) h) i = labelled cut h i := by
  refine labelled_congr rfl rfl ?_
  have late : ¬now ≤ cut.asOf := not_le.mpr after
  exact congrArg _ (insertNew_filter (by simp [late]))

end Added

/-! ### Events that are withdrawn -/

section Withdrawn
variable {cut : Cut} {h : History} {k : EventId} {f : Event → Event}

theorem labelled_some {h : History} {i : ApplicationId} {a : Attempt}
    (found : h.attempts.get i = some a) : labelled cut h i =
      if counted cut a (runsOf cut h i) then
        some (labels cut a (runsOf cut h i) (eventsOf cut h i)) else none := by
  simp only [labelled, found]

theorem mem_eventsOf {i : ApplicationId} {e : Event} : (k, e) ∈ eventsOf cut h i ↔
    h.events.get k = some e ∧ e.tenant = cut.tenant ∧ e.application = i ∧
      e.observedAt ≤ cut.asOf ∧ e.standing = true := by
  rw [eventsOf, (sortBy_perm _).mem_iff, List.mem_filter, Table.get_eq_some]
  simp only [Bool.and_eq_true, decide_eq_true_iff, and_assoc]

theorem modify_filter {κ ρ : Type} [DecidableEq κ] {t : Table κ ρ} {k : κ} {f : ρ → ρ}
    {read : κ × ρ → Bool} (unread : ∀ v, read (k, f v) = false) :
    (t.modify k f).rows.filter read =
      (t.rows.filter read).filter fun r => decide (r.1 ≠ k) := by
  have all (l : List (κ × ρ)) :
      (l.map fun r => (r.1, if r.1 = k then f r.2 else r.2)).filter read =
        (l.filter read).filter fun r => decide (r.1 ≠ k) := by
    induction l with
    | nil => rfl
    | cons r l ih =>
      obtain ⟨k', v⟩ := r
      by_cases here : k' = k
      · subst here
        cases found : read (k', v) <;> simp [unread, ih, found]
      · cases found : read (k', v) <;> simp [ih, found, here]
  exact all t.rows

/-- An event that no longer stands is read nowhere; the others are read as before. -/
theorem eventsOf_withdrawn (gone : ∀ e, (f e).standing = false) (i : ApplicationId) :
    eventsOf cut { h with events := h.events.modify k f } i =
      (eventsOf cut h i).filter fun e => decide (e.1 ≠ k) := by
  rw [eventsOf, modify_filter fun e => by simp [gone], sortBy_filter]
  rfl

theorem withdrawn_iff (gone : ∀ e, (f e).standing = false) :
    (∀ i, labelled cut { h with events := h.events.modify k f } i = labelled cut h i) ↔
      EventUnread cut h k := by
  constructor
  · intro same e a event attempt counts tenant observed
    by_contra stands
    have read : (k, e) ∈ eventsOf cut h e.application :=
      mem_eventsOf.mpr ⟨event, tenant, rfl, observed, by simpa using stands⟩
    have alike := same e.application
    rw [labelled_some (h := { h with events := h.events.modify k f }) attempt,
      labelled_some attempt, eventsOf_withdrawn gone] at alike
    have runs : runsOf cut { h with events := h.events.modify k f } e.application =
      runsOf cut h e.application := rfl
    rw [runs, if_pos counts, if_pos counts] at alike
    exact labels_filter_iff.mp (Option.some.inj alike) _ read rfl
  · intro unread i
    cases attempt : h.attempts.get i with
    | none => simp only [labelled, attempt]
    | some a =>
      rw [labelled_some (h := { h with events := h.events.modify k f }) attempt,
        labelled_some attempt, eventsOf_withdrawn gone]
      have runs : runsOf cut { h with events := h.events.modify k f } i = runsOf cut h i := rfl
      rw [runs]
      split
      · rename_i counts
        refine congrArg some (labels_filter_iff.mpr ?_)
        rintro ⟨k', e⟩ read rfl
        obtain ⟨event, tenant, rfl, observed, stands⟩ := mem_eventsOf.mp read
        have gone := unread e a event attempt counts tenant observed
        rw [stands] at gone
        cases gone
      · rfl

end Withdrawn

/-! ### Runs that are changed -/

section Runs
variable {cut : Cut} {h : History} {k : RunId} {change : Run → Run}

theorem mem_runsOf {i : ApplicationId} {r : Run} : (k, r) ∈ runsOf cut h i ↔
    h.runs.get k = some r ∧ r.tenant = cut.tenant ∧ r.application = i ∧
      r.startedAt ≤ cut.asOf := by
  rw [runsOf, (sortBy_perm _).mem_iff, List.mem_filter, Table.get_eq_some]
  simp only [Bool.and_eq_true, decide_eq_true_iff, and_assoc]

/-- One row of a list is changed. -/
def changed (k : RunId) (change : Run → Run) (r : RunId × Run) : RunId × Run :=
  (r.1, if r.1 = k then change r.2 else r.2)

/-- What places a run is kept: whose it is, its number and its start. -/
structure Placed (change : Run → Run) : Prop where
  tenant : ∀ r, (change r).tenant = r.tenant
  application : ∀ r, (change r).application = r.application
  runNumber : ∀ r, (change r).runNumber = r.runNumber
  startedAt : ∀ r, (change r).startedAt = r.startedAt

theorem Run.change_placed (now : Time) (status : ExecutionStatus)
    (verification : VerificationStatus) (finished : Stamp) :
    Placed (Run.change now status verification finished) :=
  ⟨fun _ => rfl, fun _ => rfl, fun _ => rfl, fun _ => rfl⟩

theorem changed_read {β : Type} (read : Run → β) (kept : ∀ r, read (change r) = read r)
    (r : RunId × Run) : read (changed k change r).2 = read r.2 := by
  by_cases here : r.1 = k
  · simp [changed, here, kept]
  · simp [changed, here]

theorem runsOf_changed (placed : Placed change) (i : ApplicationId) :
    runsOf cut { h with runs := h.runs.modify k change } i =
      (runsOf cut h i).map (changed k change) := by
  have number (r : RunId × Run) :
      ((changed k change r).2.runNumber : Int) = (r.2.runNumber : Int) :=
    changed_read (fun r => (r.runNumber : Int)) (fun r => by rw [placed.runNumber]) r
  have rows : (h.runs.modify k change).rows = h.runs.rows.map (changed k change) := rfl
  simp only [runsOf, rows]
  rw [List.filter_map, sortBy_map]
  simp only [number, Function.comp_def, changed_read _ placed.tenant,
    changed_read _ placed.application, changed_read _ placed.startedAt]

section Alike
variable {a : Attempt} {runs : List (RunId × Run)} {r : Run}

theorem submission_changed (placed : Placed change) :
    submission a (runs.map (changed k change)) = submission a runs := by
  simp only [submission, List.getLast?_map]
  cases runs.getLast? with
  | none => rfl
  | some last =>
    simp only [Option.map_some, changed_read _ placed.startedAt]

theorem counted_changed (placed : Placed change) :
    counted cut a (runs.map (changed k change)) = counted cut a runs := by
  rw [counted, counted, submission_changed placed]

/-- What any run has, the run that is changed has or another one has. -/
theorem any_changed (member : (k, r) ∈ runs) (unique : ∀ r', (k, r') ∈ runs → r' = r)
    (change : Run → Run) (read : Run → Bool) :
    (runs.map (changed k change)).any (fun x => read x.2) =
      (read (change r) || runs.any fun x => decide (x.1 ≠ k) && read x.2) := by
  rw [Bool.eq_iff_iff, List.any_map, Bool.or_eq_true, List.any_eq_true, List.any_eq_true]
  constructor
  · rintro ⟨⟨k', r'⟩, inside, holds⟩
    by_cases here : k' = k
    · subst here
      rw [unique r' inside] at holds
      exact .inl (by simpa [changed] using holds)
    · exact .inr ⟨_, inside, by simpa [changed, here] using holds⟩
  · rintro (holds | ⟨⟨k', r'⟩, inside, holds⟩)
    · exact ⟨_, member, by simpa [changed] using holds⟩
    · rw [Bool.and_eq_true, decide_eq_true_iff] at holds
      exact ⟨_, inside, by simpa [changed, holds.1] using holds.2⟩

theorem changed_id : runs.map (changed k id) = runs := by
  have same : changed k id = id := funext fun r => by simp [changed]
  rw [same, List.map_id]

theorem verified_changed_iff (member : (k, r) ∈ runs) (unique : ∀ r', (k, r') ∈ runs → r' = r) :
    verified cut a (runs.map (changed k change)) = verified cut a runs ↔
      (change r).verifiedBy cut = r.verifiedBy cut ∨ a.verifiedBy cut ∨
        ∃ other ∈ runs, other.1 ≠ k ∧ other.2.verifiedBy cut := by
  have before := any_changed member unique id fun r => r.verifiedBy cut
  rw [changed_id] at before
  have others : (∃ other ∈ runs, other.1 ≠ k ∧ other.2.verifiedBy cut) ↔
      (runs.any fun x => decide (x.1 ≠ k) && x.2.verifiedBy cut) = true := by
    simp only [List.any_eq_true, Bool.and_eq_true, decide_eq_true_iff]
  rw [verified, verified, any_changed member unique change, before, others, id]
  cases a.verifiedBy cut <;> cases (change r).verifiedBy cut <;> cases r.verifiedBy cut <;>
    cases (runs.any fun x => decide (x.1 ≠ k) && x.2.verifiedBy cut) <;> decide

/-- A run that is changed leaves the labels when it leaves the attempt verified or not, and, as
the last run, under review or not and unknown or not. -/
theorem labels_changed_iff {events : List (EventId × Event)} (placed : Placed change)
    (member : (k, r) ∈ runs) (unique : ∀ r', (k, r') ∈ runs → r' = r) :
    labels cut a (runs.map (changed k change)) events = labels cut a runs events ↔
      ((change r).verifiedBy cut = r.verifiedBy cut ∨ a.verifiedBy cut ∨
        ∃ other ∈ runs, other.1 ≠ k ∧ other.2.verifiedBy cut) ∧
      (runs.getLast? = some (k, r) →
        (change r).review = r.review ∧ ((change r).unknown = r.unknown ∨ verified cut a runs)) := by
  rw [labels_eq_iff, ← verified_changed_iff member unique]
  refine ⟨?_, ?_⟩
  · rintro ⟨-, checked, unsure, review⟩
    refine ⟨checked, fun last => ?_⟩
    simp only [uncertain, needsReview, List.getLast?_map, last, Option.map_some, Option.any_some,
      checked, changed, if_true] at unsure review
    refine ⟨review, ?_⟩
    cases found : verified cut a runs
    · simpa [found] using unsure
    · exact .inr rfl
  · rintro ⟨checked, alike⟩
    refine ⟨submission_changed placed, checked, ?_⟩
    obtain ⟨⟨k', r'⟩, last⟩ := Option.isSome_iff_exists.mp
      (List.getLast?_isSome.mpr (List.ne_nil_of_mem member))
    simp only [uncertain, needsReview, List.getLast?_map, last, Option.map_some, Option.any_some,
      checked, changed]
    by_cases here : k' = k
    · subst here
      cases unique r' (List.mem_of_getLast? last)
      obtain ⟨review, unsure⟩ := alike last
      refine ⟨?_, by simpa using review⟩
      rcases unsure with same | checked
      · simp [same]
      · simp [checked]
    · simp [here]

end Alike

theorem changeRun_iff (placed : Placed change) :
    (∀ i, labelled cut { h with runs := h.runs.modify k change } i = labelled cut h i) ↔
      RunAlike cut h k change := by
  have unique {i : ApplicationId} {r r' : Run} (here : (k, r) ∈ runsOf cut h i)
      (there : (k, r') ∈ runsOf cut h i) : r' = r :=
    Option.some.inj ((mem_runsOf.mp there).1.symm.trans (mem_runsOf.mp here).1)
  constructor
  · intro same r a run attempt runs counts member
    have alike := same r.application
    rw [labelled_some (h := { h with runs := h.runs.modify k change }) attempt,
      labelled_some attempt, runsOf_changed placed, counted_changed placed, if_pos counts,
      if_pos counts] at alike
    exact (labels_changed_iff placed member fun r' => unique member).mp (Option.some.inj alike)
  · intro alike i
    cases attempt : h.attempts.get i with
    | none => simp only [labelled, attempt]
    | some a =>
      rw [labelled_some (h := { h with runs := h.runs.modify k change }) attempt,
        labelled_some attempt, runsOf_changed placed, counted_changed placed]
      split
      · rename_i counts
        refine congrArg some ?_
        by_cases read : ∃ r, (k, r) ∈ runsOf cut h i
        · obtain ⟨r, member⟩ := read
          obtain ⟨run, -, rfl, -⟩ := mem_runsOf.mp member
          exact (labels_changed_iff placed member fun r' => unique member).mpr
            (alike r a run attempt counts member)
        · have same : (runsOf cut h i).map (changed k change) = runsOf cut h i := by
            refine (List.map_congr_left ?_).trans (List.map_id _)
            rintro ⟨k', r⟩ member
            have other : k' ≠ k := by
              rintro rfl
              exact read ⟨r, member⟩
            simp [changed, other]
          rw [same]
          rfl
      · rfl

end Runs

/-! ### Attempts that are changed -/

section Attempts
variable {cut : Cut} {h : History} {i : ApplicationId} {change : Attempt → Attempt}
  {a a' : Attempt} {runs : List (RunId × Run)}

theorem verified_attempt_iff : verified cut a' runs = verified cut a runs ↔
    a'.verifiedBy cut = a.verifiedBy cut ∨ ∃ r ∈ runs, r.2.verifiedBy cut := by
  rw [verified, verified, ← List.any_eq_true]
  cases a'.verifiedBy cut <;> cases a.verifiedBy cut <;>
    cases runs.any fun r => r.2.verifiedBy cut <;> decide

/-- Of the same runs, two attempts are told apart by their date, by being verified, and, when
there is no run, by being uncertain. -/
theorem labels_attempt_iff {events : List (EventId × Event)} :
    labels cut a' runs events = labels cut a runs events ↔
      submission a' runs = submission a runs ∧
      (a'.verifiedBy cut = a.verifiedBy cut ∨ ∃ r ∈ runs, r.2.verifiedBy cut) ∧
      (runs ≠ [] ∨ (a'.status = .uncertain ↔ a.status = .uncertain) ∨ a.verifiedBy cut) := by
  rw [labels_eq_iff, ← verified_attempt_iff]
  refine and_congr_right fun _ => and_congr_right fun checked => ?_
  refine (and_iff_left rfl).trans ?_
  cases last : runs.getLast? with
  | some r =>
    have some_run : runs ≠ [] := List.ne_nil_of_mem (List.mem_of_getLast? last)
    simp [uncertain, last, checked, some_run]
  | none =>
    have no_run : runs = [] := List.getLast?_eq_none_iff.mp last
    subst no_run
    simp only [uncertain, List.getLast?_nil, checked]
    cases found : a.verifiedBy cut <;> simp [verified, found, decide_eq_decide]

theorem labelled_alike_iff (tenant : a'.tenant = a.tenant) (created : a'.createdAt = a.createdAt)
    {events : List (EventId × Event)} :
    ((if counted cut a' runs then some (labels cut a' runs events) else none) =
      if counted cut a runs then some (labels cut a runs events) else none) ↔
    (a.tenant ≠ some cut.tenant ∨ cut.asOf < a.createdAt ∨
      (¬(a.executed ∧ cut.covers (submission a runs)) ∧
        ¬(a'.executed ∧ cut.covers (submission a' runs))) ∨
      ((a.executed ∧ cut.covers (submission a runs)) ∧ a'.executed ∧
        submission a' runs = submission a runs ∧
        (a'.verifiedBy cut = a.verifiedBy cut ∨ ∃ r ∈ runs, r.2.verifiedBy cut) ∧
        (runs ≠ [] ∨ (a'.status = .uncertain ↔ a.status = .uncertain) ∨ a.verifiedBy cut))) := by
  by_cases owned : a.tenant = some cut.tenant ∧ a.createdAt ≤ cut.asOf
  · have late : ¬cut.asOf < a.createdAt := not_lt.mpr owned.2
    have read (b : Attempt) (same : b.tenant = a.tenant) (at_ : b.createdAt = a.createdAt) :
        counted cut b runs = true ↔ b.executed ∧ cut.covers (submission b runs) := by
      rw [counted_iff, same, at_]
      exact ⟨fun h => h.2.2, fun h => ⟨owned.1, owned.2, h⟩⟩
    simp only [owned.1, ne_eq, not_true_eq_false, late, false_or]
    rw [← read a rfl rfl, ← read a' tenant created]
    by_cases before : counted cut a runs = true <;> by_cases after : counted cut a' runs = true
    · have dated := (read a' tenant created).mp after
      simp only [before, after, if_true, Option.some.injEq, labels_attempt_iff, dated.1,
        not_true_eq_false, true_and, false_and, false_or, ne_eq]
    · have apart : ¬(a'.executed ∧ submission a' runs = submission a runs) := by
        rintro ⟨executed, same⟩
        refine after ((read a' tenant created).mpr ⟨executed, ?_⟩)
        rw [same]
        exact ((read a rfl rfl).mp before).2
      simp only [before, after, if_true]
      simp
      tauto
    · simp [before, after]
    · simp [before, after]
  · have unread (b : Attempt) (same : b.tenant = a.tenant) (at_ : b.createdAt = a.createdAt) :
        counted cut b runs = false := by
      rw [← Bool.not_eq_true, counted_iff, same, at_]
      exact fun h => owned ⟨h.1, h.2.1⟩
    rw [unread a rfl rfl, unread a' tenant created]
    refine iff_of_true rfl ?_
    rcases not_and_or.mp owned with other | late
    · exact .inl other
    · exact .inr (.inl (not_le.mp late))

theorem changeAttempt_iff (tenant : ∀ a, (change a).tenant = a.tenant)
    (created : ∀ a, (change a).createdAt = a.createdAt) :
    (∀ j, labelled cut { h with attempts := h.attempts.modify i change } j = labelled cut h j) ↔
      AttemptAlike cut h i change := by
  have here {a : Attempt} (found : h.attempts.get i = some a) :
      ({ h with attempts := h.attempts.modify i change } : History).attempts.get i =
        some (change a) := by
    rw [Table.get_modify_self, found]
    rfl
  constructor
  · intro same a found
    have alike := same i
    rw [labelled_some (here found), labelled_some found] at alike
    exact (labelled_alike_iff (tenant a) (created a)).mp alike
  · intro alike j
    by_cases other : j = i
    · subst other
      cases found : h.attempts.get j with
      | none =>
        refine labelled_congr ?_ rfl rfl
        rw [Table.get_modify_self, found]
        rfl
      | some a =>
        rw [labelled_some (here found), labelled_some found]
        exact (labelled_alike_iff (tenant a) (created a)).mpr (alike a found)
    · exact labelled_congr (Table.get_modify_other _ _ other) rfl rfl

end Attempts

/-! ### The dataset after any operations -/

section Run
variable {cut : Cut} {h : History}

theorem perform_iff {now : Time} {op : Op} (after : cut.asOf < now) :
    members cut (perform now op h) = members cut h ↔ Harmless cut h now op := by
  rw [members_eq_iff]
  cases op with
  | begin k a => exact iff_of_true (fun i => labelled_begin after) trivial
  | start k r => exact iff_of_true (fun i => labelled_start after) trivial
  | observe k e => exact iff_of_true (fun i => labelled_observe after) trivial
  | retract k => exact withdrawn_iff fun e => by simp [Event.standing]
  | supersede k => exact withdrawn_iff fun e => by simp [Event.standing]
  | changeRun k status verification finished => exact changeRun_iff (Run.change_placed ..)
  | changeAttempt i status submitted reserved verified =>
    exact changeAttempt_iff (fun _ => rfl) fun _ => rfl

/-- No operation of the run writes what the dataset of the instant reads. -/
def Undisturbed (cut : Cut) : History → List (Later cut) → Prop
  | _, [] => True
  | h, l :: later => Harmless cut h l.now l.op ∧ Undisturbed cut (perform l.now l.op h) later

theorem dataset_kept_iff (cut : Cut) (h : History) (later : List (Later cut)) :
    (∀ s ∈ states h later, members cut s = members cut h) ↔ Undisturbed cut h later := by
  induction later generalizing h with
  | nil => simp [states, Undisturbed]
  | cons l later ih =>
    have first : perform l.now l.op h ∈ states h (l :: later) := by
      cases later <;> simp [states]
    constructor
    · intro kept
      have next := kept _ first
      refine ⟨(perform_iff l.after).mp next, (ih _).mp fun s reached => ?_⟩
      rw [next]
      exact kept s (List.mem_cons_of_mem _ reached)
    · rintro ⟨harmless, rest⟩ s reached
      have next := (perform_iff l.after).mpr harmless
      rcases List.mem_cons.mp reached with rfl | later
      · rfl
      · exact ((ih _).mpr rest s later).trans next

/-- The dataset of an instant stays through every later run of operations that write nothing it
reads; withdrawing an event changes it just when the event counted. -/
theorem dataset_as_known (cut : Cut) (h : History) (later : List (Later cut)) :
    (Undisturbed cut h later → ∀ s ∈ states h later, members cut s = members cut h) ∧
    ∀ (l : Later cut) (k : EventId), l.op = .retract k ∨ l.op = .supersede k →
      (members cut (perform l.now l.op h) = members cut h ↔ EventUnread cut h k) := by
  refine ⟨(dataset_kept_iff cut h later).mpr, fun l k withdrawn => ?_⟩
  rw [perform_iff l.after]
  rcases withdrawn with withdrawn | withdrawn <;> rw [withdrawn] <;> rfl

/-- A rejection, known at the instant and taken back after it. -/
def rejectedOnce : History where
  attempts := ⟨[(0, ⟨some "t", 0, .submitted, some 1, some 0, none⟩)], by decide⟩
  runs := ⟨[], by decide⟩
  events := ⟨[(0, ⟨"t", 0, .rejected, .strong, 3, 4, 0, false, false⟩)], by decide⟩

def atTen : Cut := ⟨"t", 10, none, .moderate, fun _ => 0⟩

theorem retraction_shows : ¬∀ s ∈ states rejectedOnce [(⟨20, .retract 0, by decide⟩ : Later atTen)],
    members atTen s = members atTen rejectedOnce := by
  intro kept
  have same := kept (perform 20 (.retract 0) rejectedOnce) (by simp [states])
  have rejected := congrArg (List.map fun r => r.2.rejected) same
  exact absurd rejected (by decide)

end Run

end RangeApply.Dataset
