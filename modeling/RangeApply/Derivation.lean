import Mathlib.Data.Finset.Card
import RangeApply.Sorting

/-! The rules the derived outcome follows: which events it rests on, that the order they are read
in does not matter, and when it reports a conflict. -/
namespace RangeApply

variable {ι : Type}

/-- The event happened after the other one. -/
def EventView.After (p t : EventView ι) : Prop := keyLt t.order p.order

instance (p t : EventView ι) : Decidable (p.After t) := inferInstanceAs (Decidable (_ = _))

def liveEvents (events : List (EventView ι)) : List (EventView ι) := events.filter (·.active)

/-- What the rules call a conflict: two strong endings that differ, or progress that is strong or
moderate after some strong ending. -/
def Conflicting (live : List (EventView ι)) : Prop :=
  (∃ t ∈ live, ∃ u ∈ live, t.strongTerminal ∧ u.strongTerminal ∧ t.outcome ≠ u.outcome) ∨
  ∃ t ∈ live, ∃ p ∈ live, t.strongTerminal ∧ p.progress ∧ p.After t

/-- Progress after one strong ending is followed by progress after all of them, unless the endings
differ. -/
def Unenclosed (live : List (EventView ι)) : Prop :=
  ∀ t ∈ live, ∀ p ∈ live, t.strongTerminal → p.progress → p.After t →
    (∃ u ∈ live, ∃ v ∈ live, u.strongTerminal ∧ v.strongTerminal ∧ u.outcome ≠ v.outcome) ∨
    ∃ q ∈ live, q.progress ∧ ∀ u ∈ live, u.strongTerminal → q.After u

/-- The events that may set the status, and those that flag it. -/
def deciding (e : EventView ι) : Bool := decide (e.evidence ≠ .weak ∨ e.outcome = .needsReview)

/-- The stated rules of the derivation, for one history of events. -/
structure FollowsRules (events : List (EventView ι)) : Prop where
  ignored : derive (liveEvents events) = derive events
  unordered : ∀ events', events'.Perm events →
    ((liveEvents events).map EventView.order).Nodup → derive events' = derive events
  established : (∃ e ∈ liveEvents events, e.evidence ≠ .weak ∧
      (derive events).basisEventId = some e.id ∧
      ((derive events).conflicts = [] → (derive events).current = e.outcome)) ∨
    (derive events).basisEventId = none ∧
      ((derive events).current = .needsReview ∨ (derive events).current = .unknown)
  undecided : (derive (events.filter deciding)).current = (derive events).current
  furthest : (∀ e ∈ liveEvents events, ¬ e.strongTerminal) →
    ∀ p ∈ liveEvents events, p.progress →
      ∃ best ∈ liveEvents events, best.progress ∧ (derive events).current = best.outcome ∧
        ∀ q ∈ liveEvents events, q.progress → q.outcome.stage.getD 0 ≤ best.outcome.stage.getD 0
  conflict : (derive events).conflicts ≠ [] ↔ Conflicting (liveEvents events)
  review : (derive events).conflicts ≠ [] → (derive events).current = .needsReview

/-! ### The parts of the derivation -/

/-- The live events in the order the derivation reads them. -/
def sortedLive (events : List (EventView ι)) : List (EventView ι) :=
  sortBy EventView.order (liveEvents events)

section Parts
variable {events live : List (EventView ι)} {e last : EventView ι}

theorem mem_sortedLive : e ∈ sortedLive events ↔ e ∈ liveEvents events :=
  (sortBy_perm _).mem_iff

theorem sortedLive_sorted (events : List (EventView ι)) :
    SortedBy EventView.order (sortedLive events) := sortBy_sorted _

theorem derive_of_live {events' : List (EventView ι)} (same : sortedLive events' = sortedLive events) :
    derive events' = derive events := by
  unfold sortedLive liveEvents at same
  simp only [derive, same]

theorem derive_liveEvents (events : List (EventView ι)) : derive (liveEvents events) = derive events := by
  apply derive_of_live
  simp only [sortedLive, liveEvents, List.filter_filter, Bool.and_self]

theorem derive_perm {events' : List (EventView ι)} (same : events'.Perm events)
    (distinct : ((liveEvents events).map EventView.order).Nodup) :
    derive events' = derive events :=
  derive_of_live (sortBy_eq_of_perm (same.filter _) distinct)

theorem strong_of_strongTerminal (ending : e.strongTerminal) : e.evidence = .strong := by
  simp only [EventView.strongTerminal, Bool.and_eq_true, decide_eq_true_iff] at ending
  exact ending.2

theorem not_weak_of_progress (progress : e.progress) : e.evidence ≠ .weak := by
  simp only [EventView.progress, Bool.and_eq_true, decide_eq_true_iff] at progress
  exact progress.2

theorem basisOf_eq (found : basisOf live = some e) : e ∈ live ∧ e.evidence ≠ .weak := by
  unfold basisOf at found
  split at found
  · rename_i last ending
    cases found
    obtain ⟨member, strong⟩ := List.mem_filter.mp (List.mem_of_getLast? ending)
    rw [strong_of_strongTerminal strong]
    exact ⟨member, by decide⟩
  · obtain ⟨member, progress⟩ := List.mem_filter.mp (greatest_spec found).1
    exact ⟨member, not_weak_of_progress progress⟩

theorem no_last_iff : (live.filter (·.strongTerminal)).getLast? = none ↔
    ∀ e ∈ live, ¬ e.strongTerminal := by
  rw [List.getLast?_eq_none_iff, List.filter_eq_nil_iff]

theorem basisOf_furthest (open_ : ∀ e ∈ live, ¬ e.strongTerminal) {p : EventView ι}
    (member : p ∈ live) (progress : p.progress) :
    ∃ best ∈ live, best.progress ∧ basisOf live = some best ∧
      ∀ q ∈ live, q.progress → q.outcome.stage.getD 0 ≤ best.outcome.stage.getD 0 := by
  have here : p ∈ live.filter (·.progress) := List.mem_filter.mpr ⟨member, progress⟩
  have basis : basisOf live = greatest EventView.advance (live.filter (·.progress)) := by
    rw [basisOf, no_last_iff.mpr open_]
  cases found : greatest EventView.advance (live.filter (·.progress)) with
  | none =>
    rw [greatest_eq_none.mp found] at here
    cases here
  | some best =>
    obtain ⟨bestIn, above⟩ := greatest_spec found
    obtain ⟨bestLive, bestProgress⟩ := List.mem_filter.mp bestIn
    refine ⟨best, bestLive, bestProgress, basis.trans found, fun q inside moved => ?_⟩
    have ordered := above q (List.mem_filter.mpr ⟨inside, moved⟩)
    simp only [EventView.advance, keyLe] at ordered
    split at ordered
    · omega
    · exact_mod_cast (of_decide_eq_true ordered).le

end Parts

/-! ### Conflicts -/

section Conflicts
variable {live : List (EventView ι)} {last : EventView ι}

/-- The kinds of strong endings, as the derivation names them. -/
def endings (live : List (EventView ι)) : List OutcomeKind :=
  [OutcomeKind.closedWithoutApplication, .rejected, .withdrawn].filter fun k =>
    (live.filter (·.strongTerminal)).any fun e => e.outcome = k

theorem mem_endings {k : OutcomeKind} :
    k ∈ endings live ↔ ∃ e ∈ live, e.strongTerminal ∧ e.outcome = k := by
  simp only [endings, List.mem_filter, List.any_eq_true, decide_eq_true_iff, and_assoc]
  constructor
  · rintro ⟨-, e, member, strong, kind⟩
    exact ⟨e, member, strong, kind⟩
  · rintro ⟨e, member, strong, rfl⟩
    refine ⟨?_, e, member, strong, rfl⟩
    have terminal : e.outcome.terminal = true := by
      simp only [EventView.strongTerminal, Bool.and_eq_true] at strong
      exact strong.1
    revert terminal
    cases e.outcome <;> decide

theorem endings_differ_iff : 1 < (endings live).length ↔
    ∃ t ∈ live, ∃ u ∈ live, t.strongTerminal ∧ u.strongTerminal ∧ t.outcome ≠ u.outcome := by
  have distinct : (endings live).Nodup := List.Nodup.filter _ (by decide)
  rw [← List.toFinset_card_of_nodup distinct, Finset.one_lt_card]
  simp only [List.mem_toFinset, mem_endings]
  constructor
  · rintro ⟨-, ⟨t, tIn, strong, rfl⟩, -, ⟨u, uIn, strong', rfl⟩, differ⟩
    exact ⟨t, tIn, u, uIn, strong, strong', differ⟩
  · rintro ⟨t, tIn, u, uIn, strong, strong', differ⟩
    exact ⟨_, ⟨t, tIn, strong, rfl⟩, _, ⟨u, uIn, strong', rfl⟩, differ⟩

def laterProgress (live : List (EventView ι)) (last : EventView ι) : List (EventView ι) :=
  (live.filter (·.progress)).filter fun p => !keyLe p.order last.order

theorem mem_laterProgress {p : EventView ι} :
    p ∈ laterProgress live last ↔ p ∈ live ∧ p.progress ∧ p.After last := by
  simp [laterProgress, EventView.After, keyLt, and_comm]

/-- Only the last strong ending is compared with the progress. -/
theorem conflictsOf_ne_nil : conflictsOf live last ≠ [] ↔
    (∃ t ∈ live, ∃ u ∈ live, t.strongTerminal ∧ u.strongTerminal ∧ t.outcome ≠ u.outcome) ∨
    ∃ p ∈ live, p.progress ∧ p.After last := by
  have later : (∃ p ∈ live, p.progress ∧ p.After last) ↔ laterProgress live last ≠ [] := by
    simp only [← mem_laterProgress]
    exact ⟨fun ⟨_, member⟩ => List.ne_nil_of_mem member, List.exists_mem_of_ne_nil _⟩
  unfold conflictsOf
  dsimp only
  rw [Ne, List.append_eq_nil_iff, not_and_or, ← endings_differ_iff, later]
  refine or_congr ?_ ?_
  · change ¬ (if 1 < (endings live).length then _ else _) = _ ↔ _
    split <;> simp [*]
  · rw [← laterProgress]
    cases ended : (laterProgress live last).getLast? with
    | none => simp [List.getLast?_eq_none_iff.mp ended]
    | some p => simp [List.ne_nil_of_mem (List.mem_of_getLast? ended)]

/-- What the derivation reports. -/
def reportOf (live : List (EventView ι)) : List String :=
  match (live.filter (·.strongTerminal)).getLast? with
  | some last => conflictsOf live last
  | none => []

theorem reportOf_open (open_ : ∀ e ∈ live, ¬ e.strongTerminal) : reportOf live = [] := by
  rw [reportOf, no_last_iff.mpr open_]

/-- The last strong ending comes after no strong ending, so progress after it comes after all. -/
theorem reportOf_ne_nil (sorted : SortedBy EventView.order live) : reportOf live ≠ [] ↔
    (∃ t ∈ live, ∃ u ∈ live, t.strongTerminal ∧ u.strongTerminal ∧ t.outcome ≠ u.outcome) ∨
    ∃ t ∈ live, t.strongTerminal ∧
      ∃ p ∈ live, p.progress ∧ ∀ u ∈ live, u.strongTerminal → p.After u := by
  cases ended : (live.filter (·.strongTerminal)).getLast? with
  | none =>
    have open_ := no_last_iff.mp ended
    rw [reportOf_open open_]
    constructor
    · intro reported
      exact absurd rfl reported
    · rintro (⟨t, member, -, -, strong, -⟩ | ⟨t, member, strong, -⟩)
      · exact absurd strong (open_ t member)
      · exact absurd strong (open_ t member)
  | some last =>
    obtain ⟨lastIn, lastStrong⟩ := List.mem_filter.mp (List.mem_of_getLast? ended)
    have above : ∀ u ∈ live, u.strongTerminal → keyLe u.order last.order = true := fun u uIn strong =>
      SortedBy.le_getLast (sorted.filter _) (List.mem_filter.mpr ⟨uIn, strong⟩) ended
    have report : reportOf live = conflictsOf live last := by rw [reportOf, ended]
    rw [report, conflictsOf_ne_nil]
    refine or_congr Iff.rfl ⟨?_, ?_⟩
    · rintro ⟨p, pIn, progress, after⟩
      exact ⟨last, lastIn, lastStrong, p, pIn, progress,
        fun u uIn strong => keyLt.of_le (above u uIn strong) after⟩
    · rintro ⟨-, -, -, p, pIn, progress, after⟩
      exact ⟨p, pIn, progress, after last lastIn lastStrong⟩

end Conflicts

/-! ### The rules -/

section Rules
variable {events live : List (EventView ι)}

/-- The status that is reported for the live events. -/
def statusOf (live : List (EventView ι)) : OutcomeKind :=
  if reportOf live ≠ [] then .needsReview
  else match (basisOf live).map (·.outcome) with
    | some c => c
    | none => if live.any fun e => e.outcome = .needsReview then .needsReview else .unknown

theorem derive_current : (derive events).current = statusOf (sortedLive events) := rfl

theorem derive_conflicts : (derive events).conflicts = reportOf (sortedLive events) := rfl

theorem derive_basis : (derive events).basisEventId = (basisOf (sortedLive events)).map (·.id) := rfl

theorem statusOf_basis {e : EventView ι} (quiet : reportOf live = []) (found : basisOf live = some e) :
    statusOf live = e.outcome := by
  simp [statusOf, quiet, found]

theorem statusOf_none (found : basisOf live = none) :
    statusOf live = .needsReview ∨ statusOf live = .unknown := by
  unfold statusOf
  split
  · exact .inl rfl
  · rw [found]
    exact ite_eq_or_eq _ _ _

theorem filter_deciding {q : EventView ι → Bool} (kept : ∀ e, q e → deciding e) :
    (live.filter deciding).filter q = live.filter q := by
  rw [List.filter_filter]
  refine List.filter_congr fun e _ => ?_
  cases here : q e
  · rfl
  · simpa using kept e here

theorem deciding_of_strongTerminal (e : EventView ι) (ending : e.strongTerminal) : deciding e := by
  simp [deciding, strong_of_strongTerminal ending]

theorem deciding_of_progress (e : EventView ι) (progress : e.progress) : deciding e := by
  simp [deciding, not_weak_of_progress progress]

theorem statusOf_deciding (live : List (EventView ι)) :
    statusOf (live.filter deciding) = statusOf live := by
  have ended : (live.filter deciding).filter (·.strongTerminal) = live.filter (·.strongTerminal) :=
    filter_deciding deciding_of_strongTerminal
  have moved : (live.filter deciding).filter (·.progress) = live.filter (·.progress) :=
    filter_deciding deciding_of_progress
  have flagged : ((live.filter deciding).any fun e => e.outcome = .needsReview) =
      live.any fun e => e.outcome = .needsReview := by
    rw [List.any_filter]
    refine List.any_congr rfl fun e => ?_
    by_cases flag : e.outcome = .needsReview <;> simp [deciding, flag]
  have report : reportOf (live.filter deciding) = reportOf live := by
    unfold reportOf conflictsOf
    rw [ended, moved]
  have basis : basisOf (live.filter deciding) = basisOf live := by
    unfold basisOf
    rw [ended, moved]
  unfold statusOf
  rw [report, basis, flagged]

theorem conflict_iff : (derive events).conflicts ≠ [] ↔
    (∃ t ∈ liveEvents events, ∃ u ∈ liveEvents events,
      t.strongTerminal ∧ u.strongTerminal ∧ t.outcome ≠ u.outcome) ∨
    ∃ t ∈ liveEvents events, t.strongTerminal ∧ ∃ p ∈ liveEvents events,
      p.progress ∧ ∀ u ∈ liveEvents events, u.strongTerminal → p.After u := by
  rw [derive_conflicts, reportOf_ne_nil (sortedLive_sorted events)]
  simp only [mem_sortedLive]

/-- A conflict is reported exactly when there is one, unless the endings enclose progress. -/
theorem conflict_agrees_iff : ((derive events).conflicts ≠ [] ↔ Conflicting (liveEvents events)) ↔
    Unenclosed (liveEvents events) := by
  rw [conflict_iff]
  constructor
  · intro agrees t tIn p pIn strong progress after
    rcases agrees.mpr (.inr ⟨t, tIn, p, pIn, strong, progress, after⟩) with differ | beyond
    · exact .inl differ
    · obtain ⟨-, -, -, q, qIn, moved, beyond⟩ := beyond
      exact .inr ⟨q, qIn, moved, beyond⟩
  · intro gap
    constructor
    · rintro (differ | ⟨t, tIn, strong, p, pIn, progress, after⟩)
      · exact .inl differ
      · exact .inr ⟨t, tIn, p, pIn, strong, progress, after t tIn strong⟩
    · rintro (differ | ⟨t, tIn, p, pIn, strong, progress, after⟩)
      · exact .inl differ
      · rcases gap t tIn p pIn strong progress after with differ | ⟨q, qIn, moved, beyond⟩
        · exact .inl differ
        · exact .inr ⟨t, tIn, strong, q, qIn, moved, beyond⟩

theorem derive_established (events : List (EventView ι)) :
    (∃ e ∈ liveEvents events, e.evidence ≠ .weak ∧
      (derive events).basisEventId = some e.id ∧
      ((derive events).conflicts = [] → (derive events).current = e.outcome)) ∨
    (derive events).basisEventId = none ∧
      ((derive events).current = .needsReview ∨ (derive events).current = .unknown) := by
  rw [derive_basis, derive_conflicts, derive_current]
  cases found : basisOf (sortedLive events) with
  | none => exact .inr ⟨rfl, statusOf_none found⟩
  | some e =>
    obtain ⟨member, strong⟩ := basisOf_eq found
    exact .inl ⟨e, mem_sortedLive.mp member, strong, rfl, fun quiet => statusOf_basis quiet found⟩

theorem derive_deciding (events : List (EventView ι)) :
    (derive (events.filter deciding)).current = (derive events).current := by
  have same : sortedLive (events.filter deciding) = (sortedLive events).filter deciding := by
    simp only [sortedLive, liveEvents, ← sortBy_filter, List.filter_filter, Bool.and_comm]
  rw [derive_current, derive_current, same, statusOf_deciding]

theorem derive_furthest (open_ : ∀ e ∈ liveEvents events, ¬ e.strongTerminal) (p : EventView ι)
    (member : p ∈ liveEvents events) (progress : p.progress) :
    ∃ best ∈ liveEvents events, best.progress ∧ (derive events).current = best.outcome ∧
      ∀ q ∈ liveEvents events, q.progress →
        q.outcome.stage.getD 0 ≤ best.outcome.stage.getD 0 := by
  have quiet : ∀ e ∈ sortedLive events, ¬ e.strongTerminal :=
    fun e inside => open_ e (mem_sortedLive.mp inside)
  obtain ⟨best, bestIn, moved, found, above⟩ :=
    basisOf_furthest quiet (mem_sortedLive.mpr member) progress
  refine ⟨best, mem_sortedLive.mp bestIn, moved, ?_, fun q inside => above q (mem_sortedLive.mpr inside)⟩
  exact statusOf_basis (reportOf_open quiet) found

theorem derive_review (reported : (derive events).conflicts ≠ []) :
    (derive events).current = .needsReview := by
  rw [derive_conflicts] at reported
  rw [derive_current, statusOf, if_pos reported]

end Rules

/-- The derivation follows its rules exactly when no progress is enclosed by strong endings of one
kind: progress after an earlier ending is not compared with it. -/
theorem derive_follows_iff (events : List (EventView ι)) :
    FollowsRules events ↔ Unenclosed (liveEvents events) := by
  rw [← conflict_agrees_iff]
  constructor
  · exact FollowsRules.conflict
  · intro agrees
    exact
      { ignored := derive_liveEvents events
        unordered := fun _ same distinct => derive_perm same distinct
        established := derive_established events
        undecided := derive_deciding events
        furthest := derive_furthest
        conflict := agrees
        review := derive_review }

/-- Rejected, invited to an interview, rejected again. -/
def rejectedTwice : List (EventView Nat) :=
  [⟨0, .rejected, .strong, 10, 0, true⟩, ⟨1, .interviewRequested, .strong, 20, 1, true⟩,
    ⟨2, .rejected, .strong, 30, 2, true⟩]

/-- The interview after the first rejection is not reported. -/
theorem interview_unreported : ¬ FollowsRules rejectedTwice := by
  intro follows
  have quiet : (derive rejectedTwice).conflicts = [] := by decide
  refine follows.conflict.mpr (.inr ?_) quiet
  exact ⟨_, .head _, _, .tail _ (.head _), by decide, by decide, by decide⟩

end RangeApply
