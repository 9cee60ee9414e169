import RangeApply.Charges

/-! The cap check of an attempt that holds a slot: a slot of both current periods is consumed as it
is, any other one refreshed. The new slot is taken before the old one is given back, so the ledger
the caps are compared with still counts the old one. -/
namespace RangeApply

def slotsHeld (others : List Application) (kind : PeriodKind) (key : String) : Int :=
  others.countP fun row => row.charged kind key

/-- The ledger counts the slots of the attempts, and nothing else. -/
def Tallies (ledger : CapLedger) (others : List Application) (row : Application) : Prop :=
  ∀ kind key, ledger.balance kind key = slotsHeld others kind key + row.slot kind key

/-- The attempt holds a slot of this day and this week; every period has a name. -/
structure Seated (row : Application) (d w : String) : Prop where
  holds : row.holdsSlot = true
  day : row.capDay = some d
  week : row.capWeek = some w
  named : d ≠ "" ∧ w ≠ ""

def current (keys : PeriodKeys) (d w : String) : Prop := d = keys.day.key ∧ w = keys.week.key

def othersFull (policy : ApplicationPolicy) (keys : PeriodKeys) (others : List Application) : Prop :=
  ∃ kind, policy.cap kind ≤ slotsHeld others kind (keys.key kind)

/-- In a period the attempt's own slot is of, the others leave room for that slot only. -/
def lastSlot (policy : ApplicationPolicy) (keys : PeriodKeys) (others : List Application)
    (row : Application) : Prop :=
  ∃ kind, row.charged kind (keys.key kind) = true ∧
    slotsHeld others kind (keys.key kind) + 1 = policy.cap kind

section Refresh
variable {x : CheckInputs} {keys : PeriodKeys} {reserve : Bool} {ledger : CapLedger}
  {others : List Application} {row : Application} {d w : String}

/-- The check fails on a slot that is not of both current periods, when the ledger has reached a
cap: the attempt's own slot is counted with the others. -/
theorem checkCaps_fails (caps : ∀ kind, 0 < x.policy.cap kind) (seated : Seated row d w) :
    (checkCaps x keys reserve ledger row).1 ≠ none ↔ ¬ current keys d w ∧
      ∃ kind, x.policy.cap kind ≤ ledger.balance kind (keys.key kind) := by
  have daily : ¬ x.policy.dailyCap ≤ 0 := Int.not_le.mpr (caps .day)
  have weekly : ¬ x.policy.weeklyCap ≤ 0 := Int.not_le.mpr (caps .week)
  have both (p : PeriodKind → Prop) : (∃ kind, p kind) ↔ p .day ∨ p .week :=
    ⟨fun ⟨kind, here⟩ => by cases kind <;> simp [here], fun here => here.elim (⟨_, ·⟩) (⟨_, ·⟩)⟩
  have same : (row.holdsSlot = true ∧ row.capDay = some keys.day.key ∧
      row.capWeek = some keys.week.key) ↔ current keys d w := by
    simp [seated.holds, seated.day, seated.week, current]
  rw [both]
  unfold checkCaps
  dsimp only
  rw [if_neg daily, if_neg weekly]
  simp only [same, ApplicationPolicy.cap, PeriodKeys.key]
  split
  · simp_all
  rename_i moved
  split
  · have projected (cap balance : Int) (positive : ¬ cap ≤ 0) : cap ≤ max 0 balance ↔ cap ≤ balance := by
      omega
    simp only [CapLedger.usage, projected _ _ daily, projected _ _ weekly]
    split
    · simp_all
    · split <;> simp_all
  · have answer := ledger.reserve_answer keys x.policy.dailyCap x.policy.weeklyCap
    rw [if_neg daily, if_neg weekly] at answer
    split <;> rename_i taken <;> rw [taken] at answer <;> dsimp only at answer <;>
      split at answer <;> (try split at answer) <;> simp_all

/-- An own slot of a current period is counted against the attempt: with one slot left in it, the
refresh is refused although the others leave room. -/
theorem lastSlot_refused (caps : ∀ kind, 0 < x.policy.cap kind) (seated : Seated row d w)
    (tallies : Tallies ledger others row) (rolled : ¬ current keys d w)
    (last : lastSlot x.policy keys others row) : (checkCaps x keys reserve ledger row).1 ≠ none := by
  obtain ⟨kind, own, room⟩ := last
  refine (checkCaps_fails caps seated).mpr ⟨rolled, kind, ?_⟩
  rw [tallies, Application.slot, if_pos own, room]

theorem checkCaps_tallies (seated : Seated row d w)
    (tallies : Tallies ledger others row) (passed : (checkCaps x keys true ledger row).1 = none) :
    Tallies (checkCaps x keys true ledger row).2.1 others (checkCaps x keys true ledger row).2.2 ∧
      ∀ kind key, (checkCaps x keys true ledger row).2.2.charged kind key = true ↔
        key = keys.key kind := by
  obtain ⟨holds, day, week⟩ := checkCaps_passed passed
  have charged := charged_current holds day week
  refine ⟨fun kind key => ?_, charged⟩
  have spec : SlotMove x keys ledger row (checkCaps x keys true ledger row).2.1
      (checkCaps x keys true ledger row).2.2 := checkCaps_spec keys
  generalize (checkCaps x keys true ledger row).2.1 = ledger' at spec ⊢
  generalize (checkCaps x keys true ledger row).2.2 = row' at spec holds charged ⊢
  cases spec with
  | kept _ same => rw [same, tallies]
  | moved ledger' granted =>
    have named : row.capDay ≠ some "" ∧ row.capWeek ≠ some "" := by
      simp [seated.day, seated.week, seated.named]
    have own : row.slot kind key = CapLedger.slots row.capDay row.capWeek kind key := by
      rw [Application.slot_eq, if_pos seated.holds]
    rw [if_pos seated.holds, CapLedger.balance_release, CapLedger.givenBack_named named,
      (CapLedger.reserve_granted granted).2.2, tallies, slots_key, own, Application.slot]
    simp only [charged]
    omega

end Refresh

/-- The check of an attempt on a slot. A slot of both current periods passes. Any other one fails
exactly when the others have reached a cap of a current period; said of the periods in which the
others do not leave room for the attempt's own slot only. Once it is refreshed, the ledger counts
the attempt once, in the current day and the current week. -/
theorem refresh_counts_once (x : CheckInputs) (keys : PeriodKeys) (reserve : Bool) (ledger : CapLedger)
    (others : List Application) (row : Application) (d w : String)
    (caps : ∀ kind, 0 < x.policy.cap kind) (seated : Seated row d w)
    (tallies : Tallies ledger others row)
    (apart : current keys d w ∨ othersFull x.policy keys others ∨
      ¬ lastSlot x.policy keys others row) :
    ((checkCaps x keys reserve ledger row).1 ≠ none ↔
      ¬ current keys d w ∧ othersFull x.policy keys others) ∧
    (reserve = true → (checkCaps x keys reserve ledger row).1 = none →
      Tallies (checkCaps x keys reserve ledger row).2.1 others
          (checkCaps x keys reserve ledger row).2.2 ∧
        ∀ kind key, (checkCaps x keys reserve ledger row).2.2.charged kind key = true ↔
          key = keys.key kind) := by
  constructor
  · rw [checkCaps_fails caps seated]
    refine and_congr_right fun rolled => ?_
    constructor
    · rintro ⟨kind, full⟩
      rcases apart with now | others | spare
      · exact absurd now rolled
      · exact others
      · refine ⟨kind, ?_⟩
        rw [tallies, Application.slot] at full
        split at full
        · rename_i own
          have gap : slotsHeld others kind (keys.key kind) + 1 ≠ x.policy.cap kind :=
            fun room => spare ⟨kind, own, room⟩
          omega
        · omega
    · rintro ⟨kind, full⟩
      refine ⟨kind, ?_⟩
      have own : 0 ≤ row.slot kind (keys.key kind) := by
        unfold Application.slot
        split <;> decide
      rw [tallies]
      omega
  · rintro rfl passed
    exact checkCaps_tallies seated tallies passed

/-! ### Periods to look at -/

def Application.onSlot (d w : String) : Application :=
  { Application.fresh 0 with
    status := .ready, capDay := some d, capWeek := some w, reservedAt := some 0 }

def CapLedger.tally (others : List Application) (row : Application) : CapLedger :=
  ⟨fun kind key => ⟨slotsHeld others kind key + row.slot kind key, 0⟩⟩

theorem tallies_tally (others : List Application) (row : Application) :
    Tallies (CapLedger.tally others row) others row := fun _ _ => by
  simp [CapLedger.tally, CapLedger.balance]

def CheckInputs.capped (daily weekly : Int) : CheckInputs :=
  ⟨{ ApplicationPolicy.initial with dailyCap := daily, weeklyCap := weekly }, 0, [], []⟩

def PeriodKeys.named (day week : String) : PeriodKeys := ⟨⟨day, 0, 0⟩, ⟨week, 0, 0⟩⟩

/-- A cap was lowered to one: another attempt has reached it, and an attempt that holds a slot of
the same day and week passes. -/
theorem consumed_over_cap :
    ¬ ∀ (x : CheckInputs) (keys : PeriodKeys) (reserve : Bool) (ledger : CapLedger)
      (others : List Application) (row : Application) (d w : String),
      (∀ kind, 0 < x.policy.cap kind) → Seated row d w → Tallies ledger others row →
      ((checkCaps x keys reserve ledger row).1 ≠ none ↔ othersFull x.policy keys others) := by
  intro all
  have failed := (all (.capped 1 5) (.named "1" "1") true (.tally [.onSlot "1" "1"] (.onSlot "1" "1"))
    [.onSlot "1" "1"] (.onSlot "1" "1") "1" "1" (by intro kind; cases kind <;> decide)
    ⟨rfl, rfl, rfl, by decide⟩ (tallies_tally _ _)).mpr ⟨.day, by decide⟩
  exact failed rfl

/-- A new day of the same week, with a slot to spare in both. -/
theorem rolled_over :
    (checkCaps (.capped 2 3) (.named "2" "1") true (.tally [.onSlot "1" "1"] (.onSlot "1" "1"))
        (.onSlot "1" "1")).1 = none ∧
      slotsHeld [.onSlot "1" "1"] .week "1" = 1 := by
  have right := refresh_counts_once (.capped 2 3) (.named "2" "1") true
    (.tally [.onSlot "1" "1"] (.onSlot "1" "1")) [.onSlot "1" "1"] (.onSlot "1" "1") "1" "1"
    (by intro kind; cases kind <;> decide) ⟨rfl, rfl, rfl, by decide⟩ (tallies_tally _ _)
    (.inr (.inr (by rintro ⟨kind, -, room⟩; cases kind <;> exact absurd room (by decide))))
  refine ⟨?_, by decide⟩
  by_contra failed
  obtain ⟨-, kind, full⟩ := right.1.mp failed
  cases kind <;> exact absurd full (by decide)

end RangeApply
