import RangeApply.Rows

/-! The cap ledger: per period, slots reserved and slots given back. A slot is taken by one
conditional update, so a period never goes over its cap through `increment`. -/
namespace RangeApply

inductive PeriodKind
  | day | week
  deriving DecidableEq, Repr

def PeriodKeys.key (keys : PeriodKeys) : PeriodKind → String
  | .day => keys.day.key
  | .week => keys.week.key

/-- `reserved - released` is usage. -/
structure LedgerRow where
  reserved : Int
  released : Int
  deriving DecidableEq

/-- The ledger rows of the tenant; a period without a row reads as an empty one, which is
what `_ensure` inserts before the first write. -/
structure CapLedger where
  row : PeriodKind → String → LedgerRow

namespace CapLedger

def empty : CapLedger := ⟨fun _ _ => ⟨0, 0⟩⟩

def balance (l : CapLedger) (kind : PeriodKind) (key : String) : Int :=
  (l.row kind key).reserved - (l.row kind key).released

def usage (l : CapLedger) (kind : PeriodKind) (key : String) : Int :=
  max 0 (l.balance kind key)

def set (l : CapLedger) (kind : PeriodKind) (key : String) (r : LedgerRow) : CapLedger :=
  ⟨fun kind' key' => if kind' = kind ∧ key' = key then r else l.row kind' key'⟩

/-- Take one slot; `none` when the period is full. -/
def increment (l : CapLedger) (kind : PeriodKind) (key : String) (cap : Int) :
    Option CapLedger :=
  let r := l.row kind key
  if r.reserved - r.released < cap then
    some (l.set kind key { r with reserved := r.reserved + 1 })
  else none

def decrement (l : CapLedger) (kind : PeriodKind) (key : String) : CapLedger :=
  let r := l.row kind key
  l.set kind key { r with reserved := r.reserved - 1 }

/-- Take one day slot and one week slot together, or say which cap refused. A cap of 0 is
paused; when the week is full the day slot is handed back. -/
def reserve (l : CapLedger) (keys : PeriodKeys) (dailyCap weeklyCap : Int) :
    CapLedger × Option AdmissionReason :=
  if dailyCap ≤ 0 then (l, some .dailyCapReached)
  else if weeklyCap ≤ 0 then (l, some .weeklyCapReached)
  else match l.increment .day keys.day.key dailyCap with
    | none => (l, some .dailyCapReached)
    | some l' =>
      match l'.increment .week keys.week.key weeklyCap with
      | none => (l'.decrement .day keys.day.key, some .weeklyCapReached)
      | some l'' => (l'', none)

def releaseOne (l : CapLedger) (kind : PeriodKind) (key : Option String) : CapLedger :=
  match key with
  | none => l
  | some key =>
    if key = "" then l
    else
      let r := l.row kind key
      l.set kind key { r with released := r.released + 1 }

/-- Give a reservation back to the periods it was taken from. -/
def release (l : CapLedger) (day week : Option String) : CapLedger :=
  (l.releaseOne .day day).releaseOne .week week

@[simp] theorem balance_set (l : CapLedger) (kind kind' : PeriodKind) (key key' : String)
    (r : LedgerRow) : (l.set kind key r).balance kind' key' =
      if kind' = kind ∧ key' = key then r.reserved - r.released else l.balance kind' key' := by
  by_cases same : kind' = kind ∧ key' = key
  · simp only [balance, set, if_pos same]
  · simp only [balance, set, if_neg same]

theorem increment_eq_some {l l' : CapLedger} {kind : PeriodKind} {key : String} {cap : Int}
    (taken : l.increment kind key cap = some l') :
    l.balance kind key < cap ∧ ∀ kind' key', l'.balance kind' key' =
      l.balance kind' key' + if kind' = kind ∧ key' = key then 1 else 0 := by
  simp only [increment] at taken
  split at taken
  · rename_i room
    cases Option.some.inj taken
    refine ⟨room, fun kind' key' => ?_⟩
    rw [balance_set]
    split
    · rename_i same
      simp only [same, balance]
      omega
    · omega
  · contradiction

theorem balance_decrement (l : CapLedger) (kind kind' : PeriodKind) (key key' : String) :
    (l.decrement kind key).balance kind' key' =
      l.balance kind' key' - if kind' = kind ∧ key' = key then 1 else 0 := by
  simp only [decrement, balance_set]
  split
  · rename_i same
    simp only [same, balance]
    omega
  · omega

/-- Which slots a period pair names, as a number to add to a balance. -/
def slots (day week : Option String) (kind : PeriodKind) (key : String) : Int :=
  match kind with
  | .day => if day = some key then 1 else 0
  | .week => if week = some key then 1 else 0

theorem reserve_granted {l l' : CapLedger} {keys : PeriodKeys} {dailyCap weeklyCap : Int}
    (granted : l.reserve keys dailyCap weeklyCap = (l', none)) :
    l.balance .day keys.day.key < dailyCap ∧ l.balance .week keys.week.key < weeklyCap ∧
      ∀ kind key, l'.balance kind key =
        l.balance kind key + slots (some keys.day.key) (some keys.week.key) kind key := by
  simp only [reserve] at granted
  split at granted
  · cases granted
  split at granted
  · cases granted
  split at granted
  · cases granted
  · rename_i l₁ day
    split at granted
    · cases granted
    · rename_i l₂ week
      cases granted
      obtain ⟨dayRoom, dayBalance⟩ := increment_eq_some day
      obtain ⟨weekRoom, weekBalance⟩ := increment_eq_some week
      refine ⟨dayRoom, ?_, fun kind key => ?_⟩
      · simpa [dayBalance] using weekRoom
      · cases kind <;> simp [weekBalance, dayBalance, slots, eq_comm]

theorem increment_eq_none {l : CapLedger} {kind : PeriodKind} {key : String} {cap : Int}
    (refused : l.increment kind key cap = none) : cap ≤ l.balance kind key := by
  simp only [increment] at refused
  split at refused
  · contradiction
  · rename_i full
    exact Int.not_lt.mp full

/-- The answer of a reservation: the first cap that is paused or reached. -/
theorem reserve_answer (l : CapLedger) (keys : PeriodKeys) (dailyCap weeklyCap : Int) :
    (l.reserve keys dailyCap weeklyCap).2 =
      if dailyCap ≤ 0 then some .dailyCapReached
      else if weeklyCap ≤ 0 then some .weeklyCapReached
      else if dailyCap ≤ l.balance .day keys.day.key then some .dailyCapReached
      else if weeklyCap ≤ l.balance .week keys.week.key then some .weeklyCapReached
      else none := by
  unfold reserve
  split
  · rfl
  split
  · rfl
  cases day : l.increment .day keys.day.key dailyCap with
  | none => rw [if_pos (increment_eq_none day)]
  | some l₁ =>
    obtain ⟨room, balance⟩ := increment_eq_some day
    rw [if_neg (Int.not_le.mpr room)]
    have same : l₁.balance .week keys.week.key = l.balance .week keys.week.key := by
      simp [balance]
    cases week : l₁.increment .week keys.week.key weeklyCap with
    | none =>
      rw [if_pos (same ▸ increment_eq_none week)]
      simp only [week]
    | some l₂ =>
      rw [if_neg (Int.not_le.mpr (same ▸ (increment_eq_some week).1))]
      simp only [week]

theorem reserve_refused {l l' : CapLedger} {keys : PeriodKeys} {dailyCap weeklyCap : Int}
    {reason : AdmissionReason} (refused : l.reserve keys dailyCap weeklyCap = (l', some reason)) :
    (reason = .dailyCapReached ∨ reason = .weeklyCapReached) ∧
      ∀ kind key, l'.balance kind key = l.balance kind key := by
  simp only [reserve] at refused
  split at refused
  · cases refused; exact ⟨.inl rfl, fun _ _ => rfl⟩
  split at refused
  · cases refused; exact ⟨.inr rfl, fun _ _ => rfl⟩
  split at refused
  · cases refused; exact ⟨.inl rfl, fun _ _ => rfl⟩
  · rename_i l₁ day
    split at refused
    · cases refused
      refine ⟨.inr rfl, fun kind key => ?_⟩
      rw [balance_decrement, (increment_eq_some day).2]
      omega
    · cases refused

theorem balance_releaseOne (l : CapLedger) (kind kind' : PeriodKind) (key : Option String)
    (key' : String) : (l.releaseOne kind key).balance kind' key' =
      l.balance kind' key' - if kind' = kind ∧ key = some key' ∧ key' ≠ "" then 1 else 0 := by
  cases key with
  | none => simp [releaseOne]
  | some key =>
    by_cases empty : key = ""
    · have nobody : ¬ (kind' = kind ∧ some key = some key' ∧ key' ≠ "") := by
        rintro ⟨-, same, named⟩
        exact named (Option.some.inj same ▸ empty)
      rw [if_neg nobody, releaseOne, if_pos empty, Int.sub_zero]
    simp only [releaseOne, if_neg empty, balance_set, Option.some.injEq]
    by_cases same : kind' = kind ∧ key' = key
    · rw [if_pos same, if_pos ⟨same.1, same.2.symm, same.2 ▸ empty⟩, same.1, same.2]
      simp only [balance]
      omega
    · rw [if_neg same, if_neg fun h => same ⟨h.1, h.2.1.symm⟩]
      omega

def givenBack (day week : Option String) (kind : PeriodKind) (key : String) : Int :=
  if key = "" then 0 else slots day week kind key

theorem balance_release (l : CapLedger) (day week : Option String) (kind : PeriodKind) (key : String) :
    (l.release day week).balance kind key = l.balance kind key - givenBack day week kind key := by
  unfold release givenBack
  rw [balance_releaseOne, balance_releaseOne]
  by_cases empty : key = "" <;> cases kind <;> simp [slots, empty]

theorem givenBack_named {day week : Option String} (named : day ≠ some "" ∧ week ≠ some "")
    (kind : PeriodKind) (key : String) : givenBack day week kind key = slots day week kind key := by
  unfold givenBack
  split
  · rename_i empty
    subst empty
    cases kind <;> simp [slots, named]
  · rfl

theorem release_bounds (l : CapLedger) (day week : Option String) (kind : PeriodKind) (key : String) :
    (l.release day week).balance kind key ≤ l.balance kind key ∧
      l.balance kind key - slots day week kind key ≤ (l.release day week).balance kind key := by
  rw [balance_release]
  unfold givenBack
  cases kind <;> simp only [slots] <;> grind

end CapLedger

end RangeApply
