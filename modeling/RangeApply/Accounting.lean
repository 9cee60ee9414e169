import RangeApply.Savepoint
import RangeApply.Caps

/-! The cap ledger over its rows. A `CapLedger` object remembers which period rows it has seen;
the rows themselves are in the transaction and go when a savepoint is rolled back. -/
namespace RangeApply

/-- The rows of `application_cap_ledger` of the tenant. -/
structure CapRows where
  row : PeriodKind → String → Option LedgerRow

namespace CapRows

def empty : CapRows := ⟨fun _ _ => none⟩

def set (rows : CapRows) (kind : PeriodKind) (key : String) (r : LedgerRow) : CapRows :=
  ⟨fun kind' key' => if kind' = kind ∧ key' = key then some r else rows.row kind' key'⟩

def usage (rows : CapRows) (kind : PeriodKind) (key : String) : Int :=
  match rows.row kind key with
  | none => 0
  | some r => max 0 (r.reserved - r.released)

/-- Take one slot in one conditional update; `false` when no row was updated. -/
def increment (rows : CapRows) (kind : PeriodKind) (key : String) (cap : Option Int) :
    CapRows × Bool :=
  match rows.row kind key with
  | none => (rows, false)
  | some r =>
    if cap.all fun cap => r.reserved - r.released < cap then
      (rows.set kind key { r with reserved := r.reserved + 1 }, true)
    else (rows, false)

def decrement (rows : CapRows) (kind : PeriodKind) (key : String) : CapRows :=
  match rows.row kind key with
  | none => rows
  | some r => rows.set kind key { r with reserved := r.reserved - 1 }

/-- The rows as the ledger of the rest of the development: no row is an empty one. -/
def toLedger (rows : CapRows) : CapLedger :=
  ⟨fun kind key => (rows.row kind key).getD ⟨0, 0⟩⟩

end CapRows

/-- One `CapLedger` object and the rows it works on. -/
structure LedgerObject where
  rows : CapRows
  ensured : PeriodKind → String → Bool

namespace LedgerObject

/-- `_ensure`: a period seen before is not looked up again. -/
def ensure (l : LedgerObject) (kind : PeriodKind) (key : String) : LedgerObject :=
  if l.ensured kind key then l
  else
    { rows := if (l.rows.row kind key).isNone then l.rows.set kind key ⟨0, 0⟩ else l.rows
      ensured := fun kind' key' => if kind' = kind ∧ key' = key then true else l.ensured kind' key' }

def reserve (l : LedgerObject) (keys : PeriodKeys) (dailyCap weeklyCap : Int) :
    LedgerObject × Option AdmissionReason :=
  if dailyCap ≤ 0 then (l, some .dailyCapReached)
  else if weeklyCap ≤ 0 then (l, some .weeklyCapReached)
  else
    let l := (l.ensure .day keys.day.key).ensure .week keys.week.key
    let (rows, taken) := l.rows.increment .day keys.day.key (some dailyCap)
    if !taken then ({ l with rows }, some .dailyCapReached)
    else
      let (rows, taken) := rows.increment .week keys.week.key (some weeklyCap)
      if !taken then
        ({ l with rows := rows.decrement .day keys.day.key }, some .weeklyCapReached)
      else ({ l with rows }, none)

def releaseOne (l : LedgerObject) (kind : PeriodKind) (key : Option String) : LedgerObject :=
  match key with
  | none => l
  | some key =>
    if key = "" then l
    else
      let l := l.ensure kind key
      match l.rows.row kind key with
      | none => l
      | some r => { l with rows := l.rows.set kind key { r with released := r.released + 1 } }

def release (l : LedgerObject) (day week : Option String) : LedgerObject :=
  (l.releaseOne .day day).releaseOne .week week

/-- The object finds the row of the period: one it remembers is still there. -/
def Finds (l : LedgerObject) (kind : PeriodKind) (key : String) : Prop :=
  l.ensured kind key = true → (l.rows.row kind key).isSome = true

instance (l : LedgerObject) (kind : PeriodKind) (key : String) : Decidable (l.Finds kind key) :=
  inferInstanceAs (Decidable (_ → _))

end LedgerObject

/-- What is asked of the ledgers of a session, by object, and the moves of its transaction. -/
inductive LedgerCall
  | reserve (i : Nat) (keys : PeriodKeys)
  | release (i : Nat) (day week : Option String)
  | move (m : Savepoints.Move)

/-- A session: the rows with their savepoints, and what each of its `CapLedger` objects
remembers, which no rollback touches. -/
structure LedgerSession where
  rows : Savepoints CapRows
  ensured : Nat → PeriodKind → String → Bool

namespace LedgerSession

def start : LedgerSession := ⟨.clean .empty, fun _ _ _ => false⟩

def object (s : LedgerSession) (i : Nat) : LedgerObject := ⟨s.rows.now, s.ensured i⟩

def put (s : LedgerSession) (i : Nat) (l : LedgerObject) : LedgerSession :=
  ⟨s.rows.write l.rows, fun j => if j = i then l.ensured else s.ensured j⟩

def usage (s : LedgerSession) (kind : PeriodKind) (key : String) : Int :=
  s.rows.now.usage kind key

def step (cap : PeriodKind → Int) (s : LedgerSession) :
    LedgerCall → LedgerSession × Option AdmissionReason
  | .reserve i keys =>
    let (l, reason) := (s.object i).reserve keys (cap .day) (cap .week)
    (s.put i l, reason)
  | .release i day week => (s.put i ((s.object i).release day week), none)
  | .move m => ({ s with rows := s.rows.move m }, none)

def run (cap : PeriodKind → Int) : LedgerSession → List LedgerCall → LedgerSession
  | s, [] => s
  | s, call :: rest => run cap (s.step cap call).1 rest

/-- The rows a call goes by are found: those of a release, the day row of a reservation under
positive caps, and its week row when the day has room. -/
def Finds (cap : PeriodKind → Int) (s : LedgerSession) : LedgerCall → Prop
  | .reserve i keys => 0 < cap .day → 0 < cap .week → (s.object i).Finds .day keys.day.key ∧
      (s.usage .day keys.day.key < cap .day → (s.object i).Finds .week keys.week.key)
  | .release i day week => ∀ key, key ≠ "" →
      (day = some key → (s.object i).Finds .day key) ∧
        (week = some key → (s.object i).Finds .week key)
  | .move _ => True

/-- Every call of the run finds its rows. -/
def Follows (cap : PeriodKind → Int) : LedgerSession → List LedgerCall → Prop
  | _, [] => True
  | s, call :: rest => s.Finds cap call ∧ Follows cap (s.step cap call).1 rest

end LedgerSession

inductive LedgerEntry
  | reserved (keys : PeriodKeys) (answer : Option AdmissionReason)
  | released (day week : Option String)

namespace LedgerEntry

def takes (kind : PeriodKind) (key : String) : LedgerEntry → Bool
  | .reserved keys none => keys.key kind = key
  | _ => false

/-- A release of the period; an empty name is skipped. -/
def gives (kind : PeriodKind) (key : String) : LedgerEntry → Bool
  | .released day week => key ≠ "" ∧ (match kind with | .day => day | .week => week) = some key
  | _ => false

/-- Successful reservations of a period less its releases. -/
def slotsOut (entries : List LedgerEntry) (kind : PeriodKind) (key : String) : Int :=
  entries.countP (takes kind key) - entries.countP (gives kind key)

end LedgerEntry

namespace LedgerSession

/-- The journal of a call. It goes through the same savepoints as the rows, so a rollback takes
out what was asked since. -/
def enter (journal : Savepoints (List LedgerEntry)) (answer : Option AdmissionReason) :
    LedgerCall → Savepoints (List LedgerEntry)
  | .reserve _ keys => journal.write (.reserved keys answer :: journal.now)
  | .release _ day week => journal.write (.released day week :: journal.now)
  | .move m => journal.move m

def journal (cap : PeriodKind → Int) :
    LedgerSession → Savepoints (List LedgerEntry) → List LedgerCall → Savepoints (List LedgerEntry)
  | _, kept, [] => kept
  | s, kept, call :: rest =>
    journal cap (s.step cap call).1 (enter kept (s.step cap call).2 call) rest

/-- The reservations and releases of a run that were not rolled back. -/
def kept (cap : PeriodKind → Int) (calls : List LedgerCall) : List LedgerEntry :=
  (start.journal cap (.clean []) calls).now

end LedgerSession

/-! ### The rows as a ledger -/

section Rows
variable {rows : CapRows} {kind kind' : PeriodKind} {key key' : String}

theorem CapRows.toLedger_set (rows : CapRows) (kind : PeriodKind) (key : String) (r : LedgerRow) :
    (rows.set kind key r).toLedger = rows.toLedger.set kind key r := by
  simp only [CapRows.toLedger, CapRows.set, CapLedger.set, CapLedger.mk.injEq]
  funext kind' key'
  split <;> rfl

theorem CapRows.usage_toLedger (rows : CapRows) (kind : PeriodKind) (key : String) :
    rows.usage kind key = rows.toLedger.usage kind key := by
  simp only [usage, toLedger, CapLedger.usage, CapLedger.balance]
  cases rows.row kind key <;> simp

theorem CapRows.usage_missing (missing : rows.row kind key = none) : rows.usage kind key = 0 := by
  simp only [usage, missing]

theorem CapRows.increment_spec (present : (rows.row kind key).isSome = true) (cap : Int) :
    (rows.increment kind key (some cap)).1.toLedger =
        (rows.toLedger.increment kind key cap).getD rows.toLedger ∧
      (rows.increment kind key (some cap)).2 = (rows.toLedger.increment kind key cap).isSome := by
  obtain ⟨r, row⟩ := Option.isSome_iff_exists.mp present
  simp only [increment, CapLedger.increment, toLedger, row, Option.getD_some, Option.all_some,
    decide_eq_true_eq]
  split
  · exact ⟨toLedger_set rows kind key _, rfl⟩
  · exact ⟨rfl, rfl⟩

theorem CapRows.increment_present (cap : Option Int) :
    ((rows.increment kind key cap).1.row kind' key').isSome = (rows.row kind' key').isSome := by
  unfold increment
  cases row : rows.row kind key with
  | none => rfl
  | some r =>
    dsimp only
    split
    · by_cases same : kind' = kind ∧ key' = key
      · simp [set, same, row]
      · simp only [set, if_neg same]
    · rfl

theorem CapRows.decrement_toLedger (present : (rows.row kind key).isSome = true) :
    (rows.decrement kind key).toLedger = rows.toLedger.decrement kind key := by
  obtain ⟨r, row⟩ := Option.isSome_iff_exists.mp present
  simp only [decrement, row, toLedger_set, CapLedger.decrement]
  simp only [toLedger, row, Option.getD_some]

theorem CapRows.increment_missing (missing : rows.row kind key = none) (cap : Option Int) :
    rows.increment kind key cap = (rows, false) := by
  simp only [increment, missing]

end Rows

namespace LedgerObject
variable {l : LedgerObject} {kind kind' : PeriodKind} {key key' : String}

theorem ensure_toLedger (l : LedgerObject) (kind : PeriodKind) (key : String) :
    (l.ensure kind key).rows.toLedger = l.rows.toLedger := by
  unfold ensure
  split
  · rfl
  by_cases missing : l.rows.row kind key = none
  · simp only [missing, Option.isNone_none, if_true, CapRows.toLedger_set]
    simp only [CapRows.toLedger, CapLedger.set, CapLedger.mk.injEq]
    funext kind' key'
    split
    · rename_i same
      rw [same.1, same.2, missing]
      rfl
    · rfl
  · simp only [Option.isNone_iff_eq_none, missing, if_false]

theorem ensure_other (other : kind' ≠ kind) :
    (l.ensure kind key).ensured kind' key' = l.ensured kind' key' ∧
      (l.ensure kind key).rows.row kind' key' = l.rows.row kind' key' := by
  unfold ensure
  split
  · exact ⟨rfl, rfl⟩
  · constructor
    · simp only [other, false_and, if_false]
    · dsimp only
      split
      · simp only [CapRows.set, other, false_and, if_false]
      · rfl

theorem ensure_present (finds : l.Finds kind key) :
    ((l.ensure kind key).rows.row kind key).isSome = true := by
  unfold ensure
  split
  · rename_i remembered
    exact finds remembered
  · dsimp only
    split
    · simp [CapRows.set]
    · rename_i present
      exact Option.isSome_iff_ne_none.mpr fun none => present (by rw [none]; rfl)

/-- A remembered row that is gone is not put back. -/
theorem ensure_lost (lost : ¬ l.Finds kind key) :
    l.ensure kind key = l ∧ l.rows.row kind key = none := by
  obtain ⟨remembered, missing⟩ := Classical.not_imp.mp lost
  exact ⟨by rw [ensure, if_pos remembered], by simpa using missing⟩

theorem finds_ensure_other (other : kind' ≠ kind) :
    (l.ensure kind key).Finds kind' key' ↔ l.Finds kind' key' := by
  simp only [Finds, (ensure_other other).1, (ensure_other other).2]

theorem ensure_both (l : LedgerObject) (keys : PeriodKeys) :
    let l' := (l.ensure .day keys.day.key).ensure .week keys.week.key
    l'.rows.toLedger = l.rows.toLedger ∧
      (l.Finds .day keys.day.key → (l'.rows.row .day keys.day.key).isSome = true) ∧
      (l.Finds .week keys.week.key → (l'.rows.row .week keys.week.key).isSome = true) := by
  refine ⟨?_, ?_, ?_⟩
  · rw [ensure_toLedger, ensure_toLedger]
  · intro finds
    rw [(ensure_other (by decide)).2]
    exact ensure_present finds
  · intro finds
    exact ensure_present ((finds_ensure_other (by decide)).mpr finds)

theorem reserve_spec {keys : PeriodKeys} {dailyCap weeklyCap : Int}
    (finds : 0 < dailyCap → 0 < weeklyCap → l.Finds .day keys.day.key ∧
      (l.rows.usage .day keys.day.key < dailyCap → l.Finds .week keys.week.key)) :
    (l.reserve keys dailyCap weeklyCap).1.rows.toLedger =
        (l.rows.toLedger.reserve keys dailyCap weeklyCap).1 ∧
      (l.reserve keys dailyCap weeklyCap).2 =
        (l.rows.toLedger.reserve keys dailyCap weeklyCap).2 := by
  unfold reserve CapLedger.reserve
  by_cases daily : dailyCap ≤ 0
  · simp only [if_pos daily, and_self]
  by_cases weekly : weeklyCap ≤ 0
  · simp only [if_neg daily, if_pos weekly, and_self]
  obtain ⟨day, week⟩ := finds (by omega) (by omega)
  obtain ⟨same, dayRow, weekRow⟩ := ensure_both l keys
  simp only [if_neg daily, if_neg weekly]
  generalize (l.ensure .day keys.day.key).ensure .week keys.week.key = l' at same dayRow weekRow ⊢
  obtain ⟨rows, taken⟩ := CapRows.increment_spec (dayRow day) dailyCap
  rw [same] at rows taken
  cases first : l.rows.toLedger.increment .day keys.day.key dailyCap with
  | none =>
    rw [first] at rows taken
    simp only [taken, rows, Option.isSome_none, Bool.not_false, if_true, Option.getD_none, and_self]
  | some ledger =>
    rw [first] at rows taken
    -- the day has room, so the week row is looked for
    have room : l.rows.usage .day keys.day.key < dailyCap := by
      rw [CapRows.usage_toLedger, CapLedger.usage]
      have below := (CapLedger.increment_eq_some first).1
      omega
    have present : ((l'.rows.increment .day keys.day.key (some dailyCap)).1.row .week
        keys.week.key).isSome = true := by
      rw [CapRows.increment_present]
      exact weekRow (week room)
    have still : ((l'.rows.increment .day keys.day.key (some dailyCap)).1.row .day
        keys.day.key).isSome = true := by
      rw [CapRows.increment_present]
      exact dayRow day
    obtain ⟨rows', taken'⟩ := CapRows.increment_spec present weeklyCap
    simp only [rows, Option.getD_some] at rows' taken'
    simp only [taken, Option.isSome_some, Bool.not_true, Bool.false_eq_true, if_false]
    generalize (l'.rows.increment .day keys.day.key (some dailyCap)).1 = rows₁ at *
    cases second : ledger.increment .week keys.week.key weeklyCap with
    | none =>
      rw [second] at rows' taken'
      simp only [taken', Option.isSome_none, Bool.not_false, if_true, and_true]
      rw [CapRows.decrement_toLedger, rows']
      · rfl
      · rw [CapRows.increment_present]
        exact still
    | some ledger' =>
      rw [second] at rows' taken'
      simp only [taken', rows', Option.isSome_some, Bool.not_true, Bool.false_eq_true, if_false,
        Option.getD_some, and_self]

theorem releaseOne_spec {key : Option String}
    (finds : ∀ k, k ≠ "" → key = some k → l.Finds kind k) :
    (l.releaseOne kind key).rows.toLedger = l.rows.toLedger.releaseOne kind key := by
  unfold releaseOne CapLedger.releaseOne
  cases key with
  | none => rfl
  | some k =>
    by_cases empty : k = ""
    · simp only [if_pos empty]
    · obtain ⟨r, row⟩ := Option.isSome_iff_exists.mp (ensure_present (finds k empty rfl))
      simp only [if_neg empty, row, CapRows.toLedger_set]
      rw [← ensure_toLedger l kind k]
      simp only [CapRows.toLedger, row, Option.getD_some]

theorem releaseOne_other {key : Option String} (other : kind' ≠ kind) :
    (l.releaseOne kind key).Finds kind' key' ↔ l.Finds kind' key' := by
  unfold releaseOne
  cases key with
  | none => rfl
  | some k =>
    by_cases empty : k = ""
    · simp only [if_pos empty]
    · simp only [if_neg empty]
      have same : (l.ensure kind k).Finds kind' key' ↔ l.Finds kind' key' :=
        finds_ensure_other other
      rw [← same]
      cases row : (l.ensure kind k).rows.row kind k with
      | none => rfl
      | some r => simp only [Finds, CapRows.set, other, false_and, if_false]

theorem release_spec {day week : Option String}
    (finds : ∀ key, key ≠ "" → (day = some key → l.Finds .day key) ∧
      (week = some key → l.Finds .week key)) :
    (l.release day week).rows.toLedger = l.rows.toLedger.release day week := by
  unfold release CapLedger.release
  rw [releaseOne_spec, releaseOne_spec]
  · exact fun key named => (finds key named).1
  · intro key named asked
    rw [releaseOne_other (by decide)]
    exact (finds key named).2 asked

/-- A reservation that does not find a row it goes by is refused for a cap that has room. -/
theorem reserve_lost {keys : PeriodKeys} {dailyCap weeklyCap : Int} (daily : 0 < dailyCap)
    (weekly : 0 < weeklyCap) (lost : ¬ (l.Finds .day keys.day.key ∧
      (l.rows.usage .day keys.day.key < dailyCap → l.Finds .week keys.week.key))) :
    ((l.reserve keys dailyCap weeklyCap).2 = some .dailyCapReached ∧
        l.rows.usage .day keys.day.key < dailyCap) ∨
      ((l.reserve keys dailyCap weeklyCap).2 = some .weeklyCapReached ∧
        l.rows.usage .week keys.week.key < weeklyCap) := by
  unfold reserve
  rw [if_neg (Int.not_le.mpr daily), if_neg (Int.not_le.mpr weekly)]
  by_cases day : l.Finds .day keys.day.key
  · right
    obtain ⟨room, gone⟩ := Classical.not_imp.mp fun week => lost ⟨day, week⟩
    have missing := (ensure_lost gone).2
    have still := (ensure_lost (mt (finds_ensure_other (by decide)).mp gone) :
      (l.ensure .day keys.day.key).ensure .week keys.week.key = _ ∧ _)
    obtain ⟨same, dayRow, -⟩ := ensure_both l keys
    obtain ⟨-, taken⟩ := CapRows.increment_spec (dayRow day) dailyCap
    have below : ¬ dailyCap ≤ l.rows.toLedger.balance .day keys.day.key := by
      rw [CapRows.usage_toLedger, CapLedger.usage] at room
      omega
    have some : (l.rows.toLedger.increment .day keys.day.key dailyCap).isSome = true := by
      apply Option.isSome_iff_ne_none.mpr
      exact fun full => below (CapLedger.increment_eq_none full)
    rw [same, some] at taken
    have none : ((((l.ensure .day keys.day.key).ensure .week keys.week.key).rows.increment .day
        keys.day.key (.some dailyCap)).1.row .week keys.week.key) = none := by
      rw [← Option.not_isSome_iff_eq_none, CapRows.increment_present, still.1, still.2]
      decide
    simp only [taken, CapRows.increment_missing none, Bool.not_true, Bool.false_eq_true, if_false,
      Bool.not_false, if_true, true_and]
    rw [CapRows.usage_missing missing]
    exact weekly
  · left
    obtain ⟨same, missing⟩ := ensure_lost day
    have none : ((l.ensure .day keys.day.key).ensure .week keys.week.key).rows.row .day
        keys.day.key = none := by
      rw [(ensure_other (by decide)).2, same]
      exact missing
    simp only [CapRows.increment_missing none, Bool.not_false, if_true, true_and]
    rw [CapRows.usage_missing missing]
    exact daily

end LedgerObject

namespace LedgerEntry

theorem slotsOut_reserved (keys : PeriodKeys) (answer : Option AdmissionReason)
    (entries : List LedgerEntry) (kind : PeriodKind) (key : String) :
    slotsOut (.reserved keys answer :: entries) kind key =
      slotsOut entries kind key + if answer = none ∧ keys.key kind = key then 1 else 0 := by
  unfold slotsOut
  rw [List.countP_cons, List.countP_cons]
  cases answer with
  | none =>
    by_cases same : keys.key kind = key
    · simp [takes, gives, same]
      omega
    · simp [takes, gives, same]
  | some reason => simp [takes, gives]

theorem slotsOut_released (day week : Option String) (entries : List LedgerEntry)
    (kind : PeriodKind) (key : String) :
    slotsOut (.released day week :: entries) kind key =
      slotsOut entries kind key - CapLedger.givenBack day week kind key := by
  unfold slotsOut CapLedger.givenBack
  rw [List.countP_cons, List.countP_cons]
  by_cases empty : key = ""
  · simp [takes, gives, empty]
  · cases kind
    · by_cases same : day = some key <;> simp [takes, gives, CapLedger.slots, empty, same]
      omega
    · by_cases same : week = some key <;> simp [takes, gives, CapLedger.slots, empty, same]
      omega

end LedgerEntry

namespace LedgerSession
variable {cap : PeriodKind → Int} {s : LedgerSession}

/-- The rows are what the entries make of an empty ledger, and no period is over its cap. -/
def Accounted (cap : PeriodKind → Int) (rows : CapRows) (entries : List LedgerEntry) : Prop :=
  ∀ kind key, rows.toLedger.balance kind key = LedgerEntry.slotsOut entries kind key ∧
    rows.toLedger.balance kind key ≤ max 0 (cap kind)

theorem accounted_empty (cap : PeriodKind → Int) : Accounted cap .empty [] := by
  intro kind key
  constructor
  · rfl
  · exact le_max_left _ _

theorem Accounted.reserve {rows : CapRows} {entries : List LedgerEntry} {l : LedgerObject}
    {keys : PeriodKeys} {answer : Option AdmissionReason}
    (accounted : Accounted cap rows entries)
    (ledger : l.rows.toLedger = (rows.toLedger.reserve keys (cap .day) (cap .week)).1)
    (answered : answer = (rows.toLedger.reserve keys (cap .day) (cap .week)).2) :
    Accounted cap l.rows (.reserved keys answer :: entries) := by
  intro kind key
  obtain ⟨counted, capped⟩ := accounted kind key
  rw [LedgerEntry.slotsOut_reserved, ledger]
  cases reserved : rows.toLedger.reserve keys (cap .day) (cap .week) with
  | mk l' answer' =>
    rw [reserved] at answered
    subst answered
    cases answer with
    | some reason =>
      rw [(CapLedger.reserve_refused reserved).2]
      simp only [reduceCtorEq, false_and, if_false]
      omega
    | none =>
      obtain ⟨dayRoom, weekRoom, slots⟩ := CapLedger.reserve_granted reserved
      rw [slots]
      cases kind <;> simp only [CapLedger.slots, PeriodKeys.key, Option.some.injEq, true_and]
      · split
        · rename_i same
          subst same
          omega
        · omega
      · split
        · rename_i same
          subst same
          omega
        · omega

theorem Accounted.release {rows : CapRows} {entries : List LedgerEntry} {l : LedgerObject}
    {day week : Option String} (accounted : Accounted cap rows entries)
    (ledger : l.rows.toLedger = rows.toLedger.release day week) :
    Accounted cap l.rows (.released day week :: entries) := by
  intro kind key
  obtain ⟨counted, capped⟩ := accounted kind key
  have fewer := (CapLedger.release_bounds rows.toLedger day week kind key).1
  rw [LedgerEntry.slotsOut_released, ledger, CapLedger.balance_release, counted]
  rw [CapLedger.balance_release] at fewer
  omega

theorem step_accounted {journal : Savepoints (List LedgerEntry)} {call : LedgerCall}
    (finds : s.Finds cap call) (related : Savepoints.Related (Accounted cap) s.rows journal) :
    Savepoints.Related (Accounted cap) (s.step cap call).1.rows
      (enter journal (s.step cap call).2 call) := by
  cases call with
  | reserve i keys =>
    obtain ⟨ledger, answered⟩ := LedgerObject.reserve_spec finds
    exact related.write (related.now.reserve ledger answered)
  | release i day week =>
    exact related.write (related.now.release (LedgerObject.release_spec finds))
  | move m => exact related.move m

theorem run_accounted {calls : List LedgerCall} {journal : Savepoints (List LedgerEntry)}
    (follows : s.Follows cap calls) (related : Savepoints.Related (Accounted cap) s.rows journal) :
    Savepoints.Related (Accounted cap) (s.run cap calls).rows (s.journal cap journal calls) := by
  induction calls generalizing s journal with
  | nil => exact related
  | cons call rest ih => exact ih follows.2 (step_accounted follows.1 related)

/-- What a reservation is due: the first cap that is not positive, else the first that the usage
of its period has reached. -/
def due (cap : PeriodKind → Int) (s : LedgerSession) (keys : PeriodKeys) : Option AdmissionReason :=
  if cap .day ≤ 0 then some .dailyCapReached
  else if cap .week ≤ 0 then some .weeklyCapReached
  else if cap .day ≤ s.usage .day keys.day.key then some .dailyCapReached
  else if cap .week ≤ s.usage .week keys.week.key then some .weeklyCapReached
  else none

theorem usage_eq (s : LedgerSession) (kind : PeriodKind) (key : String) :
    s.usage kind key = max 0 (s.rows.now.toLedger.balance kind key) :=
  CapRows.usage_toLedger _ _ _

theorem due_eq (cap : PeriodKind → Int) (s : LedgerSession) (keys : PeriodKeys) :
    s.due cap keys = (s.rows.now.toLedger.reserve keys (cap .day) (cap .week)).2 := by
  rw [CapLedger.reserve_answer]
  unfold due
  by_cases daily : cap .day ≤ 0
  · rw [if_pos daily, if_pos daily]
  by_cases weekly : cap .week ≤ 0
  · simp only [if_neg daily, if_pos weekly]
  have day : cap .day ≤ s.usage .day keys.day.key ↔
      cap .day ≤ s.rows.now.toLedger.balance .day keys.day.key := by
    rw [usage_eq]
    omega
  have week : cap .week ≤ s.usage .week keys.week.key ↔
      cap .week ≤ s.rows.now.toLedger.balance .week keys.week.key := by
    rw [usage_eq]
    omega
  simp only [if_neg daily, if_neg weekly, day, week]

/-- A reservation is answered what it is due when it finds its rows, and only then. -/
theorem reserve_due_iff (cap : PeriodKind → Int) (s : LedgerSession) (i : Nat) (keys : PeriodKeys) :
    (s.step cap (.reserve i keys)).2 = s.due cap keys ↔ s.Finds cap (.reserve i keys) := by
  constructor
  · intro answered daily weekly
    by_contra lost
    have wrong := LedgerObject.reserve_lost (l := s.object i) daily weekly lost
    change ((s.object i).reserve keys (cap .day) (cap .week)).2 = _ at answered
    rw [answered, due, if_neg (Int.not_le.mpr daily), if_neg (Int.not_le.mpr weekly)] at wrong
    rcases wrong with ⟨reason, room⟩ | ⟨reason, room⟩
    · change s.usage .day keys.day.key < cap .day at room
      rw [if_neg (Int.not_le.mpr room)] at reason
      split at reason <;> cases reason
    · change s.usage .week keys.week.key < cap .week at room
      split at reason
      · cases reason
      · rw [if_neg (Int.not_le.mpr room)] at reason
        cases reason
  · intro finds
    rw [due_eq]
    exact (LedgerObject.reserve_spec finds).2

end LedgerSession

def PeriodKeys.first : PeriodKeys := ⟨⟨"1", 0, 0⟩, ⟨"1", 0, 0⟩⟩

end RangeApply
