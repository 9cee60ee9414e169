import Mathlib.Data.Int.LeastGreatest
import RangeApply.Calendar
import RangeApply.Rows

/-! Days and weeks of a time zone. The bounds of a period are wall times, converted to UTC; whether
they are the moments at which the local date changes depends on how the zone's clocks are set around
midnight. Instants count from the beginning of year 1, with no end to the years. -/
namespace RangeApply.Periods

open Calendar

/-! ### Zones -/

/-- The microseconds of a day and of an hour. -/
def dayLength : Int := 86400000000

def hourLength : Int := 3600000000

/-- A time zone: the offset of an instant, and the instant of a wall time with its fold. A wall time
that is read twice or more stands for its first reading, and with fold 1 for its last; one that is
skipped has the offset from before the jump, and with fold 1 the one from after it. -/
structure Zone where
  offset : Int → Int
  withinDay : ∀ t, -dayLength < offset t ∧ offset t < dayLength
  utc : Bool → Int → Int
  first : ∀ w t, t + offset t = w → utc false w + offset (utc false w) = w ∧ utc false w ≤ t
  last : ∀ w t, t + offset t = w → utc true w + offset (utc true w) = w ∧ t ≤ utc true w
  skipped : ∀ w, (∀ t, t + offset t ≠ w) → ∃ t, t - 1 + offset (t - 1) < w ∧ w < t + offset t ∧
    utc false w = w - offset (t - 1) ∧ utc true w = w - offset t

/-- Any offsets of less than a day are those of a zone. -/
theorem exists_zone {offset : Int → Int}
    (withinDay : ∀ t, -dayLength < offset t ∧ offset t < dayLength) : ∃ z : Zone, z.offset = offset := by
  have times (w : Int) : ∃ p : Int × Int,
      (∀ t, t + offset t = w → p.1 + offset p.1 = w ∧ p.1 ≤ t) ∧
      (∀ t, t + offset t = w → p.2 + offset p.2 = w ∧ t ≤ p.2) ∧
      ((∀ t, t + offset t ≠ w) → ∃ t, t - 1 + offset (t - 1) < w ∧ w < t + offset t ∧
        p.1 = w - offset (t - 1) ∧ p.2 = w - offset t) := by
    by_cases read : ∃ t, t + offset t = w
    · obtain ⟨first, reads, least⟩ := Int.exists_least_of_bdd
        ⟨w - dayLength, fun t reads => by have := withinDay t; omega⟩ read
      obtain ⟨last, reads', greatest⟩ := Int.exists_greatest_of_bdd
        ⟨w + dayLength, fun t reads => by have := withinDay t; omega⟩ read
      exact ⟨(first, last), fun t here => ⟨reads, least t here⟩,
        fun t here => ⟨reads', greatest t here⟩, fun unread => absurd reads (unread first)⟩
    · obtain ⟨t, after, least⟩ := Int.exists_least_of_bdd (P := fun t => w < t + offset t)
        ⟨w - dayLength, fun t reads => by have := withinDay t; omega⟩
        ⟨w + dayLength, by have := withinDay (w + dayLength); omega⟩
      have unread := not_exists.mp read
      have before : t - 1 + offset (t - 1) < w := by
        by_contra late
        have skips := unread (t - 1)
        have again := least (t - 1) (by omega)
        omega
      exact ⟨(w - offset (t - 1), w - offset t), fun s reads => absurd reads (unread s),
        fun s reads => absurd reads (unread s), fun _ => ⟨t, before, after, rfl, rfl⟩⟩
  choose p first last skipped using times
  exact ⟨⟨offset, withinDay, fun fold w => if fold then (p w).2 else (p w).1, first, last, skipped⟩,
    rfl⟩

/-- A datetime of a zone. -/
structure Local where
  wall : Int
  fold : Bool

namespace Local

/-- `replace(hour=0, minute=0, second=0, microsecond=0)`: the fold stays. -/
def midnight (l : Local) : Local := { l with wall := l.wall - l.wall % dayLength }

/-- `replace(hour=0)`. -/
def hour0 (l : Local) : Local :=
  { l with wall := l.wall - l.wall % dayLength / hourLength * hourLength }

/-- `+ timedelta(days=…, hours=…)`: the fold of the sum is 0. -/
def plus (l : Local) (days hours : Int) : Local :=
  ⟨l.wall + days * dayLength + hours * hourLength, false⟩

end Local

namespace Zone
variable (z : Zone)

def wall (t : Int) : Int := t + z.offset t

/-- The number of the local day, from 0. -/
def date (t : Int) : Int := z.wall t / dayLength

/-- An instant has fold 1 when its wall time was read before. -/
def fold (t : Int) : Bool := decide (z.utc false (z.wall t) ≠ t)

def astimezone (t : Int) : Local := ⟨z.wall t, z.fold t⟩

def toUtc (l : Local) : Int := z.utc l.fold l.wall

def periodKeys (now : Int) : PeriodKeys :=
  let local_ := z.astimezone now
  let dayStart := local_.midnight
  let dayEnd := (dayStart.plus 1 2).hour0
  let ordinal := local_.wall / dayLength + 1
  let iso := isocalendar ordinal
  let weekStart := (dayStart.plus (-(iso.weekday - 1)) 0).hour0
  let weekEnd := (weekStart.plus 7 2).hour0
  { day := ⟨(Date.ofOrdinal ordinal).isoformat, z.toUtc dayStart, z.toUtc dayEnd⟩
    week := ⟨iso.text, z.toUtc weekStart, z.toUtc weekEnd⟩ }

/-! ### The bounds -/

/-- The Monday of the week, by its number. -/
def monday (t : Int) : Int := z.date t - ((isocalendar (z.date t + 1)).weekday - 1)

variable {z}

theorem hour0_wall {l : Local} {d : Int}
    (early : d * dayLength ≤ l.wall ∧ l.wall < d * dayLength + 3 * hourLength)
    (whole : l.wall % hourLength = 0) : l.hour0.wall = d * dayLength := by
  unfold Local.hour0
  unfold dayLength hourLength at *
  dsimp only
  omega

theorem midnight_wall (t : Int) : (z.astimezone t).midnight.wall = z.date t * dayLength := by
  unfold astimezone Local.midnight date dayLength
  dsimp only
  omega

/-- Midnight and up to two hours, some days on, is midnight again at hour 0. -/
theorem plus_hour0 {l : Local} {d n k : Int} (here : l.wall = d * dayLength)
    (late : 0 ≤ k ∧ k ≤ 2) : (l.plus n k).hour0.wall = (d + n) * dayLength := by
  have wall : (l.plus n k).wall = d * dayLength + n * dayLength + k * hourLength := by
    rw [← here]
    rfl
  apply hour0_wall <;> rw [wall] <;> unfold dayLength hourLength <;> omega

theorem dayStart (t : Int) :
    (z.periodKeys t).day.startsAt = z.utc (z.fold t) (z.date t * dayLength) := by
  rw [← midnight_wall]
  rfl

theorem dayEnd (t : Int) :
    (z.periodKeys t).day.endsAt = z.utc false ((z.date t + 1) * dayLength) := by
  rw [← plus_hour0 (midnight_wall t) (k := 2) (by decide)]
  rfl

theorem monday_wall (t : Int) : (((z.astimezone t).midnight.plus
    (-((isocalendar (z.date t + 1)).weekday - 1)) 0).hour0).wall = z.monday t * dayLength := by
  rw [plus_hour0 (midnight_wall t) (by decide)]
  rfl

theorem weekStart (t : Int) :
    (z.periodKeys t).week.startsAt = z.utc false (z.monday t * dayLength) := by
  rw [← monday_wall]
  rfl

theorem weekEnd (t : Int) :
    (z.periodKeys t).week.endsAt = z.utc false ((z.monday t + 7) * dayLength) := by
  rw [← plus_hour0 (monday_wall t) (k := 2) (by decide)]
  rfl

/-! ### Local dates -/

theorem read_first (t : Int) :
    z.wall (z.utc false (z.wall t)) = z.wall t ∧ z.utc false (z.wall t) ≤ t :=
  z.first (z.wall t) t rfl

theorem read_last (t : Int) :
    z.wall (z.utc true (z.wall t)) = z.wall t ∧ t ≤ z.utc true (z.wall t) :=
  z.last (z.wall t) t rfl

theorem date_lt_iff {t d : Int} : z.date t < d ↔ z.wall t < d * dayLength := by
  unfold date dayLength
  omega

variable (z)

/-- The first instant of a local day, or of the next one when the day is skipped. -/
def Begins (d t : Int) : Prop := (∀ s < t, z.date s < d) ∧ d ≤ z.date t

variable {z}

theorem exists_begins (d : Int) : ∃ t, z.Begins d t := by
  have late : ∃ b, ∀ t, d ≤ z.date t → b ≤ t := by
    refine ⟨d * dayLength - dayLength, fun t reached => ?_⟩
    have reads := mt date_lt_iff.mpr (Int.not_lt.mpr reached)
    have offset := z.withinDay t
    rw [wall] at reads
    omega
  have reached : ∃ t, d ≤ z.date t := by
    refine ⟨d * dayLength + dayLength, Int.not_lt.mp (mt date_lt_iff.mp ?_)⟩
    have offset := z.withinDay (d * dayLength + dayLength)
    rw [wall]
    omega
  obtain ⟨t, holds, least⟩ := Int.exists_least_of_bdd late reached
  exact ⟨t, fun s before => Int.not_le.mp fun holds' => absurd (least s holds') (Int.not_le.mpr before),
    holds⟩

theorem Begins.fold {d t : Int} (begins : z.Begins d t) : z.fold t = false := by
  obtain ⟨reads, early⟩ := read_first (z := z) t
  refine decide_eq_false (not_not.mpr ?_)
  by_contra other
  have before := begins.1 _ (lt_of_le_of_ne early other)
  have reached := begins.2
  rw [date_lt_iff, reads, ← date_lt_iff] at before
  omega

/-! ### What is asked of the periods -/

variable (z)

/-- Every instant is in its day and its week, instants with one key have one interval, and a day ends
where the next one begins. -/
structure Partitions : Prop where
  day : ∀ t, (z.periodKeys t).day.startsAt ≤ t ∧ t < (z.periodKeys t).day.endsAt
  week : ∀ t, (z.periodKeys t).week.startsAt ≤ t ∧ t < (z.periodKeys t).week.endsAt
  sameDay : ∀ t t', (z.periodKeys t).day.key = (z.periodKeys t').day.key →
    (z.periodKeys t).day = (z.periodKeys t').day
  sameWeek : ∀ t t', (z.periodKeys t).week.key = (z.periodKeys t').week.key →
    (z.periodKeys t).week = (z.periodKeys t').week
  meets : ∀ t t', z.date t < z.date t' → (∀ s, ¬(z.date t < z.date s ∧ z.date s < z.date t')) →
    (z.periodKeys t).day.endsAt = (z.periodKeys t').day.startsAt

/-- Local dates never go back; a day begins by reading midnight, or when midnight is skipped, right
where it would have been read; and no second reading of a wall time is on a day whose midnight is
skipped or read more than once. -/
structure Sharp : Prop where
  forward : ∀ t t', t ≤ t' → z.date t ≤ z.date t'
  midnight : ∀ d t, z.Begins d t → z.wall t = d * dayLength ∨
    (z.wall (t - 1) = d * dayLength - 1 ∧ ∀ s, z.wall s ≠ d * dayLength)
  once : ∀ t, z.fold t = true → ∃! s, z.wall s = z.date t * dayLength

variable {z}

/-- The fold does not matter to a wall time that is read once. -/
theorem utc_fold_iff {w : Int} : z.utc true w = z.utc false w ↔ ∃! s, z.wall s = w := by
  by_cases read : ∃ t, z.wall t = w
  · obtain ⟨t, rfl⟩ := read
    constructor
    · intro same
      refine ⟨t, rfl, fun s reads => ?_⟩
      have first := z.first _ _ reads
      have last := z.last _ _ reads
      have first' := read_first (z := z) t
      have last' := read_last (z := z) t
      omega
    · rintro ⟨s, -, only⟩
      rw [only _ (read_last t).1, only _ (read_first t).1]
  · have unread := not_exists.mp read
    obtain ⟨t, before, after, first, last⟩ := z.skipped w unread
    refine iff_of_false ?_ fun ⟨s, reads, _⟩ => unread s reads
    omega

/-- Midnight is converted to the beginning of the day under the condition on the day. -/
theorem utc_begins_iff (forward : ∀ t t', t ≤ t' → z.date t ≤ z.date t') {d t : Int}
    (begins : z.Begins d t) : z.utc false (d * dayLength) = t ↔ z.wall t = d * dayLength ∨
      (z.wall (t - 1) = d * dayLength - 1 ∧ ∀ s, z.wall s ≠ d * dayLength) := by
  have later {s : Int} (reached : d * dayLength ≤ z.wall s) : t ≤ s := by
    by_contra before
    exact absurd (date_lt_iff.mp (begins.1 s (Int.not_le.mp before))) (Int.not_lt.mpr reached)
  by_cases read : ∃ s, z.wall s = d * dayLength
  · obtain ⟨s, reads⟩ := read
    have first := (z.first _ s reads).1
    rw [or_iff_left fun skipped => skipped.2 s reads]
    constructor
    · rintro rfl
      exact first
    · intro reads'
      have early := (z.first _ t reads').2
      have late := later (Int.le_of_eq first.symm)
      omega
  · have unread := not_exists.mp read
    obtain ⟨s, before, after, first, -⟩ := z.skipped _ unread
    have early : s ≤ t := by
      by_contra late
      have dates := forward t (s - 1) (by omega)
      have day := date_lt_iff.mpr before
      have reached := begins.2
      omega
    have same : s = t := Int.le_antisymm early (later (Int.le_of_lt after))
    subst same
    rw [or_iff_right (unread s), and_iff_left unread, first, wall]
    omega

/-! ### Under the condition -/

section Sharp
variable (sharp : z.Sharp)
include sharp

theorem Sharp.begins (d : Int) : z.Begins d (z.utc false (d * dayLength)) := by
  obtain ⟨t, begins⟩ := exists_begins (z := z) d
  rw [(utc_begins_iff sharp.forward begins).mpr (sharp.midnight d t begins)]
  exact begins

theorem Sharp.start (t : Int) :
    (z.periodKeys t).day.startsAt = z.utc false (z.date t * dayLength) := by
  rw [dayStart]
  cases fold : z.fold t with
  | false => rfl
  | true => exact utc_fold_iff.mpr (sharp.once t fold)

theorem Sharp.from_ {d t : Int} (reached : d ≤ z.date t) : z.utc false (d * dayLength) ≤ t := by
  by_contra before
  exact absurd ((sharp.begins d).1 t (Int.not_le.mp before)) (Int.not_lt.mpr reached)

theorem Sharp.until_ {d t : Int} (below : z.date t < d) : t < z.utc false (d * dayLength) := by
  by_contra after
  have dates := sharp.forward _ _ (Int.not_lt.mp after)
  have reached := (sharp.begins d).2
  omega

end Sharp

theorem day_key_iff (t t' : Int) :
    (z.periodKeys t).day.key = (z.periodKeys t').day.key ↔ z.date t = z.date t' := by
  constructor
  · intro same
    have ordinals := ofOrdinal_injective (isoformat_injective same)
    unfold date wall
    unfold astimezone wall at ordinals
    dsimp only at ordinals
    omega
  · intro same
    unfold periodKeys astimezone
    dsimp only
    unfold date at same
    rw [same]

theorem week_key {t t' : Int} (same : (z.periodKeys t).week.key = (z.periodKeys t').week.key) :
    z.monday t = z.monday t' := by
  have here := isocalendar_spec (z.date t + 1)
  have there := isocalendar_spec (z.date t' + 1)
  obtain ⟨year, week⟩ := weekText_injective here.2.1 there.2.1 same
  unfold monday
  rw [year, week] at here
  omega

theorem period_eq {p q : Period} (key : p.key = q.key) (starts : p.startsAt = q.startsAt)
    (ends : p.endsAt = q.endsAt) : p = q := by
  cases p
  cases q
  cases key
  cases starts
  cases ends
  rfl

theorem Sharp.partitions (sharp : z.Sharp) : z.Partitions where
  day t := by
    rw [sharp.start, dayEnd]
    exact ⟨sharp.from_ (Int.le_refl _), sharp.until_ (Int.lt_succ _)⟩
  week t := by
    have weekday := (isocalendar_spec (z.date t + 1)).2
    rw [weekStart, weekEnd]
    exact ⟨sharp.from_ (by unfold monday; omega), sharp.until_ (by unfold monday; omega)⟩
  sameDay t t' same := by
    have dates := (day_key_iff t t').mp same
    have starts : (z.periodKeys t).day.startsAt = (z.periodKeys t').day.startsAt := by
      rw [sharp.start, sharp.start, dates]
    have ends : (z.periodKeys t).day.endsAt = (z.periodKeys t').day.endsAt := by
      rw [dayEnd, dayEnd, dates]
    exact period_eq same starts ends
  sameWeek t t' same := by
    have starts : (z.periodKeys t).week.startsAt = (z.periodKeys t').week.startsAt := by
      rw [weekStart, weekStart, week_key same]
    have ends : (z.periodKeys t).week.endsAt = (z.periodKeys t').week.endsAt := by
      rw [weekEnd, weekEnd, week_key same]
    exact period_eq same starts ends
  meets t t' before adjacent := by
    rw [dayEnd, sharp.start]
    apply Int.le_antisymm
    · have reached := (sharp.begins (z.date t')).2
      exact sharp.from_ (by omega)
    · have reached := (sharp.begins (z.date t + 1)).2
      refine sharp.from_ (Int.not_lt.mp fun between => adjacent _ ⟨?_, between⟩)
      omega

/-! ### The condition from the periods -/

/-- No two whole days in a row are skipped. -/
theorem date_step (t : Int) : z.date t ≤ z.date (t - 1) + 2 := by
  have reads := (date_lt_iff (z := z) (t := t - 1)).mp (Int.lt_succ _)
  have offset := z.withinDay t
  have offset' := z.withinDay (t - 1)
  refine Int.le_of_lt_add_one (date_lt_iff.mpr ?_)
  unfold wall dayLength at *
  omega

section Partitions
variable (parts : z.Partitions)
include parts

/-- The days of the local dates follow each other without overlap. -/
theorem Partitions.ends_le (n : Nat) : ∀ t t', z.date t < z.date t' → z.date t' - z.date t ≤ n →
    (z.periodKeys t).day.endsAt ≤ (z.periodKeys t').day.startsAt := by
  induction n with
  | zero =>
    intro t t' before near
    omega
  | succ n ih =>
    intro t t' before near
    by_cases adjacent : ∀ s, ¬(z.date t < z.date s ∧ z.date s < z.date t')
    · exact Int.le_of_eq (parts.meets t t' before adjacent)
    · obtain ⟨s, between⟩ := not_forall.mp adjacent
      obtain ⟨after, until_⟩ := not_not.mp between
      have left := ih t s after (by omega)
      have right := ih s t' until_ (by omega)
      obtain ⟨started, ends⟩ := parts.day s
      exact (left.trans started).trans (ends.le.trans right)

theorem Partitions.forward (t t' : Int) (order : t ≤ t') : z.date t ≤ z.date t' := by
  by_contra back
  have apart := parts.ends_le (z.date t - z.date t').toNat t' t (Int.not_le.mp back) (by omega)
  have overlap := (apart.trans (parts.day t).1).trans order
  exact absurd (parts.day t').2 (not_lt_of_ge overlap)

theorem Partitions.utc_begins {d t : Int} (begins : z.Begins d t) :
    z.utc false (d * dayLength) = t := by
  have before := begins.1 (t - 1) (by omega)
  have reached := begins.2
  have adjacent : ∀ s, ¬(z.date (t - 1) < z.date s ∧ z.date s < z.date t) := by
    rintro s ⟨after, until_⟩
    rcases lt_or_ge s t with early | late
    · have dates := parts.forward s (t - 1) (by omega)
      omega
    · have dates := parts.forward t s late
      omega
  have meets := parts.meets (t - 1) t (by omega) adjacent
  have ends := (parts.day (t - 1)).2
  have starts := (parts.day t).1
  rw [dayStart, begins.fold] at meets starts
  have left : t - 1 < z.utc false (z.date t * dayLength) := meets ▸ ends
  have right : z.utc false (z.date t * dayLength) ≤ t := starts
  have same : z.utc false (d * dayLength) = z.utc false (z.date t * dayLength) := by
    rcases Int.lt_or_eq_of_le reached with skipped | here
    · -- the day before the one that is skipped is there
      have step := date_step (z := z) t
      have previous : z.date (t - 1) + 1 = d := by omega
      rw [← meets, dayEnd, previous]
    · rw [here]
  rw [same]
  omega

theorem Partitions.sharp : z.Sharp where
  forward := parts.forward
  midnight _ _ begins := (utc_begins_iff parts.forward begins).mp (parts.utc_begins begins)
  once t fold := by
    obtain ⟨s, begins⟩ := exists_begins (z := z) (z.date t)
    have order : s ≤ t := Int.not_lt.mp fun before =>
      absurd (begins.1 t before) (Int.lt_irrefl _)
    have same : z.date t = z.date s := Int.le_antisymm begins.2 (parts.forward s t order)
    have starts := congrArg Period.startsAt (parts.sameDay t s ((day_key_iff t s).mpr same))
    rw [dayStart, dayStart, fold, begins.fold, ← same] at starts
    exact utc_fold_iff.mp starts

end Partitions

/-- The periods of a zone partition time exactly when its clocks are set that way. -/
theorem partitions_iff (z : Zone) : z.Partitions ↔ z.Sharp :=
  ⟨Partitions.sharp, Sharp.partitions⟩

/-- November 2nd, 2025, 05:00 UTC: clocks in Havana go from 01:00 back to midnight. -/
def change : Int := 739556 * dayLength + 5 * hourLength

def havana : Zone where
  offset t := if t < change then -4 * hourLength else -5 * hourLength
  withinDay t := by
    unfold hourLength dayLength
    split <;> decide
  utc fold w :=
    if w < change - (if fold then 5 else 4) * hourLength then w + 4 * hourLength
    else w + 5 * hourLength
  first w t reads := by
    unfold hourLength at *
    simp only [Bool.false_eq_true, if_false]
    split at reads <;> split <;> split <;> omega
  last w t reads := by
    unfold hourLength at *
    simp only [if_true]
    split at reads <;> split <;> split <;> omega
  skipped w unread := by
    have summer := unread (w + 4 * hourLength)
    have winter := unread (w + 5 * hourLength)
    unfold hourLength at *
    split at summer <;> split at winter <;> omega

/-- Half an hour before the change and half an hour after it are on one day, which is said to begin
at its first midnight and at its second one. -/
theorem havana_restarts :
    (havana.periodKeys (change - 1800000000)).day.key =
        (havana.periodKeys (change + 1800000000)).day.key ∧
      (havana.periodKeys (change - 1800000000)).day.startsAt = change - hourLength ∧
      (havana.periodKeys (change + 1800000000)).day.startsAt = change ∧ ¬havana.Partitions := by
  have keys : (havana.periodKeys (change - 1800000000)).day.key =
      (havana.periodKeys (change + 1800000000)).day.key := by decide +kernel
  have first : (havana.periodKeys (change - 1800000000)).day.startsAt = change - hourLength := by
    decide +kernel
  have second : (havana.periodKeys (change + 1800000000)).day.startsAt = change := by
    decide +kernel
  refine ⟨keys, first, second, fun parts => ?_⟩
  have same := congrArg Period.startsAt (parts.sameDay _ _ keys)
  rw [first, second] at same
  revert same
  decide

end Zone

end RangeApply.Periods
