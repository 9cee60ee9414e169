import Mathlib.Algebra.Order.Ring.Rat
import Mathlib.Tactic.FieldSimp
import Mathlib.Tactic.Linarith
import RangeApply.Trace

/-! The token bucket that outbound requests wait at: what a call takes, how long it sleeps, and how
many calls are let through in any stretch of time. -/
namespace RangeApply.RateLimit

/-- Times are in seconds. -/
structure TokenBucket where
  ratePerSecond : ℚ
  capacity : ℚ
  tokens : ℚ
  updated : ℚ

namespace TokenBucket

def full (ratePerSecond capacity now : ℚ) : TokenBucket where
  ratePerSecond := ratePerSecond
  capacity := capacity
  tokens := capacity
  updated := now

/-- `TokenBucket(rate_per_minute, capacity)`. -/
def make (ratePerMinute : ℤ) (capacity : Option ℤ) (now : ℚ) : TokenBucket :=
  full ((max ratePerMinute 1 : ℤ) / 60) (capacity.getD (max ratePerMinute 1) : ℤ) now

def refill (b : TokenBucket) (now : ℚ) : TokenBucket :=
  { b with
    updated := now
    tokens := min b.capacity (b.tokens + (now - b.updated) * b.ratePerSecond) }

def take (b : TokenBucket) (tokens : ℚ) : TokenBucket := { b with tokens := b.tokens - tokens }

/-- How long a call sleeps that finds too few tokens. -/
def delay (b : TokenBucket) (tokens : ℚ) : ℚ := (tokens - b.tokens) / b.ratePerSecond

end TokenBucket

/-- The bucket, and the call that holds its lock: what it has waited, and until when it sleeps at
least. A call that is let through gives the lock to the next one. -/
structure Limiter where
  bucket : TokenBucket
  waited : ℚ
  wakes : Option ℚ
  /-- When each call was let through, and how long it had waited. -/
  granted : List (ℚ × ℚ)

namespace Limiter

def idle (b : TokenBucket) : Limiter := ⟨b, 0, none, []⟩

/-- One turn of the loop in `acquire`, for one token. -/
def turn (l : Limiter) (now : ℚ) : Limiter :=
  let b := l.bucket.refill now
  if 1 ≤ b.tokens then ⟨b.take 1, 0, none, (now, l.waited) :: l.granted⟩
  else ⟨b, l.waited + b.delay 1, some (now + b.delay 1), l.granted⟩

/-- The clock does not run back, and nobody wakes too early. -/
def Due (l : Limiter) (now : ℚ) : Prop := l.bucket.updated ≤ now ∧ ∀ w ∈ l.wakes, w ≤ now

instance (l : Limiter) (now : ℚ) : Decidable (l.Due now) := inferInstanceAs (Decidable (_ ∧ _))

/-- The calls that were let through from `t` on. -/
def since (l : Limiter) (t : ℚ) : ℕ := l.granted.countP fun g => decide (t ≤ g.1)

/-- The calls that were let through in the stretch of length `d` from `t` on. -/
def grants (l : Limiter) (t d : ℚ) : ℕ := l.granted.countP fun g => decide (t ≤ g.1 ∧ g.1 ≤ t + d)

variable {l : Limiter} {now later t d : ℚ}

theorem turn_cases (l : Limiter) (now : ℚ) :
    1 ≤ (l.bucket.refill now).tokens ∧
      l.turn now = ⟨(l.bucket.refill now).take 1, 0, none, (now, l.waited) :: l.granted⟩ ∨
    (l.bucket.refill now).tokens < 1 ∧
      l.turn now = ⟨l.bucket.refill now, l.waited + (l.bucket.refill now).delay 1,
        some (now + (l.bucket.refill now).delay 1), l.granted⟩ := by
  by_cases enough : 1 ≤ (l.bucket.refill now).tokens
  · exact .inl ⟨enough, if_pos enough⟩
  · exact .inr ⟨lt_of_not_ge enough, if_neg enough⟩

/-- The bucket holds no less than nothing and no more than it can, and what it can is a token. -/
structure Sound (rate capacity : ℚ) (l : Limiter) : Prop where
  speed : l.bucket.ratePerSecond = rate
  size : l.bucket.capacity = capacity
  nonneg : 0 ≤ l.bucket.tokens
  bounded : l.bucket.tokens ≤ capacity
  past : ∀ g ∈ l.granted, g.1 ≤ l.bucket.updated

variable {rate capacity : ℚ}

/-- What a refill adds: at most the rate times the time gone by. -/
theorem Sound.refill (sound : Sound rate capacity l) (positive : 0 < rate) (room : 1 ≤ capacity)
    (forward : l.bucket.updated ≤ now) :
    0 ≤ (l.bucket.refill now).tokens ∧ (l.bucket.refill now).tokens ≤ capacity ∧
      (l.bucket.refill now).tokens ≤ l.bucket.tokens + (now - l.bucket.updated) * rate := by
  have grown : 0 ≤ (now - l.bucket.updated) * rate :=
    mul_nonneg (sub_nonneg.mpr forward) positive.le
  have nonneg := sound.nonneg
  unfold TokenBucket.refill
  dsimp only
  rw [sound.speed, sound.size]
  refine ⟨le_min ?_ ?_, min_le_left _ _, min_le_right _ _⟩
  · linarith
  · linarith

theorem Sound.turn (sound : Sound rate capacity l) (positive : 0 < rate) (room : 1 ≤ capacity)
    (due : l.Due now) : Sound rate capacity (l.turn now) := by
  obtain ⟨nonneg, bounded, -⟩ := sound.refill positive room due.1
  have past : ∀ g ∈ l.granted, g.1 ≤ now := fun g member => (sound.past g member).trans due.1
  rcases turn_cases l now with ⟨enough, went⟩ | ⟨-, went⟩
  · rw [went]
    constructor
    · exact sound.speed
    · exact sound.size
    · exact sub_nonneg.mpr enough
    · exact (sub_le_self _ zero_le_one).trans bounded
    · intro g member
      rcases List.mem_cons.mp member with rfl | before
      · exact le_refl now
      · exact past g before
  · rw [went]
    exact ⟨sound.speed, sound.size, nonneg, bounded, past⟩

/-! ### The account of a stretch -/

/-- What was let through since `t` and what is left together were there at `t` or came since. -/
structure Accounted (rate capacity t d : ℚ) (l : Limiter) : Prop where
  sound : Sound rate capacity l
  before : l.bucket.updated < t → l.since t = 0
  after : t ≤ l.bucket.updated →
    (l.since t : ℚ) + l.bucket.tokens ≤ capacity + (l.bucket.updated - t) * rate
  window : (l.grants t d : ℚ) ≤ capacity + d * rate

theorem since_cons (g : ℚ × ℚ) (b : TokenBucket) (w : ℚ) (wakes : Option ℚ) :
    (⟨b, w, wakes, g :: l.granted⟩ : Limiter).since t =
      l.since t + if t ≤ g.1 then 1 else 0 := by
  simp only [since, List.countP_cons, decide_eq_true_eq]

theorem grants_cons (g : ℚ × ℚ) (b : TokenBucket) (w : ℚ) (wakes : Option ℚ) :
    (⟨b, w, wakes, g :: l.granted⟩ : Limiter).grants t d =
      l.grants t d + if t ≤ g.1 ∧ g.1 ≤ t + d then 1 else 0 := by
  simp only [grants, List.countP_cons, decide_eq_true_eq]

theorem grants_le_since (l : Limiter) (t d : ℚ) : l.grants t d ≤ l.since t :=
  List.countP_mono_left fun g _ within => by
    simp only [decide_eq_true_eq] at within ⊢
    exact within.1

/-- At a refill the account holds with what the bucket can hold, or with what it held. -/
theorem Accounted.refill (accounted : Accounted rate capacity t d l) (positive : 0 < rate)
    (room : 1 ≤ capacity) (due : l.Due now) (from_ : t ≤ now) :
    (l.since t : ℚ) + (l.bucket.refill now).tokens ≤ capacity + (now - t) * rate := by
  obtain ⟨-, bounded, grown⟩ := accounted.sound.refill positive room due.1
  by_cases started : t ≤ l.bucket.updated
  · have held := accounted.after started
    linarith
  · have none_ := accounted.before (lt_of_not_ge started)
    have gone : 0 ≤ (now - t) * rate := mul_nonneg (sub_nonneg.mpr from_) positive.le
    rw [none_, Nat.cast_zero]
    linarith

theorem Accounted.turn (accounted : Accounted rate capacity t d l) (positive : 0 < rate)
    (room : 1 ≤ capacity) (due : l.Due now) :
    Accounted rate capacity t d (l.turn now) := by
  have sound := accounted.sound.turn positive room due
  obtain ⟨nonneg, -, -⟩ := accounted.sound.refill positive room due.1
  rcases turn_cases l now with ⟨enough, went⟩ | ⟨-, went⟩
  · have balance (from_ : t ≤ now) :
        (l.since t : ℚ) + 1 + ((l.bucket.refill now).tokens - 1) ≤ capacity + (now - t) * rate := by
      have held := accounted.refill positive room due from_
      linarith
    rw [went] at sound ⊢
    constructor
    · exact sound
    · intro early
      have early : now < t := early
      rw [since_cons, if_neg (not_le_of_gt early), accounted.before (due.1.trans_lt early)]
    · intro from_
      have from_ : t ≤ now := from_
      rw [since_cons, if_pos from_, Nat.cast_add, Nat.cast_one]
      exact balance from_
    · rw [grants_cons]
      by_cases within : t ≤ now ∧ now ≤ t + d
      · -- every call let through from `t` on came by now, within the stretch
        have all := grants_le_since l t d
        have counted : (l.grants t d : ℚ) ≤ l.since t := by exact_mod_cast all
        have short : (now - t) * rate ≤ d * rate :=
          mul_le_mul_of_nonneg_right (by linarith [within.2]) positive.le
        have held := balance within.1
        rw [if_pos within, Nat.cast_add, Nat.cast_one]
        linarith
      · rw [if_neg within, Nat.add_zero]
        exact accounted.window
  · rw [went] at sound ⊢
    constructor
    · exact sound
    · exact fun early => accounted.before (due.1.trans_lt early)
    · exact fun from_ => accounted.refill positive room due from_
    · exact accounted.window

theorem accounted_idle (positive : 0 < rate) (room : 1 ≤ capacity) (length : 0 ≤ d)
    (start t : ℚ) : Accounted rate capacity t d (idle (.full rate capacity start)) := by
  have held : (0 : ℚ) ≤ capacity := zero_le_one.trans room
  have gained : 0 ≤ d * rate := mul_nonneg length positive.le
  constructor
  · exact ⟨rfl, rfl, held, le_refl capacity, nofun⟩
  · exact fun _ => rfl
  · intro from_
    have from_ : t ≤ start := from_
    have gone : 0 ≤ (start - t) * rate := mul_nonneg (sub_nonneg.mpr from_) positive.le
    change ((0 : ℕ) : ℚ) + capacity ≤ capacity + (start - t) * rate
    rw [Nat.cast_zero]
    linarith
  · change ((0 : ℕ) : ℚ) ≤ capacity + d * rate
    rw [Nat.cast_zero]
    linarith

/-- A call sleeps once at most: when it wakes there is a token. -/
theorem sleeps_once (sound : Sound rate capacity l) (positive : 0 < rate) (room : 1 ≤ capacity)
    (asleep : (l.bucket.refill now).tokens < 1) (due : (l.turn now).Due later) :
    ((l.turn now).turn later).granted =
      (later, l.waited + (l.bucket.refill now).delay 1) :: l.granted := by
  have went : l.turn now = ⟨l.bucket.refill now, l.waited + (l.bucket.refill now).delay 1,
      some (now + (l.bucket.refill now).delay 1), l.granted⟩ := if_neg (not_le_of_gt asleep)
  have slept : now + (1 - (l.bucket.refill now).tokens) / rate ≤ later := by
    rw [went] at due
    have woken := due.2 _ rfl
    rwa [TokenBucket.delay, show (l.bucket.refill now).ratePerSecond = rate from sound.speed] at woken
  have refilled : 1 - (l.bucket.refill now).tokens ≤ (later - now) * rate := by
    rw [← div_le_iff₀ positive]
    linarith
  have enough : 1 ≤ ((l.bucket.refill now).refill later).tokens := by
    have held : (l.bucket.refill now).capacity = capacity := sound.size
    have speed : (l.bucket.refill now).ratePerSecond = rate := sound.speed
    rw [TokenBucket.refill, held, speed]
    refine le_min room ?_
    change 1 ≤ (l.bucket.refill now).tokens + (later - now) * rate
    linarith
  rw [went]
  exact congrArg Limiter.granted (if_pos enough)

/-- In every run of one-token calls the bucket holds between nothing and its capacity, and no
stretch of time lets through more calls than the capacity and what is refilled in it. -/
theorem bucket_bound (positive : 0 < rate) (room : 1 ≤ capacity) {start : ℚ} {readings : List ℚ}
    (due : Trace.Guarded turn Due (idle (.full rate capacity start)) readings) :
    (0 ≤ (Trace.run turn (idle (.full rate capacity start)) readings).bucket.tokens ∧
      (Trace.run turn (idle (.full rate capacity start)) readings).bucket.tokens ≤ capacity) ∧
    ∀ t d, 0 ≤ d → ((Trace.run turn (idle (.full rate capacity start)) readings).grants t d : ℚ) ≤
      capacity + rate * d := by
  have kept (t d : ℚ) (length : 0 ≤ d) :
      Accounted rate capacity t d (Trace.run turn (idle (.full rate capacity start)) readings) :=
    Trace.run_invariant (Accounted rate capacity t d)
      (fun _ _ accounted due => accounted.turn positive room due)
      (accounted_idle positive room length start t) due
  refine ⟨⟨(kept 0 0 le_rfl).sound.nonneg, (kept 0 0 le_rfl).sound.bounded⟩, fun t d length => ?_⟩
  rw [mul_comm]
  exact (kept t d length).window

/-- Three calls at a bucket of two: the third is let through when a token has come back. -/
theorem bucket_bound_two :
    let l := Trace.run turn (idle (TokenBucket.make 60 (some 2) 0)) [0, 0, 0, 1]
    (0 ≤ l.bucket.tokens ∧ l.bucket.tokens ≤ 2) ∧ ∀ t d, 0 ≤ d → (l.grants t d : ℚ) ≤ 2 + 1 * d := by
  have made : TokenBucket.make 60 (some 2) 0 = .full 1 2 0 := by
    unfold TokenBucket.make
    norm_num
  dsimp only
  rw [made]
  exact bucket_bound one_pos one_le_two (by decide +kernel)

end Limiter

end RangeApply.RateLimit
