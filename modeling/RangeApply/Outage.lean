import RangeApply.Fetching
import RangeApply.Streak
import RangeApply.Trace

/-! The circuits over time: when one is open, and how much an ailing source is asked while several
calls are under way at once. -/
namespace RangeApply.Fetching

/-! ### A circuit and its history -/

/-- What a circuit was told, and when. -/
structure Told (κ : Type) where
  key : κ
  verdict : Verdict
  now : ℚ
  deriving DecidableEq

section Registry
variable {κ : Type} [DecidableEq κ] (b : Breaker)

def Registry.tell (r : Registry κ) (t : Told κ) : Registry κ :=
  match t.verdict with
  | .success => r.recordSuccess t.key
  | .failure => r.recordFailure t.key b t.now
  | .nothing => r

/-- What a call says about the source of a key. -/
def Told.mark (key : κ) (t : Told κ) : Streak.Mark :=
  if t.key = key then
    match t.verdict with
    | .success => .clears
    | .failure => .counts
    | .nothing => .passes
  else .passes

/-- The failures of a source since its last success. -/
def failures (key : κ) (history : List (Told κ)) : List (Told κ) :=
  Streak.since (Told.mark key) history

/-- The circuit that a streak of failures makes. -/
def Breaker.after (streak : List (Told κ)) : Option Circuit :=
  streak.getLast?.map fun last =>
    ⟨streak.length, if b.threshold ≤ streak.length then last.now + b.openSeconds else 0⟩

variable {b} {key : κ} {history : List (Told κ)} {t : Told κ} {r : Registry κ}

theorem tell_key : (r.tell b t) key =
    match t.mark key with
    | .counts => some (b.fail t.now ((r key).getD .closed))
    | .clears => none
    | .passes => r key := by
  unfold Registry.tell Told.mark Registry.recordSuccess Registry.recordFailure
  by_cases own : t.key = key
  · subst own
    rw [if_pos rfl]
    cases t.verdict <;> simp
  · rw [if_neg own]
    have other : key ≠ t.key := Ne.symm own
    cases t.verdict <;> simp [Function.update_of_ne other]

omit [DecidableEq κ] in
theorem after_concat (streak : List (Told κ)) (t : Told κ) :
    b.after (streak ++ [t]) = some (b.fail t.now ((b.after streak).getD .closed)) := by
  unfold Breaker.after
  rw [List.getLast?_concat, List.length_append]
  cases final : streak.getLast? with
  | none =>
    obtain rfl := List.getLast?_eq_none_iff.mp final
    rfl
  | some last =>
    simp only [List.length_cons, List.length_nil, Option.map_some, Option.getD_some, Breaker.fail]
    split
    · rfl
    · rw [if_neg (by omega)]

/-- The circuit of a source is what its failures since the last success make it. -/
theorem registry_key (b : Breaker) (key : κ) (history : List (Told κ)) :
    history.foldl (Registry.tell b) (fun _ => none) key = b.after (failures key history) := by
  unfold failures
  induction history using List.reverseRecOn with
  | nil => rfl
  | append_singleton history t ih =>
    rw [List.foldl_concat, tell_key, ih]
    cases kind : t.mark key with
    | clears => rw [Streak.since_clears kind]; rfl
    | passes => rw [Streak.since_passes kind]
    | counts => rw [Streak.since_counts kind, after_concat]

/-- A source is left alone while it is less than the open time ago that it failed, and that not
for the first times since it last answered. -/
theorem isOpen_iff (b : Breaker) (key : κ) (history : List (Told κ)) {now remaining : ℚ}
    (clock : 0 ≤ now) :
    Registry.isOpen (history.foldl (Registry.tell b) fun _ => none) key now = some remaining ↔
      b.threshold ≤ (failures key history).length ∧
        ∃ last, (failures key history).getLast? = some last ∧
          now < last.now + b.openSeconds ∧ remaining = last.now + b.openSeconds - now := by
  rw [Registry.isOpen, registry_key, Breaker.after]
  cases streak : (failures key history).getLast? with
  | none => simp
  | some last =>
    by_cases tripped : b.threshold ≤ (failures key history).length
    · simp [tripped, eq_comm]
    · simp [tripped, not_lt.mpr clock]

end Registry

/-! ### Calls under way -/

section Example

/-- Three failures in a row, and none of another source. -/
def threeFailures : List (Told String) :=
  [⟨"lever", .success, 1⟩, ⟨"lever", .failure, 2⟩, ⟨"ashby", .success, 3⟩, ⟨"lever", .failure, 4⟩,
    ⟨"lever", .nothing, 5⟩, ⟨"lever", .failure, 6⟩]

theorem isOpen_threeFailures :
    Registry.isOpen (threeFailures.foldl (Registry.tell ⟨3, 600⟩) fun _ => none) "lever" 10 =
      some 596 :=
  (isOpen_iff ⟨3, 600⟩ "lever" threeFailures (by norm_num)).mpr
    ⟨by decide, ⟨"lever", .failure, 6⟩, by decide, by norm_num, by norm_num⟩

end Example

/-- A call that was let through and has not ended. -/
structure Call where
  key : String
  started : ℚ
  deriving DecidableEq

/-- The circuits and the calls under way, in one process. -/
structure Net where
  circuits : Registry String
  flying : List Call
  clock : ℚ

/-- What an adapter works with on a call: the accounts it has so far, and the replies. -/
structure Work (β : Type) where
  request : Request
  stats : RequestStats
  replies : ℕ → Reply β

/-- A call begins at the circuit, and ends with what its replies bring. -/
inductive Event (β : Type)
  | begin (q : Request) (now : ℚ)
  | finish (call : Call) (work : Work β) (now : ℚ)

section Runs
variable {β : Type} (b : Breaker)

def Work.verdict (w : Work β) : Verdict := (w.request.fetch w.replies w.stats).verdict

namespace Net

def step (s : Net) : Event β → Net
  | .begin q now =>
    match s.circuits.isOpen q.key now with
    | some _ => { s with clock := now }
    | none => { s with flying := ⟨q.key, now⟩ :: s.flying, clock := now }
  | .finish call work now =>
    { s with
      circuits := s.circuits.tell b ⟨call.key, work.verdict, now⟩
      flying := s.flying.erase call
      clock := now }

/-- The clock does not run back, a call that ends is under way, and no more than so many are at
once. -/
def Ok (concurrency : ℕ) (s : Net) : Event β → Prop
  | .begin _ now => s.clock ≤ now ∧ s.flying.length < concurrency
  | .finish call work now => s.clock ≤ now ∧ call ∈ s.flying ∧ work.request.key = call.key

instance (concurrency : ℕ) (s : Net) (e : Event β) : Decidable (s.Ok concurrency e) :=
  match e with
  | .begin _ now => inferInstanceAs (Decidable (s.clock ≤ now ∧ s.flying.length < concurrency))
  | .finish call work now =>
    inferInstanceAs (Decidable (s.clock ≤ now ∧ call ∈ s.flying ∧ work.request.key = call.key))

/-- The source of the key fails every call that ends. -/
def Ailing (key : String) : Event β → Prop
  | .begin _ _ => True
  | .finish call work _ => call.key = key → work.verdict = .failure

/-- When the calls for the key were let through. -/
def through (key : String) (s : Net) : List (Event β) → List ℚ
  | [] => []
  | e :: es =>
    let rest := through key (s.step b e) es
    match e with
    | .begin q now =>
      if q.key = key ∧ s.circuits.isOpen q.key now = none then now :: rest else rest
    | .finish _ _ _ => rest

/-- No call is under way since after now, and no more calls are than may be. -/
structure Sound (concurrency : ℕ) (s : Net) : Prop where
  past : ∀ call ∈ s.flying, call.started ≤ s.clock
  bounded : s.flying.length ≤ concurrency

/-- The circuit of the source has opened, and is not open for longer than it may be. -/
def Opened (key : String) (s : Net) : Prop :=
  ∃ circuit, s.circuits key = some circuit ∧ b.threshold ≤ circuit.consecutiveFailures ∧
    circuit.openUntil ≤ s.clock + b.openSeconds

variable {b} {concurrency : ℕ} {s : Net} {e : Event β} {es : List (Event β)} {key : String}

theorem Sound.step (sound : s.Sound concurrency) (ok : s.Ok concurrency e) :
    (s.step b e).Sound concurrency := by
  cases e with
  | begin q now =>
    obtain ⟨forward, room⟩ := ok
    have past : ∀ call ∈ s.flying, call.started ≤ now :=
      fun call member => (sound.past call member).trans forward
    simp only [Net.step]
    split
    · exact ⟨past, sound.bounded⟩
    · refine ⟨?_, room⟩
      intro call member
      rcases List.mem_cons.mp member with rfl | member
      · exact le_rfl
      · exact past call member
  | finish call work now =>
    refine ⟨?_, ?_⟩
    · intro other member
      exact (sound.past other (List.mem_of_mem_erase member)).trans ok.1
    · exact (List.length_erase_le).trans sound.bounded

/-- A circuit without a success since stays, and opens for longer with every failure. -/
theorem circuit_step {circuit : Circuit} (found : s.circuits key = some circuit)
    (ailing : Ailing key e) :
    (s.step b e).circuits key = some circuit ∨
      ∃ call work now, e = .finish call work now ∧ call.key = key ∧
        (s.step b e).circuits key = some (b.fail now circuit) := by
  cases e with
  | begin q now =>
    left
    simp only [Net.step]
    split <;> exact found
  | finish call work now =>
    simp only [Net.step]
    rw [tell_key, Told.mark]
    by_cases own : call.key = key
    · right
      refine ⟨call, work, now, rfl, own, ?_⟩
      rw [if_pos own, ailing own]
      simp [found]
    · left
      rw [if_neg own]
      exact found

theorem step_clock (ok : s.Ok concurrency e) : s.clock ≤ (s.step b e).clock := by
  cases e with
  | begin q now =>
    simp only [Net.step]
    split <;> exact ok.1
  | finish call work now => exact ok.1

/-- An opened circuit stays opened, and no less long. -/
theorem Opened.step (opened : s.Opened b key) (ok : s.Ok concurrency e) (ailing : Ailing key e)
    {u : ℚ} (open_ : ∀ circuit, s.circuits key = some circuit → u ≤ circuit.openUntil) :
    (s.step b e).Opened b key ∧
      ∀ circuit, (s.step b e).circuits key = some circuit → u ≤ circuit.openUntil := by
  obtain ⟨circuit, found, tripped, long⟩ := opened
  have forward := step_clock (b := b) ok
  rcases circuit_step (b := b) found ailing with same | ⟨call, work, now, rfl, own, failed⟩
  · refine ⟨⟨circuit, same, tripped, by linarith⟩, ?_⟩
    intro later here
    cases Option.some.inj (same.symm.trans here)
    exact open_ circuit found
  · have more : b.threshold ≤ circuit.consecutiveFailures + 1 := Nat.le_succ_of_le tripped
    have until_ : (b.fail now circuit).openUntil = now + b.openSeconds := if_pos more
    refine ⟨⟨_, failed, more, until_.le⟩, ?_⟩
    intro later here
    cases Option.some.inj (failed.symm.trans here)
    have before := open_ circuit found
    have clock : s.clock ≤ now := ok.1
    rw [until_]
    linarith

/-- Nothing is let through before the circuit closes. -/
theorem through_late (opened : s.Opened b key)
    (guarded : Trace.Guarded (Net.step b) (Ok concurrency) s es) (ailing : ∀ e ∈ es, Ailing key e) {u : ℚ}
    (open_ : ∀ circuit, s.circuits key = some circuit → u ≤ circuit.openUntil) :
    ∀ x ∈ through b key s es, u ≤ x := by
  induction es generalizing s with
  | nil => intro x member; cases member
  | cons e es ih =>
    obtain ⟨ok, guarded⟩ := guarded
    have here : Ailing key e := ailing e List.mem_cons_self
    obtain ⟨opened', open'⟩ := opened.step ok here open_
    have rest := ih opened' guarded (fun e member => ailing e (List.mem_cons_of_mem _ member)) open'
    cases e with
    | finish call work now => exact rest
    | begin q now =>
      simp only [through]
      split
      · rename_i let_
        obtain ⟨rfl, closed⟩ := let_
        intro x member
        rcases List.mem_cons.mp member with rfl | member
        · obtain ⟨circuit, found, -⟩ := opened
          rw [Registry.isOpen, found] at closed
          have shut : circuit.openUntil ≤ x := by simpa using closed
          exact (open_ circuit found).trans shut
        · exact rest x member
      · exact rest

/-- The calls for the key that are under way and began at `t` or later. -/
def fresh (key : String) (t : ℚ) (s : Net) : ℕ :=
  s.flying.countP fun call => decide (call.key = key ∧ t ≤ call.started)

/-- How many of the times lie in the open time from `t` on. -/
def allowed (b : Breaker) (t : ℚ) (times : List ℚ) : ℕ :=
  times.countP fun x => decide (t ≤ x ∧ x < t + b.openSeconds)

theorem fresh_le (sound : s.Sound concurrency) (key : String) (t : ℚ) :
    s.fresh key t ≤ concurrency :=
  List.countP_le_length.trans sound.bounded

/-- Whoever is let through while an open time passes is still under way at its end. -/
theorem allowed_add_fresh (sound : s.Sound concurrency) (opened : s.Opened b key)
    (guarded : Trace.Guarded (Net.step b) (Ok concurrency) s es)
    (ailing : ∀ e ∈ es, Ailing key e) (t : ℚ) :
    allowed b t (through b key s es) + s.fresh key t ≤ concurrency := by
  induction es generalizing s with
  | nil =>
    have bound := fresh_le sound key t
    simpa [through, allowed] using bound
  | cons e es ih =>
    obtain ⟨ok, guarded⟩ := guarded
    have later : ∀ e ∈ es, Ailing key e := fun e member => ailing e (List.mem_cons_of_mem _ member)
    have here : Ailing key e := ailing e List.mem_cons_self
    have opened' : (s.step b e).Opened b key := by
      obtain ⟨circuit, found, -⟩ := id opened
      refine (opened.step (u := circuit.openUntil) ok here ?_).1
      intro other same
      cases Option.some.inj (found.symm.trans same)
      exact le_rfl
    have rest := ih (sound.step ok) opened' guarded later
    cases e with
    | begin q now =>
      cases gate : s.circuits.isOpen q.key now with
      | some remaining =>
        have same : (s.step b (.begin q now : Event β)).fresh key t = s.fresh key t := by
          simp [fresh, Net.step, gate]
        rw [same] at rest
        simpa [through, gate] using rest
      | none =>
        have grown : (s.step b (.begin q now : Event β)).fresh key t =
            s.fresh key t + if q.key = key ∧ t ≤ now then 1 else 0 := by
          simp [fresh, Net.step, gate, List.countP_cons]
        rw [grown] at rest
        by_cases own : q.key = key
        · have counted : allowed b t (through b key s (.begin q now :: es)) ≤
              allowed b t (through b key (s.step b (.begin q now : Event β)) es) +
                if q.key = key ∧ t ≤ now then 1 else 0 := by
            rw [through, if_pos ⟨own, gate⟩, allowed, List.countP_cons]
            by_cases inside : t ≤ now
            · have one : (if q.key = key ∧ t ≤ now then 1 else 0) = 1 := if_pos ⟨own, inside⟩
              rw [one]
              split <;> simp [allowed]
            · simp [own, inside, allowed]
          omega
        · have skipped : through b key s (.begin q now :: es) =
              through b key (s.step b (.begin q now : Event β)) es := by
            rw [through, if_neg fun both => own both.1]
          rw [skipped]
          omega
    | finish call work now =>
      obtain ⟨forward, flying, -⟩ := ok
      by_cases counted : call.key = key ∧ t ≤ call.started
      · -- The circuit opens anew, for all of the time that is looked at.
        have clock : t ≤ now := (counted.2.trans (sound.past call flying)).trans forward
        have none_ : allowed b t (through b key s (.finish call work now :: es)) = 0 := by
          rw [allowed, List.countP_eq_zero]
          intro x member
          have late : t + b.openSeconds ≤ x := by
            obtain ⟨circuit, found, tripped, -⟩ := id opened
            apply through_late opened' guarded later (u := t + b.openSeconds) ?_ x member
            intro other there
            have failed : (s.step b (.finish call work now)).circuits key =
                some (b.fail now circuit) := by
              simp only [Net.step]
              rw [tell_key, Told.mark, if_pos counted.1, here counted.1]
              simp [found]
            cases Option.some.inj (failed.symm.trans there)
            have until_ : (b.fail now circuit).openUntil = now + b.openSeconds :=
              if_pos (Nat.le_succ_of_le tripped)
            rw [until_]
            linarith
          simp [not_lt.mpr late]
        rw [none_, Nat.zero_add]
        exact fresh_le sound key t
      · have same : (s.step b (.finish call work now)).fresh key t = s.fresh key t := by
          simp only [fresh, Net.step]
          rw [(List.perm_cons_erase flying).countP_eq, List.countP_cons]
          simp [counted]
        rw [same] at rest
        exact rest

/-- No circuit is open for longer than it may be. -/
def Timely (b : Breaker) (s : Net) : Prop :=
  ∀ key circuit, s.circuits key = some circuit → b.threshold ≤ circuit.consecutiveFailures →
    circuit.openUntil ≤ s.clock + b.openSeconds

theorem Timely.step (timely : s.Timely b) (ok : s.Ok concurrency e) : (s.step b e).Timely b := by
  intro key circuit found tripped
  have forward := step_clock (b := b) ok
  have kept (same : s.circuits key = some circuit) :
      circuit.openUntil ≤ (s.step b e).clock + b.openSeconds := by
    have before := timely key circuit same tripped
    linarith
  cases e with
  | begin q now =>
    apply kept
    simp only [Net.step] at found
    split at found <;> exact found
  | finish call work now =>
    simp only [Net.step] at found
    rw [tell_key] at found
    cases kind : Told.mark key ⟨call.key, work.verdict, now⟩ with
    | passes =>
      rw [kind] at found
      exact kept found
    | clears =>
      rw [kind] at found
      cases found
    | counts =>
      rw [kind] at found
      cases found
      exact (if_pos tripped).le

def idle (clock : ℚ) : Net := ⟨fun _ => none, [], clock⟩

/-- In an outage a source is asked at most once per call that may be under way in any open time,
from the moment its circuit has opened. -/
theorem outage_bounded (b : Breaker) (concurrency : ℕ) (clock : ℚ) (before after : List (Event β))
    (key : String) (t : ℚ)
    (guarded : Trace.Guarded (Net.step b) (Ok concurrency) (idle clock) (before ++ after))
    (opened : ∃ circuit, (Trace.run (Net.step b) (idle clock) before).circuits key = some circuit ∧
      b.threshold ≤ circuit.consecutiveFailures)
    (ailing : ∀ e ∈ after, Ailing key e) :
    allowed b t (through b key (Trace.run (Net.step b) (idle clock) before) after) ≤
      concurrency := by
  obtain ⟨guarded, later⟩ := Trace.guarded_append.mp guarded
  have sound : (Trace.run (Net.step b) (idle clock) before).Sound concurrency := by
    refine Trace.run_invariant (Sound concurrency) (fun s e sound ok => sound.step ok) ?_ guarded
    exact ⟨fun _ member => absurd member List.not_mem_nil, Nat.zero_le _⟩
  have timely : (Trace.run (Net.step b) (idle clock) before).Timely b := by
    refine Trace.run_invariant (Timely b) (fun s e timely ok => timely.step ok) ?_ guarded
    intro _ _ found
    cases found
  obtain ⟨circuit, found, tripped⟩ := opened
  have whole := allowed_add_fresh sound ⟨circuit, found, tripped, timely key circuit found tripped⟩
    later ailing t
  omega

section Example

def someRequest : Request where
  key := "lever"
  identifier := "acme"
  maxRetries := 0
  backoffBase := 2
  float := fun _ => none
  jitter := fun _ => 0
  limiter := fun _ => 0
  seconds := fun _ => ""

/-- One call that fails. -/
def failing (t : ℚ) : List (Event Unit) :=
  [.begin someRequest t, .finish ⟨"lever", t⟩
    ⟨someRequest, ⟨0, 0, 0, 0, 0, 0⟩, fun _ => .failed "timed out"⟩ (t + 1)]

theorem outage_bounded_lever :
    allowed ⟨2, 600⟩ 604 (through ⟨2, 600⟩ "lever"
      (Trace.run (Net.step ⟨2, 600⟩) (idle 0) (failing 0 ++ failing 2)) (failing 604)) ≤ 1 := by
  refine outage_bounded ⟨2, 600⟩ 1 0 (failing 0 ++ failing 2) (failing 604) "lever" 604 ?_
    ⟨⟨2, 603⟩, ?_, ?_⟩ ?_
  · decide +kernel
  · decide +kernel
  · decide +kernel
  · intro e member
    simp only [failing, List.mem_cons, List.not_mem_nil, or_false] at member
    rcases member with rfl | rfl
    · trivial
    · exact fun _ => rfl

end Example

end Net
end Runs

end RangeApply.Fetching
