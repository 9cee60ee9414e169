import RangeApply.Cooldown
import RangeApply.Agreement

/-! The counters of a scheduling run. The loop over the candidates is written once, over whatever
decides on a candidate, tries its admission and writes the answer on its row; the scheduler's pass
is this loop on the tenant's store. -/
namespace RangeApply

/-- How a call of `_admit` ends. -/
inductive AdmitEnd
  | admitted (enqueued requeued : Bool)
  | refused (cap : PeriodKind)
  | raised (e : Error)
  deriving DecidableEq

def AdmitEnd.granted : AdmitEnd → Bool
  | .admitted _ _ => true
  | _ => false

def PeriodKind.reached : PeriodKind → AdmissionReason
  | .day => .dailyCapReached
  | .week => .weeklyCapReached

namespace Error

def code : Error → String
  | .conflict _ => "conflict"
  | .notFound _ => "not_found"
  | .validationFailed _ => "validation_failed"

def message : Error → String
  | .conflict m | .notFound m | .validationFailed m => m

end Error

/-- What a run works with. `decide` reads the indexes, which an admission extends. -/
structure Desk (σ : Type) where
  decide : σ → OpportunityId → Verdict
  undeferred : ∀ s i, (decide s i).code ≠ .windowDeferred
  admission : σ → OpportunityId → Verdict → AdmitEnd × σ
  stamp : OpportunityId → AdmissionReason → Verdict → σ → σ

structure Counts where
  considered : Nat
  admissible : Nat
  admitted : Nat
  enqueued : Nat
  requeued : Nat
  deferred : Nat
  alreadyQueued : Nat
  alreadyCompleted : Nat
  needsReview : Nat
  needsUserInput : Nat
  blocked : Nat
  deriving DecidableEq

namespace Counts

def zero : Counts := ⟨0, 0, 0, 0, 0, 0, 0, 0, 0, 0, 0⟩

/-- `_tally`; an admission has been counted already. -/
def tally (code : AdmissionReason) (c : Counts) : Counts :=
  match code with
  | .admitted => c
  | .windowDeferred => { c with deferred := c.deferred + 1 }
  | .alreadyInProgress => { c with alreadyQueued := c.alreadyQueued + 1 }
  | .alreadySubmitted => { c with alreadyCompleted := c.alreadyCompleted + 1 }
  | .needsReview => { c with needsReview := c.needsReview + 1 }
  | .needsUserInput => { c with needsUserInput := c.needsUserInput + 1 }
  | _ => { c with blocked := c.blocked + 1 }

end Counts

/-- `PROGRESS_REASONS`: the work exists or waits for a human. -/
def AdmissionReason.progress : AdmissionReason → Bool
  | .admitted | .alreadyInProgress | .alreadySubmitted | .needsReview | .needsUserInput
  | .windowDeferred => true
  | _ => false

def tallyReason (code : AdmissionReason) (byReason : AdmissionReason → Nat) : AdmissionReason → Nat :=
  if code.progress = false ∨ code = .needsReview ∨ code = .needsUserInput then
    fun c => if c = code then byReason c + 1 else byReason c
  else byReason

/-- A run between two candidates. The record keeps no list of the attempts it reserved. -/
structure Tallied (σ : Type) where
  state : σ
  counts : Counts
  byReason : AdmissionReason → Nat
  errors : List String
  capHit : Option AdmissionReason
  reserved : List OpportunityId

namespace Tallied
variable {σ : Type}

def start (s : σ) : Tallied σ := ⟨s, .zero, fun _ => 0, [], none, []⟩

section Turn
variable (desk : Desk σ) (window : Nat) (b : Tallied σ) (i : OpportunityId)

/-- `_tally` and `_stamp`. -/
def close (code : AdmissionReason) (v : Verdict) : Tallied σ :=
  { b with
    state := desk.stamp i code v b.state
    counts := b.counts.tally code
    byReason := tallyReason code b.byReason }

/-- After `_admit` answered or met a conflict: a cap that is reached is remembered, and anything
else counts as an admission. -/
def settle (code : AdmissionReason) (enqueued requeued : Bool) : Tallied σ :=
  if code = .dailyCapReached ∨ code = .weeklyCapReached then { b with capHit := some code }
  else { b with counts := { b.counts with
    admitted := b.counts.admitted + 1
    enqueued := b.counts.enqueued + enqueued.toNat
    requeued := b.counts.requeued + requeued.toNat } }

/-- What the loop makes of the end of `_admit`; after any other error it goes on at once. -/
def receive (v : Verdict) (ended : AdmitEnd) : Tallied σ :=
  match ended with
  | .admitted enqueued requeued =>
    ({ b with reserved := b.reserved ++ [i] }.settle .admitted enqueued requeued).close desk i
      .admitted v
  | .refused cap => (b.settle cap.reached false false).close desk i cap.reached v
  | .raised (.conflict _) =>
    (b.settle .alreadyInProgress false false).close desk i .alreadyInProgress v
  | .raised e => { b with errors := b.errors ++ [s!"{i}: {e.code}: {e.message}"] }

def tryAdmit (v : Verdict) : Tallied σ :=
  let ended := desk.admission b.state i v
  { b with state := ended.2 }.receive desk i v ended.1

def countConsidered : Tallied σ :=
  { b with counts := { b.counts with considered := b.counts.considered + 1 } }

def countAdmissible : Tallied σ :=
  { b with counts := { b.counts with admissible := b.counts.admissible + 1 } }

/-- One candidate of the run. -/
def turn : Tallied σ :=
  let b := b.countConsidered
  let v := desk.decide b.state i
  if v.admissible = false then b.close desk i v.code v
  else
    let b := b.countAdmissible
    if window ≤ b.counts.admitted then b.close desk i .windowDeferred v
    else match b.capHit with
      | some code => b.close desk i code v
      | none => b.tryAdmit desk i v

/-- The turn comes to a call of `_admit`. -/
def Tries : Prop :=
  (desk.decide b.state i).admissible = true ∧ b.counts.admitted < window ∧ b.capHit = none

instance : Decidable (b.Tries desk window i) := inferInstanceAs (Decidable (_ ∧ _ ∧ _))

/-- How it ends. -/
def ending : AdmitEnd := (desk.admission b.state i (desk.decide b.state i)).1

end Turn

/-! ### What the record says -/

/-- Where the record counts a candidate. -/
inductive Bucket
  | admitted | deferred | alreadyQueued | alreadyCompleted | needsReview | needsUserInput | blocked
  | errors
  deriving DecidableEq, Repr

/-- The record of the run, were it to end here; it has room for a hundred errors. -/
def record (b : Tallied σ) : Bucket → Nat
  | .admitted => b.counts.admitted
  | .deferred => b.counts.deferred
  | .alreadyQueued => b.counts.alreadyQueued
  | .alreadyCompleted => b.counts.alreadyCompleted
  | .needsReview => b.counts.needsReview
  | .needsUserInput => b.counts.needsUserInput
  | .blocked => b.counts.blocked
  | .errors => (b.errors.take 100).length

/-- A turn counts its candidate in one bucket, once, and in no other. -/
def CountedOnce (before after : Tallied σ) : Prop :=
  ∃ bucket, ∀ c, after.record c = before.record c + if c = bucket then 1 else 0

/-- A turn defers its candidate only once the window is full of reserved attempts. -/
def DeferredFull (window : Nat) (before after : Tallied σ) : Prop :=
  after.counts.deferred ≠ before.counts.deferred → window ≤ before.reserved.length

/-- The books of a run from here: every candidate is counted once, deferrals are due, and the
admissions are the attempts reserved, within the window. -/
def Balanced (desk : Desk σ) (window : Nat) (b : Tallied σ) (ids : List OpportunityId) : Prop :=
  let ended := Trace.run (turn desk window) b ids
  Trace.Guarded (turn desk window) (fun b i =>
      b.CountedOnce (b.turn desk window i) ∧ b.DeferredFull window (b.turn desk window i)) b ids ∧
    ended.counts.admitted = ended.reserved.length ∧ ended.reserved.length ≤ window

/-- The candidate's turn does not come to an admission that meets a conflict, or that fails
otherwise when the record has no room for its error. -/
def Clean (desk : Desk σ) (window : Nat) (b : Tallied σ) (i : OpportunityId) : Prop :=
  b.Tries desk window i → match b.ending desk i with
    | .raised (.conflict _) => False
    | .raised _ => b.errors.length < 100
    | _ => True

end Tallied

/-! ### What one turn adds -/

/-- Where `_tally` counts a code, and where the admissions are counted. -/
def AdmissionReason.bucket : AdmissionReason → Tallied.Bucket
  | .admitted => .admitted
  | .windowDeferred => .deferred
  | .alreadyInProgress => .alreadyQueued
  | .alreadySubmitted => .alreadyCompleted
  | .needsReview => .needsReview
  | .needsUserInput => .needsUserInput
  | _ => .blocked

namespace Tallied
variable {σ : Type} {desk : Desk σ} {window : Nat} {b b' : Tallied σ} {i : OpportunityId}

/-- The buckets of an admission that is tried. -/
def endBuckets (b : Tallied σ) : AdmitEnd → List Bucket
  | .admitted _ _ => [.admitted]
  | .refused _ => [.blocked]
  | .raised (.conflict _) => [.admitted, .alreadyQueued]
  | .raised _ => if b.errors.length < 100 then [.errors] else []

def Adds (b b' : Tallied σ) (counted : List Bucket) : Prop :=
  ∀ c, b'.record c = b.record c + counted.count c

theorem close_adds (desk : Desk σ) (b : Tallied σ) (i : OpportunityId) {code : AdmissionReason}
    (v : Verdict) (refusal : code ≠ .admitted) :
    b.Adds (b.close desk i code v) [code.bucket] := by
  intro c
  cases code with
  | admitted => contradiction
  | _ => cases c <;> rfl

theorem close_admitted (desk : Desk σ) (b : Tallied σ) (i : OpportunityId) (v : Verdict) :
    b.Adds (b.close desk i .admitted v) [] := by
  intro c
  cases c <;> rfl

theorem settle_adds (b : Tallied σ) {code : AdmissionReason} (enqueued requeued : Bool)
    (counts : ¬ (code = .dailyCapReached ∨ code = .weeklyCapReached)) :
    b.Adds (b.settle code enqueued requeued) [.admitted] := by
  intro c
  rw [settle, if_neg counts]
  cases c <;> rfl

theorem settle_reached (b : Tallied σ) (cap : PeriodKind) (enqueued requeued : Bool) :
    b.settle cap.reached enqueued requeued = { b with capHit := some cap.reached } := by
  cases cap <;> rfl

theorem Adds.trans {b₁ b₂ b₃ : Tallied σ} {first second : List Bucket} (before : b₁.Adds b₂ first)
    (after : b₂.Adds b₃ second) : b₁.Adds b₃ (first ++ second) := by
  intro c
  rw [after c, before c, List.count_append, Nat.add_assoc]

theorem raised_adds (b : Tallied σ) (text : String) :
    b.Adds { b with errors := b.errors ++ [text] }
      (if b.errors.length < 100 then [.errors] else []) := by
  intro c
  cases c with
  | errors =>
    simp only [record, List.length_take, List.length_append, List.length_singleton]
    split
    · simp only [List.count_singleton_self]
      omega
    · simp only [List.count_nil]
      omega
  | _ => split <;> rfl

theorem receive_adds (desk : Desk σ) (b : Tallied σ) (i : OpportunityId) (v : Verdict)
    (ended : AdmitEnd) : b.Adds (b.receive desk i v ended) (b.endBuckets ended) := by
  cases ended with
  | admitted enqueued requeued =>
    have logged : b.Adds { b with reserved := b.reserved ++ [i] } [] := by
      intro c
      cases c <;> rfl
    exact (logged.trans (settle_adds _ enqueued requeued (by decide))).trans
      (close_admitted desk _ i v)
  | refused cap =>
    have remembered : b.Adds (b.settle cap.reached false false) [] := by
      rw [settle_reached]
      intro c
      cases c <;> rfl
    cases cap <;> exact remembered.trans (close_adds desk _ i v (by decide))
  | raised e =>
    cases e with
    | conflict m =>
      exact (settle_adds b false false (by decide)).trans (close_adds desk _ i v (by decide))
    | notFound m => exact raised_adds b _
    | validationFailed m => exact raised_adds b _

/-- A cap that is remembered is one of the two. -/
def CapsOnly (b : Tallied σ) : Prop :=
  ∀ c, b.capHit = some c → c = .dailyCapReached ∨ c = .weeklyCapReached

/-- Nothing is counted yet, and nothing else is touched. -/
structure Opens (b b₁ : Tallied σ) : Prop where
  adds : b.Adds b₁ []
  errors : b₁.errors = b.errors
  reserved : b₁.reserved = b.reserved
  capHit : b₁.capHit = b.capHit

/-- A turn either closes its candidate with a refusal or comes to an admission. -/
inductive Turned (desk : Desk σ) (window : Nat) (b : Tallied σ) (i : OpportunityId) :
    Tallied σ → Prop
  | refused {b₁ : Tallied σ} {code : AdmissionReason} (v : Verdict) (opens : b.Opens b₁)
      (untried : ¬ b.Tries desk window i) (refusal : code ≠ .admitted)
      (due : code = .windowDeferred → window ≤ b.counts.admitted) :
      Turned desk window b i (b₁.close desk i code v)
  | tried {b₁ : Tallied σ} (opens : b.Opens b₁) (tries : b.Tries desk window i) :
      Turned desk window b i (b₁.receive desk i (desk.decide b.state i) (b.ending desk i))

theorem turn_turned (desk : Desk σ) (window : Nat) (i : OpportunityId) (caps : b.CapsOnly) :
    Turned desk window b i (b.turn desk window i) := by
  have considered : b.Opens b.countConsidered := by
    refine ⟨fun c => ?_, rfl, rfl, rfl⟩
    cases c <;> rfl
  have admissible (s : σ) : b.Opens { b.countConsidered.countAdmissible with state := s } := by
    refine ⟨fun c => ?_, rfl, rfl, rfl⟩
    cases c <;> rfl
  unfold turn
  dsimp only
  have same : desk.decide b.countConsidered.state i = desk.decide b.state i := rfl
  have count : b.countConsidered.countAdmissible.counts.admitted = b.counts.admitted := rfl
  have cap : b.countConsidered.countAdmissible.capHit = b.capHit := rfl
  rw [same, count, cap]
  split
  · rename_i refused
    refine .refused _ considered ?_ ?_ fun deferred => absurd deferred (desk.undeferred _ _)
    · rintro ⟨open_, -⟩
      rw [refused] at open_
      cases open_
    · simpa [Verdict.admissible] using refused
  split
  · rename_i full
    exact .refused _ (admissible b.state) (fun tries => Nat.not_le.mpr tries.2.1 full) (by decide)
      fun _ => full
  rename_i open_ room
  cases hit : b.capHit with
  | some code =>
    refine .refused _ (admissible b.state) (fun tries => ?_) ?_ ?_
    · rw [tries.2.2] at hit
      cases hit
    · rcases caps code hit with rfl | rfl <;> decide
    · rintro rfl
      rcases caps _ hit with same | same <;> cases same
  | none =>
    exact .tried (admissible (desk.admission b.state i (desk.decide b.state i)).2)
      ⟨by simpa using open_, Nat.not_le.mp room, hit⟩

/-! ### The invariant of the loop -/

/-- The counter of admissions is the number of attempts reserved. -/
structure Sound (window : Nat) (b : Tallied σ) : Prop where
  admitted : b.counts.admitted = b.reserved.length
  within : b.reserved.length ≤ window
  caps : b.CapsOnly

theorem CountedOnce.of_adds {bucket : Bucket} (adds : b.Adds b' [bucket]) : b.CountedOnce b' := by
  refine ⟨bucket, fun c => ?_⟩
  rw [adds c, List.count_singleton]
  by_cases same : c = bucket
  · simp [same]
  · simp [same, Ne.symm same]

theorem not_countedOnce (adds : b.Adds b' [.admitted, .alreadyQueued]) : ¬ b.CountedOnce b' := by
  rintro ⟨bucket, counted⟩
  have first := counted .admitted
  have second := counted .alreadyQueued
  rw [adds] at first second
  cases bucket <;> simp at first second

theorem not_countedOnce_nil (adds : b.Adds b' []) : ¬ b.CountedOnce b' := by
  rintro ⟨bucket, counted⟩
  have here := counted bucket
  rw [adds] at here
  simp at here

theorem DeferredFull.of_adds {counted : List Bucket} (adds : b.Adds b' counted)
    (none : Bucket.deferred ∉ counted) : b.DeferredFull window b' := by
  intro moved
  have same := adds .deferred
  rw [List.count_eq_zero_of_not_mem none, Nat.add_zero] at same
  exact absurd same moved

/-- One turn, exactly: the candidate is counted once and deferred only when it is due if and only
if its turn is clean. -/
theorem turn_counted_iff (sound : b.Sound window) :
    b.CountedOnce (b.turn desk window i) ∧ b.DeferredFull window (b.turn desk window i) ↔
      b.Clean desk window i := by
  have turned := turn_turned desk window i sound.caps
  generalize b.turn desk window i = b' at turned ⊢
  cases turned with
  | @refused b₁ code v opens untried refusal due =>
    have adds := opens.adds.trans (close_adds desk b₁ i v refusal)
    refine iff_of_true ⟨.of_adds adds, ?_⟩ fun tries => absurd tries untried
    by_cases deferred : code = .windowDeferred
    · intro _
      rw [← sound.admitted]
      exact due deferred
    · apply DeferredFull.of_adds adds
      cases code <;> first | contradiction | decide
  | @tried b₁ opens tries =>
    have adds := opens.adds.trans (receive_adds desk b₁ i (desk.decide b.state i) (b.ending desk i))
    unfold Clean
    simp only [tries, forall_const]
    generalize b.ending desk i = ended at adds ⊢
    cases ended with
    | admitted enqueued requeued =>
      exact iff_of_true ⟨.of_adds adds, .of_adds adds (by simp [endBuckets])⟩ trivial
    | refused cap =>
      exact iff_of_true ⟨.of_adds adds, .of_adds adds (by simp [endBuckets])⟩ trivial
    | raised e =>
      have other (room : b.Adds (b₁.receive desk i (desk.decide b.state i) (.raised e))
          (if b₁.errors.length < 100 then [.errors] else [])) :
          b.CountedOnce (b₁.receive desk i (desk.decide b.state i) (.raised e)) ∧
            b.DeferredFull window (b₁.receive desk i (desk.decide b.state i) (.raised e)) ↔
          b.errors.length < 100 := by
        rw [opens.errors] at room
        split at room
        · rename_i free
          exact iff_of_true ⟨.of_adds room, .of_adds room (by decide)⟩ free
        · rename_i full
          exact iff_of_false (fun counted => not_countedOnce_nil room counted.1) full
      cases e with
      | conflict m => exact iff_of_false (fun counted => not_countedOnce adds counted.1) id
      | notFound m => exact other adds
      | validationFailed m => exact other adds

theorem settle_reserved (b : Tallied σ) (code : AdmissionReason) (enqueued requeued : Bool) :
    (b.settle code enqueued requeued).reserved = b.reserved := by
  unfold settle
  split <;> rfl

theorem settle_capHit (b : Tallied σ) {code : AdmissionReason} (enqueued requeued : Bool)
    (counts : ¬ (code = .dailyCapReached ∨ code = .weeklyCapReached)) :
    (b.settle code enqueued requeued).capHit = b.capHit := by
  rw [settle, if_neg counts]

theorem turn_caps (i : OpportunityId) (caps : b.CapsOnly) :
    (b.turn desk window i).CapsOnly := by
  have turned := turn_turned desk window i caps
  generalize b.turn desk window i = b' at turned ⊢
  cases turned with
  | refused v opens =>
    intro c hit
    exact caps c (opens.capHit ▸ hit)
  | @tried b₁ opens tries =>
    have kept : b₁.CapsOnly := fun c hit => caps c (opens.capHit ▸ hit)
    generalize b.ending desk i = ended
    intro c hit
    cases ended with
    | admitted enqueued requeued =>
      have same : ({ b₁ with reserved := b₁.reserved ++ [i] }.settle .admitted enqueued
        requeued).capHit = b₁.capHit := settle_capHit _ _ _ (by decide)
      exact kept c (same ▸ hit)
    | refused cap =>
      have reached : (b₁.settle cap.reached false false).capHit = some c := hit
      rw [settle_reached] at reached
      cases reached
      cases cap
      · exact .inl rfl
      · exact .inr rfl
    | raised e =>
      cases e with
      | conflict m =>
        have same : (b₁.settle .alreadyInProgress false false).capHit = b₁.capHit :=
          settle_capHit _ _ _ (by decide)
        exact kept c (same ▸ hit)
      | notFound m => exact kept c hit
      | validationFailed m => exact kept c hit

/-- An attempt is reserved by an admission that is tried and granted. -/
theorem turn_reserved (i : OpportunityId) (caps : b.CapsOnly) :
    (b.turn desk window i).reserved =
      if b.Tries desk window i ∧ (b.ending desk i).granted = true then b.reserved ++ [i]
      else b.reserved := by
  have turned := turn_turned desk window i caps
  generalize b.turn desk window i = b' at turned ⊢
  cases turned with
  | refused v opens untried =>
    rw [if_neg fun tried => untried tried.1]
    exact opens.reserved
  | @tried b₁ opens tries =>
    generalize b.ending desk i = ended
    rw [← opens.reserved]
    cases ended with
    | admitted enqueued requeued =>
      rw [if_pos ⟨tries, rfl⟩]
      exact settle_reserved ..
    | refused cap =>
      rw [if_neg fun tried => by cases tried.2]
      exact settle_reserved ..
    | raised e =>
      rw [if_neg fun tried => by cases tried.2]
      cases e with
      | conflict m => exact settle_reserved ..
      | notFound m => rfl
      | validationFailed m => rfl

theorem turn_sound (sound : b.Sound window) (clean : b.Clean desk window i) :
    (b.turn desk window i).Sound window := by
  have reserved := @turn_reserved _ desk window _ i sound.caps
  have caps := @turn_caps _ desk window _ i sound.caps
  have turned := turn_turned desk window i sound.caps
  generalize b.turn desk window i = b' at turned reserved caps ⊢
  suffices count : b'.counts.admitted = b.counts.admitted +
      if b.Tries desk window i ∧ (b.ending desk i).granted = true then 1 else 0 by
    refine ⟨?_, ?_, caps⟩
    · rw [count, reserved, sound.admitted]
      split
      · rw [List.length_append, List.length_singleton]
      · rfl
    · rw [reserved]
      split
      · rename_i tried
        rw [List.length_append, ← sound.admitted]
        exact tried.1.2.1
      · exact sound.within
  cases turned with
  | @refused b₁ code v opens untried refusal =>
    rw [if_neg fun tried => untried tried.1]
    have adds := opens.adds.trans (close_adds desk b₁ i v refusal)
    have none_ : ([] ++ [code.bucket]).count Bucket.admitted = 0 := by
      cases code <;> first | contradiction | rfl
    exact (adds .admitted).trans (congrArg _ none_)
  | @tried b₁ opens tries =>
    have adds := opens.adds.trans (receive_adds desk b₁ i (desk.decide b.state i) (b.ending desk i))
    have fair := clean tries
    simp only [tries, true_and]
    generalize b.ending desk i = ended at fair adds ⊢
    cases ended with
    | admitted enqueued requeued => exact adds .admitted
    | refused cap => exact adds .admitted
    | raised e =>
      have room (added : b.Adds (b₁.receive desk i (desk.decide b.state i) (.raised e))
          (if b₁.errors.length < 100 then [.errors] else [])) :
          (b₁.receive desk i (desk.decide b.state i) (.raised e)).counts.admitted =
            b.counts.admitted := by
        have here := added .admitted
        split at here
        · exact here
        · exact here
      cases e with
      | conflict m => exact fair.elim
      | notFound m => exact room adds
      | validationFailed m => exact room adds

theorem start_sound (window : Nat) (s : σ) : (start s).Sound window := by
  refine ⟨rfl, Nat.zero_le _, ?_⟩
  intro c hit
  cases hit

/-- The books of a run balance exactly when no turn of it comes to an admission that meets a
conflict, nor to one that fails otherwise once the record is full of errors. -/
theorem balanced_iff (desk : Desk σ) (window : Nat) (s : σ) (ids : List OpportunityId) :
    Balanced desk window (start s) ids ↔
      Trace.Guarded (turn desk window) (Clean desk window) (start s) ids := by
  have each : Trace.Guarded (turn desk window) (fun b i => b.CountedOnce (b.turn desk window i) ∧
        b.DeferredFull window (b.turn desk window i)) (start s) ids ↔
      Trace.Guarded (turn desk window) (Clean desk window) (start s) ids :=
    Trace.guarded_iff (Sound window) (fun i _ b sound clean => turn_sound sound clean)
      (fun i _ b sound => turn_counted_iff sound) (start_sound window s)
  unfold Balanced
  dsimp only
  rw [each]
  refine ⟨And.left, fun clean => ⟨clean, ?_⟩⟩
  have sound := Trace.run_invariant (Sound window) (fun b i sound clean => turn_sound sound clean)
    (start_sound window s) clean
  exact ⟨sound.admitted, sound.within⟩

end Tallied

/-! ### The scheduler's own run -/

section Scheduler
variable (env : Env)

/-- The decision on a row of the store; without a candidate there is none to take. -/
def Pass.verdict (p : DB × Indexes) (i : OpportunityId) : Verdict :=
  match p.1.openings.get i with
  | none => .refuse .notEvaluated ""
  | some o => match o.candidate with
    | none => .refuse .notEvaluated ""
    | some co => decideOpening env ⟨p.1.policy, p.1.now, p.2⟩ o co

/-- Whether `_admit` queued the PREPARE item again. -/
def Opening.requeues (o : Opening) : Bool :=
  (o.prepare.any fun item => decide (item.state = .succeeded)) &&
    !(o.latestPreparation.any fun p => decide (p.status = .ready))

/-- How an admission of the store ended, from its code. -/
def admitEnd (o : Opening) : AdmissionReason → AdmitEnd
  | .admitted => .admitted o.prepare.isNone o.requeues
  | .dailyCapReached => .refused .day
  | .weeklyCapReached => .refused .week
  | _ => .raised (.conflict "attempt already exists for this opportunity")

def admitInStore (p : DB × Indexes) (i : OpportunityId) (v : Verdict) : AdmitEnd × (DB × Indexes) :=
  match p.1.openings.get i with
  | none => (.raised (.notFound ""), p)
  | some o => match o.candidate with
    | none => (.raised (.notFound ""), p)
    | some co =>
      let outcome := admitCandidate env p.1 v co ⟨o, p.1.ledger⟩
      let after := (⟨p.1, p.2, 0, none⟩ : Pass).settleAdmission env i outcome
      (admitEnd o outcome.1, after.db, after.index)

def Desk.scheduler : Desk (DB × Indexes) where
  decide := Pass.verdict env
  undeferred := by
    intro p i
    unfold Pass.verdict
    split
    · decide
    split
    · decide
    · exact decide_undeferred
  admission := admitInStore env
  stamp i code v p :=
    let after := (⟨p.1, p.2, 0, none⟩ : Pass).stamp i code v
    (after.db, after.index)

def Tallied.pass (b : Tallied (DB × Indexes)) : Pass :=
  ⟨b.state.1, b.state.2, b.counts.admitted, b.capHit⟩

theorem admitCandidate_code (db : DB) (v : Verdict) (co : CandidateOpportunity) (s : Slice) :
    (admitCandidate env db v co s).1 ∈
      [AdmissionReason.admitted, .alreadyInProgress, .dailyCapReached, .weeklyCapReached] := by
  unfold admitCandidate
  split
  · simp
  · rename_i ledger reason reserved
    rcases (CapLedger.reserve_refused (Application.reserve_refused reserved)).1 with rfl | rfl
    · simp
    · simp
  · split
    · simp
    · simp

variable {env} {window : Nat} {b : Tallied (DB × Indexes)} {i : OpportunityId}

theorem close_pass (b : Tallied (DB × Indexes)) (i : OpportunityId) (code : AdmissionReason)
    (v : Verdict) : (b.close (.scheduler env) i code v).pass = b.pass.stamp i code v := by
  have same : (b.counts.tally code).admitted = b.counts.admitted := by cases code <;> rfl
  unfold Tallied.close Tallied.pass
  rw [same]
  rfl

/-- Without a candidate there is no row to write an answer on. -/
theorem stamp_idle {p : Pass} (idle : (p.db.openings.get i).bind Opening.candidate = none)
    (code : AdmissionReason) (v : Verdict) : p.stamp i code v = p := by
  unfold Pass.stamp DB.update
  cases here : p.db.openings.get i with
  | none => rfl
  | some o =>
    rw [here] at idle
    have none_ : o.candidate = none := idle
    have same : { o with candidate := none } = o := by rw [← none_]
    simp only [none_, Option.map_none, DB.put, same, Table.put_get here]

theorem tryAdmit_pass {o : Opening} {co : CandidateOpportunity} (v : Verdict)
    (found : b.state.1.openings.get i = some o) (candidate : o.candidate = some co) :
    (b.tryAdmit (.scheduler env) i v).pass =
      (b.pass.settleAdmission env i (admitCandidate env b.state.1 v co ⟨o, b.state.1.ledger⟩)).stamp i
        (admitCandidate env b.state.1 v co ⟨o, b.state.1.ledger⟩).1 v := by
  have ended : (Desk.scheduler env).admission b.state i v =
      (admitEnd o (admitCandidate env b.state.1 v co ⟨o, b.state.1.ledger⟩).1,
        ((⟨b.state.1, b.state.2, 0, none⟩ : Pass).settleAdmission env i
          (admitCandidate env b.state.1 v co ⟨o, b.state.1.ledger⟩)).db,
        ((⟨b.state.1, b.state.2, 0, none⟩ : Pass).settleAdmission env i
          (admitCandidate env b.state.1 v co ⟨o, b.state.1.ledger⟩)).index) := by
    simp only [Desk.scheduler, admitInStore, found, candidate]
  have listed := admitCandidate_code env b.state.1 v co ⟨o, b.state.1.ledger⟩
  unfold Tallied.tryAdmit
  rw [ended]
  generalize admitCandidate env b.state.1 v co ⟨o, b.state.1.ledger⟩ = outcome at listed ⊢
  obtain ⟨code, s⟩ := outcome
  simp only [List.mem_cons, List.not_mem_nil, or_false] at listed
  rcases listed with rfl | rfl | rfl | rfl
  · exact close_pass ..
  · exact close_pass ..
  · exact close_pass ..
  · exact close_pass ..

theorem verdict_idle (env : Env)
    (idle : (b.state.1.openings.get i).bind Opening.candidate = none) :
    Pass.verdict env b.state i = .refuse .notEvaluated "" := by
  unfold Pass.verdict
  split
  · rfl
  · rename_i o found
    rw [found] at idle
    have none_ : o.candidate = none := idle
    rw [none_]

theorem verdict_found {o : Opening} {co : CandidateOpportunity}
    (found : b.pass.db.openings.get i = some o) (candidate : o.candidate = some co) :
    Pass.verdict env b.state i = decideOpening env b.pass.context o co := by
  unfold Pass.verdict
  have stored : b.state.1.openings.get i = some o := found
  simp only [stored, candidate]
  rfl

theorem turn_idle (window : Nat) (idle : (b.pass.db.openings.get i).bind Opening.candidate = none) :
    (b.turn (.scheduler env) window i).pass = b.pass := by
  have refused : ((Desk.scheduler env).decide b.countConsidered.state i).admissible = false :=
    congrArg Verdict.admissible (verdict_idle env idle)
  unfold Tallied.turn
  dsimp only
  rw [if_pos refused]
  have same : b.countConsidered.pass = b.pass := rfl
  rw [close_pass, same, stamp_idle idle]

/-- A turn of the scheduler's run is a turn of its pass. -/
theorem turn_pass (window : Nat) (b : Tallied (DB × Indexes)) (i : OpportunityId) :
    (b.turn (.scheduler env) window i).pass = b.pass.consider env window i := by
  unfold Pass.consider
  split
  · rename_i missing
    exact turn_idle window (by rw [missing]; rfl)
  rename_i o found
  split
  · rename_i none_
    exact turn_idle window (by rw [found]; exact none_)
  rename_i co candidate
  have verdict : (Desk.scheduler env).decide b.countConsidered.state i =
      decideOpening env b.pass.context o co := verdict_found found candidate
  unfold Tallied.turn
  dsimp only
  rw [verdict]
  split
  · exact close_pass ..
  have count : b.countConsidered.countAdmissible.counts.admitted = b.pass.admitted := rfl
  have cap : b.countConsidered.countAdmissible.capHit = b.pass.capHit := rfl
  rw [count, cap]
  split
  · exact close_pass ..
  cases b.pass.capHit with
  | some code => exact close_pass ..
  | none => exact tryAdmit_pass (b := b.countConsidered.countAdmissible) _ found candidate

/-- The run of the scheduler over these candidates is its pass over them. -/
theorem run_pass (window : Nat) (b : Tallied (DB × Indexes)) (ids : List OpportunityId) :
    (Trace.run (Tallied.turn (.scheduler env) window) b ids).pass =
      ids.foldl (Pass.consider env window) b.pass := by
  induction ids generalizing b with
  | nil => rfl
  | cons i ids ih => rw [Trace.run_cons, ih, turn_pass, List.foldl_cons]

theorem ending_found {o : Opening} {co : CandidateOpportunity}
    (found : b.pass.db.openings.get i = some o) (candidate : o.candidate = some co) :
    b.ending (.scheduler env) i = admitEnd o (admitCandidate env b.pass.db
      (decideOpening env b.pass.context o co) co ⟨o, b.pass.db.ledger⟩).1 := by
  have verdict : (Desk.scheduler env).decide b.state i = decideOpening env b.pass.context o co :=
    verdict_found found candidate
  have stored : b.state.1.openings.get i = some o := found
  unfold Tallied.ending
  rw [verdict]
  simp only [Desk.scheduler, admitInStore, stored, candidate]
  rfl

theorem admits_iff_granted (window : Nat) (b : Tallied (DB × Indexes)) (i : OpportunityId) :
    b.pass.admits env window i = true ↔
      b.Tries (.scheduler env) window i ∧ (b.ending (.scheduler env) i).granted = true := by
  have idle (none_ : (b.pass.db.openings.get i).bind Opening.candidate = none) :
      ¬ b.Tries (.scheduler env) window i := by
    rintro ⟨open_, -⟩
    have refused : ((Desk.scheduler env).decide b.state i).admissible = false :=
      congrArg Verdict.admissible (verdict_idle env none_)
    rw [refused] at open_
    cases open_
  unfold Pass.admits
  split
  · rename_i missing
    exact iff_of_false (by simp) fun tried => idle (by rw [missing]; rfl) tried.1
  rename_i o found
  split
  · rename_i none_
    exact iff_of_false (by simp) fun tried => idle (by rw [found]; exact none_) tried.1
  rename_i co candidate
  have verdict : (Desk.scheduler env).decide b.state i = decideOpening env b.pass.context o co :=
    verdict_found found candidate
  have granted (code : AdmissionReason) : (admitEnd o code).granted = true ↔ code = .admitted := by
    cases code <;> simp [admitEnd, AdmitEnd.granted]
  rw [ending_found found candidate, granted]
  unfold Tallied.Tries
  rw [verdict]
  simp only [Bool.and_eq_true, decide_eq_true_eq, Option.isNone_iff_eq_none, and_assoc]
  rfl

/-- What the run logs as reserved are the admissions of the pass. -/
theorem run_reserved (window : Nat) (b : Tallied (DB × Indexes)) (caps : b.CapsOnly)
    (ids : List OpportunityId) :
    (Trace.run (Tallied.turn (.scheduler env) window) b ids).reserved =
      b.reserved ++ b.pass.admissions env window ids := by
  induction ids generalizing b with
  | nil => simp [Pass.admissions]
  | cons i ids ih =>
    rw [Trace.run_cons, ih _ (Tallied.turn_caps i caps), Tallied.turn_reserved i caps, turn_pass,
      Pass.admissions]
    by_cases admitted : b.pass.admits env window i = true
    · rw [if_pos ((admits_iff_granted window b i).mp admitted), if_pos admitted, List.append_assoc]
      rfl
    · rw [if_neg fun tried => admitted ((admits_iff_granted window b i).mpr tried), if_neg admitted]

/-- The books of a run that begins with the pass `db` opens. -/
def DB.books (env : Env) (window : Nat) (db : DB) : Tallied (DB × Indexes) :=
  Trace.run (Tallied.turn (.scheduler env) window)
    (.start ((db.openPass env).db, (db.openPass env).index)) db.ordered

theorem schedule_books (env : Env) (window : Nat) (db : DB) :
    (db.books env window).pass.db.enqueueAll env = schedule env window db ∧
      (db.books env window).reserved = db.admissions env window := by
  constructor
  · exact congrArg (fun p => p.db.enqueueAll env) (run_pass window _ db.ordered)
  · refine (run_reserved window _ ?_ db.ordered).trans (List.nil_append _)
    intro c hit
    cases hit

/-- On the store an admission fails by a conflict only, and it does when the caps have room and
another application row has the job id of an opening without a row to go on with. -/
theorem clean_iff {o : Opening} {co : CandidateOpportunity}
    (found : b.pass.db.openings.get i = some o) (candidate : o.candidate = some co)
    (kind : ∀ item, o.prepare = some item → item.action = .prepare) :
    b.Clean (.scheduler env) window i ↔ (b.Tries (.scheduler env) window i →
      capFull b.pass.db.policy (b.pass.db.balance env) = none → o.conflicts = false) := by
  refine forall_congr' fun tries => ?_
  have verdict : (Desk.scheduler env).decide b.state i = decideOpening env b.pass.context o co :=
    verdict_found found candidate
  have admitted : (decideOpening env b.pass.context o co).code = .admitted := by
    have open_ := tries.1
    rw [verdict] at open_
    simpa [Verdict.admissible] using open_
  obtain ⟨daily, weekly⟩ := caps_of_admitted admitted
  rw [ending_found found candidate]
  have tried : Tried env b.pass.db o b.pass.db.ledger (admitCandidate env b.pass.db
      (decideOpening env b.pass.context o co) co ⟨o, b.pass.db.ledger⟩) :=
    admit_tried daily weekly kind
  generalize admitCandidate env b.pass.db (decideOpening env b.pass.context o co) co
    ⟨o, b.pass.db.ledger⟩ = outcome at tried ⊢
  cases tried with
  | full cap ledger' is same =>
    have full : capFull b.pass.db.policy (b.pass.db.balance env) = some cap := is
    refine iff_of_true ?_ fun room => ?_
    · unfold capFull at full
      split at full
      · cases full
        trivial
      split at full
      · cases full
        trivial
      · cases full
    · rw [full] at room
      cases room
  | conflict room taken =>
    refine iff_of_false id fun free => ?_
    rw [free room] at taken
    cases taken
  | granted o' ledger' room free => exact iff_of_true trivial fun _ => free

end Scheduler

/-! ### A job that another row has -/

def DB.single (o : Opening) : DB where
  now := 0
  policy := .initial
  switches := []
  live := true
  answersAt := none
  openings := ⟨[(1, o)], by simp⟩
  ledger := .empty

/-- One opening; the job of its posting is another row's. -/
def DB.taken : DB := .single { Opening.strong 1 "Acme" "Engineer" with jobTaken := true }

/-- The run admits the candidate and finds it already queued; it reserves nothing. -/
theorem conflict_counted_twice :
    ¬ Tallied.Balanced (.scheduler .utc) 1 (.start (DB.taken, DB.taken.indexes .utc))
      DB.taken.ordered := by
  rintro ⟨-, reserved, -⟩
  revert reserved
  decide +kernel

end RangeApply
