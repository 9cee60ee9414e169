import RangeApply.Trace

/-! Check-then-write on one shared flag. A client reads the flag, goes on while it is unset, and
sets it later by a write that does not look again. Any number of clients interleave. -/
namespace Latch

inductive Pc
  | idle | armed | fired | refused
  deriving DecidableEq

structure State (ι : Type*) where
  set : Bool
  pc : ι → Pc

inductive Act (ι : Type*)
  /-- Read the flag, and be refused when it is set. -/
  | read (i : ι)
  /-- Give up for a reason of the client's own. -/
  | refuse (i : ι)
  /-- Set the flag, whatever it is by now. -/
  | fire (i : ι)
  /-- Nothing that concerns the flag. -/
  | skip

section Step
variable {ι : Type*} [DecidableEq ι]

def State.move (s : State ι) (i : ι) (pc : Pc) : State ι :=
  { s with pc := fun j => if j = i then pc else s.pc j }

def step (s : State ι) : Act ι → State ι
  | .read i => if s.pc i = .idle then s.move i (if s.set then .refused else .armed) else s
  | .refuse i => if s.pc i = .idle ∨ s.pc i = .armed then s.move i .refused else s
  | .fire i => if s.pc i = .armed then { s.move i .fired with set := true } else s
  | .skip => s

/-- A write that is made while the flag is still unset. -/
def Timely (s : State ι) : Act ι → Prop
  | .fire i => s.pc i = .armed → s.set = false
  | _ => True

def Exclusive (s : State ι) : Prop := ∀ i j, s.pc i = .fired → s.pc j = .fired → i = j

def State.Fresh (s : State ι) : Prop := ∀ i, s.pc i = .idle

variable {s : State ι}

theorem move_self (i : ι) (pc : Pc) : (s.move i pc).pc i = pc := if_pos rfl

theorem move_other {i j : ι} (pc : Pc) (other : j ≠ i) : (s.move i pc).pc j = s.pc j := if_neg other

theorem step_fired (a : Act ι) {j : ι} (fired : s.pc j = .fired) : (step s a).pc j = .fired := by
  cases a with
  | read i | refuse i | fire i =>
    simp only [step]
    split
    · rename_i here
      have other : j ≠ i := by
        rintro rfl
        simp [fired] at here
      simpa [State.move, other] using fired
    · exact fired
  | skip => exact fired

/-- Whoever still waits behind a set flag waits behind a client that has fired. -/
def Overtaken (s : State ι) : Prop :=
  ∀ i, s.pc i = .armed → s.set = true → ∃ j, j ≠ i ∧ s.pc j = .fired

theorem step_overtaken (a : Act ι) (overtaken : Overtaken s) : Overtaken (step s a) := by
  intro i armed set
  cases a with
  | read k =>
    simp only [step] at armed set
    split at armed
    · rename_i idle
      rw [if_pos idle] at set
      by_cases here : i = k
      · subst here
        rw [move_self] at armed
        have unset : s.set = true := set
        simp [unset] at armed
      · rw [move_other _ here] at armed
        obtain ⟨j, other, fired⟩ := overtaken i armed set
        exact ⟨j, other, step_fired _ fired⟩
    · rename_i busy
      rw [if_neg busy] at set
      obtain ⟨j, other, fired⟩ := overtaken i armed set
      exact ⟨j, other, step_fired _ fired⟩
  | refuse k =>
    simp only [step] at armed set
    split at armed
    · rename_i waiting
      rw [if_pos waiting] at set
      by_cases here : i = k
      · subst here
        rw [move_self] at armed
        contradiction
      · rw [move_other _ here] at armed
        obtain ⟨j, other, fired⟩ := overtaken i armed set
        exact ⟨j, other, step_fired _ fired⟩
    · rename_i busy
      rw [if_neg busy] at set
      obtain ⟨j, other, fired⟩ := overtaken i armed set
      exact ⟨j, other, step_fired _ fired⟩
  | fire k =>
    by_cases ready : s.pc k = .armed
    · have here : i ≠ k := by
        rintro rfl
        simp [step, ready, State.move] at armed
      exact ⟨k, here.symm, by simp [step, ready, State.move]⟩
    · simp only [step, if_neg ready] at armed set ⊢
      exact overtaken i armed set
  | skip => exact overtaken i armed set

/-- The clients that have fired, and that the flag shows it. -/
structure Settled (s : State ι) : Prop where
  exclusive : Exclusive s
  set : ∀ i, s.pc i = .fired → s.set = true

theorem step_settled (a : Act ι) (settled : Settled s) (timely : Timely s a) :
    Settled (step s a) := by
  have quiet {i : ι} {pc : Pc} (other : pc ≠ .fired) : Settled (s.move i pc) := by
    have before {j : ι} (fired : (s.move i pc).pc j = .fired) : s.pc j = .fired := by
      by_cases here : j = i
      · subst here
        rw [move_self] at fired
        exact absurd fired other
      · rwa [move_other _ here] at fired
    exact ⟨fun j k hj hk => settled.exclusive j k (before hj) (before hk),
      fun j hj => settled.set j (before hj)⟩
  cases a with
  | read i =>
    simp only [step]
    split
    · exact quiet (by split <;> simp)
    · exact settled
  | refuse i =>
    simp only [step]
    split
    · exact quiet (by simp)
    · exact settled
  | fire i =>
    simp only [step]
    split
    · rename_i armed
      have unset := timely armed
      -- the flag is unset, so nobody else has fired
      have alone {j : ι} (fired : (s.move i .fired).pc j = .fired) : j = i := by
        by_cases same : j = i
        · exact same
        · rw [move_other _ same] at fired
          have set := settled.set j fired
          rw [unset] at set
          contradiction
      exact ⟨fun j k hj hk => (alone hj).trans (alone hk).symm, fun _ _ => rfl⟩
    · exact settled
  | skip => exact settled

open Trace in
theorem run_fired (as : List (Act ι)) {j : ι} (fired : s.pc j = .fired) :
    (run step s as).pc j = .fired :=
  run_always (fun t : State ι => t.pc j = .fired) (fun _ a h => step_fired a h) fired as

open Trace in
/-- A write behind a set flag leaves two clients that have fired. -/
theorem timely_of_exclusive (overtaken : Overtaken s) (as : List (Act ι))
    (exclusive : Exclusive (run step s as)) : Guarded step Timely s as := by
  induction as generalizing s with
  | nil => trivial
  | cons a as ih =>
    refine ⟨?_, ih (step_overtaken a overtaken) exclusive⟩
    cases a with
    | fire i =>
      intro armed
      cases set : s.set with
      | false => rfl
      | true =>
        obtain ⟨j, other, fired⟩ := overtaken i armed set
        have here : (step s (.fire i)).pc i = .fired := by simp [step, armed, State.move]
        exact absurd (exclusive j i (run_fired as (step_fired _ fired)) (run_fired as here)) other
    | _ => trivial

open Trace in
/-- From a fresh start, at most one client fires exactly when every write is timely. -/
theorem exclusive_iff_timely (fresh : s.Fresh) (as : List (Act ι)) :
    Exclusive (run step s as) ↔ Guarded step Timely s as := by
  constructor
  · refine timely_of_exclusive (fun i armed => ?_) as
    rw [fresh i] at armed
    contradiction
  · intro timely
    have start : Settled s := by
      constructor
      · intro i j fired
        rw [fresh i] at fired
        contradiction
      · intro i fired
        rw [fresh i] at fired
        contradiction
    exact (run_invariant Settled (fun _ a settled ok => step_settled a settled ok) start timely).exclusive

end Step

/-! ### Systems that contain a latch -/

section Simulation
variable {ι σ α : Type*} [DecidableEq ι] (next : σ → α → σ) (view : σ → State ι)
  (act : σ → α → Act ι)

open Trace in
/-- A system each of whose steps is a step of the latch it contains: its runs are exclusive
exactly when its writes are timely. -/
theorem exclusive_iff_of_simulates (inv : σ → Prop) (kept : ∀ s a, inv s → inv (next s a))
    (simulates : ∀ s a, inv s → view (next s a) = step (view s) (act s a))
    {s : σ} (initial : inv s) (fresh : (view s).Fresh) (as : List α) :
    Exclusive (view (run next s as)) ↔ Guarded next (fun s a => Timely (view s) (act s a)) s as := by
  -- the acts of the run, in the states they are taken in
  have transfer (as : List α) : ∀ s, inv s → ∃ acts, view (run next s as) = run step (view s) acts ∧
      (Guarded next (fun s a => Timely (view s) (act s a)) s as ↔
        Guarded step Timely (view s) acts) := by
    induction as with
    | nil => exact fun s _ => ⟨[], rfl, Iff.rfl⟩
    | cons a as ih =>
      intro s here
      obtain ⟨acts, ends, guards⟩ := ih (next s a) (kept s a here)
      rw [simulates s a here] at ends guards
      exact ⟨act s a :: acts, ends, and_congr_right fun _ => guards⟩
  obtain ⟨acts, ends, guards⟩ := transfer as s initial
  rw [ends, guards]
  exact exclusive_iff_timely fresh acts

end Simulation

end Latch
