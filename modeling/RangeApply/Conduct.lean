import RangeApply.Clicking
import RangeApply.Trace

/-! What an executor may do, and when: the stages a page goes through, as its log tells them, and the
acts each stage permits. -/
namespace RangeApply.Playwright
open Program

/-! ### The stages of a page -/

/-- The form is away until a look shows one behind no wall; what is typed there asks for another
look before the gate. -/
inductive Stage
  | away | clear | typed | approved | sent
  deriving DecidableEq

structure Rules where
  unicode : Unicode
  strategy : Strategy
  live : Bool
  gated : Bool

namespace Rules
variable (rules : Rules)

/-- Only a person gets past what the scan shows. -/
def walled (scan : PageScan) : Bool :=
  (handoffCondition rules.unicode rules.strategy scan).any fun h => decide (h.1 ∈ personal)

def next (stage : Stage) : Act → Stage
  | .opened | .visited _ | .followed _ => .away
  | .looked scan =>
    if handoffCondition rules.unicode rules.strategy scan = none then .clear else .away
  | .read .. | .filled .. | .watched _ => stage
  | .touched _ => .typed
  | .rescanned scan => if rules.walled scan then .away else .clear
  | .asked failures => if failures = [] then .approved else .away
  | .pressed _ => .sent

def permits (stage : Stage) : Act → Prop
  | .opened => True
  | .visited _ | .followed _ => stage = .away
  | .looked _ => stage = .away ∨ stage = .clear
  | .read .. | .touched _ | .filled .. | .rescanned _ => stage = .clear ∨ stage = .typed
  | .asked _ => stage = .clear
  | .pressed _ =>
    rules.live = true ∧ (stage = .approved ∨ rules.gated = false ∧ stage = .clear)
  | .watched _ => stage = .sent

end Rules

def Act.presses : Act → Bool
  | .pressed _ => true
  | _ => false

/-- Every upload comes right after its document was read, and found as it has to be. -/
def Backed (usable : Text → FileInfo → Prop) (acts : List Act) : Prop :=
  ∀ past selector path rest, acts = past ++ .touched (.upload selector path) :: rest →
    ∃ earlier info, past = earlier ++ [.read path (some info)] ∧ usable path info

section Backed
variable {usable : Text → FileInfo → Prop} {acts more : List Act}

theorem backed_of_no_upload
    (none : ∀ selector path, .touched (.upload selector path) ∉ acts) : Backed usable acts := by
  rintro past selector path rest rfl
  exact absurd (by simp) (none selector path)

theorem Backed.append (first : Backed usable acts) (second : Backed usable more) :
    Backed usable (acts ++ more) := by
  intro past selector path rest whole
  rcases List.append_eq_append_iff.mp whole with ⟨middle, rfl, split⟩ | ⟨middle, split, tail⟩
  · obtain ⟨earlier, info, rfl, good⟩ := second middle selector path rest split
    exact ⟨acts ++ earlier, info, (List.append_assoc ..).symm, good⟩
  · cases middle with
    | nil =>
      obtain ⟨earlier, info, empty, -⟩ := second [] selector path rest tail.symm
      simp at empty
    | cons upload middle =>
      obtain ⟨rfl, -⟩ := List.cons.inj tail
      exact first past selector path middle split

end Backed

/-- From a stage the acts are permitted and lead to another, with so many clicks on submit among
them; what they type or upload is allowed. -/
structure Steps (rules : Rules) (delivers : Touch → Prop) (usable : Text → FileInfo → Prop)
    (clicks : Nat) (start final : Stage) (acts : List Act) : Prop where
  guarded : Trace.Guarded rules.next rules.permits start acts
  ends : Trace.run rules.next start acts = final
  clicks : acts.countP (·.presses) = clicks
  touches : ∀ t, .touched t ∈ acts → delivers t
  backed : Backed usable acts

namespace Steps
variable {rules : Rules} {delivers : Touch → Prop} {usable : Text → FileInfo → Prop}
variable {n n' : Nat} {start middle final : Stage} {acts more : List Act}

theorem nil : Steps rules delivers usable 0 start start [] where
  guarded := trivial
  ends := rfl
  clicks := rfl
  touches := by simp
  backed := backed_of_no_upload (by simp)

theorem append (first : Steps rules delivers usable n start middle acts)
    (second : Steps rules delivers usable n' middle final more) :
    Steps rules delivers usable (n + n') start final (acts ++ more) where
  guarded := by
    rw [Trace.guarded_append, first.ends]
    exact ⟨first.guarded, second.guarded⟩
  ends := by
    rw [Trace.run_eq_foldl, List.foldl_append, ← Trace.run_eq_foldl, ← Trace.run_eq_foldl,
      first.ends, second.ends]
  clicks := by rw [List.countP_append, first.clicks, second.clicks]
  touches := by
    intro t member
    rcases List.mem_append.mp member with earlier | later
    · exact first.touches t earlier
    · exact second.touches t later
  backed := first.backed.append second.backed

/-- One act that puts nothing in the form and does not press submit. -/
theorem single (a : Act) (permitted : rules.permits start a) (untouched : ∀ t, a ≠ .touched t)
    (unpressed : a.presses = false) :
    Steps rules delivers usable 0 start (rules.next start a) [a] where
  guarded := ⟨permitted, trivial⟩
  ends := rfl
  clicks := by simp [unpressed]
  touches := by
    intro t member
    exact absurd (List.mem_singleton.mp member).symm (untouched t)
  backed := by
    refine backed_of_no_upload fun selector path member => ?_
    exact untouched _ (List.mem_singleton.mp member).symm

/-- A dry run does not press submit. -/
theorem of_dry (steps : Steps rules delivers usable n start final acts) (dry : rules.live = false) :
    n = 0 := by
  rw [← steps.clicks, List.countP_eq_zero]
  have guarded := steps.guarded
  clear steps
  intro a member pressed
  induction acts generalizing start with
  | nil => cases member
  | cons first rest ih =>
    rcases List.mem_cons.mp member with rfl | later
    · cases a with
      | pressed selector =>
        have live : rules.live = true := guarded.1.1
        rw [dry] at live
        cases live
      | _ => cases pressed
    · exact ih guarded.2 later

end Steps

/-! ### What does not act -/

section Silent
variable {ω α β : Type} {b : Browser ω}

/-- The program only asks the world: nothing is logged, and an exception is the browser's. -/
def Silent (m : Drive ω α) : Prop :=
  ∀ s, m.Runs Session.log s (fun _ acts s' => acts = [] ∧ s'.run = s.run)
    fun e acts s' => (∃ x, e = .other x) ∧ acts = [] ∧ s'.run = s.run

theorem silent_pure (a : α) : Silent (pure a : Drive ω α) := fun _ => runs_pure ⟨rfl, rfl⟩

theorem silent_call (f : ω → Except Exn α × ω) : Silent (call f) := by
  intro s
  refine ⟨[], (List.append_nil _).symm, ?_⟩
  change Outcome _ _ ((f s.world).1.mapError Failure.other) _ _
  cases (f s.world).1 with
  | ok a => exact ⟨rfl, rfl⟩
  | error e => exact ⟨⟨e, rfl⟩, rfl, rfl⟩

theorem silent_peek (f : ω → α) : Silent (peek f) :=
  fun _ => ⟨[], (List.append_nil _).symm, rfl, rfl⟩

theorem Silent.bind {m : Drive ω α} {f : α → Drive ω β} (first : Silent m)
    (second : ∀ a, Silent (f a)) : Silent (m >>= f) := by
  intro s
  refine runs_bind (first s) (fun _ _ _ holds => holds) ?_
  rintro a _ s' ⟨rfl, same⟩
  rw [← same]
  exact second a s'

theorem Silent.orElse {m : Drive ω α} {handler : Failure → Drive ω α} (first : Silent m)
    (second : ∀ e, Silent (handler e)) : Silent (m.orElse handler) := by
  intro s
  refine runs_orElse (first s) ?_
  rintro e _ s' ⟨-, rfl, same⟩
  rw [← same]
  exact second e s'

theorem Silent.foldlM {f : α → β → Drive ω α} (round : ∀ a b, Silent (f a b)) (a : α)
    (bs : List β) : Silent (bs.foldlM f a) := by
  induction bs generalizing a with
  | nil => exact silent_pure a
  | cons c bs ih =>
    rw [List.foldlM_cons]
    exact (round a c).bind ih

theorem relaunchAfter_runs (u : Unicode) (e : Exn) (s : Session ω) :
    (relaunchAfter u b e).Runs Session.log s (fun _ acts s' => acts = [] ∧ s'.run = s.run)
      fun _ _ _ => False := by
  unfold relaunchAfter
  split
  · exact runs_modify (List.append_nil _).symm ⟨rfl, rfl⟩
  · exact runs_pure ⟨rfl, rfl⟩

theorem silent_scanFrame (u : Unicode) (best : Option Frame × PageScan) (frame : Frame) :
    Silent (scanFrame u b best frame) := by
  unfold scanFrame
  split
  · exact silent_pure _
  · exact ((silent_call _).bind fun _ => silent_pure _).orElse fun _ => silent_pure _

theorem silent_settleRound (u : Unicode) : Silent (settleRound u b) := by
  refine (silent_call _).bind fun scan => ?_
  split
  · exact silent_pure _
  · refine (silent_peek _).bind fun frames => ?_
    exact (Silent.foldlM (silent_scanFrame u) _ _).bind fun _ => silent_pure _

theorem silent_settleRounds (u : Unicode) (rounds : Nat) : Silent (settleRounds u b rounds) := by
  induction rounds with
  | zero => exact (silent_settleRound u).bind fun _ => silent_pure _
  | succ rounds ih =>
    refine (silent_settleRound u).bind fun round => ?_
    split
    · exact silent_pure _
    · exact (silent_call _).bind fun _ => ih

end Silent

end RangeApply.Playwright
