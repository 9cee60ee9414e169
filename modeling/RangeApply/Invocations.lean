import RangeApply.Sending
import RangeApply.Service
import RangeApply.Width

/-! One call of `execute`: what it did to the page, what it says of that, and what `verify` makes of
it. -/
namespace RangeApply.Playwright
open Program

section Run
variable {ω : Type} {b : Browser ω} {s : Session ω} {rules : Rules} {x : Executor}
variable {package : Package} {form : FormSnapshot} {answers : List FieldAnswer} {gate : Gate ω}
variable {printable : Char → Bool}

/-- A run held before the click, or one that pressed submit once. -/
inductive Ended (rules : Rules) (delivers : Touch → Prop) (usable : Text → FileInfo → Prop)
    (start : Stage) (r : StoppedResult) (acts : List Act) (run : Option RunState) : Prop
  | held (final : Stage) (unpressed : Unpressed r)
    (steps : Steps rules delivers usable 0 start final acts)
    (unsent : ∀ state, run = some state → state.postSubmit = none)
  | sent (state : RunState) (strategy : state.strategy = rules.strategy)
    (unsent : state.postSubmit = none) (steps : Steps rules delivers usable 1 start .sent acts)
    (sent : Sent rules.unicode state r acts run)

theorem Halted.ended {delivers : Touch → Prop} {usable : Text → FileInfo → Prop} {start : Stage}
    {r : StoppedResult} {acts : List Act} (halted : Halted rules delivers usable start acts s)
    (unpressed : Unpressed r) : Ended rules delivers usable start r acts s.run := by
  obtain ⟨final, steps⟩ := halted.steps
  exact .held final unpressed steps halted.unsent

theorem Ended.after {delivers : Touch → Prop} {usable : Text → FileInfo → Prop}
    {start middle : Stage} {r : StoppedResult} {acts more : List Act} {run : Option RunState}
    (ended : Ended rules delivers usable middle r more run)
    (steps : Steps rules delivers usable 0 start middle acts) :
    Ended rules delivers usable start r (acts ++ more) run := by
  cases ended with
  | held final unpressed steps' unsent => exact .held final unpressed (steps.append steps') unsent
  | sent state strategy unsent steps' sent =>
    have whole := steps.append steps'
    rw [Nat.zero_add] at whole
    exact .sent state strategy unsent whole (sent_later sent)

/-- The exceptions of a run: the executor's own, of before the click, or one of the gate. -/
def Excused (gate : Gate ω) (e : Failure) : Prop :=
  e.early ∨ gate.isSome = true ∧ ∃ x, e = .other x

theorem submit_runs (delivers : Touch → Prop) (usable : Text → FileInfo → Prop) (t : Tally)
    {state : RunState} {stage start : Stage} (ready : state.Ready rules stage)
    (typed : start = .clear ∨ start = .typed) (here : s.run = some state)
    (live : rules.live = !x.dryRun) (gated : rules.gated = true → gate.isSome = true) :
    (submit rules.unicode b x form gate t state).Runs Session.log s
      (fun r acts s' => Ended rules delivers usable start r acts s'.run)
      fun e acts s' => Excused gate e ∧ Halted rules delivers usable start acts s' := by
  refine Program.runs_bind (pastLateWall_runs delivers usable form ready typed here)
    (fun e _ _ ⟨early, halted⟩ => ⟨.inl early, halted⟩) ?_
  rintro (r | ⟨state, scan⟩) acts s₁ checked
  · obtain ⟨unpressed, halted⟩ := checked
    refine runs_pure ?_
    rw [List.append_nil]
    exact halted.ended unpressed
  obtain ⟨run₁, ready, steps⟩ := checked
  have halts {s' : Session ω} {final : Stage} {more : List Act} (same : s'.run = s₁.run)
      (later : Steps rules delivers usable 0 .clear final more) :
      Halted rules delivers usable .clear more s' := by
    refine ⟨⟨final, later⟩, fun state' run => ?_⟩
    obtain rfl := Option.some.inj ((same.trans run₁).symm.trans run)
    exact ready.unsent
  refine Program.runs_bind (findSubmit_runs _ _ _ _) (fun _ _ _ never => never.elim) ?_
  rintro (_ | selector) _ s₂ ⟨rfl, same₂⟩
  · exact runs_pure (((halts same₂ .nil).ended (unpressed_handoff ..)).after steps)
  dsimp only
  split
  · have unpressed : Unpressed (dryRunResult t) := unpressed_stopped (by decide) ..
    exact runs_pure (((halts same₂ .nil).ended unpressed).after steps)
  next real =>
  refine Program.runs_bind (askGate_runs delivers usable gate gated) ?_ ?_
  · rintro e _ s₃ ⟨excused, rfl, same₃⟩
    exact ⟨.inr excused, (halts (same₃.trans same₂) .nil).after steps⟩
  rintro failures asked s₃ ⟨same₃, final, steps', approved⟩
  have run₃ : s₃.run = some state := same₃.trans (same₂.trans run₁)
  split
  · have unpressed : Unpressed (gateResult failures) := unpressed_stopped (by decide) ..
    have held := (halts (same₃.trans same₂) steps').ended unpressed
    refine runs_pure ?_
    rw [List.append_nil]
    exact held.after steps
  next go =>
  refine (press_runs selector run₃).mono ?_ fun _ _ _ never => never.elim
  rintro r _ s₄ ⟨watched, rfl, watching, sent⟩
  have may : rules.permits final (.pressed selector) := by
    refine ⟨?_, approved (not_not.mp go)⟩
    rw [live]
    simpa using real
  have clicks := steps'.append (steps_pressed delivers usable may watching)
  have ended : Ended rules delivers usable .clear r (asked ++ .pressed selector :: watched) s₄.run :=
    .sent state ready.strategy ready.unsent (by simpa using clicks) (sent_later sent)
  exact ended.after steps

/-- What a run of the executor leaves: how it ended, and the required answers of a form that was
submitted. -/
structure Executed (rules : Rules) (x : Executor) (package : Package) (form : FormSnapshot)
    (answers : List FieldAnswer) (start : Stage) (r : StoppedResult) (acts : List Act)
    (run : Option RunState) : Prop where
  ended : Ended rules (DeliversAny rules.unicode x package form answers) (Usable x package) start r
    acts run
  settled : r.submitAttempted = true →
    ∀ answer ∈ answers, answer.required = true → Settled form acts answer

theorem Halted.executed {start : Stage} {r : StoppedResult} {acts : List Act}
    (halted : Halted rules (DeliversAny rules.unicode x package form answers) (Usable x package) start
      acts s) (unpressed : Unpressed r) :
    Executed rules x package form answers start r acts s.run := by
  refine ⟨halted.ended unpressed, fun attempted => ?_⟩
  rw [unpressed.attempted] at attempted
  cases attempted

theorem executeOpen_runs {state : RunState} {start : Stage} (ready : state.Ready rules start)
    (here : s.run = some state) (live : rules.live = !x.dryRun)
    (gated : rules.gated = true → gate.isSome = true) :
    (executeOpen rules.unicode printable b x package form answers gate state).Runs Session.log s
      (fun r acts s' => Executed rules x package form answers start r acts s'.run)
      fun e acts s' => Excused gate e ∧
        Halted rules (DeliversAny rules.unicode x package form answers) (Usable x package) start acts
          s' := by
  refine Program.runs_bind (pastWall_runs (DeliversAny rules.unicode x package form answers)
    (Usable x package) form ready here) (fun e _ _ ⟨early, halted⟩ => ⟨.inl early, halted⟩) ?_
  rintro (r | state) acts s₁ checked
  · obtain ⟨unpressed, halted⟩ := checked
    refine runs_pure ?_
    rw [List.append_nil]
    exact halted.executed unpressed
  obtain ⟨run₁, ready, steps⟩ := checked
  refine Program.runs_bind (fillForm_runs rules) ?_ ?_
  · rintro e typed s₂ ⟨early, typing, same₂⟩
    obtain ⟨final, -, steps'⟩ := typing .clear (.inl rfl)
    refine ⟨.inl early, ⟨final, steps.append steps'⟩, fun state' run => ?_⟩
    obtain rfl := Option.some.inj ((same₂.trans run₁).symm.trans run)
    exact ready.unsent
  rintro t typed s₂ ⟨typing, same₂, settled⟩
  obtain ⟨stage, front, steps'⟩ := typing .clear (.inl rfl)
  have filled := steps.append steps'
  have run₂ : s₂.run = some state := same₂.trans run₁
  refine runs_get ?_
  split
  · next r refused =>
    refine runs_pure ?_
    rw [List.append_nil]
    refine Halted.executed ⟨⟨stage, filled⟩, fun state' run => ?_⟩ (unpressed_refusal refused)
    obtain rfl := Option.some.inj (run₂.symm.trans run)
    exact ready.unsent
  next passes =>
  have complete := settled (complete_of_not_refused passes)
  refine (submit_runs (DeliversAny rules.unicode x package form answers) (Usable x package) t ready
    front run₂ live gated).mono ?_ ?_
  · intro r more s₃ ended
    have whole := ended.after filled
    rw [List.append_assoc] at whole
    refine ⟨whole, fun _ answer member required => ?_⟩
    exact ((complete answer member required).append more).later acts
  · intro e more s₃ ⟨excused, halted⟩
    have whole := halted.after filled
    rw [List.append_assoc] at whole
    exact ⟨excused, whole⟩

/-- Between two calls an open page is at the stage its state says. -/
def Standing (rules : Rules) (s : Session ω) (stage : Stage) : Prop :=
  ∀ state, s.run = some state → state.page = true → state.Ready rules stage

theorem standing_closed {run : Option RunState} (stage : Stage)
    (closed : s.run = run.map .closed) : Standing rules s stage := by
  intro state here page
  rw [closed] at here
  obtain ⟨state', -, rfl⟩ := Option.map_eq_some_iff.mp here
  cases page

theorem openState_runs (delivers : Touch → Prop) (usable : Text → FileInfo → Prop) {start : Stage}
    (standing : Standing rules s start) (strategy : strategyFor package.atsFamily = rules.strategy) :
    (openState rules.unicode b package).Runs Session.log s
      (fun state acts s' => s'.run = some state ∧
        ∃ final, state.Ready rules final ∧ Steps rules delivers usable 0 start final acts)
      (Unopened rules delivers usable start) := by
  refine runs_get ?_
  split
  · next state found =>
    obtain ⟨here, page⟩ := Option.filter_eq_some_iff.mp found
    exact runs_pure ⟨here, start, standing state here page, .nil⟩
  · exact open_runs delivers usable package start strategy

/-- The page is closed, whatever the call did. -/
def Returned (rules : Rules) (x : Executor) (package : Package) (form : FormSnapshot)
    (answers : List FieldAnswer) (start : Stage) (r : StoppedResult) (acts : List Act)
    (s : Session ω) : Prop :=
  ∃ run, s.run = Option.map .closed run ∧ Executed rules x package form answers start r acts run

structure Raised (rules : Rules) (x : Executor) (package : Package) (form : FormSnapshot)
    (answers : List FieldAnswer) (gate : Gate ω) (start : Stage) (e : Failure) (acts : List Act)
    (s : Session ω) : Prop where
  excused : Excused gate e
  closed : ∃ run, s.run = Option.map .closed run
  steps : ∃ final, Steps rules (DeliversAny rules.unicode x package form answers) (Usable x package) 0
    start final acts

theorem execute_runs (rules : Rules) {start : Stage} (standing : Standing rules s start)
    (strategy : strategyFor package.atsFamily = rules.strategy) (live : rules.live = !x.dryRun)
    (gated : rules.gated = true → gate.isSome = true) :
    (execute rules.unicode printable b x package form answers gate).Runs Session.log s
      (Returned rules x package form answers start)
      (Raised rules x package form answers gate start) := by
  refine Program.runs_bind (openState_runs (DeliversAny rules.unicode x package form answers)
    (Usable x package) standing strategy) ?_ ?_
  · exact fun e acts s' ⟨early, steps, none_⟩ => ⟨.inl early, ⟨none, none_⟩, steps⟩
  rintro state acts s₁ ⟨run₁, stage, ready, steps⟩
  refine runs_finally (fun _ => rfl) ((executeOpen_runs ready run₁ live gated).mono ?_ ?_)
  · intro r more s₂ executed
    exact ⟨s₂.run, rfl, executed.ended.after steps, fun attempted answer member required =>
      (executed.settled attempted answer member required).later acts⟩
  · intro e more s₂ ⟨excused, halted⟩
    exact ⟨excused, ⟨s₂.run, rfl⟩, (halted.after steps).steps⟩

end Run

end RangeApply.Playwright
