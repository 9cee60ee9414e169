import RangeApply.Invocations

/-! Every run of the executor: any calls of `prepare` and `execute` for an application, in a browser
that may answer anything or fail at any command. -/
namespace RangeApply.Playwright
open Program

/-! ### Calls -/

/-- What a worker asks of the executor. -/
inductive Call (ω : Type)
  | prepare
  | execute (form : FormSnapshot) (answers : List FieldAnswer) (gate : Gate ω)

section Calls
variable {ω : Type} (u : Unicode) (printable : Char → Bool) (b : Browser ω) (x : Executor)
variable (package : Package)

def Call.gated : Call ω → Bool
  | .prepare => true
  | .execute _ _ gate => gate.isSome

/-- The commands that the answers of a call allow. -/
def Call.delivers : Call ω → Touch → Prop
  | .prepare, _ => False
  | .execute form answers _, t => DeliversAny u x package form answers t

def perform (s : Session ω) : Call ω → Session ω
  | .prepare => (prepare u b package s).2
  | .execute form answers gate => (execute u printable b x package form answers gate s).2

/-- The session after some calls, from a new executor. -/
def history (calls : List (Call ω)) (w : ω) : Session ω :=
  calls.foldl (perform u printable b x package) ⟨w, [], none, []⟩

/-- Submit is pressed only out of a dry run, and past the gate if every call has one. -/
def rulesOf (gated : Bool) : Rules := ⟨u, strategyFor package.atsFamily, !x.dryRun, gated⟩

/-- The log so far is conducted, and an open page is at the stage its state says. -/
def Conducted (rules : Rules) (delivers : Touch → Prop) (s : Session ω) : Prop :=
  ∃ n stage, Steps rules delivers (Usable x package) n .away stage s.log ∧ Standing rules s stage

end Calls

section History
variable {ω : Type} {u : Unicode} {printable : Char → Bool} {b : Browser ω} {x : Executor}
variable {package : Package} {gated : Bool} {delivers : Touch → Prop} {s : Session ω}

theorem Steps.mono {rules : Rules} {delivers' : Touch → Prop} {usable : Text → FileInfo → Prop}
    {n : Nat} {start final : Stage} {acts : List Act}
    (steps : Steps rules delivers usable n start final acts) (more : ∀ t, delivers t → delivers' t) :
    Steps rules delivers' usable n start final acts :=
  { steps with touches := fun t member => more t (steps.touches t member) }

theorem standing_none {rules : Rules} (stage : Stage) (none_ : s.run = none) :
    Standing rules s stage := by
  intro state here
  rw [none_] at here
  cases here

theorem conducted_prepare (conducted : Conducted x package (rulesOf u x package gated) delivers s) :
    Conducted x package (rulesOf u x package gated) delivers (prepare u b package s).2 := by
  obtain ⟨n, stage, steps, -⟩ := conducted
  have ends : (prepare u b package).Runs Session.log s
      (fun _ acts s' => ∃ final, Steps (rulesOf u x package gated) delivers (Usable x package) 0 stage
        final acts ∧ Standing (rulesOf u x package gated) s' final)
      fun _ acts s' => ∃ final, Steps (rulesOf u x package gated) delivers (Usable x package) 0 stage
        final acts ∧ Standing (rulesOf u x package gated) s' final := by
    refine (prepare_runs delivers (Usable x package) (rulesOf u x package gated) package stage
      rfl).mono ?_ ?_
    · rintro _ acts s' ⟨state, final, run, ready, steps'⟩
      refine ⟨final, steps', fun state' here _ => ?_⟩
      obtain rfl := Option.some.inj (run.symm.trans here)
      exact ready
    · rintro _ acts s' ⟨-, ⟨final, steps'⟩, none_⟩
      exact ⟨final, steps', standing_none final none_⟩
  obtain ⟨acts, adds, final, steps', standing⟩ := ends.always
  refine ⟨n + 0, final, ?_, standing⟩
  rw [adds]
  exact steps.append steps'

/-- One call of `execute`, wherever the executor stands. -/
theorem conducted_execute {form : FormSnapshot} {answers : List FieldAnswer} {gate : Gate ω}
    (conducted : Conducted x package (rulesOf u x package gated) delivers s)
    (guarded_ : gated = true → gate.isSome = true)
    (allowed : ∀ t, DeliversAny u x package form answers t → delivers t) :
    Conducted x package (rulesOf u x package gated) delivers
      (execute u printable b x package form answers gate s).2 := by
  obtain ⟨n, stage, steps, standing⟩ := conducted
  have ends : (execute u printable b x package form answers gate).Runs Session.log s
      (fun _ acts s' => ∃ n' final, Steps (rulesOf u x package gated) delivers (Usable x package) n'
        stage final acts ∧ Standing (rulesOf u x package gated) s' final)
      fun _ acts s' => ∃ n' final, Steps (rulesOf u x package gated) delivers (Usable x package) n'
        stage final acts ∧ Standing (rulesOf u x package gated) s' final := by
    refine (execute_runs (rulesOf u x package gated) standing rfl rfl guarded_).mono ?_ ?_
    · rintro _ acts s' ⟨run, closed, executed⟩
      cases executed.ended with
      | held final unpressed steps' unsent =>
        exact ⟨0, final, steps'.mono allowed, standing_closed final closed⟩
      | sent state strategy unsent steps' sent =>
        exact ⟨1, .sent, steps'.mono allowed, standing_closed .sent closed⟩
    · rintro _ acts s' ⟨-, ⟨run, closed⟩, ⟨final, steps'⟩⟩
      exact ⟨0, final, steps'.mono allowed, standing_closed final closed⟩
  obtain ⟨acts, adds, n', final, steps', standing'⟩ := ends.always
  refine ⟨n + n', final, ?_, standing'⟩
  rw [adds]
  exact steps.append steps'

/-- The invariant of all runs. -/
theorem conducted_history (calls : List (Call ω)) (w : ω)
    (gates : gated = true → ∀ call ∈ calls, call.gated = true)
    (allowed : ∀ call ∈ calls, ∀ t, call.delivers u x package t → delivers t) :
    Conducted x package (rulesOf u x package gated) delivers
      (history u printable b x package calls w) := by
  unfold history
  have start : Conducted x package (rulesOf u x package gated) delivers
      (⟨w, [], none, []⟩ : Session ω) := ⟨0, .away, .nil, fun _ here => by cases here⟩
  revert start
  generalize (⟨w, [], none, []⟩ : Session ω) = s
  intro start
  induction calls generalizing s with
  | nil => exact start
  | cons call calls ih =>
    refine ih (fun on c member => gates on c (List.mem_cons_of_mem call member))
      (fun c member => allowed c (List.mem_cons_of_mem call member)) _ ?_
    cases call with
    | prepare => exact conducted_prepare start
    | execute form answers gate =>
      exact conducted_execute start (fun on => gates on _ List.mem_cons_self)
        (allowed _ List.mem_cons_self)

end History

/-! ### What never happens -/

section Laws
variable {ω : Type} (u : Unicode) (printable : Char → Bool) (b : Browser ω) (x : Executor)
variable (package : Package)

/-- In every run each act is one its stage permits: the form is touched only after a look that shows
it behind no wall, submit is pressed only out of a dry run and right after a look at an untouched
form and the word of the gate, and from the click on the page is only watched. -/
theorem history_guarded (calls : List (Call ω)) (w : ω) :
    Trace.Guarded (rulesOf u x package (calls.all (·.gated))).next
      (rulesOf u x package (calls.all (·.gated))).permits .away
      (history u printable b x package calls w).log := by
  have conducted : Conducted x package (rulesOf u x package (calls.all (·.gated))) (fun _ => True)
      (history u printable b x package calls w) :=
    conducted_history calls w (fun on => List.all_eq_true.mp on) fun _ _ _ _ => trivial
  obtain ⟨n, stage, steps, -⟩ := conducted
  exact steps.guarded

variable (form : FormSnapshot) (answers : List FieldAnswer) (gate : Gate ω)

/-- A further call of `execute`, after any others. -/
def further (calls : List (Call ω)) (w : ω) : Except Failure StoppedResult × Session ω :=
  execute u printable b x package form answers gate (history u printable b x package calls w)

/-- What it adds to the log. -/
def added (calls : List (Call ω)) (w : ω) : List Act :=
  (further u printable b x package form answers gate calls w).2.log.drop
    (history u printable b x package calls w).log.length

theorem further_ends (calls : List (Call ω)) (w : ω) : ∃ start,
    Outcome (Returned (rulesOf u x package false) x package form answers start)
      (Raised (rulesOf u x package false) x package form answers gate start)
      (further u printable b x package form answers gate calls w).1
      (added u printable b x package form answers gate calls w)
      (further u printable b x package form answers gate calls w).2 := by
  have conducted : Conducted x package (rulesOf u x package false) (fun _ => True)
      (history u printable b x package calls w) :=
    conducted_history calls w nofun fun _ _ _ _ => trivial
  obtain ⟨n, stage, -, standing⟩ := conducted
  have runs : (execute u printable b x package form answers gate).Runs Session.log
      (history u printable b x package calls w)
      (Returned (rulesOf u x package false) x package form answers stage)
      (Raised (rulesOf u x package false) x package form answers gate stage) :=
    execute_runs (rulesOf u x package false) standing rfl rfl nofun
  obtain ⟨acts, adds, outcome⟩ := runs
  have same : added u printable b x package form answers gate calls w = acts := by
    unfold added further
    rw [adds, List.drop_left]
  rw [same]
  exact ⟨stage, outcome⟩

/-- How the service sees a call end. -/
def endingOf (v : VerificationResult) : Except Failure StoppedResult → Ending
  | .ok r => .returned r.toExecutionResult v
  | .error (.executor e) => .raised e.beforeSubmit e.retryable e.errorClass e.message
  | .error (.other e) => .crashed s!"{e.name}: {String.ofList e.text}"

/-- An exception that is not the executor's own. -/
def crashed : Except Failure StoppedResult → Bool
  | .error (.other _) => true
  | _ => false

/-- The clicks on submit among the acts. -/
def presses (acts : List Act) : Nat := acts.countP (·.presses)

/-- What a call says of its click is so; only a crash of the gate is taken for one. -/
structure Truthful (x : Executor) (gate : Gate ω) (v : VerificationResult)
    (out : Except Failure StoppedResult) (acts : List Act) : Prop where
  once : presses acts ≤ 1
  dry : x.dryRun = true → presses acts = 0
  reported : ((endingOf v out).result x.dryRun).submitAttempted = true ↔
    presses acts = 1 ∨ (crashed out = true ∧ x.dryRun = false)
  crashes : crashed out = true → gate.isSome = true ∧ presses acts = 0
  results : ∀ r, out = .ok r → r.outcome = .submitted ∨ r.outcome = .unknown → presses acts = 1

theorem verified_attempted (r : ExecutionResult) (v : VerificationResult) :
    (r.verified v).submitAttempted = r.submitAttempted := by
  unfold ExecutionResult.verified
  split <;> rfl

/-- The result of a call that pressed submit. -/
def attempted : Except Failure StoppedResult → Bool
  | .ok r => r.submitAttempted
  | .error _ => false

end Laws

end RangeApply.Playwright
