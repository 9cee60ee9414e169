import RangeApply.Captures
import RangeApply.Shown

/-! An application from its form to the click: what is found on the page is mapped and stored, what
blocks is left to the candidate, and what is submitted holds every required answer. -/
namespace RangeApply.Playwright
open Captures

/-- How far an item got: the form that was found and its answers, the snapshots that are stored, how
the executor ended and what it did with the mapped form. -/
structure Applied (ω δ : Type) where
  form : Option FormSnapshot
  answers : List FieldAnswer
  forms : Snapshots δ
  out : Except Failure StoppedResult
  acts : List Act
  session : Session ω

section Apply
variable {ω δ : Type} [DecidableEq δ] (env : FormEnv) (digest : List FieldShape → δ)
variable (printable : Char → Bool) (b : Browser ω) (x : Executor) (package : Package)
variable (materials : ExecutionPackage) (gate : Gate ω)

/-- A page that could not be prepared; nothing was pressed. -/
def unprepared : Failure → StoppedResult
  | .executor e =>
    { ExecutionResult.plain (if e.retryable then .retryableFailure else .permanentFailure) false
        e.errorClass e.message with
      stoppedAt := none, remainingSteps := [] }
  | .other e =>
    { ExecutionResult.plain .retryableFailure false .executorCrash
        (clip 500 s!"prepare crashed: {e.name}: {String.ofList e.text}") with
      stoppedAt := none, remainingSteps := [] }

def needsCandidate (count : ℕ) : StoppedResult :=
  stopped .needsUserInput false none s!"{count} required field(s) need the candidate" "form_mapping"

def needsPerson (count : ℕ) : StoppedResult :=
  { noResult .handoff false with
    handoffReason := some .unknownRequiredField
    message := some s!"{count} required field(s) cannot be filled safely"
    stoppedAt := some "form_mapping"
    remainingSteps := ["answer the unknown field(s)", "submit"] }

/-- `ExecutionService.execute`, from `prepare` to the end of the executor. -/
def applyItem (forms : Snapshots δ) (s : Session ω) : Applied ω δ :=
  match prepare env.unicode b package s with
  | (.error e, s) => ⟨none, [], forms, .ok (unprepared e), [], s⟩
  | (.ok form, s) =>
    let captured := captureForm env digest (form.fields.map (·.toFormField)) materials forms
    let blocked := blocking captured.2
    if form.handoff = none ∧ blocked.1 ≠ 0 then
      ⟨some form, captured.2, captured.1, .ok (needsCandidate blocked.1), [], s⟩
    else if form.handoff = none ∧ blocked.2 ≠ 0 then
      ⟨some form, captured.2, captured.1, .ok (needsPerson blocked.2), [], s⟩
    else
      let ran := execute env.unicode printable b x package form captured.2 gate s
      ⟨some form, captured.2, captured.1, ran.1, ran.2.log.drop s.log.length, ran.2⟩

end Apply

section Laws
variable {ω δ : Type} [DecidableEq δ] {env : FormEnv} {digest : List FieldShape → δ}
variable {printable : Char → Bool} {b : Browser ω} {x : Executor} {package : Package}
variable {materials : ExecutionPackage} {gate : Gate ω} {forms : Snapshots δ} {s : Session ω}

/-- What a click of this item means: the form was mapped, and nothing of it was left to a person. -/
structure Entered (env : FormEnv) (digest : List FieldShape → δ) (printable : Char → Bool)
    (b : Browser ω) (x : Executor) (package : Package) (materials : ExecutionPackage)
    (gate : Gate ω) (forms : Snapshots δ) (s : Session ω) (form : FormSnapshot) (s₁ : Session ω) :
    Prop where
  prepared : prepare env.unicode b package s = (.ok form, s₁)
  clear : form.handoff = none →
    blocking (captureForm env digest (form.fields.map (·.toFormField)) materials forms).2 = (0, 0)
  ran : applyItem env digest printable b x package materials gate forms s =
    let captured := captureForm env digest (form.fields.map (·.toFormField)) materials forms
    let ran := execute env.unicode printable b x package form captured.2 gate s₁
    ⟨some form, captured.2, captured.1, ran.1, ran.2.log.drop s₁.log.length, ran.2⟩

theorem unprepared_unattempted (e : Failure) : (unprepared e).submitAttempted = false := by
  cases e <;> rfl

theorem applyItem_pressed
    (pressed : attempted
      (applyItem env digest printable b x package materials gate forms s).out = true) :
    ∃ form s₁, Entered env digest printable b x package materials gate forms s form s₁ := by
  unfold applyItem at pressed
  split at pressed
  · next e s₁ failed =>
    exact absurd ((unprepared_unattempted e).symm.trans pressed) Bool.false_ne_true
  next form s₁ prepared =>
  dsimp only at pressed
  split at pressed
  · cases pressed
  next asked =>
  split at pressed
  · cases pressed
  next reviewed =>
  refine ⟨form, s₁, prepared, fun free => ?_, ?_⟩
  · refine Prod.ext ?_ ?_
    · exact not_not.mp fun some_ => asked ⟨free, some_⟩
    · exact not_not.mp fun some_ => reviewed ⟨free, some_⟩
  · unfold applyItem
    rw [prepared]
    dsimp only
    rw [if_neg asked, if_neg reviewed]

/-- The field was filled, in its own control when its name is its own; or it has no control, on a
page that was left to a person before it was mapped. -/
inductive Submitted (form : FormSnapshot) (acts : List Act) (field : PageField)
    (answer : FieldAnswer) : Prop
  | filled {control : PageField × Text} (found : controlOf form answer = some control)
    (answered : answer.status = .answered) (put : .filled control.2 answer.label ∈ acts)
    (own : ∀ name ≠ [], field.externalId = some name →
      (∀ g ∈ form.fields, g.externalId = some name → g = field) → control.1 = field)
  | beyond (wall : form.handoff ≠ none) (away : controlOf form answer = none)
    (unanswered : answer.status ≠ .answered)

theorem targetOf_named {form : FormSnapshot} {field : PageField} {answer : FieldAnswer}
    {name : Text} (some_ : name ≠ []) (named : answer.externalId = some name)
    (own : field.externalId = some name) (member : field ∈ form.fields)
    (only_ : ∀ g ∈ form.fields, g.externalId = some name → g = field) :
    targetOf form answer = some field := by
  have found : (form.fields.reverse.find? fun f => decide (f.externalId = some name)) =
      some field := by
    cases at_ : form.fields.reverse.find? fun f => decide (f.externalId = some name) with
    | none =>
      have no := List.find?_eq_none.mp at_ field (List.mem_reverse.mpr member)
      simp [own] at no
    | some g =>
      have is := List.find?_some at_
      rw [only_ g (List.mem_reverse.mp (List.mem_of_find?_eq_some at_)) (by simpa using is)]
  unfold targetOf
  rw [named, Option.bind_some, Text.orNone, if_neg some_, Option.bind_some, found, Option.some_or]

variable (env digest printable b x package materials gate)

end Laws

/-! ### The posting -/

section Example

def acmeMaterials : ExecutionPackage where
  company := "Acme".ascii
  resume := some ["resume:1"]
  coverLetter := none
  answers := []
  profile := ⟨[(.email, "a@b.c".ascii)], []⟩
  bank := []

def acmeItem : Applied Bool (List FieldShape) :=
  applyItem plainEnv id (fun _ => true) (desk "Apply here" "Thank you for applying") liveExecutor
    acmePackage acmeMaterials (some fun w => (.ok [], w)) (Captures.run plainEnv id [])
    (history .ascii (fun _ => true) (desk "Apply here" "Thank you for applying") liveExecutor
      acmePackage [] false)

example : acmeItem.answers.map (·.answer) = [some "a@b.c".ascii, none] ∧
    outcomeOf acmeItem.out = some .submitted := by decide +kernel

end Example

end RangeApply.Playwright
