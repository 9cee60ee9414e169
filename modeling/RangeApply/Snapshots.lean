import RangeApply.Forms
import RangeApply.Rows

/-! The forms found for an application: what is stored of each field, what a candidate adds to it,
and what the executor is given. -/
namespace RangeApply

/-- What the fingerprint of a form digests of a field. -/
structure FieldShape where
  id : Option Text
  label : Text
  type : FieldType
  required : Bool
  options : List Text
  deriving DecidableEq

def FormField.shape (u : Unicode) (field : FormField) : FieldShape :=
  ⟨field.externalId, normalizeQuestion u field.label, field.fieldType, field.required,
    field.options.map fun o => normalizeQuestion u o.label⟩

/-- A stored field; its position is its place in the list. -/
structure FormFieldRow extends FieldAnswer where
  options : List FormOption

namespace FormFieldRow

def new (field : FormField) (answer : FieldAnswer) : FormFieldRow :=
  { answer with
    externalId := field.externalId
    label := field.label.take 512
    fieldType := field.fieldType
    required := field.required
    reason := clip 256 answer.reason
    options := field.options }

/-- What a later look at the same form makes of a stored field. -/
def refresh (row : FormFieldRow) (fresh : Option FieldAnswer) : FormFieldRow :=
  if row.source = .user then row
  else match fresh.filter (·.questionKey = row.questionKey) with
    | none => row
    | some answer =>
      { row with
        answer := answer.answer
        selectedValues := answer.selectedValues
        source := answer.source
        status := answer.status
        reason := clip 256 answer.reason
        artifactType := answer.artifactType
        preparationAnswer := answer.preparationAnswer
        evidenceKeys := answer.evidenceKeys }

/-- The field that options are matched against. -/
def field (row : FormFieldRow) : FormField :=
  ⟨none, row.label, row.fieldType, row.required, row.options⟩

/-- The candidate answers the field. -/
def say (u : Unicode) (row : FormFieldRow) (text : Text) : FormFieldRow :=
  let matched := matchOptions u row.field text
  { row with
    answer := some text
    source := .user
    status := .answered
    reason := "answered by the candidate"
    selectedValues :=
      if row.options = [] then row.selectedValues else if matched = [] then [text] else matched }

end FormFieldRow

/-- `blocking`: the required fields that need the candidate, and those that need a review. -/
def blocking (answers : List FieldAnswer) : ℕ × ℕ :=
  (answers.countP fun a => a.required && a.status = .needsUserInput,
    answers.countP fun a => a.required && a.status = .needsReview)

section Capture
variable {δ : Type} [DecidableEq δ] (env : FormEnv) (digest : List FieldShape → δ)

/-- The snapshots of an application, by fingerprint. -/
abbrev Snapshots (δ : Type) := Table δ (List FormFieldRow)

/-- `form_fingerprint`. -/
def formFingerprint (fields : List FormField) : δ := digest (fields.map (·.shape env.unicode))

/-- The fields of a form as they are stored after a look at it; fields that are stored already are
joined by their position. -/
def captureRows (fields : List FormField) (fresh : List FieldAnswer) :
    Option (List FormFieldRow) → List FormFieldRow
  | none => List.zipWith FormFieldRow.new fields fresh
  | some rows => rows.mapIdx fun i row => row.refresh fresh[i]?

/-- `capture_form`. -/
def captureForm (fields : List FormField) (package : ExecutionPackage) (forms : Snapshots δ) :
    Snapshots δ × List FieldAnswer :=
  let fingerprint := formFingerprint env digest fields
  let rows := captureRows fields (mapFields env fields package) (forms.get fingerprint)
  (forms.set fingerprint rows, rows.map (·.toFieldAnswer))

/-- `answer_field`; also whether an attempt that waits for the candidate goes on. -/
def answerField (fingerprint : δ) (position : ℕ) (text : Text) (status : ApplicationStatus)
    (forms : Snapshots δ) : Except Error (Snapshots δ × Bool) :=
  match forms.get fingerprint with
  | none => .error (.notFound "Form field not found")
  | some rows =>
    let text := Text.strip text
    if rows.length ≤ position then .error (.notFound "Form field not found")
    else if text = [] then .error (.validationFailed "Answer cannot be empty")
    else
      let rows := rows.modify position (·.say env.unicode text)
      let remaining := blocking (rows.map (·.toFieldAnswer))
      .ok (forms.put fingerprint rows,
        status = .needsUserInput ∧ remaining.1 + remaining.2 = 0)

end Capture

end RangeApply
