import RangeApply.Composer
import RangeApply.Diagnostics
import RangeApply.Executor

/-! How an answer is put in its control, and the fill of a form. -/
namespace RangeApply

/-- `search_terms`: what is typed into a searchable dropdown for an answer. -/
def searchTerms (u : Unicode) (text : Text) (category : String) : List Text :=
  let first := if ',' ∈ text then [Text.strip (text.takeWhile (· ≠ ','))] else []
  let word := (polarity u text).map fun yes => (if yes then "yes" else "no").ascii
  let level := if category = QuestionCategory.education.value then
      (degreeLevel u (normalizeQuestion u text)).map String.ascii
    else none
  let terms := Text.strip text :: first ++ word.toList ++ level.toList
  terms.foldl (fun seen term =>
    if term ≠ [] ∧ u.lower term ∉ seen.map u.lower then seen ++ [term] else seen) []

namespace Playwright

/-- What became of a control. -/
inductive Filled
  | filled | skipped | fileMissing
  deriving DecidableEq

section Filling
variable {ω : Type} (u : Unicode) (printable : Char → Bool) (b : Browser ω) (frame : Option Frame)

/-! ### A searchable dropdown -/

def loadingRe : Pattern := ignoringCase "^(loading|no (options|results)|type to search)"

def noOptionsRe : Pattern := ignoringCase "no (options|results)"

/-- The options that may be picked, of those that are visible. -/
def offered (shown : List Text) : List Text :=
  (shown.map Text.words).filter fun t => decide (t ≠ []) && (loadingRe.matchStart u t).isNone

/-- The rounds of `_wait_for_options`: the list is taken once it is the same twice. -/
def optionRounds : Nat → List Text → Drive ω (List Text)
  | 0, _ => pure []
  | rounds + 1, last => do
    call b.wait
    let shown ← call (b.options frame)
    let texts := offered u (shown.getD [])
    if texts ≠ [] then
      if texts = last then pure texts else optionRounds rounds texts
    else do
      let notice ← Program.orElse (call (b.notice frame)) fun _ => pure none
      if notice.any (noOptionsRe.found u) then pure [] else optionRounds rounds last

/-- `_wait_for_options`. -/
def waitForOptions : Drive ω (List Text) := do
  let rounds ← peek b.rounds
  optionRounds u b frame rounds []

/-- `_combobox_shows`. -/
def comboboxShows (selector chosen : Text) : Drive ω Bool := do
  let shown ← call (b.shows frame selector)
  pure (Text.occurs (normalizeQuestion u chosen) (normalizeQuestion u shown))

/-- One term of `_pick_combobox`: the options it brought, and the end if one of them was picked. -/
def tryTerm (selector label wanted : Text) (category : String) (term : Text) :
    Drive ω (List Text × Option Filled) := do
  touch b frame (.click selector)
  touch b frame (.fill selector [])
  touch b frame (.type selector term)
  let labels ← waitForOptions u b frame
  match chooseOption u labels wanted category with
  | none => pure (labels, none)
  | some chosen => do
    touch b frame (.option (labels.idxOf chosen))
    call b.wait
    if ← comboboxShows u b frame selector chosen then pure (labels, some .filled)
    else do
      noteFill label
        s!"chose {String.ofList (Diagnostics.Data.quoted printable chosen)} but the field does not show it"
      pure (labels, some .skipped)

def tryTerms (selector label wanted : Text) (category : String) :
    List Text → List Text → Drive ω (List Text × Option Filled)
  | [], seen => pure (seen, none)
  | term :: rest, seen => do
    let tried ← tryTerm u printable b frame selector label wanted category term
    match tried.2 with
    | some done => pure (seen, some done)
    | none => tryTerms selector label wanted category rest (if tried.1 = [] then seen else tried.1)

/-- `_pick_combobox`. -/
def pickCombobox (selector label wanted : Text) (category : String) : Drive ω Filled := do
  let tried ← tryTerms u printable b frame selector label wanted category
    (searchTerms u wanted category) []
  match tried.2 with
  | some done => pure done
  | none => do
    Program.orElse
      (do
        touch b frame (.fill selector [])
        touch b frame (.escape selector))
      fun _ => pure ()
    let among := if tried.1 = [] then "; the list showed nothing"
      else s!" among {tried.1.length} shown"
    noteFill label
      s!"no option named {String.ofList (Diagnostics.Data.quoted printable wanted)}{among}"
    pure .skipped

/-- The button is pressed, unless it reads pressed. -/
def pressButton (selector : Text) (i : Nat) : Drive ω Unit := do
  let pressed ← call (b.ariaPressed frame selector i)
  if pressed = some "true".ascii then pure ()
  else do
    touch b frame (.button selector i)
    call b.wait

/-- `_press_yesno`. -/
def pressYesno (selector label wanted : Text) : Drive ω Filled := do
  let buttons ← call (b.buttons frame selector)
  match buttons.findIdx? fun t =>
      decide (normalizeQuestion u t = normalizeQuestion u wanted) with
  | none => do
    noteFill label s!"no button reads {String.ofList (Diagnostics.Data.quoted printable wanted)}"
    pure .skipped
  | some i => do
    pressButton b frame selector i
    let pressed ← call (b.ariaPressed frame selector i)
    if pressed = some "true".ascii then pure .filled
    else do
      noteFill label (s!"pressed {String.ofList (Diagnostics.Data.quoted printable wanted)} " ++
        "but the button did not take")
      pure .skipped

/-! ### A document -/

/-- The document is there, and it is the one that was recorded. -/
def intact (expected : Option Expected) : Option FileInfo → Bool
  | none => false
  | some info =>
    decide (info.size ≠ 0) &&
      ((expected.bind (·.sha256)).all fun hash => decide (hash = "" ∨ info.sha256 = hash)) &&
      ((expected.bind (·.bytes)).all fun bytes => decide (bytes = 0 ∨ info.size = bytes))

/-- A document is read off the disk. -/
def readFile (path : Text) : Drive ω (Option FileInfo) := do
  let info ← peek (b.file path)
  write (.read path info)
  pure info

/-- A path is used only when the document there passes. -/
def checkedPath (path : Text) (expected : Option Expected) : Drive ω (Option Text) := do
  let info ← readFile b path
  pure (if intact expected info then some path else none)

/-- The document that stands in when the preparation rendered none. -/
def fallbackPath (x : Executor) (kind : String) : Option Text :=
  ((x.artifactFiles.lookup kind).bind Text.orNone).or
    ((if kind = "RESUME" then x.executionResumeFile
      else if kind = "COVER_LETTER" then x.executionCoverLetterFile
      else none).bind Text.orNone)

/-- The document of a kind, and what was recorded of it: the rendered one comes first. -/
def documentOf (x : Executor) (package : Package) (kind : String) : Option (Text × Option Expected) :=
  match (package.artifactFiles.lookup kind).bind Text.orNone with
  | some rendered => some (rendered, package.artifacts.lookup kind)
  | none => (fallbackPath x kind).map fun candidate => (x.expandUser candidate, none)

/-- `_artifact_path`. -/
def artifactPath (x : Executor) (package : Package) (artifactType : Option String) :
    Drive ω (Option Text) :=
  match (RangeApply.given artifactType).bind (documentOf x package) with
  | none => pure none
  | some (path, expected) => checkedPath b path expected

/-! ### A control -/

/-- The box of a group of boxes or buttons that has a value. -/
def boxOf (selector value : Text) : Text :=
  selector ++ "[value=\"".ascii ++ value ++ "\"]".ascii

def typedTypes : List FieldType := [.text, .textarea, .email, .phone, .numeric, .date]

def checkAll (selector : Text) : List Text → Drive ω Unit
  | [] => pure ()
  | value :: rest => do
    touch b frame (.check (boxOf selector value))
    checkAll selector rest

/-- Commands that leave the control filled. -/
def filling (m : Drive ω Unit) : Drive ω Filled := do
  m
  pure .filled

/-- What is looked for in a searchable dropdown. -/
def wantedOf (answer : FieldAnswer) : Option Text :=
  match answer.selectedValues with
  | value :: _ => Text.orNone value
  | [] => answer.answer.bind Text.orNone

/-- `_fill`. -/
def fill (x : Executor) (package : Package) (field : PageField) (selector : Text)
    (answer : FieldAnswer) : Drive ω Filled :=
  if field.fieldType = .combobox then
    match wantedOf answer with
    | none => pure .skipped
    | some wanted => pickCombobox u printable b frame selector field.label wanted answer.category
  else if field.fieldType = .yesno then
    match answer.selectedValues with
    | [] => pure .skipped
    | wanted :: _ => pressYesno u printable b frame selector field.label wanted
  else if field.fieldType = .file then do
    match ← artifactPath b x package answer.artifactType with
    | none => pure .fileMissing
    | some path => filling (touch b frame (.upload selector path))
  else if field.fieldType ∈ typedTypes then
    match answer.answer with
    | none => pure .skipped
    | some text => filling (touch b frame (.fill selector text))
  else if field.fieldType = .select then
    match answer.selectedValues with
    | [] => pure .skipped
    | value :: _ => filling (touch b frame (.select selector [value]))
  else if field.fieldType = .multiSelect then
    if answer.selectedValues = [] then pure .skipped
    else if field.inputType = some "checkbox".ascii then
      filling (checkAll b frame selector answer.selectedValues)
    else filling (touch b frame (.select selector answer.selectedValues))
  else if field.fieldType = .radio then
    match answer.selectedValues with
    | [] => pure .skipped
    | value :: _ => filling (touch b frame (.check (boxOf selector value)))
  else if field.fieldType = .checkbox then
    if answer.selectedValues = [] then pure .skipped
    else filling (touch b frame (.check selector))
  else do
    noteFill field.label "control type not operated"
    pure .skipped

/-! ### A form -/

/-- What became of the answers, by the labels of their fields. -/
structure Tally where
  filled : List Text
  skipped : List Text
  missingRequired : List Text
  fileMissing : List Text
  unfillableRequired : List Text

def Tally.empty : Tally := ⟨[], [], [], [], []⟩

/-- The field of an answer: by its name, then by its label; of several, the last. -/
def targetOf (form : FormSnapshot) (answer : FieldAnswer) : Option PageField :=
  ((answer.externalId.bind Text.orNone).bind fun name =>
      form.fields.reverse.find? fun f => decide (f.externalId = some name)).or
    (form.fields.reverse.find? fun f => decide (f.label = answer.label))

/-- The field of an answer, and where it is on the page. -/
def controlOf (form : FormSnapshot) (answer : FieldAnswer) : Option (PageField × Text) :=
  (targetOf form answer).bind fun f => (f.selector.bind Text.orNone).map fun s => (f, s)

/-- What an answer without a control counts as. -/
def Tally.lost (t : Tally) (answer : FieldAnswer) : Tally :=
  if answer.required ∧ answer.status = .answered then
    { t with missingRequired := t.missingRequired ++ [answer.label] }
  else t

/-- What a field without an answer counts as. -/
def Tally.unanswered (t : Tally) (answer : FieldAnswer) : Tally :=
  if answer.required then { t with missingRequired := t.missingRequired ++ [answer.label] }
  else { t with skipped := t.skipped ++ [answer.label] }

def Tally.count (t : Tally) (answer : FieldAnswer) : Filled → Tally
  | .filled => { t with filled := t.filled ++ [answer.label] }
  | .fileMissing =>
    if answer.required then { t with fileMissing := t.fileMissing ++ [answer.label] }
    else { t with skipped := t.skipped ++ [answer.label] }
  | .skipped =>
    { t with
      skipped := t.skipped ++ [answer.label]
      unfillableRequired :=
        if answer.required then t.unfillableRequired ++ [answer.label] else t.unfillableRequired }

def noteFilled (selector label : Text) (outcome : Filled) : Drive ω Unit :=
  if outcome = .filled then write (.filled selector label) else pure ()

variable (x : Executor) (package : Package) (form : FormSnapshot)

/-- One round of the fill loop. -/
def fillOne (t : Tally) (answer : FieldAnswer) : Drive ω Tally :=
  match controlOf form answer with
  | none => pure (t.lost answer)
  | some (field, selector) =>
    if answer.status ≠ .answered then pure (t.unanswered answer)
    else do
      let outcome ← guarded u b (classifyFill u)
        (fill u printable b frame x package field selector answer)
      noteFilled selector answer.label outcome
      pure (t.count answer outcome)

/-- The fill loop. -/
def fillForm (answers : List FieldAnswer) : Drive ω Tally := do
  Program.modify fun s => { s with fillNotes := [] }
  answers.foldlM (fillOne u printable b frame x package form) .empty

end Filling

end Playwright

end RangeApply
