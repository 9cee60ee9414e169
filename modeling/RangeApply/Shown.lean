import RangeApply.Conducted
import RangeApply.Width

/-! What `verify` makes of a run: only what the page showed after the click counts. -/
namespace RangeApply.Playwright

section Evidence
variable (u : Unicode) {scan : PageScan} {strategy : Strategy}

theorem strategyFor_mem (family : ATSFamily) : strategyFor family ∈ strategies := by
  unfold strategyFor
  cases found : strategies.find? fun s => decide (family ∈ s.families) with
  | none => simp [strategies]
  | some s => exact List.mem_of_find?_eq_some found

theorem successTextRe_wide : 0 < successTextRe.regex.width := by decide +kernel

theorem successText_wide : ∀ s ∈ strategies, ∀ p, s.successText = some p → 0 < p.regex.width := by
  have all : ∀ s ∈ strategies, s.successText.all (fun p => decide (0 < p.regex.width)) = true := by
    decide +kernel
  intro s member p text
  have wide := all s member
  rw [text] at wide
  exact of_decide_eq_true wide

theorem text_of_search {p : Pattern} {t : Text} {m : Match} (wide : 0 < p.regex.width)
    (found : p.search u t = some m) : Text.orNone m.text = some m.text := by
  have long := Pattern.search_width found
  unfold Text.orNone
  rw [if_neg]
  intro empty
  rw [empty, List.length_nil] at long
  omega

/-- A confirming page has a text that confirms. -/
theorem marker_isSome (scan : PageScan) (member : strategy ∈ strategies) :
    ((scan.marker u strategy).bind Text.orNone).isSome = scan.confirms u strategy := by
  unfold PageScan.marker PageScan.confirms PageScan.successMarker
  cases found : successTextRe.search u scan.bodyExcerpt with
  | some m =>
    have text := text_of_search u successTextRe_wide found
    simp [text]
  | none =>
    cases pattern : strategy.successText with
    | none => rfl
    | some p =>
      cases here : p.search u scan.bodyExcerpt with
      | none => simp [Pattern.found, here]
      | some m =>
        have text := text_of_search u (successText_wide strategy member p pattern) here
        simp [Pattern.found, here, text]

theorem verify_none {run : Option RunState} {r : StoppedResult}
    (unsent : ∀ state, run = some state → state.postSubmit = none)
    (references : r.confirmationReference = none ∧ r.externalApplicationId = none) :
    (verify u run r.toExecutionResult).status = .unknown := by
  have nothing : (run.bind fun state => state.postSubmit.map fun scan => (state.strategy, scan)) =
      none := by
    cases run with
    | none => rfl
    | some state => simp [unsent state rfl]
  unfold verify
  rw [nothing]
  dsimp only
  rw [references.1, references.2]
  rfl

/-- What `verify` says of the page that was kept. -/
theorem verify_some (state : RunState) (member : state.strategy ∈ strategies)
    (kept : state.postSubmit = some scan) (r : ExecutionResult) :
    let status := (verify u (some state) r).status
    (status = .verified ↔
      ((scan.reference u).bind Text.orNone).isSome ∨ scan.confirms u state.strategy = true) ∧
    (status = .likely ↔ ((scan.reference u).bind Text.orNone).isSome = false ∧
      scan.confirms u state.strategy = false ∧ scan.confirmingUrl u state.strategy = true) := by
  have marked := marker_isSome u scan member
  have here : ((some state).bind fun state => state.postSubmit.map fun scan =>
      (state.strategy, scan)) = some (state.strategy, scan) := by simp [kept]
  unfold verify
  rw [here, ← marked]
  dsimp only
  cases (scan.reference u).bind Text.orNone with
  | some reference => simp [noEvidence]
  | none =>
    cases (scan.marker u state.strategy).bind Text.orNone with
    | some marker => simp [noEvidence]
    | none =>
      cases scan.confirmingUrl u state.strategy with
      | true => simp [noEvidence]
      | false => simp [noEvidence]

end Evidence

/-! ### After a run -/

section Verified
variable {ω : Type} (u : Unicode) (printable : Char → Bool) (b : Browser ω) (x : Executor)
variable (package : Package) (form : FormSnapshot) (answers : List FieldAnswer) (gate : Gate ω)

/-- The last look of a run is at this page. -/
def EndsAt (acts : List Act) (scan : PageScan) : Prop := acts.getLast? = some (.watched scan)

/-- What the status of a verification rests on. -/
structure Witnessed (u : Unicode) (strategy : Strategy) (r : StoppedResult) (acts : List Act)
    (status : VerificationStatus) : Prop where
  submitted : r.outcome = .submitted → status = .verified ∨ status = .likely
  shown : status ≠ .unknown → r.submitAttempted = true ∧ ∃ scan, EndsAt acts scan ∧
    (status = .verified ↔
      ((scan.reference u).bind Text.orNone).isSome ∨ scan.confirms u strategy = true) ∧
    (status = .likely ↔ ((scan.reference u).bind Text.orNone).isSome = false ∧
      scan.confirms u strategy = false ∧ scan.confirmingUrl u strategy = true)
  unconfirmed : r.outcome ≠ .submitted → status = .verified → ∃ scan, EndsAt acts scan ∧
    scan.confirms u strategy = false ∧ ((scan.reference u).bind Text.orNone).isSome

/-- `verify` after any calls and one that returned: it names a submission only where submit was
pressed, by what the last look after the click showed; and a run that saw no confirmation itself is
verified by a reference alone. -/
theorem further_verified (calls : List (Call ω)) (w : ω) (r : StoppedResult)
    (ran : (further u printable b x package form answers gate calls w).1 = .ok r) :
    Witnessed u (strategyFor package.atsFamily) r
      (added u printable b x package form answers gate calls w)
      (verify u (further u printable b x package form answers gate calls w).2.run
        r.toExecutionResult).status := by
  obtain ⟨start, outcome⟩ := further_ends u printable b x package form answers gate calls w
  rw [ran] at outcome
  obtain ⟨run, closed, executed⟩ := outcome
  rw [closed]
  cases executed.ended with
  | held final unpressed steps unsent =>
    have closed_ : ∀ state, run.map RunState.closed = some state →
        state.postSubmit = none := by
      intro state here
      obtain ⟨state', before, rfl⟩ := Option.map_eq_some_iff.mp here
      exact unsent state' before
    have unknown := verify_none u closed_ unpressed.references
    refine ⟨fun submitted => absurd submitted unpressed.outcome.1, ?_, ?_⟩
    · exact fun known => absurd unknown known
    · intro _ verified
      rw [unknown] at verified
      cases verified
  | sent state strategy unsent steps sent =>
    have named : state.strategy = strategyFor package.atsFamily := strategy
    have member : state.strategy ∈ strategies := named ▸ strategyFor_mem package.atsFamily
    rw [← named]
    cases sent.kept with
    | seen scan submitted last confirmed =>
      have verdict := verify_some u { state with postSubmit := some scan }.closed member rfl
        r.toExecutionResult
      refine ⟨fun _ => ?_, fun _ => ⟨sent.attempted, scan, last, verdict⟩, ?_⟩
      · rcases confirmed with text | url
        · exact .inl (verdict.1.mpr (.inr text))
        · by_cases known : ((scan.reference u).bind Text.orNone).isSome ∨
              scan.confirms u state.strategy = true
          · exact .inl (verdict.1.mpr known)
          · rw [not_or, Bool.not_eq_true, Bool.not_eq_true] at known
            exact .inr (verdict.2.mpr ⟨known.1, known.2, url⟩)
      · exact fun other => absurd submitted other
    | silence scan nothing last unconfirmed =>
      have verdict := verify_some u { state with postSubmit := some scan }.closed member rfl
        r.toExecutionResult
      refine ⟨fun submitted => ?_, fun _ => ⟨sent.attempted, scan, last, verdict⟩, ?_⟩
      · rw [nothing] at submitted
        cases submitted
      · intro _ verified
        refine ⟨scan, last, unconfirmed, (verdict.1.mp verified).resolve_right fun text => ?_⟩
        exact absurd text (Bool.eq_false_iff.mp unconfirmed)
    | nothing other references =>
      have closed_ : ∀ state', (some state).map RunState.closed = some state' →
          state'.postSubmit = none := by
        intro state' here
        obtain rfl := Option.some.inj here
        exact unsent
      have unknown := verify_none u closed_ references
      refine ⟨fun submitted => absurd submitted other, fun known => absurd unknown known, ?_⟩
      intro _ verified
      rw [unknown] at verified
      cases verified

end Verified

/-! ### A desk with one posting -/

section Example

def emailField : PageField where
  externalId := none
  label := "Email".ascii
  fieldType := .email
  required := true
  options := []
  selector := some "#email".ascii
  inputType := none

def resumeField : PageField where
  externalId := some "resume".ascii
  label := "Resume".ascii
  fieldType := .file
  required := true
  options := []
  selector := some "#cv".ascii
  inputType := none

def postingForm (body : String) : PageScan :=
  { url := "https://acme.io/jobs/1".ascii, fields := [emailField, resumeField], customWidgets := 0
    captcha := false, captchaVisible := false, captchaInline := false, captchaSolved := false
    mfa := false, loginWall := false, submitButtons := [], applyLinks := [], errors := []
    bodyExcerpt := body.ascii }

/-- A browser at the posting, where everything works; after the click it shows another text. -/
def desk (before after : String) : Browser Bool where
  start w := (.ok (), w)
  newPage w := (.ok (), w)
  relaunch w := w
  goto _ w := (.ok (), w)
  resolve t w := (.ok t, w)
  wait w := (.ok (), w)
  click _ w := (.ok (), w)
  scan _ w := (.ok (postingForm (if w then after else before)), w)
  frames _ := []
  url _ _ := (postingForm before).url
  count _ _ w := (.ok 1, w)
  visible _ _ w := (.ok true, w)
  touch _ _ w := (.ok (), w)
  options _ w := (.ok none, w)
  notice _ w := (.ok none, w)
  shows _ _ w := (.ok [], w)
  buttons _ _ w := (.ok [], w)
  ariaPressed _ _ _ w := (.ok none, w)
  submit _ _ _ := (.ok (), true)
  rounds _ := 1
  file _ _ := some ⟨10, "ab"⟩

def liveExecutor : Executor := ⟨false, true, 0, [], none, none, id⟩

def acmePackage : Package where
  canonicalUrl := "https://acme.io/jobs/1".ascii
  atsFamily := .genericWeb
  artifactFiles := [("RESUME", "/cv.pdf".ascii)]
  artifacts := [("RESUME", ⟨some "ab", some 10⟩)]

def answerTo (f : PageField) (answer : Option Text) (artifactType : Option String) : FieldAnswer where
  externalId := f.externalId
  label := f.label
  questionKey := []
  fieldType := f.fieldType
  required := f.required
  status := .answered
  source := .profile
  category := "other"
  answer := answer
  selectedValues := []
  artifactType := artifactType
  preparationAnswer := none
  evidenceKeys := []
  reason := ""

def emailAnswer : FieldAnswer := answerTo emailField (some "a@b.c".ascii) none

def resumeAnswer : FieldAnswer := answerTo resumeField none (some "RESUME")

def acmeForm : FormSnapshot := ⟨"https://acme.io/jobs/1".ascii, [emailField, resumeField], none⟩

/-- The call at this desk, once the form was prepared and with a gate that lets it pass. -/
def acmeCall (before after : String) : Except Failure StoppedResult × Session Bool :=
  further .ascii (fun _ => true) (desk before after) liveExecutor acmePackage acmeForm
    [emailAnswer, resumeAnswer] (some fun w => (.ok [], w)) [.prepare] false

def acmeActs (before after : String) : List Act :=
  added .ascii (fun _ => true) (desk before after) liveExecutor acmePackage acmeForm
    [emailAnswer, resumeAnswer] (some fun w => (.ok [], w)) [.prepare] false

def outcomeOf : Except Failure StoppedResult → Option ExecutionOutcome
  | .ok r => some r.outcome
  | .error _ => none

theorem further_verified_acme : ∃ r,
    (acmeCall "Apply here" "Thank you for applying").1 = .ok r ∧ r.outcome = .submitted ∧
      Witnessed .ascii (strategyFor acmePackage.atsFamily) r (acmeActs "Apply here" "Thank you for applying")
        (verify .ascii (acmeCall "Apply here" "Thank you for applying").2.run
          r.toExecutionResult).status := by
  have submitted : outcomeOf (acmeCall "Apply here" "Thank you for applying").1 =
      some .submitted := by decide +kernel
  unfold acmeCall at submitted ⊢
  unfold acmeActs
  have law := further_verified .ascii (fun _ => true) (desk "Apply here" "Thank you for applying")
    liveExecutor acmePackage acmeForm [emailAnswer, resumeAnswer] (some fun w => (.ok [], w))
    [.prepare] false
  generalize further .ascii (fun _ => true) (desk "Apply here" "Thank you for applying")
    liveExecutor acmePackage acmeForm [emailAnswer, resumeAnswer] (some fun w => (.ok [], w))
    [.prepare] false = call at submitted law ⊢
  obtain ⟨_ | r, s⟩ := call
  · cases submitted
  · exact ⟨r, rfl, Option.some.inj submitted, law r rfl⟩

def statusOf (before after : String) : Option VerificationStatus :=
  match (acmeCall before after).1 with
  | .ok r => some (verify .ascii (acmeCall before after).2.run r.toExecutionResult).status
  | .error _ => none

/-- A page that does not change, and shows a reference of its own before the click already: the
outcome is unknown, and the page verifies it. -/
example : let unchanged := "Apply here. Application number: A-1234"
    outcomeOf (acmeCall unchanged unchanged).1 = some .unknown ∧
      statusOf unchanged unchanged = some .verified := by decide +kernel

end Example

end RangeApply.Playwright
