import RangeApply.Filling

/-! The run of an application in the browser: the checks before the one click, the click, and what
the page showed after it. -/
namespace RangeApply.Playwright

/-- A result with where it stopped and what remains for a person. -/
structure StoppedResult extends ExecutionResult where
  stoppedAt : Option String
  remainingSteps : List String

section Results

def noResult (outcome : ExecutionOutcome) (submitAttempted : Bool) : ExecutionResult where
  outcome := outcome
  submitAttempted := submitAttempted
  handoffReason := none
  errorClass := none
  message := none
  applicationUrl := none
  externalApplicationId := none
  confirmationReference := none
  verification := none

def stopped (outcome : ExecutionOutcome) (submitAttempted : Bool) (errorClass : Option ErrorClass)
    (message stoppedAt : String) : StoppedResult :=
  { noResult outcome submitAttempted with
    errorClass := errorClass
    message := some message
    stoppedAt := some stoppedAt
    remainingSteps := [] }

/-- What a person does after a hand-off. -/
def remaining : HandoffReason → List String
  | .captchaRequired =>
    ["open the application page in your browser", "complete the human verification",
      "fill and submit the form from the prepared package", "confirm the outcome here"]
  | .authRequired =>
    ["sign in to the employer site in your browser",
      "retry the attempt (a persistent local profile keeps you signed in)"]
  | .mfaRequired => ["complete the two-factor step in your browser", "retry the attempt"]
  | .unsupportedForm =>
    ["apply through the page by hand using the prepared package", "confirm the outcome here"]
  | .ambiguousForm => ["open the page and check the form", "apply by hand or retry"]
  | .artifactFileRequired => ["provide the document file", "retry"]
  | _ => ["continue by hand", "confirm the outcome"]

/-- `_handoff_result`. -/
def handoffResult (reason : HandoffReason) (message : String) (state : RunState) (stoppedAt : String)
    (submitAttempted : Bool) (steps : List String) : StoppedResult :=
  { noResult .handoff submitAttempted with
    handoffReason := some reason
    message := some s!"{message} (page: {String.ofList (state.scan.url.take 120)})"
    stoppedAt := some stoppedAt
    remainingSteps := steps }

def listed (n : Nat) (labels : List Text) : String :=
  ", ".intercalate ((labels.take n).map String.ofList)

/-- What the fill ends in, when the form may not be submitted as it is. -/
def Tally.refusal (t : Tally) (state : RunState) (notes : List (Text × String)) :
    Option StoppedResult :=
  if t.missingRequired ≠ [] then
    some (stopped .needsUserInput false none
      (s!"{t.missingRequired.length} required field(s) have no safe answer: " ++
        listed 5 t.missingRequired) "fill")
  else if t.fileMissing ≠ [] then
    some (handoffResult .artifactFileRequired
      (s!"a required upload has no intact local document: {listed 3 t.fileMissing} (render the " ++
        "preparation's documents, or set EXECUTION_RESUME_FILE / EXECUTION_COVER_LETTER_FILE, or " ++
        "upload by hand)") state "upload" false ["provide the document file", "retry"])
  else if t.unfillableRequired ≠ [] then
    let detail := "; ".intercalate ((t.unfillableRequired.take 3).filterMap fun label =>
      (notes.lookup label).map fun note => s!"{String.ofList label}: {note}")
    some (handoffResult .unsupportedForm
      (s!"required field(s) could not be set on the page: {listed 3 t.unfillableRequired}" ++
        if detail = "" then "" else s!" ({detail})") state "fill" false
      ["answer those questions on the employer page and submit by hand",
        "confirm the outcome here"])
  else none

def dryRunResult (t : Tally) : StoppedResult :=
  stopped .dryRun false none (s!"dry run: {t.filled.length} field(s) filled, " ++
    s!"{t.skipped.length} skipped, submit not pressed") "before_submit"

def gateResult (failures : List String) : StoppedResult :=
  stopped .needsReview false (some .policy)
    ("pre-submit gate failed: " ++ "; ".intercalate (failures.take 3)) "before_submit"

end Results

section Executing
variable {ω : Type} (u : Unicode) (printable : Char → Bool) (b : Browser ω)
variable (x : Executor) (package : Package) (form : FormSnapshot)

/-! ### Before the click -/

/-- A wall that was met at the opening has to be cleared by a person, for the form that was
mapped. -/
def pastWall (state : RunState) : Drive ω (Except StoppedResult RunState) :=
  match state.handoff with
  | none => pure (.ok state)
  | some (reason, message) => do
    match ← waitForPerson u b x state reason with
    | none =>
      pure (.error (handoffResult reason message state "before_form" false (remaining reason)))
    | some cleared => do
      requireMappedForm u form cleared
      pure (.ok cleared)

/-- The challenge some sites show once the form is filled. -/
def pastLateWall (state : RunState) : Drive ω (Except StoppedResult (RunState × PageScan)) := do
  let scan ← guarded u b (classifyFill u) (call (b.scan state.frame))
  write (.rescanned scan)
  match handoffCondition u state.strategy scan with
  | none => pure (.ok (state, scan))
  | some (reason, message) =>
    if reason ∈ personal then do
      let held := { state with handoff := some (reason, message) }
      setRun (some held)
      match ← waitForPerson u b x held reason with
      | none =>
        pure (.error (handoffResult reason message held "before_submit" false (remaining reason)))
      | some cleared => do
        requireMappedForm u form cleared
        pure (.ok (cleared, cleared.scan))
    else pure (.ok (state, scan))

/-- The first selector that passes; an exception passes it by. -/
def firstWhere (test : Text → Drive ω Bool) : List Text → Drive ω (Option Text)
  | [] => pure none
  | selector :: rest => do
    let here ← Program.orElse (test selector) fun _ => pure false
    if here then pure (some selector) else firstWhere test rest

def buttonRe : Pattern := ignoringCase "submit|apply|send"

def SubmitButton.submits (button : SubmitButton) : Bool :=
  buttonRe.found u button.text || decide (button.type = "submit".ascii)

/-- `_find_submit`. -/
def findSubmit (frame : Option Frame) (strategy : Strategy) (scan : PageScan) :
    Drive ω (Option Text) := do
  let known ← firstWhere (fun selector => do
    let n ← call (b.count frame selector)
    if n = 0 then pure false else call (b.visible frame selector)) strategy.submitLocators
  match known with
  | some selector => pure (some selector)
  | none =>
    firstWhere (fun selector => do
      let n ← call (b.count frame selector)
      pure (decide (n ≠ 0))) ((scan.submitButtons.filter (·.submits u)).map (·.selector))

/-- The pre-submit gate, if the caller has one: what stands against the click. -/
abbrev Gate (ω : Type) := Option (ω → Except Exn (List String) × ω)

def askGate (gate : Gate ω) : Drive ω (List String) :=
  match gate with
  | none => pure []
  | some ask => do
    let failures ← call ask
    write (.asked failures)
    pure failures

/-! ### The click -/

/-- `_unknown`: after the click nothing is "not submitted". -/
def unknown (message : String) (e : Exn) : Drive ω StoppedResult := do
  relaunchAfter u b e
  pure (stopped .unknown true
    (some (if crashRe.found u e.text then .browserCrash
      else if timeoutRe.found u e.text then .timeout else .unknown)) message "after_submit")

/-- The texts the strategy or any page confirms a submission with. -/
def PageScan.confirms (strategy : Strategy) (scan : PageScan) : Bool :=
  (scan.successMarker u).isSome || strategy.successText.any fun p => p.found u scan.bodyExcerpt

def PageScan.confirmingUrl (strategy : Strategy) (scan : PageScan) : Bool :=
  strategy.successUrlPatterns.any fun p => Text.occurs p (u.lower scan.url)

/-- What a look after the click says, if it says anything. -/
def verdictOf (state : RunState) (urlBefore : Text) (scan : PageScan) : Option StoppedResult :=
  let text := scan.confirms u state.strategy
  let url := decide (scan.url ≠ urlBefore) && scan.confirmingUrl u state.strategy
  let reference := (scan.reference u).map String.ofList
  if text || url then
    some { noResult .submitted true with
      applicationUrl := some (String.ofList scan.url)
      externalApplicationId := reference
      confirmationReference := reference
      message := some ("confirmation " ++ (if text then "text" else "URL") ++
        " observed after submit")
      stoppedAt := none
      remainingSteps := [] }
  else if scan.captchaVisible then
    some (handoffResult .captchaRequired "a CAPTCHA appeared after pressing submit" state
      "after_submit" true
      ["complete the challenge", "confirm whether the application went through"])
  else if scan.validationErrors u ≠ [] ∧ scan.url = urlBefore then
    some (stopped .needsReview true (some .validation)
      ("the form rejected the submission: " ++
        "; ".intercalate (((scan.validationErrors u).take 3).map String.ofList)) "after_submit")
  else none

def silence : StoppedResult :=
  stopped .unknown true (some .timeout)
    "no confirmation, error or redirect observed after submit; outcome unknown" "after_submit"

/-- A look after the click; when the frame of the form is gone, at the page itself. -/
def lookAfter (frame : Option Frame) : Drive ω (Option Frame × PageScan) :=
  let look (frame : Option Frame) : Drive ω (Option Frame × PageScan) := do
    call b.wait
    let scan ← call (b.scan frame)
    write (.watched scan)
    pure (frame, scan)
  Program.orElse (look frame) fun e => match frame with
    | none => Program.raise e
    | some _ => look none

/-- What is seen last is kept for `verify`. -/
def keepPost (state : RunState) (scan : PageScan) : Drive ω Unit :=
  setRun (some { state with postSubmit := some scan })

def keepSubmitted (state : RunState) (scan : PageScan) (verdict : Option StoppedResult) :
    Drive ω Unit :=
  if verdict.any fun r => decide (r.outcome = .submitted) then keepPost state scan else pure ()

/-- One round of `_after_submit`. -/
def watchRound (state : RunState) (urlBefore : Text) (frame : Option Frame) :
    Drive ω ((Option Frame × PageScan) × Option StoppedResult) := do
  let look ← lookAfter b frame
  let verdict := verdictOf u state urlBefore look.2
  keepSubmitted state look.2 verdict
  pure (look, verdict)

def watchRounds (state : RunState) (urlBefore : Text) : Nat → Option Frame → Drive ω StoppedResult
  | 0, frame => do
    let round ← watchRound u b state urlBefore frame
    match round.2 with
    | some r => pure r
    | none => do
      keepPost state round.1.2
      pure silence
  | rounds + 1, frame => do
    let round ← watchRound u b state urlBefore frame
    match round.2 with
    | some r => pure r
    | none => watchRounds state urlBefore rounds round.1.1

/-- `_after_submit`. -/
def afterSubmit (state : RunState) (urlBefore : Text) : Drive ω StoppedResult := do
  let rounds ← peek b.rounds
  Program.orElse (watchRounds u b state urlBefore rounds state.frame) fun
    | .executor e => Program.raise (.executor e)
    | .other e => unknown u b s!"page unavailable after submit: {brief e}" e

/-- The click. From here on nothing is "not submitted". -/
def press (state : RunState) (selector : Text) : Drive ω StoppedResult := do
  let urlBefore ← peek (b.url state.frame)
  write (.pressed selector)
  let clicked ← Program.orElse (do call (b.submit state.frame selector); pure none) fun
    | .executor e => Program.raise (.executor e)
    | .other e => pure (some e)
  match clicked with
  | some e => unknown u b s!"submit click raised: {brief e}" e
  | none => afterSubmit u b state urlBefore

/-! ### The run -/

variable (answers : List FieldAnswer) (gate : Gate ω)

/-- From the filled form to the click. -/
def submit (t : Tally) (state : RunState) : Drive ω StoppedResult := do
  match ← pastLateWall u b x form state with
  | .error r => pure r
  | .ok (state, scan) => do
    match ← findSubmit u b state.frame state.strategy scan with
    | none =>
      pure (handoffResult .ambiguousForm "no submit control could be identified" state
        "before_submit" false ["submit the form by hand"])
    | some selector =>
      if x.dryRun then pure (dryRunResult t)
      else do
        let failures ← askGate gate
        if failures ≠ [] then pure (gateResult failures) else press u b state selector

/-- `_execute`. -/
def executeOpen (state : RunState) : Drive ω StoppedResult := do
  match ← pastWall u b x form state with
  | .error r => pure r
  | .ok state => do
    let t ← fillForm u printable b state.frame x package form answers
    let s ← Program.get
    match t.refusal state s.fillNotes with
    | some r => pure r
    | none => submit u b x form gate t state

/-- The state of the page that `prepare` left open, or of one that is opened now. -/
def openState : Drive ω RunState := do
  let s ← Program.get
  match s.run.filter (·.page) with
  | some state => pure state
  | none => open_ u b package

/-- `execute`. -/
def execute : Drive ω StoppedResult := do
  let state ← openState u b package
  (executeOpen u printable b x package form answers gate state).finally_ closeState

/-! ### Verification -/

def noEvidence (status : VerificationStatus) (method : VerificationMethod) (detail : String) :
    VerificationResult :=
  ⟨status, method, some detail, none, none, none⟩

/-- The text a page confirms a submission with. -/
def PageScan.marker (strategy : Strategy) (scan : PageScan) : Option Text :=
  ((scan.successMarker u).bind Text.orNone).or
    (strategy.successText.bind fun p => (p.search u scan.bodyExcerpt).map fun m => m.text)

/-- `verify`: only what the browser showed after the click counts. -/
def verify (run : Option RunState) (result : ExecutionResult) : VerificationResult :=
  match run.bind fun state => state.postSubmit.map fun scan => (state.strategy, scan) with
  | none =>
    if (RangeApply.given result.confirmationReference).isSome ∨
        (RangeApply.given result.externalApplicationId).isSome then
      { noEvidence .likely .executorReport
          "reference reported by the executor; no page evidence retained" with
        confirmationReference := result.confirmationReference
        externalApplicationId := result.externalApplicationId }
    else noEvidence .unknown .none "no post-submit page evidence"
  | some (strategy, scan) =>
    let url := some (String.ofList scan.url)
    match (scan.reference u).bind Text.orNone, (scan.marker u strategy).bind Text.orNone with
    | some reference, _ =>
      let reference := String.ofList reference
      { noEvidence .verified .applicationId s!"reference on confirmation page: {reference}" with
        confirmationReference := some reference
        externalApplicationId := some reference
        applicationUrl := url }
    | none, some marker =>
      { noEvidence .verified .confirmationText
          s!"confirmation text: {String.ofList (marker.take 80)}" with
        applicationUrl := url }
    | none, none =>
      if scan.confirmingUrl u strategy then
        { noEvidence .likely .redirectUrl
            "redirected to a confirmation-looking URL without confirmation text" with
          applicationUrl := url }
      else noEvidence .unknown .none "no confirmation evidence on the page after submit"

end Executing

end RangeApply.Playwright
