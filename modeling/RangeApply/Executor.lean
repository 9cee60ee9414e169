import RangeApply.Playwright

/-! The run of the local executor: opening the page, waiting for the person, filling, and the one
click. -/
namespace RangeApply.Playwright

/-- The settings and files of an executor. -/
structure Executor where
  dryRun : Bool
  headless : Bool
  handoffWaitSeconds : Int
  artifactFiles : List (String × Text)
  executionResumeFile : Option Text
  executionCoverLetterFile : Option Text
  expandUser : Text → Text

/-- The file of a document as the preparation recorded it. -/
structure Expected where
  sha256 : Option String
  bytes : Option Nat

/-- What the executor reads of a package. -/
structure Package where
  canonicalUrl : Text
  atsFamily : ATSFamily
  artifactFiles : List (String × Text)
  artifacts : List (String × Expected)

def fieldTypeValue : FieldType → String
  | .text => "text" | .textarea => "textarea" | .email => "email" | .phone => "phone"
  | .select => "select" | .multiSelect => "multi_select" | .checkbox => "checkbox"
  | .radio => "radio" | .numeric => "numeric" | .date => "date" | .file => "file"
  | .combobox => "combobox" | .yesno => "yesno" | .unknown => "unknown"

/-! ### Reading a page -/

section Reading
variable (u : Unicode)

def applicantFieldRe : Pattern := ignoringCase
  ("name|email|phone|resume|cv|cover|linkedin|portfolio|website|address|location|pronoun|" ++
    "salary|start|authori|sponsor|applicant|candidate|job_application|_systemfield_")

def looksLikeApplicationForm (scan : PageScan) : Bool :=
  scan.fields.any fun f =>
    decide (f.fieldType ∈ [FieldType.file, .email, .phone]) ||
      applicantFieldRe.found u (f.externalId.getD [] ++ ' ' :: f.label)

/-- `_handoff_condition`. -/
def handoffCondition (strategy : Strategy) (scan : PageScan) : Option (HandoffReason × String) :=
  if scan.captcha && scan.captchaVisible && !scan.captchaSolved then
    some (.captchaRequired,
      if scan.captchaInline then
        "the application form includes a human verification widget; complete it in the browser " ++
          "window and the run continues (nothing is typed before that)"
      else "the page shows a CAPTCHA / human verification challenge")
  else if scan.mfa then
    some (.mfaRequired, "the page asks for a one-time / two-factor code")
  else if scan.loginWall && !scan.fields.any fun f => decide (f.fieldType = .file) then
    some (.authRequired, "the page asks for a login before the application form")
  else if strategy.strictControls && decide (scan.customWidgets ≠ 0) &&
      decide (scan.fields.length < 2) then
    some (.unsupportedForm, s!"UNSUPPORTED_FORM: {scan.customWidgets} custom widget(s) and no " ++
      s!"standard controls ({strategy.name})")
  else if scan.fields = [] then
    some (.ambiguousForm, "no application form found on the page")
  else if !looksLikeApplicationForm u scan then
    some (.ambiguousForm, "the page has a form, but not an application form (no contact, upload " ++
      "or applicant fields; a search or listing page?)")
  else none

/-- The walls that only a person clears. -/
def personal : List HandoffReason := [.captchaRequired, .mfaRequired, .authRequired]

/-- Which controls, in order: name (or label) and type. -/
def formShape (fields : List FormField) : List (Text × String) :=
  fields.map fun f =>
    (u.lower (Text.strip (((f.externalId.bind Text.orNone).or (Text.orNone f.label)).getD [])),
      fieldTypeValue f.fieldType)

def crashRe : Pattern := ignoringCase
  ("target (page|context|browser) has been closed|target crashed|page crashed|" ++
    "browser has been closed|connection closed|has been closed")

def timeoutRe : Pattern := ignoringCase "timeout"

def netRe : Pattern := ignoringCase
  "net::ERR_|ERR_NAME_NOT_RESOLVED|ERR_CONNECTION|ERR_INTERNET_DISCONNECTED"

/-- What ends a line, for `str.splitlines`. -/
def endsLine (c : Char) : Bool :=
  let n := c.toNat
  (10 ≤ n && n ≤ 13) || (28 ≤ n && n ≤ 30) || n == 0x85 || n == 0x2028 || n == 0x2029

/-- `_brief`. -/
def brief (e : Exn) : String :=
  if e.text = [] then e.name else String.ofList ((e.text.takeWhile (!endsLine ·)).take 200)

def before (retryable : Bool) (errorClass : ErrorClass) (message : String) : ExecutorError :=
  ⟨true, retryable, errorClass, message⟩

/-- `_classify_navigation`. -/
def classifyNavigation (e : Exn) : ExecutorError :=
  let mentions (t : String) := Text.occurs t.ascii e.text
  if crashRe.found u e.text then
    before true .browserCrash s!"browser crashed while navigating: {brief e}"
  else if timeoutRe.found u e.text then before true .timeout s!"navigation timed out: {brief e}"
  else if netRe.found u e.text then
    let retryable := !mentions "ERR_NAME_NOT_RESOLVED" && !mentions "ERR_FILE_NOT_FOUND"
    before retryable (if retryable then .transientNetwork else .targetGone)
      s!"navigation failed: {brief e}"
  else if mentions "ERR_FILE_NOT_FOUND" || mentions "404" then
    before false .targetGone s!"target gone: {brief e}"
  else before true .navigation s!"navigation error: {brief e}"

/-- `_classify_fill`. -/
def classifyFill (e : Exn) : ExecutorError :=
  if crashRe.found u e.text then
    before true .browserCrash s!"browser crashed before submit: {brief e}"
  else if timeoutRe.found u e.text then
    before true .formChanged s!"a field could not be filled in time (form changed?): {brief e}"
  else before true .executorCrash s!"filling failed: {brief e}"

end Reading

/-! ### Opening -/

section Opening
variable {ω : Type} (u : Unicode) (b : Browser ω)

/-- After a browser-level failure the browser is started again. -/
def relaunchAfter (e : Exn) : Drive ω Unit :=
  if crashRe.found u e.text then change b.relaunch else pure ()

/-- An exception of the browser becomes an error of the executor. -/
def guarded {α : Type} (classify : Exn → ExecutorError) (m : Drive ω α) : Drive ω α :=
  m.orElse fun
    | .executor e => Program.raise (.executor e)
    | .other e => do
      relaunchAfter u b e
      Program.raise (.executor (classify e))

/-- An exception of the browser is an error of the executor, which says no more. -/
def failing {α : Type} (error : Exn → ExecutorError) (m : Drive ω α) : Drive ω α :=
  m.orElse fun
    | .executor e => Program.raise (.executor e)
    | .other e => Program.raise (.executor (error e))

/-- There is a form that may be an application. -/
def PageScan.hasForm (scan : PageScan) : Bool :=
  decide (scan.fields ≠ []) && looksLikeApplicationForm u scan

def challengeFrameRe : Pattern := ignoringCase "recaptcha|hcaptcha|turnstile|captcha"

/-- The frame with the most fields; one that is detached or navigating is passed by. -/
def scanFrame (best : Option Frame × PageScan) (frame : Frame) : Drive ω (Option Frame × PageScan) :=
  if frame.main || challengeFrameRe.found u frame.url then pure best
  else Program.orElse
    (do
      let scan ← call (b.scan (some frame))
      pure (if best.2.fields.length < scan.fields.length then (some frame, scan) else best))
    fun _ => pure best

/-- One round of `_settled_scan`, and whether it ends there. -/
def settleRound : Drive ω ((Option Frame × PageScan) × Bool) := do
  let scan ← call (b.scan none)
  if scan.hasForm u || scan.captchaVisible || scan.mfa || scan.loginWall then pure ((none, scan), true)
  else do
    let frames ← peek b.frames
    let best ← frames.foldlM (scanFrame u b) (none, scan)
    pure (best, best.2.hasForm u)

def settleRounds : Nat → Drive ω (Option Frame × PageScan)
  | 0 => do
    let round ← settleRound u b
    pure round.1
  | rounds + 1 => do
    let round ← settleRound u b
    if round.2 then pure round.1
    else do
      call b.wait
      settleRounds rounds

/-- `_settled_scan`: where the form is, and what it shows. -/
def settledScan : Drive ω (Option Frame × PageScan) := do
  let rounds ← peek b.rounds
  let best ← settleRounds u b rounds
  write (.looked best.2)
  pure best

/-- The link of an apply button, unless a script handles it. -/
def ApplyLink.address (link : ApplyLink) : Option Text :=
  let href := Text.strip link.href
  if href = [] || Text.startsWith ['#'] href ||
      Text.startsWith "javascript:".ascii (u.lower href) then none
  else some href

/-- Opens the apply link, or presses it; false when there is nothing to press. -/
def openApplyLink (link : ApplyLink) : Drive ω Bool :=
  match link.address u with
  | some href => do
    let url ← call (b.resolve href)
    write (.visited url)
    call (b.goto url)
    pure true
  | none => do
    let n ← call (b.count none link.selector)
    if n = 0 then pure false
    else do
      write (.followed link.selector)
      call (b.click link.selector)
      pure true

/-- The page behind the apply link: the state there, and whether a form appeared. -/
def enterApplyLink (state : RunState) (link : ApplyLink) : Drive ω (RunState × Bool) := do
  if ← openApplyLink u b link then do
    call b.wait
    let best ← settledScan u b
    let moved := { state with frame := best.1, scan := best.2 }
    setRun (some moved)
    pure (moved, best.2.hasForm u)
  else pure (state, false)

/-- `_follow_apply_link`: navigation only; a link that fails leaves things as they were. -/
def followApplyLink (state : RunState) (link : ApplyLink) : Drive ω (RunState × Bool) :=
  Program.orElse (enterApplyLink u b state link) fun _ => pure (state, false)

def RunState.closed (run : RunState) : RunState := { run with page := false, frame := none }

/-- `_close_state`. -/
def closeState (s : Session ω) : Session ω := { s with run := s.run.map .closed }

def startBrowser : Drive ω Unit :=
  failing (fun e => before false .executorCrash (String.ofList e.text)) (call b.start)

/-- A page of the browser, which may have died between two runs. -/
def newPage : Drive ω Unit :=
  Program.orElse (call b.newPage) fun
    | .executor e => Program.raise (.executor e)
    | .other e => do
      change b.relaunch
      Program.raise (.executor (before true .browserCrash s!"browser unavailable: {brief e}"))

/-- The page of the posting, loaded. -/
def navigate (package : Package) : Drive ω Unit := do
  setRun none
  startBrowser b
  newPage b
  write .opened
  write (.visited package.canonicalUrl)
  guarded u b (classifyNavigation u) do
    call (b.goto package.canonicalUrl)
    call b.wait

def discover : Drive ω (Option Frame × PageScan) :=
  failing (fun e => before true .executorCrash s!"form discovery failed: {brief e}")
    (settledScan u b)

/-- `_open`. -/
def open_ (package : Package) : Drive ω RunState := do
  navigate u b package
  let best ← discover u b
  let strategy := strategyFor package.atsFamily
  let state : RunState :=
    ⟨strategy, true, best.1, best.2, handoffCondition u strategy best.2, none⟩
  setRun (some state)
  match state.handoff, best.2.applyLinks with
  | some (.ambiguousForm, _), link :: _ => do
    let followed ← followApplyLink u b state link
    let state :=
      if followed.2 then { followed.1 with handoff := handoffCondition u strategy followed.1.scan }
      else followed.1
    setRun (some state)
    pure state
  | _, _ => pure state

/-- The form as it is handed to be mapped. -/
structure FormSnapshot where
  sourceUrl : Text
  fields : List PageField
  handoff : Option HandoffReason

/-- A control without a label of its own takes the one that its name is known by. -/
def relabel (strategy : Strategy) (f : PageField) : PageField :=
  match f.externalId.bind Text.orNone with
  | none => f
  | some name =>
    match strategy.fieldLabels.lookup name with
    | none => f
    | some label => if f.label = [] ∨ f.label = name then { f with label := label } else f

/-- `prepare`. The controls that are relabelled are those of the scan itself. -/
def prepare (package : Package) : Drive ω FormSnapshot := do
  let state ← open_ u b package
  let fields := state.scan.fields.map (relabel state.strategy)
  setRun (some { state with scan := { state.scan with fields := fields } })
  pure ⟨(Text.orNone state.scan.url).getD package.canonicalUrl, fields,
    state.handoff.map Prod.fst⟩

/-! ### The person -/

/-- A look once a second has passed. -/
def nextLook : Drive ω (Option Frame × PageScan) := do
  call b.wait
  settledScan u b

def tryLook : Drive ω (Option (Option Frame × PageScan)) :=
  Program.orElse
    (do
      let best ← nextLook u b
      pure (some best))
    fun _ => pure none

/-- The rounds of `_wait_for_person`: the page is only looked at. -/
def waitRounds (state : RunState) : Nat → Drive ω (Option RunState)
  | 0 => pure none
  | rounds + 1 => do
    match ← tryLook u b with
    | none => pure none
    | some best =>
      if handoffCondition u state.strategy best.2 = none then do
        let cleared := { state with frame := best.1, scan := best.2, handoff := none }
        setRun (some cleared)
        pure (some cleared)
      else waitRounds state rounds

/-- `_wait_for_person`: the state once the person has cleared the wall. -/
def waitForPerson (x : Executor) (state : RunState) (reason : HandoffReason) :
    Drive ω (Option RunState) :=
  if x.headless || x.handoffWaitSeconds ≤ 0 || decide (reason ∉ personal) then pure none
  else do
    let rounds ← peek b.rounds
    waitRounds u b state rounds

def changedForm : ExecutorError :=
  before true .formChanged ("the form on the page is not the one that was mapped (it appeared or " ++
    "changed while the person cleared the check); nothing more was filled and submit was not " ++
    "pressed: run the attempt again so the form is mapped first")

/-- `_require_mapped_form`. -/
def requireMappedForm (form : FormSnapshot) (state : RunState) : Drive ω Unit :=
  if formShape u (state.scan.fields.map (·.toFormField)) =
      formShape u (form.fields.map (·.toFormField)) then pure ()
  else Program.raise (.executor changedForm)

end Opening

end RangeApply.Playwright
