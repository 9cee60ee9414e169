import RangeApply.Forms
import RangeApply.Program
import RangeApply.Report

/-! The executor that fills an employer's form in the candidate's own browser. The page, its clock
and the files are a world that answers; every command and every look is written to a log. -/
namespace RangeApply.Playwright

/-! ### What a page shows -/

structure PageField extends FormField where
  selector : Option Text
  inputType : Option Text

structure SubmitButton where
  text : Text
  type : Text
  selector : Text

structure ApplyLink where
  href : Text
  selector : Text

structure PageScan where
  url : Text
  fields : List PageField
  customWidgets : Nat
  captcha : Bool
  captchaVisible : Bool
  captchaInline : Bool
  captchaSolved : Bool
  mfa : Bool
  loginWall : Bool
  submitButtons : List SubmitButton
  applyLinks : List ApplyLink
  errors : List Text
  bodyExcerpt : Text

def ignoringCase (pattern : String) : Pattern := .of true false pattern.ascii

def successTextRe : Pattern := ignoringCase
  ("thank you for (applying|your application|submitting)|" ++
    "application (has been |was )?(submitted|received|sent)|" ++
    "we('ve| have) received your application|successfully (submitted|applied)|" ++
    "your application is (in|complete)|applied successfully")

def referenceTextRe : Pattern := ignoringCase
  ("(?:application|reference|confirmation|tracking)\\s*(?:id|number|no\\.?|#|code)\\s*" ++
    "[:#]?\\s*([A-Za-z0-9][A-Za-z0-9\\-]\x7b3,\x7d)")

def validationTextRe : Pattern := ignoringCase
  ("(is required|required field|please (fill|complete|enter|select|provide)|invalid|must be|" ++
    "can't be blank|cannot be blank|field is missing)")

namespace PageScan
variable (u : Unicode) (scan : PageScan)

def successMarker : Option Text := (successTextRe.search u scan.bodyExcerpt).map fun m => m.text

def reference : Option Text := (referenceTextRe.search u scan.bodyExcerpt).map fun m => m.group 1

def validationErrors : List Text :=
  let named := scan.errors.filter (validationTextRe.found u)
  if named = [] then scan.errors else named

end PageScan

/-! ### Strategies -/

inductive ATSFamily
  | greenhouse | lever | ashby | genericWeb | capturedBrowserTarget | manual
  deriving DecidableEq

structure Strategy where
  name : String
  families : List ATSFamily
  submitLocators : List Text
  successUrlPatterns : List Text
  successText : Option Pattern
  fieldLabels : List (Text × Text)
  strictControls : Bool

def texts (ts : List String) : List Text := ts.map String.ascii

def labels (ts : List (String × String)) : List (Text × Text) :=
  ts.map fun t => (t.1.ascii, t.2.ascii)

def greenhouse : Strategy where
  name := "greenhouse"
  families := [.greenhouse]
  submitLocators := texts ["#submit_app", "button[type=submit]", "input[type=submit]",
    "text=/^submit( application)?$/i"]
  successUrlPatterns := texts ["/confirmation", "confirmation=", "?applied", "/thanks"]
  successText := some
    (ignoringCase "thank you for applying|your application has been submitted")
  fieldLabels := labels [
    ("job_application[first_name]", "First Name"), ("job_application[last_name]", "Last Name"),
    ("job_application[email]", "Email"), ("job_application[phone]", "Phone"),
    ("job_application[resume]", "Resume/CV"), ("job_application[cover_letter]", "Cover Letter"),
    ("job_application[location]", "Location (City)")]
  strictControls := false

def lever : Strategy where
  name := "lever"
  families := [.lever]
  submitLocators := texts ["button[type=submit].postings-btn", "button[type=submit]",
    "text=/^submit application$/i", "text=/^submit$/i"]
  successUrlPatterns := texts ["/thanks", "/thank-you", "/confirmation"]
  successText := some
    (ignoringCase "application submitted|thank you for applying|thanks for applying")
  fieldLabels := labels [
    ("name", "Full name"), ("email", "Email"), ("phone", "Phone"), ("org", "Current company"),
    ("resume", "Resume/CV"), ("urls[LinkedIn]", "LinkedIn URL"), ("urls[GitHub]", "GitHub URL"),
    ("urls[Portfolio]", "Portfolio URL"), ("comments", "Additional information")]
  strictControls := false

def ashby : Strategy where
  name := "ashby"
  families := [.ashby]
  submitLocators := texts ["button[type=submit]", "text=/^submit application$/i",
    "text=/^submit$/i"]
  successUrlPatterns := texts ["/application/submitted", "submitted=true", "/thanks"]
  successText := some (ignoringCase
    "application submitted|thank you for applying|we('ve| have) received your application")
  fieldLabels := []
  strictControls := true

def generic : Strategy where
  name := "generic"
  families := [.genericWeb, .capturedBrowserTarget]
  submitLocators := texts ["button[type=submit]", "input[type=submit]",
    "text=/^(submit|apply|send application|submit application)$/i"]
  successUrlPatterns := texts ["/thank", "/confirmation", "/success", "submitted=", "applied="]
  successText := none
  fieldLabels := []
  strictControls := false

def strategies : List Strategy := [greenhouse, lever, ashby, generic]

def strategyFor (family : ATSFamily) : Strategy :=
  (strategies.find? fun s => decide (family ∈ s.families)).getD generic

/-! ### The world and the log -/

/-- A frame of the page, by its place among `page.frames`. -/
structure Frame where
  index : Nat
  main : Bool
  url : Text
  deriving DecidableEq

/-- A command to a control of the form; of a list of options or buttons, the one at an index. -/
inductive Touch
  | fill (selector text : Text)
  | type (selector text : Text)
  | click (selector : Text)
  | escape (selector : Text)
  | upload (selector path : Text)
  | select (selector : Text) (values : List Text)
  | check (selector : Text)
  | option (index : Nat)
  | button (selector : Text) (index : Nat)
  deriving DecidableEq

/-- What a document on disk is: its size and its hash. -/
structure FileInfo where
  size : Nat
  sha256 : String
  deriving DecidableEq

/-- An entry of the log. -/
inductive Act
  | opened
  | visited (url : Text)
  | followed (selector : Text)
  | looked (scan : PageScan)
  | read (path : Text) (info : Option FileInfo)
  | touched (touch : Touch)
  | filled (selector label : Text)
  | rescanned (scan : PageScan)
  | asked (failures : List String)
  | pressed (selector : Text)
  | watched (scan : PageScan)

/-- An exception of the browser. -/
structure Exn where
  name : String
  text : Text

structure ExecutorError where
  beforeSubmit : Bool
  retryable : Bool
  errorClass : ErrorClass
  message : String
  deriving DecidableEq

inductive Failure
  | executor (e : ExecutorError)
  | other (e : Exn)

/-- What the world answers. The number of rounds is how often a loop goes round before its deadline
has passed. -/
structure Browser (ω : Type) where
  start : ω → Except Exn Unit × ω
  newPage : ω → Except Exn Unit × ω
  relaunch : ω → ω
  goto : Text → ω → Except Exn Unit × ω
  /-- `new URL(href, location.href)`. -/
  resolve : Text → ω → Except Exn Text × ω
  wait : ω → Except Exn Unit × ω
  click : Text → ω → Except Exn Unit × ω
  scan : Option Frame → ω → Except Exn PageScan × ω
  frames : ω → List Frame
  url : Option Frame → ω → Text
  count : Option Frame → Text → ω → Except Exn Nat × ω
  visible : Option Frame → Text → ω → Except Exn Bool × ω
  touch : Option Frame → Touch → ω → Except Exn Unit × ω
  /-- The texts of the visible options, or none when the list was drawn anew meanwhile. -/
  options : Option Frame → ω → Except Exn (Option (List Text)) × ω
  notice : Option Frame → ω → Except Exn (Option Text) × ω
  shows : Option Frame → Text → ω → Except Exn Text × ω
  buttons : Option Frame → Text → ω → Except Exn (List Text) × ω
  ariaPressed : Option Frame → Text → Nat → ω → Except Exn (Option Text) × ω
  submit : Option Frame → Text → ω → Except Exn Unit × ω
  rounds : ω → Nat
  file : Text → ω → Option FileInfo

/-- What is kept of an application between the calls. A frame is where the form lives, when that is
not the page itself. -/
structure RunState where
  strategy : Strategy
  page : Bool
  frame : Option Frame
  scan : PageScan
  handoff : Option (HandoffReason × String)
  postSubmit : Option PageScan

structure Session (ω : Type) where
  world : ω
  log : List Act
  run : Option RunState
  fillNotes : List (Text × String)

abbrev Drive (ω α : Type) := Program (Session ω) Failure α

section Commands
variable {ω α : Type}

def call (f : ω → Except Exn α × ω) : Drive ω α := fun s =>
  ((f s.world).1.mapError .other, { s with world := (f s.world).2 })

def peek (f : ω → α) : Drive ω α := fun s => (.ok (f s.world), s)

def change (f : ω → ω) : Drive ω Unit := Program.modify fun s => { s with world := f s.world }

def write (a : Act) : Drive ω Unit := Program.modify fun s => { s with log := s.log ++ [a] }

def setRun (run : Option RunState) : Drive ω Unit := Program.modify fun s => { s with run := run }

def noteFill (label : Text) (reason : String) : Drive ω Unit :=
  Program.modify fun s => { s with fillNotes := (label, reason) :: s.fillNotes }

/-- A command is logged before it is given: it may act and raise. -/
def touch (b : Browser ω) (frame : Option Frame) (t : Touch) : Drive ω Unit := do
  write (.touched t)
  call (b.touch frame t)

end Commands

end RangeApply.Playwright
