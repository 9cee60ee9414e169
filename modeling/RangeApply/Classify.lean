import RangeApply.Message

/-! Deterministic classification of a message: named patterns, a fixed precedence of the
categories that match, and a lower confidence when incompatible ones do. -/
namespace RangeApply

inductive RuleField
  | subject | body | any
  deriving DecidableEq

structure Rule where
  id : String
  category : SignalCategory
  confidence : Confidence
  pattern : Pattern
  field : RuleField

/-- `_r`: a pattern on the subject and the body, whatever the case of the letters. -/
def rule (id : String) (category : SignalCategory) (confidence : Confidence) (pattern : String) :
    Rule :=
  ⟨id, category, confidence, .of true true pattern.ascii, .any⟩

/-- `RULES`. -/
def signalRules : List Rule := [
  rule "rej.not_moving_forward" .rejection .high
    ("\\b(not|won't|will not|unable to|decided not to)\\b.\x7b0,40\x7d\\b(move|moving|proceed|" ++
      "proceeding|go|going)\\s+(forward|ahead)"),
  rule "rej.other_candidates" .rejection .high
    ("\\b(other|another|different)\\s+(candidates?|applicants?)\\b.\x7b0,80\x7d\\b(more " ++
      "closely|better|whose|align|match|fit|selected|decided|proceed|pursue)|\\b(pursue|proceed|" ++
      "move forward with|selected)\\b.\x7b0,40\x7d\\b(other|another)\\s+(candidates?|" ++
      "applicants?)"),
  rule "rej.regret" .rejection .high
    ("\\b(regret to inform|regret that|we are sorry to inform|sorry to let you know|it is with " ++
      "regret)\\b"),
  rule "rej.not_selected" .rejection .high
    ("\\b(not (been )?selected|no longer (under|in) consideration|not (been )?shortlisted|" ++
      "unsuccessful (on this occasion|this time)|will not be (progressing|proceeding|" ++
      "considered)|not be progressing)\\b"),
  rule "rej.position_filled" .rejection .high
    "\\b(position|role|vacancy) (has|have) (now )?been filled\\b",
  rule "rej.unfortunately_soft" .rejection .medium
    "\\bunfortunately\\b.\x7b0,120\x7d\\b(application|candidacy|profile|role|position)\\b",
  rule "wd.withdrawn" .withdrawal .high
    ("\\b(application|candidacy)\\b.\x7b0,80\x7d\\b(has been|was|is) (withdrawn|cancelled|" ++
      "canceled)\\b|\\byou (have )?withdrawn\\b|\\bwithdraw(al|n) (of )?(your )?(application|" ++
      "candidacy)\\b|\\bconfirm(ing)? (your )?withdrawal\\b"),
  rule "dup.already_applied" .duplicateOrClosed .high
    ("\\b(already applied|duplicate application|application already (exists|received|on file)|" ++
      "previously applied)\\b"),
  rule "dup.closed" .duplicateOrClosed .high
    ("\\b(no longer accepting applications|posting (has|is) (been )?closed|job (has been|is) " ++
      "closed|requisition (has been|is) (closed|cancelled|canceled)|position (has been|is) " ++
      "(closed|cancelled|canceled|put on hold|on hold))\\b"),
  rule "asm.test" .assessment .high
    ("\\b(online assessment|coding (challenge|test|assessment|exercise)|take[- ]home " ++
      "(assignment|test|challenge|exercise)|technical (assessment|test|challenge)|aptitude test|" ++
      "skills? (test|assessment)|hackerrank|codility|codesignal|hackerearth|assessment (link|" ++
      "invitation|invite))\\b"),
  rule "asm.complete" .assessment .medium
    ("\\b(complete|finish|attempt) (the|this|your|an?) (assessment|test|challenge|" ++
      "assignment)\\b"),
  rule "int.invite" .interviewInvitation .high
    ("\\b(invite|inviting|invitation|like|love|want|pleased) (you )?(to )?(an? |the |your " ++
      ")?(interview|phone screen|screening call|technical round|hr round|discussion|chat|" ++
      "conversation)\\b|\\binterview (invitation|invite|request)\\b|\\bschedule (an? |your |the " ++
      ")?(interview|call|phone screen|screening|conversation|time to (talk|chat|speak))\\b"),
  rule "int.next_round" .interviewInvitation .high
    ("\\b(next (round|stage|step)s?\\b.\x7b0,60\x7d\\b(interview|call|conversation|discussion)|" ++
      "shortlisted for (an? )?(interview|the next round)|selected for (an? )?(interview|the " ++
      "next round)|interview (has been )?(scheduled|confirmed|booked)|your interview (with|at|" ++
      "on|is)|book a (time|slot))\\b"),
  rule "int.speak" .interviewInvitation .medium
    ("\\b(would like to (speak|talk|chat|connect) with you|set up a (call|time|conversation)|" ++
      "availability (for|to) (a )?(call|chat|interview|conversation)|available for a (quick " ++
      ")?(call|chat))\\b"),
  rule "info.provide" .informationRequest .high
    ("\\b(please (provide|send|share|upload|submit|attach|complete)|could you (please " ++
      ")?(provide|send|share|upload|submit|attach)|we (need|require|are missing)|missing " ++
      "(document|information|details)|additional (information|details|documents?) (is|are)? " ++
      "?(required|needed)|required to complete your application)\\b"),
  rule "conf.reference" .applicationConfirmation .high
    ("\\b(application|confirmation|reference) (id|number|no\\.?|#|" ++
      "code)\\s*[:#]?\\s*[A-Za-z0-9][A-Za-z0-9\\-_/]\x7b3,\x7d"),
  rule "conf.submitted" .applicationConfirmation .high
    ("\\b(application (has been|was) (successfully )?(submitted|received|recorded|logged)|" ++
      "successfully (submitted|applied)|application confirmation|confirmation of your " ++
      "application|confirm(s|ing)? (receipt of|that we (have )?received) your application)\\b"),
  rule "recv.thanks" .applicationReceived .high
    ("\\b(thank(s| you) for (applying|your application|your interest in|submitting your " ++
      "application)|we('ve| have) received your application|application received|received your " ++
      "application|your application (to|for|at) .\x7b2,80\x7d (has been received|was " ++
      "received))\\b"),
  rule "recv.review_soon" .applicationReceived .medium
    ("\\b(will (review|be reviewing) your (application|profile|resume|cv)|review your " ++
      "application (and|shortly)|be in touch (if|should|when))\\b"),
  rule "stat.under_review" .statusUpdate .high
    ("\\b(application (status|update)|status of your application|update on your application|" ++
      "(is|are) (currently )?(under|in) review|(currently |still )?(reviewing|being reviewed|" ++
      "being considered)|moved to the next stage|status (has )?changed)\\b"),
  rule "rec.reaching_out" .recruiterContact .medium
    ("\\b(reaching out|i('m| am) (a )?(recruiter|talent partner|hiring manager|technical " ++
      "recruiter)|talent acquisition|came across your (profile|resume|cv)|your (profile|" ++
      "background|experience) (caught|stood out|looks)|(opportunity|opening|role) (at|with) " ++
      ".\x7b2,60\x7d(that|which|might|may|could) (be a )?(fit|match|interest))\\b"),
  rule "other.alerts" .other .high
    ("\\b(job alert|jobs? (you may|you might) (like|be interested in)|recommended (jobs|for " ++
      "you)|new jobs (matching|for you)|weekly digest|newsletter|unsubscribe from (these|this|" ++
      "our) (emails?|alerts?|notifications?)|based on your (search|profile) preferences)\\b")]

/-- `PRECEDENCE`. -/
def precedence : List SignalCategory :=
  [.rejection, .withdrawal, .duplicateOrClosed, .assessment, .interviewInvitation,
    .informationRequest, .applicationConfirmation, .applicationReceived, .statusUpdate,
    .recruiterContact, .other]

/-- `_COMPATIBLE`: pairs that routinely occur in one message. -/
def compatiblePairs : List (SignalCategory × SignalCategory) :=
  [(.rejection, .interviewInvitation), (.rejection, .assessment),
    (.rejection, .applicationReceived), (.rejection, .applicationConfirmation),
    (.rejection, .statusUpdate), (.assessment, .interviewInvitation),
    (.assessment, .informationRequest), (.assessment, .applicationReceived),
    (.assessment, .applicationConfirmation), (.interviewInvitation, .applicationReceived),
    (.interviewInvitation, .applicationConfirmation), (.interviewInvitation, .recruiterContact),
    (.interviewInvitation, .statusUpdate), (.informationRequest, .applicationReceived),
    (.informationRequest, .applicationConfirmation), (.informationRequest, .statusUpdate),
    (.applicationConfirmation, .applicationReceived), (.applicationConfirmation, .statusUpdate),
    (.applicationReceived, .statusUpdate), (.applicationReceived, .recruiterContact),
    (.withdrawal, .applicationReceived), (.withdrawal, .statusUpdate),
    (.duplicateOrClosed, .applicationReceived), (.duplicateOrClosed, .statusUpdate)]

def compatible (a b : SignalCategory) : Bool :=
  decide ((a, b) ∈ compatiblePairs) || decide ((b, a) ∈ compatiblePairs)

def classifierVersion : String := "signal-classifier-v1"

structure Classification where
  category : SignalCategory
  confidence : Confidence
  source : ClassificationSource
  classifierVersion : String
  matchedRules : List String
  competing : List SignalCategory
  deriving DecidableEq

def Classification.confident (c : Classification) : Bool := decide (c.confidence = .high)

def Rule.matches (u : Unicode) (subject body : Text) (r : Rule) : Bool :=
  let haystack := match r.field with
    | .subject => subject
    | .body => body
    | .any => subject ++ '\n' :: body
  decide (haystack ≠ []) && r.pattern.found u haystack

/-- The rules that match; a marketing sender counts as one unless the message says more. -/
def matchedRules (u : Unicode) (subject body : Text) (marketing : Bool) : List Rule :=
  let found := signalRules.filter (·.matches u subject body)
  let said (c : SignalCategory) := found.any fun r => r.category = c
  if marketing && !said .other && !said .rejection && !said .interviewInvitation &&
      !said .assessment && !said .applicationConfirmation then
    found ++ [⟨"other.marketing_sender", .other, .high, ⟨.empty, false⟩, .any⟩]
  else found

/-- The highest confidence of the rules of a category. -/
def bestConfidence (rules : List Rule) (c : SignalCategory) : Confidence :=
  (rules.filter fun r => r.category = c).foldl
    (fun best r => if best.rank < r.confidence.rank then r.confidence else best) .none

/-- Another category that is as sure and does not go with the winner. -/
def contradicted (rules : List Rule) (winner : SignalCategory) (others : List SignalCategory) :
    Bool :=
  others.any fun c => decide (c ≠ .other) && decide (bestConfidence rules c = .high) &&
    !compatible winner c

/-- The verdict on the rules that matched. Marketing words next to a real category give way to
it. -/
def judge (rules : List Rule) : Classification :=
  let ordered := precedence.filter fun c => rules.any fun r => r.category = c
  match ordered with
  | [] => ⟨.unknown, .none, .rules, classifierVersion, [], []⟩
  | first :: others =>
    let winner := if first = .other then others.headD first else first
    let best := bestConfidence rules winner
    let sure := if winner = first then best else best.lower
    { category := winner
      confidence := if contradicted rules winner others then sure.lower else sure
      source := .rules
      classifierVersion := classifierVersion
      matchedRules := ordered.flatMap fun c => (rules.filter fun r => r.category = c).map (·.id)
      competing := ordered.filter (· ≠ winner) }

def classifyText (u : Unicode) (subject : Option Text) (body : Text) (marketing : Bool) :
    Classification :=
  judge (matchedRules u (Text.strip (subject.getD [])) (Text.strip body) marketing)

/-! ### The model's answer to a message the rules are unsure of -/

/-- What the gateway returned: the category and the confidence it names. -/
structure AIReply where
  category : Text
  confidence : Text
  deriving DecidableEq

/-- The categories a model may answer with. -/
def aiCategories : List SignalCategory :=
  [.applicationConfirmation, .applicationReceived, .rejection, .interviewInvitation,
    .recruiterContact, .assessment, .informationRequest, .withdrawal, .duplicateOrClosed,
    .statusUpdate, .other, .unknown]

/-- A category outside the enumeration is no answer, and no answer is HIGH. -/
def AIReply.classification (reply : AIReply) : Option Classification :=
  let upper (t : Text) := t.map Char.toUpper
  (aiCategories.find? fun c => c.value.toList = upper (Text.strip reply.category)).map fun c =>
    { category := c
      confidence :=
        if upper reply.confidence = "HIGH".toList ∨ upper reply.confidence = "MEDIUM".toList
        then .medium else .low
      source := .ai
      classifierVersion := "signal-classifier-v1+classify-signal-v1"
      matchedRules := []
      competing := [] }

end RangeApply
