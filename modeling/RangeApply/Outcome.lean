import RangeApply.Store

/-! What a signal says happened to an application, and how the current outcome of an application
is derived from the history of its events. -/
namespace RangeApply

inductive SignalSource
  | execution | email | statusPage | manual | extension | playwright
  deriving DecidableEq, Repr

inductive SignalCategory
  | applicationConfirmation | applicationReceived | rejection | interviewInvitation
  | recruiterContact | assessment | informationRequest | withdrawal | duplicateOrClosed
  | statusUpdate | executionResult | other | unknown
  deriving DecidableEq, Repr

def SignalCategory.value : SignalCategory → String
  | applicationConfirmation => "APPLICATION_CONFIRMATION"
  | applicationReceived => "APPLICATION_RECEIVED" | rejection => "REJECTION"
  | interviewInvitation => "INTERVIEW_INVITATION" | recruiterContact => "RECRUITER_CONTACT"
  | assessment => "ASSESSMENT" | informationRequest => "INFORMATION_REQUEST"
  | withdrawal => "WITHDRAWAL" | duplicateOrClosed => "DUPLICATE_OR_CLOSED"
  | statusUpdate => "STATUS_UPDATE" | executionResult => "EXECUTION_RESULT" | other => "OTHER"
  | unknown => "UNKNOWN"

inductive Confidence
  | high | medium | low | none
  deriving DecidableEq, Repr

namespace Confidence

def value : Confidence → String
  | high => "HIGH" | medium => "MEDIUM" | low => "LOW" | none => "NONE"

def rank : Confidence → Nat
  | high => 3 | medium => 2 | low => 1 | none => 0

/-- `_lower`. -/
def lower : Confidence → Confidence
  | high => medium | medium => low | low => low | none => none

end Confidence

inductive ClassificationSource
  | rules | ai | execution | human | declared
  deriving DecidableEq, Repr

def ClassificationSource.value : ClassificationSource → String
  | rules => "rules" | ai => "ai" | execution => "execution" | human => "human"
  | declared => "declared"

inductive SignalStatus
  | new | needsReview | unmatched | attributed | applied | ignored | merged
  deriving DecidableEq, Repr

def SignalStatus.value : SignalStatus → String
  | new => "NEW" | needsReview => "NEEDS_REVIEW" | unmatched => "UNMATCHED"
  | attributed => "ATTRIBUTED" | applied => "APPLIED" | ignored => "IGNORED" | merged => "MERGED"

/-- `_REPROCESSABLE`. -/
def SignalStatus.reprocessable : SignalStatus → Bool
  | new | needsReview | unmatched | attributed | applied => true
  | ignored | merged => false

inductive AttributionStatus
  | matched | ambiguous | unmatched | manual | skipped
  deriving DecidableEq, Repr

def AttributionStatus.value : AttributionStatus → String
  | matched => "MATCHED" | ambiguous => "AMBIGUOUS" | unmatched => "UNMATCHED"
  | manual => "MANUAL" | skipped => "SKIPPED"

inductive OutcomeKind
  | submitted | applicationReceived | underReview | assessmentRequested | recruiterContact
  | interviewRequested | interviewScheduled | rejected | withdrawn | closedWithoutApplication
  | needsReview | unknown
  deriving DecidableEq, Repr

namespace OutcomeKind

def value : OutcomeKind → String
  | submitted => "SUBMITTED" | applicationReceived => "APPLICATION_RECEIVED"
  | underReview => "UNDER_REVIEW" | assessmentRequested => "ASSESSMENT_REQUESTED"
  | recruiterContact => "RECRUITER_CONTACT" | interviewRequested => "INTERVIEW_REQUESTED"
  | interviewScheduled => "INTERVIEW_SCHEDULED" | rejected => "REJECTED" | withdrawn => "WITHDRAWN"
  | closedWithoutApplication => "CLOSED_WITHOUT_APPLICATION" | needsReview => "NEEDS_REVIEW"
  | unknown => "UNKNOWN"

/-- `STAGE`. -/
def stage : OutcomeKind → Option Nat
  | submitted => some 1 | applicationReceived => some 2 | underReview => some 3
  | recruiterContact | assessmentRequested => some 4 | interviewRequested => some 5
  | interviewScheduled => some 6
  | _ => none

/-- `TERMINAL`. -/
def terminal : OutcomeKind → Bool
  | rejected | withdrawn | closedWithoutApplication => true
  | _ => false

end OutcomeKind

/-- How much an event may move the derived outcome. -/
inductive EvidenceStrength
  | strong | moderate | weak
  deriving DecidableEq, Repr

def EvidenceStrength.value : EvidenceStrength → String
  | strong => "STRONG" | moderate => "MODERATE" | weak => "WEAK"

inductive EventOrigin
  | rules | execution | ai | human
  deriving DecidableEq, Repr

inductive TimeBasis
  | external | observed
  deriving DecidableEq, Repr

def VerificationStatus.value : VerificationStatus → String
  | notAttempted => "NOT_ATTEMPTED" | pending => "PENDING" | verified => "VERIFIED"
  | likely => "LIKELY" | failed => "FAILED" | unknown => "UNKNOWN"

/-- `OUTCOME_FOR_CATEGORY`. -/
def SignalCategory.outcome : SignalCategory → Option OutcomeKind
  | applicationConfirmation | applicationReceived => some .applicationReceived
  | rejection => some .rejected
  | interviewInvitation => some .interviewRequested
  | recruiterContact => some .recruiterContact
  | assessment => some .assessmentRequested
  | informationRequest | statusUpdate => some .underReview
  | withdrawal => some .withdrawn
  | duplicateOrClosed => some .closedWithoutApplication
  | executionResult => some .submitted
  | other | unknown => none

def evidenceFor (confidence : Confidence) (source : ClassificationSource) : EvidenceStrength :=
  match source with
  | .ai => .weak
  | .human | .declared => .strong
  | _ => match confidence with
    | .high => .strong
    | .medium => .moderate
    | _ => .weak

def outcomeForVerification (status : String) : OutcomeKind × EvidenceStrength × Confidence :=
  if status = VerificationStatus.verified.value then (.submitted, .strong, .high)
  else if status = VerificationStatus.likely.value then (.submitted, .moderate, .medium)
  else if status = VerificationStatus.failed.value then (.needsReview, .strong, .high)
  else (.unknown, .weak, .low)

/-! ### Deriving the outcome -/

/-- What the derivation reads of an event. -/
structure EventView (ι : Type) where
  id : ι
  outcome : OutcomeKind
  evidence : EvidenceStrength
  eventAt : Time
  sequence : Nat
  active : Bool

structure DerivedOutcome (ι : Type) where
  current : OutcomeKind
  provisional : Option OutcomeKind
  needsReview : Bool
  conflicts : List String
  basisEventId : Option ι
  eventCount : Nat
  lastEventAt : Option Time
  deriving DecidableEq

variable {ι : Type}

namespace EventView

/-- Events are ordered by `(event_at, sequence)`. -/
def order (e : EventView ι) : List Int := [e.eventAt, e.sequence]

/-- The highest stage comes last, then the latest event. -/
def advance (e : EventView ι) : List Int := ((e.outcome.stage.getD 0 : Nat) : Int) :: e.order

def strongTerminal (e : EventView ι) : Bool := e.outcome.terminal && decide (e.evidence = .strong)

def weakTerminal (e : EventView ι) : Bool := e.outcome.terminal && decide (e.evidence ≠ .strong)

def progress (e : EventView ι) : Bool := e.outcome.stage.isSome && decide (e.evidence ≠ .weak)

def weakProgress (e : EventView ι) : Bool := e.outcome.stage.isSome && decide (e.evidence = .weak)

end EventView

/-- `max(items, key=...)`: the first of the greatest. -/
def greatest {α : Type} (key : α → List Int) : List α → Option α
  | [] => none
  | a :: as => some (as.foldl (fun best b => if keyLe (key b) (key best) then best else b) a)

/-- Two different endings, or progress after the ending. -/
def conflictsOf (active : List (EventView ι)) (last : EventView ι) : List String :=
  let kinds := [OutcomeKind.closedWithoutApplication, .rejected, .withdrawn].filter fun k =>
    (active.filter (·.strongTerminal)).any fun e => e.outcome = k
  let later := (active.filter (·.progress)).filter fun p => !keyLe p.order last.order
  (if kinds.length > 1 then
    ["multiple terminal outcomes: " ++ ", ".intercalate (kinds.map OutcomeKind.value)] else []) ++
  match later.getLast? with
  | none => []
  | some p => [s!"{p.outcome.value} evidence after {last.outcome.value}"]

/-- The event the current outcome rests on: the last strong ending, else the furthest progress. -/
def basisOf (active : List (EventView ι)) : Option (EventView ι) :=
  match (active.filter (·.strongTerminal)).getLast? with
  | some last => some last
  | none => greatest EventView.advance (active.filter (·.progress))

/-- What weaker evidence suggests beyond the current outcome. -/
def provisionalOf (active : List (EventView ι)) (current : Option OutcomeKind) :
    Option OutcomeKind :=
  match (active.filter (·.weakTerminal)).getLast?, (current.map OutcomeKind.terminal).getD false with
  | some ending, false => some ending.outcome
  | _, _ =>
    match greatest EventView.advance (active.filter (·.weakProgress)), current with
    | none, _ => none
    | some best, none => some best.outcome
    | some best, some c =>
      match best.outcome.stage, c.stage with
      | some ahead, some here => if here < ahead then some best.outcome else none
      | _, _ => none

/-- The current outcome of an application with these events. -/
def derive (events : List (EventView ι)) : DerivedOutcome ι :=
  let active := sortBy EventView.order (events.filter (·.active))
  let basis := basisOf active
  let current := basis.map (·.outcome)
  let conflicts := match (active.filter (·.strongTerminal)).getLast? with
    | some last => conflictsOf active last
    | none => []
  let provisional := provisionalOf active current
  let flagged := active.any fun e => e.outcome = .needsReview
  { current :=
      if conflicts ≠ [] then .needsReview
      else match current with
        | some c => c
        | none => if flagged then .needsReview else .unknown
    provisional := provisional
    needsReview := decide (conflicts ≠ []) || flagged ||
      (provisional.isSome && decide (provisional ≠ current))
    conflicts := conflicts
    basisEventId := basis.map (·.id)
    eventCount := active.length
    lastEventAt := active.getLast?.map (·.eventAt) }

end RangeApply
