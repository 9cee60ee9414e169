import RangeApply.Classify

/-! Which application a signal belongs to: strong identifiers first, in a fixed order, then
company and title, and no application at all when more than one could be meant. -/
namespace RangeApply

structure AttributionResult where
  status : AttributionStatus
  applicationId : Option ApplicationId
  rule : String
  confidence : Confidence
  candidates : List ApplicationId
  explanation : String
  deriving DecidableEq

/-- The tenant's attempts and what identifies them, as last loaded. -/
structure AttemptIndex where
  attempts : List ApplicationId
  byOpportunity : List (OpportunityId × ApplicationId)
  byJob : List (String × ApplicationId)
  byReference : List (Text × List ApplicationId)
  byUrl : List (Text × List ApplicationId)
  byCompany : List (String × List ApplicationId)
  titleOf : List (ApplicationId × String)
  attemptUuids : List (Text × ApplicationId)
  opportunityUuids : List (Text × ApplicationId)

def AttemptIndex.of (attempts : List ApplicationId) : AttemptIndex :=
  ⟨attempts, attempts.map fun a => (a, a), [], [], [], [], [], [], []⟩

/-- What an attribution looks up: the index, and rows it reads as they are now. -/
structure Lookups where
  index : AttemptIndex
  run : ApplicationId × RunId → Option ApplicationId
  candidate : OpportunityId → Option OpportunityId
  thread : Text → Option ApplicationId
  status : ApplicationId → Option ApplicationStatus

/-- `PRE_EXECUTION`: the attempt cannot have produced a signal yet. -/
def ApplicationStatus.preExecution : ApplicationStatus → Bool
  | discovered | qualified | shortlisted | preparing | ready | awaitingApproval => true
  | _ => false

def Lookups.eligible (look : Lookups) (a : ApplicationId) : Bool :=
  decide (a ∈ look.index.attempts) && (match look.status a with
    | none => false
    | some status => !status.preExecution)

def schemeRe : Pattern := .of false false "^[a-z]+://".ascii

/-- `_normalize_url`. -/
def normalizeUrl (u : Unicode) (url : Text) : Text :=
  let text := u.lower (Text.strip url)
  let text := match schemeRe.matchStart u text with
    | some m => m.last.rest
    | none => text
  let text := (text.takeWhile (· ≠ '#')).takeWhile (· ≠ '?')
  let text := if Text.startsWith "www.".ascii text then text.drop 4 else text
  Text.rstrip ['/'] text

/-- Something that identifies applications: the rule, and which. -/
abbrev Finding := String × List ApplicationId

section Attribute
variable (env : SignalEnv) (look : Lookups) (n : NormalizedSignal)

/-- Identifiers the connector supplied. -/
def suppliedFindings : List Finding :=
  let hints := n.hints
  let finding {α : Type} (rule : String) (hint : Option α) (ids : α → Option ApplicationId) :
      List Finding := hint.toList.map fun h => (rule, (ids h).toList)
  finding "application_id" hints.applicationId
      (fun a => if a ∈ look.index.attempts then some a else none) ++
    finding "execution_run" hints.executionRunId look.run ++
    finding "candidate_opportunity_id" hints.candidateOpportunityId
      (fun co => (look.candidate co).bind (look.index.byOpportunity.lookup ·)) ++
    finding "opportunity_id" hints.opportunityId (look.index.byOpportunity.lookup ·) ++
    finding "source_job_id" hints.jobId (look.index.byJob.lookup ·) ++
    finding "email_thread" (hints.inReplyTo.bind Text.orNone) look.thread

/-- Applications behind a URL: the posting's own, or one it extends or is extended by. -/
def urlApplications (url : Text) : List ApplicationId :=
  let key := normalizeUrl env.unicode url
  if key = [] then []
  else match (look.index.byUrl.lookup key).getD [] with
    | [] => (look.index.byUrl.filter fun known =>
        Text.startsWith (known.1 ++ ['/']) key || Text.startsWith (key ++ ['/']) known.1).flatMap
          Prod.snd
    | ids => ids

/-- Identifiers in the content. -/
def contentFindings : List Finding :=
  (n.references.map fun ref => ("confirmation_reference",
      (look.index.byReference.lookup (env.unicode.lower (Text.strip ref))).getD [])) ++
    (n.uuids.map fun uid => match look.index.attemptUuids.lookup uid with
      | some a => ("embedded_application_id", [a])
      | none => ("embedded_opportunity_id", (look.index.opportunityUuids.lookup uid).toList)) ++
    (n.urls.map fun url => ("application_url", urlApplications env look url))

/-- `_fold`. -/
def foldText (text : Text) : String := " " ++ companyKey env.toEnv (String.ofList text) ++ " "

def titleKey (title : String) : String := companyKey env.toEnv (env.normalizeTitle title)

/-- The companies the message points at: hinted, named, or the sender's. -/
def pointedCompanies : List (String × List ApplicationId) :=
  let text := foldText env n.searchableText
  let hinted := (given n.hints.company).map (companyKey env.toEnv)
  let label := String.ofList (((n.employerDomain.getD []).splitOn '.').headD [])
  look.index.byCompany.filter fun known =>
    let key := known.1
    decide (3 ≤ key.length) && (decide (hinted = some key ∧ key ≠ "") ||
      occurs (" " ++ key ++ " ") text ||
      (decide (label ≠ "") &&
        (decide (String.ofList (key.toList.filter (· ≠ ' ')) = label) ||
          decide (String.ofList (key.toList.takeWhile (· ≠ ' ')) = label))))

def companyRule : AttributionResult :=
  let companies := pointedCompanies env look n
  if companies = [] then
    ⟨.unmatched, none, "none", .none, [],
      "no identifier, URL, reference, company or title evidence matched an application"⟩
  else
    let candidates := ((companies.flatMap Prod.snd).filter look.eligible).eraseDups
    let text := foldText env n.searchableText
    let hinted := (given n.hints.title).map (titleKey env)
    let byTitle := candidates.filter fun a => match given (look.index.titleOf.lookup a) with
      | none => false
      | some title => occurs (" " ++ title ++ " ") text || decide (hinted = some title)
    match candidates, byTitle with
    | [], _ => ⟨.unmatched, none, "company_no_attempt", .none, [],
        "the company is known but no application to it has been executed"⟩
    | _, [a] => ⟨.matched, some a, "company_title", .high, [],
        "company and job title together identify exactly one application"⟩
    | _, _ :: _ :: _ => ⟨.ambiguous, none, "company_title", .low, byTitle,
        "several applications share this company and title"⟩
    | [a], [] => ⟨.matched, some a, "company_only", .medium, [],
        "the company identifies exactly one executed application (no title evidence)"⟩
    | _, [] => ⟨.ambiguous, none, "company_only", .low, candidates,
        "several applications to this company; no title evidence"⟩

/-- `Attributor.attribute`. -/
def attributeSignal : AttributionResult :=
  let strong := (suppliedFindings look n ++ contentFindings env look n).filter (·.2 ≠ [])
  match (strong.flatMap Prod.snd).eraseDups, strong with
  | [a], finding :: _ => ⟨.matched, some a, finding.1, .high, [],
      finding.1 ++ " identifies exactly one application"⟩
  | a :: b :: more, _ => ⟨.ambiguous, none, "conflicting_identifiers", .low, a :: b :: more,
      "strong identifiers point at different applications; a person must decide"⟩
  | _, _ =>
    if n.hints.applicationId.isSome || n.hints.executionRunId.isSome then
      ⟨.unmatched, none, "unknown_identifier", .none, [],
        "the supplied identifier is not an application of this tenant"⟩
    else companyRule env look n

end Attribute

end RangeApply
