import Mathlib.Data.List.DropRight
import RangeApply.Outcome
import RangeApply.Regex

/-! Normalization of supplied messages and page observations: a text without quoted replies and
signatures, a bounded excerpt of it without credentials, and the identifiers found in it. -/
namespace RangeApply

/-- A text, as the list of its characters. -/
abbrev Text := List Char

instance : LawfulBEq Text := inferInstanceAs (LawfulBEq (List Char))

namespace Text

/-- `text or None`. -/
def orNone (t : Text) : Option Text := if t = [] then none else some t

def strip (t : Text) : Text := (t.dropWhile Char.isBlank).rdropWhile Char.isBlank

theorem strip_last (t : Text) : ∀ c ∈ (strip t).getLast?, c.isBlank = false := by
  intro c last
  have nonempty : strip t ≠ [] := by
    intro none_
    rw [none_] at last
    cases last
  rw [List.getLast?_eq_getLast_of_ne_nil nonempty] at last
  cases last
  exact Bool.eq_false_iff.mpr (List.rdropWhile_last_not _ _ nonempty)

theorem strip_head (t : Text) : ∀ c ∈ (strip t).head?, c.isBlank = false := by
  intro c head
  obtain ⟨rest, lead⟩ := List.rdropWhile_prefix Char.isBlank (t.dropWhile Char.isBlank)
  have kept : (strip t ++ rest).head? = some c := by
    rw [List.head?_append, show (strip t).head? = some c from head]
    rfl
  have kept : (t.dropWhile Char.isBlank).head? = some c := by
    rw [← lead]
    exact kept
  have blank := List.head?_dropWhile_not Char.isBlank t
  rw [kept] at blank
  exact blank

/-- A text without blanks at its ends stays as it is. -/
theorem strip_of_edges {t : Text} (head : ∀ c ∈ t.head?, c.isBlank = false)
    (last : ∀ c ∈ t.getLast?, c.isBlank = false) : strip t = t := by
  have front : t.dropWhile Char.isBlank = t := by
    cases t with
    | nil => rfl
    | cons c t => exact List.dropWhile_cons_of_neg (by simpa using head c rfl)
  unfold strip
  rw [front, List.rdropWhile_eq_self_iff]
  intro nonempty blank
  rw [last _ (List.getLast?_eq_getLast_of_ne_nil nonempty)] at blank
  cases blank

def rstrip (marks : List Char) (t : Text) : Text := t.rdropWhile (· ∈ marks)

def startsWith (lead t : Text) : Bool := lead.isPrefixOf t

def endsWith (tail t : Text) : Bool := tail.reverse.isPrefixOf t.reverse

/-- `needle in text`. -/
def occurs (needle t : Text) : Bool := t.tails.any fun rest => needle.isPrefixOf rest

/-- The characters of `_WS_RE`: blanks within a line. -/
def inLine (c : Char) : Bool :=
  c == ' ' || c == '\t' || c == '\r' || c.toNat == 12 || c.toNat == 11

/-- Every run of blanks within a line is one space. -/
def collapse : Text → Text
  | [] => []
  | c :: rest =>
    if inLine c then
      match collapse rest with
      | ' ' :: more => ' ' :: more
      | more => ' ' :: more
    else c :: collapse rest

/-- Both line ends of other systems become a line feed. -/
def unixLines : Text → Text
  | [] => []
  | '\r' :: '\n' :: rest => '\n' :: unixLines rest
  | '\r' :: rest => '\n' :: unixLines rest
  | c :: rest => c :: unixLines rest

end Text

/-- What makes a signal the same signal: a stable reference, or else its content. -/
inductive SignalId
  | ref (source : SignalSource) (reference : Text)
  | hash (source : SignalSource) (digest : String)
  deriving DecidableEq

/-- What the inbox takes from the platform and the settings, beside the environment. -/
structure SignalEnv extends Env where
  unicode : Unicode
  sha256 : Text → String
  reprPayload : Option Text → Option Text → Text
  excerptChars : Nat
  signalId : SignalId → String
  runId : OpportunityId × RunId → String

def SignalEnv.utc : SignalEnv :=
  { Env.utc with
    unicode := .ascii
    sha256 := String.ofList
    reprPayload := fun _ _ => []
    excerptChars := 2000
    signalId := fun _ => "signal"
    runId := fun r => toString r }

/-! ### The text of a message -/

section Lines

def quoteHeaderRe : Pattern := .of true false
  ("^(on .\x7b5,120\x7d wrote:|-\x7b2,\x7d\\s*original message\\s*-\x7b2,\x7d|from:\\s.+|" ++
    "_\x7b5,\x7d|-----\\s*forwarded message\\s*-----)\\s*$").ascii

def signatureRe : Pattern := .of true false
  ("^(--\\s*|__+\\s*|best regards,?|kind regards,?|regards,?|sincerely,?|thanks,?|thank you,?|" ++
    "cheers,?)\\s*$").ascii

/-- The lines that are kept: up to a quoted reply or a signature, without quoted lines. A
signature does not come first. -/
def keptLines (u : Unicode) : Bool → List Text → List Text
  | _, [] => []
  | started, line :: rest =>
    if (quoteHeaderRe.matchStart u line).isSome then []
    else if Text.startsWith ['>'] line then keptLines u started rest
    else if started && (signatureRe.matchStart u line).isSome then []
    else line :: keptLines u true rest

/-- Blank lines are dropped: `_BLANK_RE` and the last `strip` leave the others as they are. -/
def normalizeText (u : Unicode) (text : Text) : Text :=
  let lines := ((Text.unixLines text).splitOn '\n').map fun raw => Text.strip (Text.collapse raw)
  ['\n'].intercalate ((keptLines u false lines).filter (· ≠ []))

end Lines

def credentialRe : Pattern := .of true false
  ("(bearer\\s+[a-z0-9\\-_.]\x7b16,\x7d|api[_-]?key\\s*[:=]\\s*\\S\x7b8,\x7d|" ++
    "(password|passwd|passcode|otp|one[- ]time code|verification code|security code)\\s*(is|:|=)" ++
    "\\s*\\S+|sk-[a-z0-9]\x7b20,\x7d|AIza[0-9A-Za-z\\-_]\x7b30,\x7d|" ++
    "(cookie|set-cookie|authorization)\\s*:\\s*[^\\n]\x7b1,300\x7d)").ascii

def redactCredentials (u : Unicode) (text : Text) : Text :=
  credentialRe.sub u "[redacted]".ascii text

def excerptOf (u : Unicode) (limit : Nat) (text : Text) : Text :=
  (redactCredentials u text).take limit

/-! ### Senders -/

def addressRe : Pattern := .of false false "[\\w.+-]+@[\\w-]+(?:\\.[\\w-]+)+".ascii

def emailRe : Pattern := .of false false "[\\w.+-]+@([\\w-]+(?:\\.[\\w-]+)+)".ascii

def marketingSenderRe : Pattern := .of true false
  ("^(jobalerts?|alerts?|noreply-?alerts|newsletter|news|marketing|jobs-noreply|" ++
    "recommendations?)@").ascii

/-- `ATS_MAIL_DOMAINS`: mailers that never are company evidence. -/
def atsMailDomains : List Text :=
  ["greenhouse.io", "greenhouse-mail.io", "lever.co", "hire.lever.co", "ashbyhq.com",
    "myworkday.com", "myworkdayjobs.com", "smartrecruiters.com", "icims.com", "jobvite.com",
    "workable.com", "workablemail.com", "bamboohr.com", "successfactors.com", "taleo.net",
    "breezy.hr", "recruitee.com", "teamtailor.com", "applytojob.com", "jazz.co", "linkedin.com",
    "indeed.com", "glassdoor.com", "naukri.com", "hirist.com", "instahyre.com", "wellfound.com",
    "angel.co"].map String.ascii

def senderAddress (u : Unicode) (sender : Option Text) : Option Text :=
  match sender.bind Text.orNone with
  | none => none
  | some s =>
    match addressRe.search u s with
    | some m => some (u.lower m.text)
    | none => Text.orNone ((Text.strip s).take 256)

def senderDomain (u : Unicode) (sender : Option Text) : Option Text :=
  match sender.bind Text.orNone with
  | none => none
  | some s => (emailRe.search u s).map fun m => u.lower (m.group 1)

/-- The registrable part of a sender's domain, unless it is a mailer's. -/
def employerDomain (u : Unicode) (domain : Option Text) : Option Text :=
  match domain.bind Text.orNone with
  | none => none
  | some d =>
    let d := u.lower d
    if d ∈ atsMailDomains ∨ (atsMailDomains.any fun a => Text.endsWith ('.' :: a) d) then none
    else
      let parts := d.splitOn '.'
      let last (n : Nat) := some (['.'].intercalate (parts.drop (parts.length - n)))
      let second := ["co", "com", "org", "net", "ac", "gov"].map String.ascii
      match parts.reverse with
      | top :: next :: _ :: _ => if next ∈ second ∧ top.length = 2 then last 3 else last 2
      | [_, _] => last 2
      | _ => some d

def isMarketingSender (u : Unicode) (sender : Option Text) : Bool :=
  (marketingSenderRe.matchStart u ((senderAddress u sender).getD [])).isSome

/-! ### Identifiers in the text -/

def urlRe : Pattern := .of true false "https?://[^\\s<>\\\"')\\]]+".ascii

def referenceRe : Pattern := .of true false
  ("(?:application|reference|confirmation|tracking|candidate|requisition|req\\.?|job)\\s*" ++
    "(?:id|number|no\\.?|#|code|ref\\.?)\\s*[:#]?\\s*" ++
    "([A-Za-z0-9][A-Za-z0-9\\-_/]\x7b3,39\x7d)").ascii

def idRe : Pattern := .of true false
  ("\\b([0-9a-f]\x7b8\x7d-[0-9a-f]\x7b4\x7d-[0-9a-f]\x7b4\x7d-[0-9a-f]\x7b4\x7d-" ++
    "[0-9a-f]\x7b12\x7d)\\b").ascii

/-- A word stands where the number should: no reference. -/
def notReference (u : Unicode) (value : Text) : Bool :=
  decide (u.lower value ∈ ["is", "of", "for", "the", "your", "number", "code"].map String.ascii) ||
    (value.all (fun c => u.alnum c && !u.decimal c) && decide (value.length < 5))

def extractReferences (u : Unicode) (text : Text) : List Text :=
  let values := (referenceRe.all u text).map fun m =>
    Text.rstrip ".,;:)".ascii (Text.strip (m.group 1))
  (values.filter fun v => !notReference u v).eraseDups.take 10

def extractUrls (u : Unicode) (text : Text) : List Text :=
  (((urlRe.all u text).map fun m => Text.rstrip ".,;:)".ascii m.text).eraseDups).take 20

def extractUuids (u : Unicode) (text : Text) : List Text :=
  (((idRe.all u text).map fun m => u.lower (m.group 1)).eraseDups).take 10

/-! ### What is ingested, and what it is read as -/

abbrev ApplicationId := OpportunityId

/-- Identifiers a connector already knows. The ids of opportunities and candidate rows are those
of the opening, a run is a place among the runs of an attempt. -/
structure AttributionHints where
  applicationId : Option ApplicationId
  opportunityId : Option OpportunityId
  candidateOpportunityId : Option OpportunityId
  jobId : Option String
  executionRunId : Option (ApplicationId × RunId)
  url : Option Text
  company : Option String
  title : Option String
  reference : Option Text
  inReplyTo : Option Text
  deriving DecidableEq

def AttributionHints.none : AttributionHints :=
  ⟨.none, .none, .none, .none, .none, .none, .none, .none, .none, .none⟩

/-- The keys of a payload that the inbox reads. -/
structure Payload where
  kind : Option Text
  verificationStatus : Option Text
  deriving DecidableEq

def Payload.empty : Payload := ⟨.none, .none⟩

/-- One observation handed to the inbox. -/
structure SignalIngest where
  source : SignalSource
  sourceReference : Option Text
  subject : Option Text
  text : Option Text
  sender : Option Text
  externalAt : Option Time
  observedAt : Option Time
  payload : Payload
  hints : AttributionHints
  category : Option SignalCategory
  process : Bool
  deriving DecidableEq

/-- A status a person enters by hand, to be processed later. -/
def SignalIngest.manual (reference : String) (category : SignalCategory) : SignalIngest where
  source := .manual
  sourceReference := some reference.ascii
  subject := none
  text := none
  sender := none
  externalAt := none
  observedAt := none
  payload := .empty
  hints := .none
  category := some category
  process := false

structure NormalizedSignal where
  source : SignalSource
  sourceReference : Option Text
  subject : Option Text
  text : Text
  excerpt : Option Text
  sender : Option Text
  senderDomain : Option Text
  employerDomain : Option Text
  marketing : Bool
  dedupeKey : SignalId
  payload : Payload
  externalAt : Option Time
  observedAt : Time
  hints : AttributionHints
  references : List Text
  urls : List Text
  uuids : List Text

/-- `"\n".join(filter(None, [subject, text]))`. -/
def searchable (subject : Option Text) (text : Text) : Text :=
  ['\n'].intercalate ((subject.getD [] :: [text]).filter (· ≠ []))

def NormalizedSignal.searchableText (n : NormalizedSignal) : Text := searchable n.subject n.text

def SignalSource.text : SignalSource → Text
  | execution => "EXECUTION".ascii | email => "EMAIL".ascii | statusPage => "STATUS_PAGE".ascii
  | manual => "MANUAL".ascii | extension => "EXTENSION".ascii | playwright => "PLAYWRIGHT".ascii

section Normalize
variable (env : SignalEnv)

/-- The hash of the normalized content. -/
def contentHash (source : SignalSource) (domain subject : Option Text) (text : Text) : String :=
  let u := env.unicode
  env.sha256 (['\n'].intercalate
    [source.text, u.lower (domain.getD []), u.lower (Text.strip (subject.getD [])), text])

def normalizeSubject (subject : Option Text) : Option Text :=
  Text.orNone ((Text.strip (Text.collapse (subject.getD []))).take 512)

def NormalizedSignal.of (now : Time) (r : SignalIngest) : NormalizedSignal :=
  let u := env.unicode
  let reference := Text.orNone ((Text.strip (r.sourceReference.getD [])).take 256)
  let subject := normalizeSubject r.subject
  let text := normalizeText u (r.text.getD [])
  let domain := RangeApply.senderDomain u r.sender
  let material := if text = [] then
    (env.reprPayload r.payload.kind r.payload.verificationStatus).take 4000 else text
  let here := searchable subject text
  { source := r.source
    sourceReference := reference
    subject := subject
    text := text
    excerpt := Text.orNone (excerptOf u env.excerptChars text)
    sender := senderAddress u r.sender
    senderDomain := domain
    employerDomain := RangeApply.employerDomain u domain
    marketing := isMarketingSender u r.sender
    dedupeKey := match reference with
      | some given => .ref r.source given
      | none => .hash r.source (contentHash env r.source domain subject material)
    payload := ⟨r.payload.kind.map (·.take 500), r.payload.verificationStatus.map (·.take 500)⟩
    externalAt := r.externalAt
    observedAt := r.observedAt.getD now
    hints := r.hints
    references := ((r.hints.reference.bind Text.orNone).toList ++
      extractReferences u here).eraseDups
    urls := ((r.hints.url.bind Text.orNone).toList ++ extractUrls u here).eraseDups
    uuids := extractUuids u here }

end Normalize

end RangeApply
