import RangeApply.Openings

/-! A posting as its source gave it, the hashes it is known again by, and what normalisation makes
of it. -/
namespace RangeApply.Postings

/-- A text that is there and not empty. -/
def given (s : Option String) : Bool := s.any fun s => s ≠ ""

/-- `a or b`. -/
def orElse (a b : Option String) : Option String := if given a then a else b

/-- A posting as fetched; `μ` is what the source says besides. -/
structure RawJob (μ : Type) where
  source : String
  sourceJobId : String
  sourceUrl : String
  rawTitle : String
  rawContent : String
  rawLocation : Option String
  sourcePostedAt : Option Time
  sourceUpdatedAt : Option Time
  sourceDeadline : Option Time
  metadata : μ

structure NormalizedJob where
  key : PostingKey
  canonicalKey : String
  sourceIdentifier : Option String
  company : String
  originalTitle : String
  content : JobContent
  contentHash : String
  sourceUrl : String
  applicationUrl : Option String
  postedAt : Option Time
  sourceUpdatedAt : Option Time
  deadline : Option Time
  processingStatus : String
  jobStatus : JobStatus

/-- The text functions of Python and the extractors. -/
structure Extractors (μ : Type) where
  lower : String → String
  strip : String → String
  /-- Runs of whitespace become one blank. -/
  squeeze : String → String
  /-- SHA-256 of the UTF-8 bytes, in hexadecimal. -/
  digest : String → String
  cleanHtml : String → String
  normalizeCompany : String → String
  normalizeTitle : String → String → String
  normalizeUrl : Option String → Option String
  boardToken : μ → Option String
  companySlug : μ → Option String
  boardName : μ → Option String
  applyUrl : μ → Option String
  applyUrlCamel : μ → Option String
  /-- The places under `secondaryLocations` and `categories`. -/
  sourceLocations : μ → List String
  remoteType : String → Option String → String → μ → String
  /-- Everything else that is read off the posting: employment type, level, skills, salary. -/
  extracted : String → String → μ → String
  /-- The fields that the model fills in, when one is configured. -/
  llm : Option (String → String → JobContent → JobContent)

namespace Extractors
variable {μ : Type} (x : Extractors μ)

/-- No language model is asked. -/
def deterministic : Extractors μ := { x with llm := none }

/-! ### Hashes -/

def computeContentHash (company title description : String) : String :=
  let desc := x.squeeze (x.lower (x.cleanHtml description))
  x.digest s!"{x.strip (x.lower company)}|{x.strip (x.lower title)}|{desc}"

def applicationUrl (metadata : μ) : Option String :=
  orElse (x.applyUrl metadata) (x.applyUrlCamel metadata)

/-- The texts that the raw hash covers. -/
def rawParts (raw : RawJob μ) : List String :=
  [raw.source, raw.sourceJobId, raw.rawTitle, raw.rawLocation.getD "", x.squeeze raw.rawContent,
    raw.sourceUrl, (orElse (x.applicationUrl raw.metadata) (some "")).getD ""]

def computeRawHash (raw : RawJob μ) : String :=
  x.digest (String.join ((x.rawParts raw).map fun part => part.push (Char.ofNat 0)))

def computeCanonicalKey (company title : String) (location : Option String) : String :=
  let place := location.getD ""
  x.digest s!"{x.strip (x.lower company)}|{x.strip (x.lower title)}|{x.strip (x.lower place)}"

/-! ### Normalisation -/

/-- Why a posting cannot be ingested. -/
def validateRawJob (raw : RawJob μ) : Option String :=
  if raw.sourceJobId = "" ∨ x.strip raw.sourceJobId = "" then some "missing source_job_id"
  else if raw.rawTitle = "" ∨ x.strip raw.rawTitle = "" then some "missing title"
  else if raw.sourceUrl = "" ∨ x.strip raw.sourceUrl = "" then some "missing source_url"
  else if 512 < raw.rawTitle.length then some "title too long"
  else none

/-- The places that `;`, `/` and `|` separate. -/
def normalizeLocation (location : Option String) : Option String × List String :=
  match location with
  | none => (none, [])
  | some text =>
    if text = "" ∨ x.strip text = "" then (none, [])
    else
      let separator (c : Char) : Bool := c = ';' || c = '/' || c = '|'
      let parts := ((x.strip text).toList.splitOnP separator).map fun cs => x.strip (String.ofList cs)
      match parts.filter (· ≠ "") with
      | [] => (some (x.strip text), [x.strip text])
      | first :: more => (some first, first :: more)

def company (companyName : Option String) (raw : RawJob μ) : String :=
  let board := orElse (orElse (x.boardToken raw.metadata) (x.companySlug raw.metadata))
    (x.boardName raw.metadata)
  x.normalizeCompany ((orElse (orElse companyName board) (some "Unknown Company")).getD "")

/-- What is read off the posting; the rest of normalisation says where it was read. -/
def content (companyName : Option String) (raw : RawJob μ) : JobContent :=
  let (location, locations) := x.normalizeLocation raw.rawLocation
  { title := x.normalizeTitle raw.rawTitle (x.company companyName raw)
    description := x.cleanHtml raw.rawContent
    location := location
    locations := locations ++ (x.sourceLocations raw.metadata).filter (· ∉ locations)
    remoteType := x.remoteType raw.rawTitle raw.rawLocation raw.rawContent raw.metadata
    extracted := x.extracted raw.rawTitle raw.rawContent raw.metadata }

def normalize (companyName : Option String) (raw : RawJob μ) : NormalizedJob :=
  let company := x.company companyName raw
  let content := x.content companyName raw
  { key := ⟨raw.source, raw.sourceJobId⟩
    canonicalKey := x.computeCanonicalKey company content.title content.location
    sourceIdentifier := orElse (orElse (x.boardToken raw.metadata) (x.companySlug raw.metadata))
      (x.boardName raw.metadata)
    company := company
    originalTitle := raw.rawTitle
    content := content
    contentHash := x.computeContentHash company content.title raw.rawContent
    sourceUrl := raw.sourceUrl
    applicationUrl := x.applicationUrl raw.metadata
    postedAt := raw.sourcePostedAt
    sourceUpdatedAt := raw.sourceUpdatedAt
    deadline := raw.sourceDeadline
    processingStatus := "NORMALIZED"
    jobStatus := .active }

/-- Normalised, and what was left open filled in. -/
def enriched (companyName : Option String) (raw : RawJob μ) : NormalizedJob :=
  let job := x.normalize companyName raw
  match x.llm with
  | none => job
  | some fill => { job with content := { fill job.content.title raw.rawContent job.content with
      title := job.content.title
      description := job.content.description
      location := job.content.location
      locations := job.content.locations } }

end Extractors

end RangeApply.Postings
