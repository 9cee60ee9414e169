import Mathlib.Data.List.Infix
import RangeApply.Sorting

/-! The documents of a preparation: rendered once, verified before they are used again, replaced by
a new version. A file is written once; a row that is replaced is marked and keeps its file. -/
namespace RangeApply.Documents

inductive DocumentFormat
  | pdf | docx
  deriving DecidableEq

def DocumentFormat.value : DocumentFormat → String
  | .pdf => "PDF" | .docx => "DOCX"

/-- `EXTENSION`. -/
def DocumentFormat.extension : DocumentFormat → String
  | .pdf => "pdf" | .docx => "docx"

inductive DocumentStatus
  | active | invalidated
  deriving DecidableEq

def DocumentStatus.value : DocumentStatus → String
  | .active => "ACTIVE" | .invalidated => "INVALIDATED"

inductive DocumentValidation
  | passed | needsReview | failed
  deriving DecidableEq

def DocumentValidation.value : DocumentValidation → String
  | .passed => "PASSED" | .needsReview => "NEEDS_REVIEW" | .failed => "FAILED"

/-- What a call raises. All but the last two are a `CareerOSError`. -/
inductive Failure
  | notFound (message : String)
  | document (message : String)
  | storage (message : String)
  | render (message : String)
  | other (message : String)
  deriving DecidableEq

def Failure.careerOS : Failure → Option String
  | .notFound m | .document m | .storage m => some m
  | .render _ | .other _ => none

/-- What the program handles and does not look into. -/
structure Sorts where
  Blocks : Type
  Contact : Type
  Model : Type
  Data : Type
  Options : Type

abbrev ArtifactId := Nat

structure Preparation (S : Sorts) where
  tenant : String
  candidateOpportunity : String
  status : PreparationStatus
  version : Nat
  inputFingerprint : String
  evidenceFingerprint : Option String
  coverLetterDisabled : Bool
  jobTitle : Option String
  company : Option String
  artifacts : List (String × S.Blocks)

structure Artifact where
  tenant : String
  candidateOpportunity : String
  preparation : String
  preparationVersion : Nat
  artifactType : String
  format : DocumentFormat
  version : Nat
  status : DocumentStatus
  validationStatus : DocumentValidation
  issues : List String
  contentHash : String
  inputFingerprint : String
  evidenceFingerprint : Option String
  renderer : String
  rendererVersion : String
  byteSize : Nat
  pageCount : Nat
  relativePath : String
  invalidatedReason : Option String
  deriving DecidableEq

/-- What the fingerprint of a document covers. -/
structure Payload (S : Sorts) where
  preparation : String
  preparationVersion : Nat
  preparationFingerprint : String
  model : S.Model
  options : S.Options
  renderer : String
  rendererVersion : String
  font : String

structure RenderInput (S : Sorts) where
  tenant : String
  preparation : String
  preparationVersion : Nat
  preparationFingerprint : String
  evidenceFingerprint : Option String
  artifactType : String
  format : DocumentFormat
  model : S.Model
  options : S.Options

structure Renderer (S : Sorts) where
  name : String
  version : String
  font : S.Model → Except Failure String
  canRender : RenderInput S → Except Failure Bool
  render : RenderInput S → Except Failure S.Data

structure ValidationOutcome where
  status : DocumentValidation
  pageCount : Nat
  issues : List String

/-- What surrounds one call: the renderers, the profile, the settings and the disk. -/
structure Surroundings (S : Sorts) where
  renderers : DocumentFormat → Option (Renderer S)
  profile : Except Failure S.Contact
  resumeModel : S.Blocks → S.Contact → Option String → S.Model
  coverLetterModel : S.Blocks → S.Contact → Option String → Option String → S.Model
  digest : Payload S → String
  validate : S.Data → DocumentFormat → S.Model → ValidationOutcome
  hash : S.Data → String
  size : S.Data → Nat
  magic : DocumentFormat → S.Data → Bool
  maxBytes : Nat
  strip : String → String
  /-- A path that a link takes out of the documents root. -/
  escapes : String → Bool
  unreadable : String → Option Failure
  unwritable : String → Option Failure

structure Db (S : Sorts) where
  preparations : Table String (Preparation S)
  artifacts : Table ArtifactId Artifact

/-- The rows as the session has them, the rows last committed, and the files. -/
structure State (S : Sorts) where
  db : Db S
  committed : Db S
  files : String → Option S.Data

/-! ### The files -/

section Store
variable {S : Sorts} (e : Surroundings S)

def identifierChar (c : Char) : Bool :=
  c.isAlphanum || c == '_' || c == '.' || c == '-'

/-- `_IDENTIFIER`, and no way up. -/
def isIdentifier (text : List Char) : Bool :=
  text.head?.any Char.isAlphanum && text.all identifierChar && decide (text.length ≤ 128) &&
    !decide (['.', '.'] <:+: text)

def safeComponent (value what : String) : Except Failure String :=
  let text := e.strip value
  if isIdentifier text.toList then .ok text
  else .error (.storage s!"unsafe {what} for a storage path: '{text.take 40}'")

/-- `_ARTIFACT_NAMES`. -/
def artifactName : String → Option String
  | "RESUME" => some "resume"
  | "COVER_LETTER" => some "cover-letter"
  | _ => none

def relativePath (tenant co prep artifactType : String) (fmt : DocumentFormat) (version : Nat) :
    Except Failure String := do
  let some name := artifactName artifactType
    | throw (.storage s!"unknown artifact type '{artifactType}'")
  if version < 1 then throw (.storage "version must be >= 1")
  let tenant ← safeComponent e tenant "tenant id"
  let co ← safeComponent e co "candidate opportunity id"
  let prep ← safeComponent e prep "preparation id"
  return s!"{tenant}/{co}/{prep}/{name}-v{version}.{fmt.extension}"

def absolute (path : String) : Except Failure String :=
  let text := path.toList
  if text.head?.all (fun c => c == '/' || c == '\\') || text.contains ':' then
    .error (.storage "artifact path must be relative")
  else if (text.splitOn '/').any fun part =>
      part.isEmpty || part == ['.'] || part == ['.', '.'] || part.contains '\\' then
    .error (.storage "artifact path contains an unsafe component")
  else if e.escapes path then .error (.storage "artifact path escapes the documents root")
  else .ok path

/-- Write once. An existing file is never overwritten. -/
def writeImmutable (files : String → Option S.Data) (path : String) (data : S.Data) :
    Except Failure (String → Option S.Data) := do
  let place ← absolute e path
  if (files place).isSome then throw (.storage s!"artifact already exists: {path}")
  match e.unwritable place with
  | some failure => throw failure
  | none => return Function.update files place (some data)

/-- The problems of a stored file; none when it is intact. -/
def verify (files : String → Option S.Data) (row : Artifact) : Except Failure (List String) :=
  match absolute e row.relativePath with
  | .error (.storage message) => .ok [message]
  | .error failure => .error failure
  | .ok place =>
    match files place with
    | none => .ok ["file missing"]
    | some data =>
      match e.unreadable place with
      | some failure => .error failure
      | none =>
        let size := e.size data
        .ok ((if size = 0 then ["file is empty"] else []) ++
          (if size ≠ row.byteSize then [s!"size {size} != recorded {row.byteSize}"] else []) ++
          (if e.maxBytes < size then [s!"size {size} exceeds the {e.maxBytes}-byte bound"]
            else []) ++
          (if e.magic row.format data then [] else [s!"file is not a {row.format.value}"]) ++
          (if size ≠ 0 ∧ e.hash data ≠ row.contentHash then
            ["SHA-256 does not match the recorded hash"] else []))

end Store

/-! ### The rows -/

section Rows
variable {S : Sorts}

def Db.preparation (db : Db S) (tenant prep : String) : Option (Preparation S) :=
  (db.preparations.get prep).filter fun p => p.tenant = tenant

/-- The artifacts of one preparation, type and format that `p` selects. -/
def Db.versions (db : Db S) (tenant prep artifactType : String) (fmt : DocumentFormat)
    (p : Artifact → Bool) : Option (ArtifactId × Artifact) :=
  greatest (fun r => [(r.2.version : Int)]) (db.artifacts.rows.filter fun r =>
    decide (r.2.tenant = tenant) && decide (r.2.preparation = prep) &&
      decide (r.2.artifactType = artifactType) && decide (r.2.format = fmt) && p r.2)

def Artifact.active (r : Artifact) : Bool := decide (r.status = .active)

def Db.active (db : Db S) (tenant prep artifactType : String) (fmt : DocumentFormat) :
    Option (ArtifactId × Artifact) :=
  db.versions tenant prep artifactType fmt Artifact.active

def Db.latest (db : Db S) (tenant prep artifactType : String) (fmt : DocumentFormat) :
    Option (ArtifactId × Artifact) :=
  db.versions tenant prep artifactType fmt fun _ => true

/-- An id that no artifact has. -/
def Db.newId (db : Db S) : ArtifactId := (db.artifacts.rows.map Prod.fst).foldr max 0 + 1

def Artifact.invalidate (reason : String) (r : Artifact) : Artifact :=
  if r.status = .invalidated then r
  else
    { r with
      status := .invalidated
      invalidatedReason := if reason = "" then none else some ((reason.take 256).copy) }

def Db.require (db : Db S) (tenant : String) (k : ArtifactId) : Except Failure Artifact :=
  match (db.artifacts.get k).filter fun r => r.tenant = tenant with
  | some row => .ok row
  | none => .error (.notFound s!"Document artifact not found: {k}")

/-- The artifact is marked; the file is not touched. -/
def State.mark (s : State S) (k : ArtifactId) (reason : String) : State S :=
  { s with db := { s.db with artifacts := s.db.artifacts.modify k (Artifact.invalidate reason) } }

def State.insert (s : State S) (row : Artifact) : State S :=
  { s with db := { s.db with artifacts := s.db.artifacts.insertNew s.db.newId row } }

end Rows

/-! ### Rendering -/

section Render
variable {S : Sorts} (e : Surroundings S)

def modelFor (p : Preparation S) (artifactType : String) : Except Failure (Option S.Model) :=
  match (p.artifacts.find? fun a => a.1 = artifactType).map Prod.snd with
  | none => .ok none
  | some blocks =>
    match e.profile with
    | .error failure => .error failure
    | .ok contact =>
      if artifactType = "RESUME" then .ok (some (e.resumeModel blocks contact p.jobTitle))
      else if p.coverLetterDisabled then .ok none
      else .ok (some (e.coverLetterModel blocks contact p.company p.jobTitle))

/-- What is settled before anything is written. -/
structure Plan (S : Sorts) where
  prep : String
  preparation : Preparation S
  artifactType : String
  format : DocumentFormat
  renderer : Renderer S
  model : S.Model
  options : S.Options
  fingerprint : String

def plan (db : Db S) (tenant prep artifactType : String) (fmt : DocumentFormat)
    (options : S.Options) : Except Failure (Plan S) := do
  let some p := db.preparation tenant prep
    | throw (.notFound s!"Preparation not found: {prep}")
  if p.status ≠ .ready then
    throw (.document s!"preparation is {p.status.value}; only READY preparations are rendered")
  let some renderer := e.renderers fmt
    | throw (.document s!"no renderer for {fmt.value}")
  let some model ← modelFor e p artifactType
    | throw (.document s!"preparation has no {artifactType} content to render")
  let font ← renderer.font model
  let fingerprint := e.digest ⟨prep, p.version, p.inputFingerprint, model, options,
    renderer.name, renderer.version, font⟩
  return ⟨prep, p, artifactType, fmt, renderer, model, options, fingerprint⟩

/-- The first free path from a version on; a file that lies there is stepped past, at most
`remaining` times. -/
def place (files : String → Option S.Data) (pl : Plan S) : Nat → Nat → Except Failure (Nat × String)
  | remaining, version => do
    let path ← relativePath e pl.preparation.tenant pl.preparation.candidateOpportunity pl.prep
      pl.artifactType pl.format version
    let spot ← absolute e path
    if (files spot).isSome then
      match remaining with
      | 0 => return (version, path)
      | remaining + 1 => place files pl remaining (version + 1)
    else return (version, path)

/-- `ORPHAN_VERSION_SKIP_LIMIT`. -/
def orphanVersionSkipLimit : Nat := 50

/-- What is rendered, validated and written: the new row and the files. -/
def produce (s : State S) (pl : Plan S) : Except Failure (Artifact × (String → Option S.Data)) := do
  let p := pl.preparation
  let input : RenderInput S := ⟨p.tenant, pl.prep, p.version, p.inputFingerprint,
    p.evidenceFingerprint, pl.artifactType, pl.format, pl.model, pl.options⟩
  unless ← pl.renderer.canRender input do
    throw (.document
      s!"{pl.renderer.name} cannot render this {pl.artifactType} as {pl.format.value}")
  let data ← match pl.renderer.render input with
    | .ok data => pure data
    | .error (.render message) => throw (.document s!"render failed: {message}")
    | .error failure => throw failure
  let outcome := e.validate data pl.format pl.model
  if outcome.status = .failed then
    throw (.document
      ("rendered document failed validation: " ++ "; ".intercalate (outcome.issues.take 3)))
  let next := match s.db.latest p.tenant pl.prep pl.artifactType pl.format with
    | some (_, row) => row.version + 1
    | none => 1
  let (version, path) ← place e s.files pl orphanVersionSkipLimit next
  let files ← match writeImmutable e s.files path data with
    | .ok files => pure files
    | .error (.storage message) => throw (.document message)
    | .error failure => throw failure
  return (⟨p.tenant, p.candidateOpportunity, pl.prep, p.version, pl.artifactType, pl.format, version,
    .active, outcome.status, outcome.issues, e.hash data, pl.fingerprint, p.evidenceFingerprint,
    pl.renderer.name, pl.renderer.version, e.size data, outcome.pageCount, path, none⟩, files)

def State.render (s : State S) (pl : Plan S) : State S × Except Failure (ArtifactId × Bool) :=
  match produce e s pl with
  | .error failure => (s, .error failure)
  | .ok (row, files) => ({ s.insert row with files := files }, .ok (s.db.newId, true))

/-- Why the current artifact has to go; none when it is used again. -/
def outdated (s : State S) (pl : Plan S) (force : Bool) (row : Artifact) :
    Except Failure (Option String) :=
  if force then .ok (some "regenerated on request")
  else if row.inputFingerprint = pl.fingerprint then
    match verify e s.files row with
    | .error failure => .error failure
    | .ok [] => .ok none
    | .ok problems =>
      .ok (some ("stored file failed verification: " ++ "; ".intercalate problems))
  else .ok (some "preparation, contact or renderer changed")

def getOrRender (s : State S) (tenant prep artifactType : String) (fmt : DocumentFormat)
    (force : Bool) (options : S.Options) : State S × Except Failure (ArtifactId × Bool) :=
  match plan e s.db tenant prep artifactType fmt options with
  | .error failure => (s, .error failure)
  | .ok pl =>
    match s.db.active tenant prep artifactType fmt with
    | none => s.render e pl
    | some (k, row) =>
      match outdated e s pl force row with
      | .error failure => (s, .error failure)
      | .ok none => (s, .ok (k, false))
      -- the artifact goes before its successor is there
      | .ok (some reason) => (s.mark k reason).render e pl

/-- The documents an execution needs; a `CareerOSError` becomes a problem and what the call has
written stays. -/
def ensureForExecution (s : State S) (tenant prep : String) (fmt : DocumentFormat)
    (options : S.Options) : List String → State S × Except Failure (List ArtifactId × List String)
  | [] => (s, .ok ([], []))
  | artifactType :: wanted =>
    let (s, answer) := getOrRender e s tenant prep artifactType fmt false options
    match answer with
    | .ok (k, _) =>
      let (s, rest) := ensureForExecution s tenant prep fmt options wanted
      let review := (s.db.artifacts.get k).any fun row => decide (row.validationStatus ≠ .passed)
      (s, rest.map fun r => if review then
        (r.1, s!"{artifactType}: rendered document is not PASSED" :: r.2) else (k :: r.1, r.2))
    | .error failure =>
      match failure.careerOS with
      | none => (s, .error failure)
      | some message =>
        let (s, rest) := ensureForExecution s tenant prep fmt options wanted
        (s, rest.map fun r => (r.1, s!"{artifactType}: {message}" :: r.2))

def wanted (p : Preparation S) : List String :=
  if !p.coverLetterDisabled && p.artifacts.any (fun a => a.1 = "COVER_LETTER") then
    ["RESUME", "COVER_LETTER"]
  else ["RESUME"]

def invalidate (s : State S) (tenant : String) (k : ArtifactId) (reason : String) :
    State S × Except Failure Unit :=
  match s.db.require tenant k with
  | .error failure => (s, .error failure)
  | .ok _ => (s.mark k reason, .ok ())

/-- The path of an active artifact whose file is intact. -/
def materialize (s : State S) (tenant : String) (k : ArtifactId) (prep : Option String)
    (forUpload : Bool) : State S × Except Failure String :=
  match s.db.require tenant k with
  | .error failure => (s, .error failure)
  | .ok row =>
    if row.status ≠ .active then (s, .error (.document s!"artifact is {row.status.value}"))
    else if prep.any fun prep => decide (row.preparation ≠ prep) then
      (s, .error (.document "artifact belongs to another preparation"))
    else if row.validationStatus = .failed then
      (s, .error (.document "artifact failed validation"))
    else if forUpload && decide (row.validationStatus = .needsReview) then
      (s, .error (.document ("artifact needs review before it can be uploaded: " ++
        "; ".intercalate (row.issues.take 2))))
    else
      match verify e s.files row with
      | .error failure => (s, .error failure)
      | .ok [] => (s, absolute e row.relativePath)
      | .ok problems =>
        (s.mark k ("; ".intercalate problems),
          .error (.document ("artifact file is not intact: " ++ "; ".intercalate problems)))

def invalidateForPreparation (s : State S) (tenant prep reason : String) : State S :=
  (s.db.artifacts.rows.filter fun r => decide (r.2.tenant = tenant) &&
    decide (r.2.preparation = prep) && r.2.active).foldl (fun s r => s.mark r.1 reason) s

end Render

/-! ### Runs -/

section Runs
variable {S : Sorts}

/-- What happens to the documents: the calls of the service, the end of a transaction, and what
others do to the preparations and to the files. -/
inductive Op (S : Sorts)
  | getOrRender (e : Surroundings S) (tenant prep artifactType : String) (fmt : DocumentFormat)
      (force : Bool) (options : S.Options)
  | ensureForExecution (e : Surroundings S) (tenant prep : String) (fmt : DocumentFormat)
      (options : S.Options)
  | materialize (e : Surroundings S) (tenant : String) (k : ArtifactId) (prep : Option String)
      (forUpload : Bool)
  | invalidate (tenant : String) (k : ArtifactId) (reason : String)
  | invalidateForPreparation (tenant prep reason : String)
  | commit
  | rollback
  | prepare (prep : String) (p : Preparation S)
  | changePreparation (prep : String) (p : Preparation S)
  | changeFile (path : String) (data : Option S.Data)

/-- A preparation keeps its tenant. -/
def Preparation.rewrite (p old : Preparation S) : Preparation S := { p with tenant := old.tenant }

def State.perform (s : State S) : Op S → State S
  | .getOrRender e tenant prep artifactType fmt force options =>
    (Documents.getOrRender e s tenant prep artifactType fmt force options).1
  | .ensureForExecution e tenant prep fmt options =>
    match s.db.preparation tenant prep with
    | none => s
    | some p => (Documents.ensureForExecution e s tenant prep fmt options (wanted p)).1
  | .materialize e tenant k prep forUpload =>
    (Documents.materialize e s tenant k prep forUpload).1
  | .invalidate tenant k reason => (Documents.invalidate s tenant k reason).1
  | .invalidateForPreparation tenant prep reason =>
    Documents.invalidateForPreparation s tenant prep reason
  | .commit => { s with committed := s.db }
  | .rollback => { s with db := s.committed }
  | .prepare prep p =>
    { s with db := { s.db with preparations := s.db.preparations.insertNew prep p } }
  | .changePreparation prep p =>
    { s with db := { s.db with preparations := s.db.preparations.modify prep p.rewrite } }
  | .changeFile path data => { s with files := Function.update s.files path data }

/-- Nothing is prepared or rendered. -/
def State.empty (files : String → Option S.Data) : State S :=
  ⟨⟨.empty, .empty⟩, ⟨.empty, .empty⟩, files⟩

inductive Reachable : State S → Prop
  | start (files : String → Option S.Data) : Reachable (State.empty files)
  | step {s : State S} (op : Op S) : Reachable s → Reachable (s.perform op)

end Runs

end RangeApply.Documents
