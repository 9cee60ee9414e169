import Mathlib.Logic.Function.Basic
import RangeApply.Rows

/-! The postings that discovery stores and the openings they stand for: several postings may be
linked to one opening, each posting to one only. -/
namespace RangeApply.Postings

/-- A posting at its source. A row of `jobs`, whose pair of source and source id is unique, is known
by the posting it was made for. -/
structure PostingKey where
  source : String
  sourceJobId : String
  deriving DecidableEq

abbrev JobId := PostingKey

/-- The identity of an opening: company, normalised title and location bucket, hashed. -/
abbrev OpeningKey := String

inductive JobStatus
  | active | closed | expired | unknown
  deriving DecidableEq

def JobStatus.gone : JobStatus → Bool
  | .closed | .expired => true
  | .active | .unknown => false

/-- What normalisation reads off a posting, and an update copies. -/
structure JobContent where
  title : String
  description : String
  location : Option String
  locations : List String
  remoteType : String
  extracted : String
  deriving DecidableEq

/-- A row of `jobs`: one posting. -/
structure JobRow where
  canonicalKey : String
  sourceIdentifier : Option String
  company : String
  originalTitle : String
  content : JobContent
  contentHash : String
  sourceUrl : String
  applicationUrl : Option String
  normalizedSourceUrl : Option String
  normalizedApplicationUrl : Option String
  postedAt : Option Time
  sourceUpdatedAt : Option Time
  deadline : Option Time
  firstSeenAt : Time
  lastSeenAt : Time
  closedAt : Option Time
  status : JobStatus
  deriving DecidableEq

/-- A row of `opportunities`. -/
structure OpeningRow where
  canonicalJob : JobId
  company : String
  title : String
  status : OpportunityStatus
  firstSeenAt : Time
  lastSeenAt : Time
  deadline : Option Time
  repostCount : Nat
  repostedAt : Option Time
  deriving DecidableEq

/-- The postings, the opening each is linked to, and the openings. -/
@[ext] structure Market where
  jobs : Table JobId JobRow
  links : JobId → Option OpeningKey
  openings : OpeningKey → Option OpeningRow
  linksFound : ∀ j k, links j = some k → (openings k).isSome

theorem nothing_linked (j : JobId) (k : OpeningKey)
    (linked : (fun _ => none : JobId → Option OpeningKey) j = some k) :
    ((fun _ => none : OpeningKey → Option OpeningRow) k).isSome := by
  cases linked

/-- How a posting came to its opening. -/
inductive How
  | existingLink | repost | new | identityKey
  deriving DecidableEq

namespace Market
variable (m : Market)

/-- The postings linked to an opening. -/
def linked (k : OpeningKey) : List (JobId × JobRow) :=
  m.jobs.rows.filter fun r => decide (m.links r.1 = some k)

def allGone (k : OpeningKey) : Bool := (m.linked k).all fun r => r.2.status.gone

def link (j : JobId) (k : OpeningKey) (o : OpeningRow) : Market where
  jobs := m.jobs
  links := Function.update m.links j (some k)
  openings := Function.update m.openings k (some o)
  linksFound j' k' linked := by
    by_cases here : k' = k
    · rw [here, Function.update_self]
      rfl
    · rw [Function.update_of_ne here]
      by_cases same : j' = j
      · rw [same, Function.update_self] at linked
        exact absurd (Option.some.inj linked).symm here
      · rw [Function.update_of_ne same] at linked
        exact m.linksFound j' k' linked

@[simp] theorem link_jobs (j : JobId) (k : OpeningKey) (o : OpeningRow) :
    (m.link j k o).jobs = m.jobs := rfl

@[simp] theorem link_links (j : JobId) (k : OpeningKey) (o : OpeningRow) :
    (m.link j k o).links = Function.update m.links j (some k) := rfl

@[simp] theorem link_openings (j : JobId) (k : OpeningKey) (o : OpeningRow) :
    (m.link j k o).openings = Function.update m.openings k (some o) := rfl

end Market

section Resolve
variable (identity : JobRow → OpeningKey) (now : Time)

/-- The opening of a posting that was linked before. -/
def OpeningRow.seenAgain (o : OpeningRow) (job : JobRow) : OpeningRow × How :=
  let o := { o with lastSeenAt := now, deadline := o.deadline <|> job.deadline }
  if !job.status.gone ∧ o.status = .closed then
    -- the opening we had closed is live again on the same row
    ({ o with status := .reposted, repostCount := o.repostCount + 1, repostedAt := some now },
      .repost)
  else (o, .existingLink)

def OpeningRow.ofJob (j : JobId) (job : JobRow) : OpeningRow where
  canonicalJob := j
  company := job.company
  title := job.content.title
  status := .open
  firstSeenAt := job.firstSeenAt
  lastSeenAt := now
  deadline := job.deadline
  repostCount := 0
  repostedAt := none

/-- The opening that one more posting turned out to be. -/
def OpeningRow.join (o : OpeningRow) (j : JobId) (job : JobRow) (isRepost : Bool) : OpeningRow × How :=
  let o := { o with lastSeenAt := now, deadline := job.deadline <|> o.deadline }
  if isRepost then
    ({ o with
      repostCount := o.repostCount + 1
      repostedAt := some now
      status := .reposted
      canonicalJob := j }, .repost)
  else if o.status = .closed then ({ o with status := .open }, .identityKey)
  else (o, .identityKey)

/-- The link to go by: the caller's, else the stored one, unless the posting was just created. -/
def Market.linkFor (m : Market) (j : JobId) (hint : Option OpeningKey) (assumeUnlinked : Bool) :
    Option OpeningKey :=
  if hint.isNone && !assumeUnlinked then m.links j else hint

/-- Attach a posting to its opening, creating one if none matches: the posting is linked already,
or an opening has its identity. -/
def resolveOpportunity (m : Market) (j : JobId) (job : JobRow) (hint : Option OpeningKey)
    (assumeUnlinked : Bool) : Market × OpeningKey × How :=
  match m.linkFor j hint assumeUnlinked with
  | some k =>
    match m.openings k with
    | some o =>
      let (o, how) := o.seenAgain now job
      (m.link j k o, k, how)
    | none => (m, k, .existingLink)
  | none =>
    let k := identity job
    match m.openings k with
    | none => (m.link j k (.ofJob now j job), k, .new)
    | some o =>
      let (o, how) := o.join now j job (m.allGone k)
      (m.link j k o, k, how)

/-! ### What resolving does -/

/-- The opening a posting belongs to. -/
def Market.target (m : Market) (j : JobId) (job : JobRow) : OpeningKey :=
  (m.links j).getD (identity job)

/-- The opening as resolving leaves it. -/
def Market.resolved (m : Market) (j : JobId) (job : JobRow) : OpeningRow :=
  match m.openings (m.target identity j job) with
  | none => .ofJob now j job
  | some o =>
    if (m.links j).isSome then (o.seenAgain now job).1
    else (o.join now j job (m.allGone (m.target identity j job))).1

variable {identity now} {m : Market} {j : JobId} {job : JobRow}

theorem resolveOpportunity_jobs (hint : Option OpeningKey) (assumeUnlinked : Bool) :
    (resolveOpportunity identity now m j job hint assumeUnlinked).1.jobs = m.jobs := by
  unfold resolveOpportunity
  split
  · split <;> rfl
  · dsimp only
    split <;> rfl

@[simp] theorem linkFor_none : m.linkFor j none false = m.links j := rfl

variable (identity now job) in
/-- Going by the stored link, however it was found. -/
theorem resolveOpportunity_eq {hint : Option OpeningKey} {assumeUnlinked : Bool}
    (known : m.linkFor j hint assumeUnlinked = m.links j) :
    (resolveOpportunity identity now m j job hint assumeUnlinked).1 =
      m.link j (m.target identity j job) (m.resolved identity now j job) ∧
    (resolveOpportunity identity now m j job hint assumeUnlinked).2.1 =
      m.target identity j job := by
  unfold resolveOpportunity Market.resolved Market.target
  rw [known]
  cases linked : m.links j with
  | some k =>
    obtain ⟨o, found⟩ := Option.isSome_iff_exists.mp (m.linksFound j k linked)
    simp [found]
  | none =>
    cases found : m.openings (identity job) <;> simp [found]

/-- The posting was just seen at its opening. -/
def OpeningRow.Seen (o : OpeningRow) (now : Time) (job : JobRow) : Prop :=
  o.lastSeenAt = now ∧ (o.deadline <|> job.deadline) = o.deadline ∧
    (job.status.gone = true ∨ o.status ≠ .closed)

theorem OpeningRow.Seen.fixed {o : OpeningRow} (seen : o.Seen now job) :
    (o.seenAgain now job).1 = o := by
  obtain ⟨rfl, deadline, open_⟩ := seen
  have live : ¬(!job.status.gone ∧ o.status = .closed) := by
    rintro ⟨live, closed⟩
    rcases open_ with gone | open_
    · simp [gone] at live
    · exact open_ closed
  unfold OpeningRow.seenAgain
  rw [deadline]
  dsimp only
  rw [if_neg live]

theorem resolved_seen : (m.resolved identity now j job).Seen now job := by
  have joined (a b : Option Time) : ((a <|> b) <|> a) = (a <|> b) := by
    cases a <;> cases b <;> rfl
  have kept (a b : Option Time) : ((a <|> b) <|> b) = (a <|> b) := by
    cases a <;> cases b <;> rfl
  unfold Market.resolved
  split
  · exact ⟨rfl, by cases h : job.deadline <;> simp [OpeningRow.ofJob, h], .inr (by
      simp [OpeningRow.ofJob])⟩
  · rename_i o _
    split
    · unfold OpeningRow.seenAgain
      dsimp only
      split
      · exact ⟨rfl, kept _ _, .inr (by simp)⟩
      · rename_i again
        refine ⟨rfl, kept _ _, ?_⟩
        cases gone : job.status.gone
        · exact .inr fun closed => again ⟨by simp [gone], closed⟩
        · exact .inl rfl
    · unfold OpeningRow.join
      dsimp only
      split
      · exact ⟨rfl, joined _ _, .inr (by simp)⟩
      · split
        · exact ⟨rfl, joined _ _, .inr (by simp)⟩
        · rename_i open_
          exact ⟨rfl, joined _ _, .inr open_⟩

/-! ### Two postings -/

variable {j' : JobId} {job' : JobRow} {o o' : OpeningRow}

theorem target_link (same : j' = j → job' = job) :
    (m.link j (m.target identity j job) o).target identity j' job' =
      m.target identity j' job' := by
  by_cases here : j' = j
  · subst here
    rw [same rfl, Market.target, Market.link_links, Function.update_self, Option.getD_some]
  · simp [Market.target, here]

theorem linked_link {k : OpeningKey} (other : k ≠ m.target identity j job) :
    (m.link j (m.target identity j job) o).linked k = m.linked k := by
  refine List.filter_congr fun r _ => decide_eq_decide.mpr ?_
  by_cases here : r.1 = j
  · have before : m.links j ≠ some k := fun linked => other (by rw [Market.target, linked]; rfl)
    simp [here, before, Ne.symm other]
  · simp [here]

theorem resolved_link (otherJob : j' ≠ j)
    (other : m.target identity j' job' ≠ m.target identity j job) :
    (m.link j (m.target identity j job) o).resolved identity now j' job' =
      m.resolved identity now j' job' := by
  have links : (m.link j (m.target identity j job) o).links j' = m.links j' :=
    Function.update_of_ne otherJob _ _
  have openings : (m.link j (m.target identity j job) o).openings (m.target identity j' job') =
      m.openings (m.target identity j' job') := Function.update_of_ne other _ _
  rw [Market.resolved, Market.resolved, target_link fun same => absurd same otherJob, links,
    openings, Market.allGone, Market.allGone, linked_link other]

theorem link_comm {k k' : OpeningKey} (otherJob : j ≠ j') (other : k ≠ k') :
    (m.link j k o).link j' k' o' = (m.link j' k' o').link j k o := by
  ext1
  · rfl
  · exact Function.update_comm otherJob _ _ _
  · exact Function.update_comm other _ _ _

/-- Resolving a posting again changes nothing. -/
theorem resolved_twice :
    let m' := m.link j (m.target identity j job) (m.resolved identity now j job)
    m'.link j (m'.target identity j job) (m'.resolved identity now j job) = m' := by
  intro m'
  have target : m'.target identity j job = m.target identity j job := target_link fun _ => rfl
  have found : m'.openings (m.target identity j job) = some (m.resolved identity now j job) :=
    Function.update_self _ _ _
  have linked : m'.links j = some (m.target identity j job) := Function.update_self _ _ _
  have resolved : m'.resolved identity now j job = m.resolved identity now j job := by
    rw [Market.resolved, target, found]
    simp only [linked, Option.isSome_some, if_true]
    exact resolved_seen.fixed
  rw [target, resolved]
  ext1
  · rfl
  · exact Function.update_idem _ _ _
  · exact Function.update_idem _ _ _

/-- The opening is closed. -/
def Market.close (m : Market) (k : OpeningKey) : Market where
  jobs := m.jobs
  links := m.links
  openings := Function.update m.openings k
    ((m.openings k).map fun o => { o with status := .closed })
  linksFound j' k' linked := by
    have found := m.linksFound j' k' linked
    by_cases here : k' = k
    · subst here
      simpa using found
    · rwa [Function.update_of_ne here]

@[simp] theorem Market.close_openings (m : Market) (k : OpeningKey) : (m.close k).openings =
    Function.update m.openings k ((m.openings k).map fun o => { o with status := .closed }) := rfl

def closeIfAllGone (m : Market) (k : OpeningKey) : Market :=
  if m.linked k ≠ [] ∧ m.allGone k then m.close k else m

end Resolve

end RangeApply.Postings
