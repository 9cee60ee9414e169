import RangeApply.Message
import RangeApply.Sorting

/-! The learning dataset: one row for every executed application, as known at an instant. What is
said of the openings themselves is left out; the rows have their membership and their labels. -/
namespace RangeApply.Dataset

abbrev EventId := Nat

structure Attempt where
  tenant : Option String
  createdAt : Time
  status : ApplicationStatus
  submittedAt : Option Time
  reservedAt : Option Time
  verifiedAt : Option Time
  deriving DecidableEq

structure Run where
  tenant : String
  application : ApplicationId
  runNumber : Nat
  startedAt : Time
  finishedAt : Option Time
  status : ExecutionStatus
  verificationStatus : VerificationStatus
  executorKind : String
  deriving DecidableEq

structure Event where
  tenant : String
  application : ApplicationId
  outcome : OutcomeKind
  evidence : EvidenceStrength
  eventAt : Time
  observedAt : Time
  sequence : Nat
  retracted : Bool
  superseded : Bool
  deriving DecidableEq

structure History where
  attempts : Table ApplicationId Attempt
  runs : Table RunId Run
  events : Table EventId Event

inductive EvidenceQuality
  | strong | moderate | weak | none
  deriving DecidableEq

def EvidenceQuality.rank : EvidenceQuality → Nat
  | strong => 3 | moderate => 2 | weak => 1 | none => 0

def evidenceRank : EvidenceStrength → Nat
  | .strong => 3 | .moderate => 2 | .weak => 1

inductive OutcomeCompleteness
  | terminal | progress | submittedOnly | unverified
  deriving DecidableEq

structure EvidenceCounts where
  strong : Nat
  moderate : Nat
  weak : Nat
  deriving DecidableEq

structure Labels where
  submittedAt : Time
  verified : Bool
  uncertain : Bool
  executionNeedsReview : Bool
  responded : Bool
  interviewed : Bool
  rejected : Bool
  assessed : Bool
  withdrawn : Bool
  daysToResponse : Option Rat
  daysToRejection : Option Rat
  evidenceQuality : EvidenceQuality
  evidenceCounts : EvidenceCounts
  outcomeCompleteness : OutcomeCompleteness
  eventsCounted : Nat
  eventsBelowThreshold : Nat
  deriving DecidableEq

structure LearningRow where
  applicationId : ApplicationId
  executionMethod : String
  verificationStatus : Option VerificationStatus
  attemptStatus : ApplicationStatus
  labels : Labels

/-- Whose rows are built, as of which instant, and what counts. -/
structure Cut where
  tenant : String
  asOf : Time
  windowDays : Option Nat
  minimumEvidence : EvidenceQuality
  /-- The days of a span, rounded. -/
  toDays : Int → Rat

def Cut.windowStart (cut : Cut) : Option Time :=
  match cut.windowDays with
  | some (n + 1) => some (cut.asOf - days (n + 1))
  | _ => none

/-! ### What is read of one attempt -/

section Reads
variable (cut : Cut) (h : History)

/-- The runs of an attempt that had started, in their order. -/
def runsOf (i : ApplicationId) : List (RunId × Run) :=
  sortBy (fun r => [(r.2.runNumber : Int)]) (h.runs.rows.filter fun r =>
    decide (r.2.tenant = cut.tenant) && decide (r.2.application = i) &&
      decide (r.2.startedAt ≤ cut.asOf))

def Event.standing (e : Event) : Bool := !e.retracted && !e.superseded

/-- The events of an attempt that had been observed, in their order. -/
def eventsOf (i : ApplicationId) : List (EventId × Event) :=
  sortBy (fun e => [e.2.eventAt, (e.2.sequence : Int)]) (h.events.rows.filter fun e =>
    decide (e.2.tenant = cut.tenant) && decide (e.2.application = i) &&
      decide (e.2.observedAt ≤ cut.asOf) && e.2.standing)

end Reads

/-! ### The labels -/

section Label
variable (cut : Cut) (a : Attempt) (runs : List (RunId × Run)) (events : List (EventId × Event))

/-- When the application was submitted, or is taken to be. -/
def submission : Time :=
  match a.submittedAt with
  | some t => t
  | none =>
    match runs.getLast? with
    | some r => r.2.startedAt
    | none => a.reservedAt.getD a.createdAt

def Attempt.executed (a : Attempt) : Bool := a.submittedAt.isSome || decide (a.status = .uncertain)

def Cut.covers (cut : Cut) (t : Time) : Bool :=
  decide (t ≤ cut.asOf) && cut.windowStart.all fun start => decide (start ≤ t)

/-- The attempt is one of the tenant's, executed by the instant and within the window. -/
def counted : Bool :=
  decide (a.tenant = some cut.tenant) && decide (a.createdAt ≤ cut.asOf) && a.executed &&
    cut.covers (submission a runs)

def Run.verifiedBy (cut : Cut) (r : Run) : Bool :=
  decide (r.verificationStatus = .verified) && decide (r.finishedAt.getD r.startedAt ≤ cut.asOf)

def Attempt.verifiedBy (cut : Cut) (a : Attempt) : Bool :=
  a.verifiedAt.any fun t => decide (t ≤ cut.asOf)

def Run.unknown (r : Run) : Bool := decide (r.status = .unknown)

/-- `_REVIEW_RUN_STATUSES`. -/
def Run.review (r : Run) : Bool :=
  decide (r.status ∈ [ExecutionStatus.needsReview, .verificationFailed, .handoff, .needsUserInput])

def verified : Bool := a.verifiedBy cut || runs.any fun r => r.2.verifiedBy cut

def uncertain : Bool :=
  match runs.getLast? with
  | some last => last.2.unknown && !verified cut a runs
  | none => decide (a.status = .uncertain) && !verified cut a runs

def needsReview : Bool := runs.getLast?.any fun last => last.2.review

/-- `_RESPONSE_STAGE` and beyond, or a rejection. -/
def Event.response (e : Event) : Bool :=
  e.outcome.stage.any (fun stage => decide (2 ≤ stage)) || decide (e.outcome = .rejected)

def daysBetween (later : Option Time) (earlier : Time) : Option Rat :=
  later.map fun t => cut.toDays (max 0 (t - earlier))

def labels : Labels :=
  let counts (e : EvidenceStrength) : Nat := events.countP fun x => x.2.evidence = e
  let known := events.filter fun e => decide (cut.minimumEvidence.rank ≤ evidenceRank e.2.evidence)
  let best := (known.map fun e => evidenceRank e.2.evidence).foldl max 0
  let responses := known.filter fun e => e.2.response
  let rejections := known.filter fun e => e.2.outcome = .rejected
  let withdrawn := known.any fun e => e.2.outcome = .withdrawn
  let start := submission a runs
  { submittedAt := start
    verified := verified cut a runs
    uncertain := uncertain cut a runs
    executionNeedsReview := needsReview runs
    responded := !responses.isEmpty
    interviewed := known.any fun e =>
      decide (e.2.outcome = .interviewRequested ∨ e.2.outcome = .interviewScheduled)
    rejected := !rejections.isEmpty
    assessed := known.any fun e => e.2.outcome = .assessmentRequested
    withdrawn := withdrawn
    daysToResponse := daysBetween cut (responses.map fun e => e.2.eventAt).min? start
    daysToRejection := daysBetween cut (rejections.map fun e => e.2.eventAt).min? start
    evidenceQuality :=
      (([EvidenceQuality.strong, .moderate, .weak, .none].find? fun q => q.rank = best).getD .none)
    evidenceCounts := ⟨counts .strong, counts .moderate, counts .weak⟩
    outcomeCompleteness :=
      if !rejections.isEmpty || withdrawn then .terminal
      else if !responses.isEmpty then .progress
      else if verified cut a runs then .submittedOnly
      else .unverified
    eventsCounted := known.length
    eventsBelowThreshold := events.length - known.length }

end Label

/-! ### The dataset -/

section Build
variable (cut : Cut) (h : History)

def rowOf (i : ApplicationId) (a : Attempt) : Option LearningRow :=
  let runs := runsOf cut h i
  if counted cut a runs then
    some ⟨i, (runs.getLast?.map fun r => r.2.executorKind).getD "UNKNOWN",
      runs.getLast?.map fun r => r.2.verificationStatus, a.status,
      labels cut a runs (eventsOf cut h i)⟩
  else none

def buildDataset : List LearningRow :=
  sortBy (fun r => [r.labels.submittedAt, (r.applicationId : Int)])
    (h.attempts.rows.filterMap fun r => rowOf cut h r.1 r.2)

/-- The members of the dataset, each with its labels. -/
def members : List (ApplicationId × Labels) :=
  (buildDataset cut h).map fun r => (r.applicationId, r.labels)

/-- The labels of an attempt, if it is a member. -/
def labelled (i : ApplicationId) : Option Labels :=
  match h.attempts.get i with
  | none => none
  | some a =>
    if counted cut a (runsOf cut h i) then
      some (labels cut a (runsOf cut h i) (eventsOf cut h i))
    else none

end Build

theorem mem_labelled {cut : Cut} {h : History} {i : ApplicationId} {l : Labels} :
    (i, l) ∈ h.attempts.rows.filterMap (fun r =>
      (rowOf cut h r.1 r.2).map fun r => (r.applicationId, r.labels)) ↔
    labelled cut h i = some l := by
  rw [List.mem_filterMap]
  constructor
  · rintro ⟨r, member, found⟩
    obtain ⟨row, built, same⟩ := Option.map_eq_some_iff.mp found
    unfold rowOf at built
    dsimp only at built
    split at built
    · rename_i counts
      cases built
      cases same
      simp only [labelled, Table.get_eq_some.mpr member, counts, if_true]
    · cases built
  · intro found
    unfold labelled at found
    split at found
    · cases found
    · rename_i a here
      refine ⟨(i, a), Table.get_eq_some.mp here, ?_⟩
      split at found
      · rename_i counts
        cases found
        simp only [rowOf, counts, if_true, Option.map_some]
      · cases found

theorem labelled_ids (cut : Cut) (h : History) : ((h.attempts.rows.filterMap fun r =>
    (rowOf cut h r.1 r.2).map fun r => (r.applicationId, r.labels)).map Prod.fst).Nodup := by
  refine h.attempts.nodup.sublist ?_
  induction h.attempts.rows with
  | nil => exact .slnil
  | cons r rows ih =>
    rw [List.filterMap_cons]
    cases found : rowOf cut h r.1 r.2 with
    | none => exact ih.cons r.1
    | some row =>
      have same : row.applicationId = r.1 := by
        unfold rowOf at found
        dsimp only at found
        split at found
        · cases found
          rfl
        · cases found
      rw [List.map_cons, Option.map_some, List.map_cons, same]
      exact ih.cons_cons r.1

/-- The members are the labelled attempts, in their order. -/
theorem members_eq (cut : Cut) (h : History) : members cut h =
    sortBy (fun r : ApplicationId × Labels => [r.2.submittedAt, (r.1 : Int)])
      (h.attempts.rows.filterMap fun r =>
        (rowOf cut h r.1 r.2).map fun r => (r.applicationId, r.labels)) := by
  have placed := sortBy_map (fun r : ApplicationId × Labels => [r.2.submittedAt, (r.1 : Int)])
    (fun r : LearningRow => (r.applicationId, r.labels))
    (h.attempts.rows.filterMap fun r => rowOf cut h r.1 r.2)
  rw [List.map_filterMap] at placed
  exact placed.symm

/-- Two histories give one dataset when they label every attempt alike. -/
theorem members_eq_iff {cut : Cut} {h h' : History} :
    members cut h' = members cut h ↔ ∀ i, labelled cut h' i = labelled cut h i := by
  have listed (h : History) (i : ApplicationId) (l : Labels) :
      (i, l) ∈ members cut h ↔ labelled cut h i = some l := by
    rw [members_eq, (sortBy_perm _).mem_iff, mem_labelled]
  constructor
  · intro same i
    refine Option.ext fun l => ?_
    rw [← listed, ← listed, same]
  · intro same
    rw [members_eq, members_eq]
    refine sortBy_eq_of_perm ?_ ?_
    · refine (List.perm_ext_iff_of_nodup (labelled_ids cut h').of_map
        (labelled_ids cut h).of_map).mpr fun r => ?_
      rw [mem_labelled, mem_labelled, same]
    · have ids := labelled_ids cut h
      rw [List.Nodup, List.pairwise_map] at ids ⊢
      refine ids.imp fun differ key => differ ?_
      exact Int.ofNat_inj.mp (List.cons.inj (List.cons.inj key).2).1

end RangeApply.Dataset
