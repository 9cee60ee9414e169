import Mathlib.Data.List.Induction
import RangeApply.Turn

/-! What a scheduling run would do, projected from the state as it stands without writing. -/
namespace RangeApply

/-- One candidate as `preview` reports it. -/
structure Decision where
  opportunityId : OpportunityId
  company : String
  title : String
  code : AdmissionReason
  reason : String
  admitted : Bool
  order : Nat
  priorityScore : Option Int
  fitScore : Option Int
  fitBand : Option FitBand
  eligibility : Option EligibilityDecision
  state : OpportunityState
  lane : Option Lane
  level : Option TailoringLevel

def decision (i : OpportunityId) (o : Opening) (co : CandidateOpportunity) (v : Verdict)
    (code : AdmissionReason) (order : Nat) : Decision where
  opportunityId := i
  company := o.opportunity.company
  title := o.opportunity.title
  code := code
  reason := if code = v.code then v.reason else code.value.toLower.replace "_" " "
  admitted := decide (code = .admitted)
  order := order
  priorityScore := co.priorityScore
  fitScore := co.fitScore
  fitBand := co.fitBand
  eligibility := co.eligibilityStatus
  state := co.state
  lane := v.lane
  level := v.level

structure PreviewResponse where
  policyVersion : Nat
  windowSize : Nat
  considered : Nat
  admissible : Nat
  wouldAdmit : Nat
  deferred : Nat
  byCode : AdmissionReason → Nat
  decisions : List Decision

structure Projection where
  dayLeft : Int
  weekLeft : Int
  admissible : Nat
  wouldAdmit : Nat
  deferred : Nat
  byCode : AdmissionReason → Nat
  decisions : List Decision
  considered : Nat

namespace Projection

/-- The code of a verdict under the window and the caps as projected. -/
def settle (window : Nat) (v : Verdict) (q : Projection) : AdmissionReason × Projection :=
  if v.admissible = false then (v.code, q)
  else
    let q := { q with admissible := q.admissible + 1 }
    if window ≤ q.wouldAdmit then (.windowDeferred, { q with deferred := q.deferred + 1 })
    else if q.dayLeft ≤ 0 then (.dailyCapReached, q)
    else if q.weekLeft ≤ 0 then (.weeklyCapReached, q)
    else (v.code, { q with
      wouldAdmit := q.wouldAdmit + 1, dayLeft := q.dayLeft - 1, weekLeft := q.weekLeft - 1 })

def report (limit : Nat) (i : OpportunityId) (o : Opening) (co : CandidateOpportunity) (v : Verdict)
    (code : AdmissionReason) (q : Projection) : Projection :=
  { q with
    considered := q.considered + 1
    byCode := fun c => if c = code then q.byCode c + 1 else q.byCode c
    decisions :=
      if q.decisions.length < limit then
        q.decisions ++ [decision i o co v code (q.considered + 1)]
      else q.decisions }

def consider (env : Env) (db : DB) (ctx : Context) (window limit : Nat) (q : Projection)
    (i : OpportunityId) : Projection :=
  match db.openings.get i with
  | none => q
  | some o =>
    match o.candidate with
    | none => q
    | some co =>
      let v := decideOpening env ctx o co
      let (code, q) := q.settle window v
      q.report limit i o co v code

end Projection

/-- What decisions are taken against on the state as it stands. -/
def DB.context (env : Env) (db : DB) : Context := ⟨db.policy, db.now, db.indexes env⟩

def DB.used (env : Env) (db : DB) (kind : PeriodKind) : Int :=
  db.ledger.usage kind ((db.keys env).key kind)

def DB.balance (env : Env) (db : DB) (kind : PeriodKind) : Int :=
  db.ledger.balance kind ((db.keys env).key kind)

def DB.projection (env : Env) (db : DB) : Projection where
  dayLeft := max 0 (db.policy.dailyCap - db.used env .day)
  weekLeft := max 0 (db.policy.weeklyCap - db.used env .week)
  admissible := 0
  wouldAdmit := 0
  deferred := 0
  byCode := fun _ => 0
  decisions := []
  considered := 0

def preview (env : Env) (window limit : Nat) (db : DB) : PreviewResponse :=
  let q := db.ordered.foldl (Projection.consider env db (db.context env) window limit)
    (db.projection env)
  { policyVersion := db.policy.version
    windowSize := window
    considered := db.ordered.length
    admissible := q.admissible
    wouldAdmit := q.wouldAdmit
    deferred := q.deferred
    byCode := q.byCode
    decisions := q.decisions }

/-- The code a run leaves on the candidate's row. -/
def codeAfterRun (env : Env) (window : Nat) (db : DB) (i : OpportunityId) :
    Option AdmissionReason :=
  ((schedule env window db).openings.get i).bind fun o =>
    o.candidate.bind CandidateOpportunity.schedulerCode

/-! ### What the preview leaves out -/

def DB.verdict (env : Env) (db : DB) (ctx : Context) (i : OpportunityId) : Option Verdict :=
  (db.openings.get i).bind fun o => o.candidate.map fun co => decideOpening env ctx o co

section Foreseen
variable (env : Env) (window : Nat) (db : DB)

def DB.admits (i : OpportunityId) : Bool := (db.verdict env (db.context env) i).any Verdict.admissible

/-- Admissions that fit into the window and what the caps leave. -/
def DB.room : Nat :=
  min window (min (db.policy.dailyCap - db.used env .day).toNat
    (db.policy.weeklyCap - db.used env .week).toNat)

/-- The admissions to be expected of these candidates: the first that are admitted, as many as
there is room for. -/
def DB.expected (ids : List OpportunityId) : List OpportunityId :=
  (ids.filter (db.admits env)).take (db.room env window)

/-- What `preview` says of a candidate after these. -/
def DB.projectedCode (earlier : List OpportunityId) (i : OpportunityId) : Option AdmissionReason :=
  (db.verdict env (db.context env) i).map fun v =>
    if v.code = .admitted then
      let n := (db.expected env window earlier).length
      if window ≤ n then .windowDeferred
      else (capFull db.policy fun kind => db.used env kind + n).getD .admitted
    else v.code

end Foreseen

/-! ### The projection -/

section Projected
variable {env : Env} {window limit : Nat} {db : DB} {earlier : List OpportunityId} {i : OpportunityId}

theorem lt_room {n : Nat} : n < db.room env window ↔
    n < window ∧ capFull db.policy (fun kind => db.used env kind + n) = none := by
  unfold DB.room capFull
  rw [lt_min_iff, lt_min_iff, Int.lt_toNat, Int.lt_toNat]
  dsimp only
  constructor
  · rintro ⟨inWindow, day, week⟩
    rw [if_neg (by omega), if_neg (by omega)]
    exact ⟨inWindow, rfl⟩
  · rintro ⟨inWindow, free⟩
    split at free
    · cases free
    split at free
    · cases free
    · omega

theorem expected_append (earlier : List OpportunityId) (i : OpportunityId) :
    db.expected env window (earlier ++ [i]) =
      if db.admits env i = true ∧ (db.expected env window earlier).length < db.room env window then
        db.expected env window earlier ++ [i]
      else db.expected env window earlier := by
  unfold DB.expected
  rw [List.filter_append, List.take_append, List.length_take]
  by_cases admits : db.admits env i = true
  · rw [List.filter_cons_of_pos admits, List.filter_nil]
    by_cases room : (earlier.filter (db.admits env)).length < db.room env window
    · rw [if_pos ⟨admits, by omega⟩, List.take_of_length_le (Nat.le_of_lt room),
        List.take_of_length_le (by rw [List.length_singleton]; omega)]
    · rw [if_neg (by omega), Nat.sub_eq_zero_of_le (by omega), List.take_zero, List.append_nil]
  · rw [List.filter_cons_of_neg admits, List.filter_nil, List.take_nil, List.append_nil,
      if_neg fun both => admits both.1]

theorem DB.ordered_rows (member : i ∈ db.ordered) :
    ∃ o co, db.openings.get i = some o ∧ o.candidate = some co := by
  obtain ⟨r, row, rfl⟩ := List.mem_map.mp member
  obtain ⟨stored, candidate⟩ := List.mem_filter.mp ((sortBy_perm _).mem_iff.mp row)
  obtain ⟨co, there⟩ := Option.isSome_iff_exists.mp candidate
  exact ⟨r.2, co, Table.get_eq_some.mpr stored, there⟩

theorem DB.verdict_eq {ctx : Context} {o : Opening} {co : CandidateOpportunity}
    (found : db.openings.get i = some o) (candidate : o.candidate = some co) :
    db.verdict env ctx i = some (decideOpening env ctx o co) := by
  simp only [DB.verdict, found, Option.bind_some, candidate, Option.map_some]

theorem admits_iff (env : Env) {o : Opening} {co : CandidateOpportunity}
    (found : db.openings.get i = some o) (candidate : o.candidate = some co) :
    db.admits env i = true ↔ (decideOpening env (db.context env) o co).code = .admitted := by
  simp [DB.admits, DB.verdict_eq found candidate, Verdict.admissible]

structure Projected (env : Env) (window limit : Nat) (db : DB) (earlier : List OpportunityId)
    (q : Projection) : Prop where
  wouldAdmit : q.wouldAdmit = (db.expected env window earlier).length
  dayLeft : q.dayLeft = max 0 (db.policy.dailyCap - db.used env .day) - q.wouldAdmit
  weekLeft : q.weekLeft = max 0 (db.policy.weeklyCap - db.used env .week) - q.wouldAdmit
  length : q.decisions.length = min limit earlier.length
  listed : ∀ k < limit, q.decisions[k]?.map (fun d => (d.opportunityId, some d.code)) =
    earlier[k]?.map fun i => (i, db.projectedCode env window (earlier.take k) i)

theorem projected_start : Projected env window limit db [] (db.projection env) where
  wouldAdmit := by simp [DB.projection, DB.expected]
  dayLeft := by simp [DB.projection]
  weekLeft := by simp [DB.projection]
  length := by simp [DB.projection]
  listed := fun k _ => by simp [DB.projection]

theorem Projected.settle {q : Projection} (projected : Projected env window limit db earlier q)
    {o : Opening} {co : CandidateOpportunity} (found : db.openings.get i = some o)
    (candidate : o.candidate = some co) :
    let settled := q.settle window (decideOpening env (db.context env) o co)
    some settled.1 = db.projectedCode env window earlier i ∧
      settled.2.decisions = q.decisions ∧
      settled.2.wouldAdmit = (db.expected env window (earlier ++ [i])).length ∧
      settled.2.dayLeft = max 0 (db.policy.dailyCap - db.used env .day) - settled.2.wouldAdmit ∧
      settled.2.weekLeft = max 0 (db.policy.weeklyCap - db.used env .week) - settled.2.wouldAdmit := by
  obtain ⟨wouldAdmit, dayLeft, weekLeft, -, -⟩ := projected
  have admits := admits_iff env found candidate
  rw [expected_append, DB.projectedCode, DB.verdict_eq found candidate]
  simp only [admits, lt_room]
  unfold Projection.settle capFull Verdict.admissible
  generalize decideOpening env (db.context env) o co = v at admits ⊢
  have day : q.dayLeft ≤ 0 ↔ db.policy.dailyCap ≤
      db.used env .day + (db.expected env window earlier).length := by omega
  have week : q.weekLeft ≤ 0 ↔ db.policy.weeklyCap ≤
      db.used env .week + (db.expected env window earlier).length := by omega
  by_cases admitted : v.code = .admitted
  · simp only [admitted, decide_true, Bool.true_eq_false, if_false, Option.map_some, if_true, day,
      week, true_and]
    by_cases full : window ≤ q.wouldAdmit
    · have full' := wouldAdmit ▸ full
      have out : ¬ (db.expected env window earlier).length < window := by omega
      simp only [if_pos full, if_pos full', out, false_and, if_false]
      exact ⟨trivial, trivial, wouldAdmit, dayLeft, weekLeft⟩
    · have full' := wouldAdmit ▸ full
      have inWindow : (db.expected env window earlier).length < window := by omega
      simp only [if_neg full, if_neg full', inWindow, true_and]
      split
      · exact ⟨rfl, rfl, wouldAdmit, dayLeft, weekLeft⟩
      split
      · exact ⟨rfl, rfl, wouldAdmit, dayLeft, weekLeft⟩
      · refine ⟨rfl, rfl, ?_, ?_, ?_⟩
        · rw [if_pos rfl, List.length_append, List.length_singleton, wouldAdmit]
        · push_cast
          omega
        · push_cast
          omega
  · simp only [admitted, decide_false, if_true, Option.map_some, if_false, false_and]
    exact ⟨trivial, trivial, wouldAdmit, dayLeft, weekLeft⟩

theorem Projected.consider {q : Projection} (projected : Projected env window limit db earlier q)
    {o : Opening} {co : CandidateOpportunity} (found : db.openings.get i = some o)
    (candidate : o.candidate = some co) :
    Projected env window limit db (earlier ++ [i])
      (q.consider env db (db.context env) window limit i) := by
  obtain ⟨code, decisions, wouldAdmit, dayLeft, weekLeft⟩ := projected.settle found candidate
  unfold Projection.consider
  simp only [found, candidate]
  generalize decideOpening env (db.context env) o co = v at *
  generalize q.settle window v = settled at *
  obtain ⟨c, q'⟩ := settled
  dsimp only at *
  have length := projected.length
  constructor
  · exact wouldAdmit
  · exact dayLeft
  · exact weekLeft
  · simp only [Projection.report, decisions, List.length_append, List.length_singleton]
    split
    · rw [List.length_append, List.length_singleton]
      omega
    · omega
  · intro k below
    simp only [Projection.report, decisions]
    by_cases old : k < earlier.length
    · have same : earlier.take k = (earlier ++ [i]).take k := by
        rw [List.take_append_of_le_length (by omega)]
      rw [List.getElem?_append_left old, ← same, ← projected.listed k below]
      split
      · rw [List.getElem?_append_left (by omega)]
      · rfl
    · by_cases last : k = earlier.length
      · subst last
        rw [if_pos (by omega), List.getElem?_append_right (by omega),
          List.getElem?_append_right (by omega), List.take_left]
        have here : earlier.length - q.decisions.length = 0 := by omega
        simp only [here, Nat.sub_self, List.getElem?_cons_zero, Option.map_some, decision, code]
      · have beyond : (earlier ++ [i])[k]? = none := by
          rw [List.getElem?_eq_none_iff, List.length_append, List.length_singleton]
          omega
        rw [beyond, Option.map_none, Option.map_eq_none_iff, List.getElem?_eq_none_iff]
        split
        · rw [List.length_append, List.length_singleton]
          omega
        · omega

theorem projected_foldl (env : Env) (window limit : Nat) (ids : List OpportunityId)
    (known : ∀ i ∈ ids, i ∈ db.ordered) :
    Projected env window limit db ids
      (ids.foldl (Projection.consider env db (db.context env) window limit) (db.projection env)) := by
  induction ids using List.reverseRecOn with
  | nil => exact projected_start
  | append_singleton ids i ih =>
    rw [List.foldl_append, List.foldl_cons, List.foldl_nil]
    obtain ⟨o, co, found, candidate⟩ := DB.ordered_rows (known i (by simp))
    exact (ih fun j member => known j (by simp [member])).consider found candidate

/-- The decisions of a preview, candidate by candidate. -/
theorem preview_decisions (P : OpportunityId → Option AdmissionReason → Prop) :
    (∀ d ∈ (preview env window limit db).decisions, P d.opportunityId (some d.code)) ↔
      ∀ k < limit, ∀ i, db.ordered[k]? = some i →
        P i (db.projectedCode env window (db.ordered.take k) i) := by
  have projected := projected_foldl env window limit db.ordered
    fun _ member => member
  change (∀ d ∈ (db.ordered.foldl (Projection.consider env db (db.context env) window limit)
    (db.projection env)).decisions, _) ↔ _
  generalize db.ordered.foldl (Projection.consider env db (db.context env) window limit)
    (db.projection env) = q at projected ⊢
  constructor
  · intro all k below i here
    have listed := projected.listed k below
    rw [here, Option.map_some, Option.map_eq_some_iff] at listed
    obtain ⟨d, there, same⟩ := listed
    obtain ⟨rfl, code⟩ := Prod.mk.inj same
    rw [← code]
    exact all d (List.mem_of_getElem? there)
  · intro all d member
    obtain ⟨k, short, there⟩ := List.getElem_of_mem member
    have length := projected.length
    have below : k < limit := by omega
    have listed := projected.listed k below
    rw [List.getElem?_eq_getElem short, there, Option.map_some, eq_comm,
      Option.map_eq_some_iff] at listed
    obtain ⟨i, here, same⟩ := listed
    obtain ⟨rfl, code⟩ := Prod.mk.inj same
    rw [← code]
    exact all k below d.opportunityId here

end Projected

end RangeApply
