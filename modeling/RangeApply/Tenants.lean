import RangeApply.Unread

/-! Several tenants over one database. Opportunities, jobs and the table of applications are
shared; everything else a run reads or writes belongs to one tenant. -/
namespace RangeApply

abbrev TenantId := Nat
abbrev JobId := Nat

/-- A row of `applications`. Rows from before tenancy belong to nobody. -/
structure ApplicationRecord where
  tenant : Option TenantId
  job : JobId
  opportunity : Option OpportunityId
  row : Application

/-- The constraint `uq_applications_tenant_opportunity`. -/
def ApplicationRecord.Apart (a b : ApplicationRecord) : Prop :=
  a.tenant.isSome = true → a.opportunity.isSome = true →
    ¬ (a.tenant = b.tenant ∧ a.opportunity = b.opportunity)

structure Tenancy where
  applications : List ApplicationRecord
  /-- `job_id` is unique over the tenants. -/
  jobs : (applications.map ApplicationRecord.job).Nodup
  attempts : applications.Pairwise ApplicationRecord.Apart
  canonicalJob : OpportunityId → Option JobId
  /-- A job row is linked to one opportunity. -/
  linked : ∀ i j, canonicalJob i = canonicalJob j → canonicalJob i ≠ none → i = j
  /-- The other tables, by tenant. -/
  own : TenantId → DB
  filed : ∀ t, (own t).Filed

namespace Tenancy
variable (w : Tenancy) (t : TenantId) (i : OpportunityId)

/-- `by_opportunity`. -/
def attemptOf : Option Application :=
  (w.applications.find? fun r => r.tenant = some t ∧ r.opportunity = some i).map
    ApplicationRecord.row

/-- `legacy_by_job`. -/
def legacyOf : Option Application :=
  (w.applications.find? fun r => r.tenant = none ∧ some r.job = w.canonicalJob i).map
    ApplicationRecord.row

/-- An insert for the opportunity is refused: its job id is missing or in another row. -/
def taken : Bool :=
  (w.canonicalJob i).isNone || w.applications.any fun r => some r.job = w.canonicalJob i

/-- What a run of one tenant works on. -/
def view : DB :=
  { w.own t with openings := (w.own t).openings.mapRows fun i o => { o with
      attempt := w.attemptOf t i, legacy := w.legacyOf i, jobTaken := w.taken i } }

/-- A new row. -/
def insert (r : ApplicationRecord) (free : r.job ∉ w.applications.map ApplicationRecord.job)
    (apart : ∀ r' ∈ w.applications, r.Apart r') : Tenancy :=
  { w with
    applications := r :: w.applications
    jobs := List.nodup_cons.mpr ⟨free, w.jobs⟩
    attempts := List.pairwise_cons.mpr ⟨apart, w.attempts⟩ }

/-- The tenant has no applications. -/
def without : Tenancy where
  applications := w.applications.filter fun r => r.tenant ≠ some t
  jobs := w.jobs.sublist (List.filter_sublist.map ApplicationRecord.job)
  attempts := w.attempts.filter _
  canonicalJob := w.canonicalJob
  linked := w.linked
  own := w.own
  filed := w.filed

/-- What a run of the tenant makes of an opportunity: its code and its attempt. -/
def result (env : Env) (window : Nat) : Option AdmissionReason × Option Application :=
  (codeAfterRun env window (w.view t) i,
    ((schedule env window (w.view t)).openings.get i).bind Opening.attempt)

/-- The runs of `b` go the same whether or not `a` has applications. -/
def Independent (env : Env) (window : Nat) (a b : TenantId) : Prop :=
  ∀ i, w.result b i env window = (w.without a).result b i env window

/-- The tenant has a row for the job of the opportunity. -/
def carries : Bool :=
  w.applications.any fun r => r.tenant = some t ∧ some r.job = w.canonicalJob i

end Tenancy

/-- The pass comes to insert a new row for the opportunity. -/
def Pass.inserts (env : Env) (window : Nat) (p : Pass) (i : OpportunityId) : Bool :=
  match p.db.openings.get i with
  | none => false
  | some o =>
    match o.candidate with
    | none => false
    | some co =>
      (decideOpening env p.context o co).admissible && decide (p.admitted < window) &&
        p.capHit.isNone && (capFull p.db.policy (p.db.balance env)).isNone &&
        o.attempt.isNone && o.legacy.isNone

/-! ### What does not read whether the job is taken -/

def Opening.retake (taken : Bool) (o : Opening) : Opening := { o with jobTaken := taken }

def Slice.retake (taken : Bool) (s : Slice) : Slice := ⟨s.opening.retake taken, s.ledger⟩

def DB.retake (taken : OpportunityId → Bool) (db : DB) : DB :=
  db.revise fun i => Opening.retake (taken i)

def Pass.retake (taken : OpportunityId → Bool) (p : Pass) : Pass :=
  { p with db := p.db.retake taken }

theorem retake_unread (b : Bool) : Unread id (Opening.retake b) where
  candidate := fun o => Option.map_id_apply.symm
  attempt := fun _ => rfl
  prepare := fun _ => rfl
  preparations := fun _ => rfl
  id := fun _ => rfl
  company := fun _ => rfl
  title := fun _ => rfl
  status := fun _ => rfl
  setAttempt := fun _ _ => rfl
  setPrepare := fun _ _ => rfl
  setCandidate := fun o c => by rw [Option.map_id_apply]; rfl
  state := fun _ => rfl
  stateChangedAt := fun _ => rfl
  policyAdmitted := fun _ => rfl
  transition := fun co now state reason => by
    rw [id]
    cases co.transition now state reason with
    | ok co' => rfl
    | error e => rfl

section Retake
variable {env : Env} {window : Nat} {taken : OpportunityId → Bool} {db : DB} {i : OpportunityId}
  {o : Opening}

theorem ordered_retake : (db.retake taken).ordered = db.ordered := by
  unfold DB.ordered DB.retake
  rw [candidates_revise fun i => retake_unread (taken i), sortBy_map, List.map_map]
  rfl

theorem get_retake : (db.retake taken).openings.get i =
    (db.openings.get i).map (Opening.retake (taken i)) := get_revise

theorem update_retake {f g : Slice → Slice}
    (same : ∀ o, db.openings.get i = some o →
      f ⟨o.retake (taken i), db.ledger⟩ = (g ⟨o, db.ledger⟩).retake (taken i)) :
    (db.retake taken).update i f = (db.update i g).retake taken := update_revise same

theorem openPass_retake : (db.retake taken).openPass env = (db.openPass env).retake taken :=
  openPass_revise fun i => retake_unread (taken i)

theorem stamp_retake (p : Pass) (code : AdmissionReason) (v : Verdict) :
    (p.retake taken).stamp i code v = (p.stamp i code v).retake taken := by
  unfold Pass.stamp Pass.retake
  simp only
  rw [update_retake]
  intro o _
  rfl

/-- Only an admission that has a slot and no row to go on with looks at the job. -/
theorem admit_retake {b : Bool} (v : Verdict) (co : CandidateOpportunity) (ledger : CapLedger)
    (same : (ledger.reserve (db.keys env) db.policy.dailyCap db.policy.weeklyCap).2 = none →
      o.attempt = none → o.legacy = none → b = o.jobTaken) :
    admitCandidate env (db.retake taken) v co ⟨o.retake b, ledger⟩ =
      ((admitCandidate env db v co ⟨o, ledger⟩).1,
        (admitCandidate env db v co ⟨o, ledger⟩).2.retake b) := by
  have answer : Application.reserve db.now ledger (db.keys env) db.policy.dailyCap db.policy.weeklyCap
        v.lane v.level (o.attempt <|> o.legacy) b =
      Application.reserve db.now ledger (db.keys env) db.policy.dailyCap db.policy.weeklyCap
        v.lane v.level (o.attempt <|> o.legacy) o.jobTaken := by
    unfold Application.reserve
    cases reserved : ledger.reserve (db.keys env) db.policy.dailyCap db.policy.weeklyCap with
    | mk ledger' refusal =>
      cases refusal with
      | some cap => rfl
      | none =>
        cases attempt : o.attempt with
        | some row => rfl
        | none =>
          cases legacy : o.legacy with
          | some row => rfl
          | none => rw [same (by rw [reserved]) attempt legacy]
  have left : Application.reserve (db.retake taken).now ledger ((db.retake taken).keys env)
        (db.retake taken).policy.dailyCap (db.retake taken).policy.weeklyCap v.lane v.level
        ((o.retake b).attempt <|> (o.retake b).legacy) (o.retake b).jobTaken = _ := answer
  unfold admitCandidate
  dsimp only
  rw [left]
  generalize Application.reserve db.now ledger (db.keys env) db.policy.dailyCap db.policy.weeklyCap
    v.lane v.level (o.attempt <|> o.legacy) o.jobTaken = reserved
  rcases reserved with e | ⟨ledger', cap | row⟩
  · rfl
  · rfl
  · have item : admittedItem (db.retake taken).now v co row (o.retake b) =
        admittedItem db.now v co row o := rfl
    dsimp only
    rw [item]
    cases prepared : admittedItem db.now v co row o with
    | error e => rfl
    | ok done => rfl

theorem settleAdmission_retake (p : Pass) (outcome : AdmissionReason × Slice) :
    (p.retake taken).settleAdmission env i (outcome.1, outcome.2.retake (taken i)) =
      (p.settleAdmission env i outcome).retake taken := by
  have stored : (p.db.retake taken).update i (fun _ => outcome.2.retake (taken i)) =
      (p.db.update i fun _ => outcome.2).retake taken := update_retake fun _ _ => rfl
  unfold Pass.settleAdmission Pass.retake
  dsimp only
  rw [stored]
  split
  · rfl
  · rfl

theorem consider_retake {p : Pass}
    (same : p.inserts env window i = true → ∀ o, p.db.openings.get i = some o →
      taken i = o.jobTaken) :
    (p.retake taken).consider env window i = (p.consider env window i).retake taken := by
  unfold Pass.consider
  have get : (p.retake taken).db.openings.get i = (p.db.openings.get i).map
      (Opening.retake (taken i)) := get_retake
  rw [get]
  unfold Pass.inserts at same
  cases found : p.db.openings.get i with
  | none => rfl
  | some o =>
    rw [found] at same
    have candidate : (o.retake (taken i)).candidate = o.candidate := rfl
    simp only [Option.map_some, candidate]
    cases candidate : o.candidate with
    | none => rfl
    | some co =>
      have verdict : decideOpening env (p.retake taken).context (o.retake (taken i)) co =
          decideOpening env p.context o co := rfl
      simp only [candidate] at same
      dsimp only
      rw [verdict]
      split
      · exact stamp_retake ..
      rename_i open_
      have count : (p.retake taken).admitted = p.admitted := rfl
      rw [count]
      split
      · exact stamp_retake ..
      rename_i room
      have cap : (p.retake taken).capHit = p.capHit := rfl
      rw [cap]
      cases hit : p.capHit with
      | some code => exact stamp_retake ..
      | none =>
        dsimp only
        have fresh : (p.db.ledger.reserve (p.db.keys env) p.db.policy.dailyCap
            p.db.policy.weeklyCap).2 = none → o.attempt = none → o.legacy = none →
              taken i = o.jobTaken := by
          intro slot attempt legacy
          have admitted : (decideOpening env p.context o co).code = .admitted := by
            simpa [Verdict.admissible] using open_
          obtain ⟨daily, weekly⟩ := caps_of_admitted admitted
          have room' : capFull p.db.policy (p.db.balance env) = none :=
            (reserve_capFull daily weekly p.db.ledger (p.db.keys env)).symm.trans slot
          refine same ?_ o rfl
          simp [Verdict.admissible, admitted, hit, room', attempt, legacy, Nat.not_le.mp room]
        have answered : admitCandidate env (p.retake taken).db (decideOpening env p.context o co) co
            ⟨o.retake (taken i), (p.retake taken).db.ledger⟩ = _ :=
          admit_retake (decideOpening env p.context o co) co p.db.ledger fresh
        rw [answered, settleAdmission_retake, stamp_retake]

theorem enqueueReady_retake (now : Time) (b : Bool) (o : Opening) :
    enqueueReady env now (o.retake b) = (enqueueReady env now o).retake b := by
  unfold enqueueReady
  have attempt : (o.retake b).attempt = o.attempt := rfl
  have candidate : (o.retake b).candidate = o.candidate := rfl
  have submit : (o.retake b).submit = o.submit := rfl
  rw [attempt, candidate, submit]
  rcases o.attempt with _ | row
  · rfl
  rcases o.candidate with _ | co
  · rfl
  rcases o.submit with _ | item
  · dsimp only
    split
    · rfl
    · rfl
  · rfl

theorem enqueueAll_retake : (db.retake taken).enqueueAll env = (db.enqueueAll env).retake taken := by
  have rows : ((db.retake taken).enqueueAll env).openings =
      ((db.enqueueAll env).retake taken).openings := by
    apply Table.eq_of_rows
    unfold DB.enqueueAll DB.retake DB.revise
    simp only [Table.mapRows_rows, List.map_map]
    refine List.map_congr_left fun r _ => ?_
    exact congrArg (Prod.mk r.1) (enqueueReady_retake db.now (taken r.1) r.2)
  exact congrArg (fun t => { db with openings := t }) rows

/-- Up to what each candidate's own insert finds, a pass goes the same. -/
theorem foldl_retake {p : Pass} {ids : List OpportunityId}
    (same : Trace.Guarded (Pass.consider env window) (fun p i => p.inserts env window i = true →
      ∀ o, p.db.openings.get i = some o → taken i = o.jobTaken) p ids) :
    ids.foldl (Pass.consider env window) (p.retake taken) =
      (ids.foldl (Pass.consider env window) p).retake taken := by
  induction ids generalizing p with
  | nil => rfl
  | cons i ids ih =>
    rw [List.foldl_cons, List.foldl_cons, consider_retake same.1, ih same.2]

/-- A pass that comes to insert a row says what the insert finds. -/
theorem inserts_code {p : Pass} (inserts : p.inserts env window i = true)
    (found : p.db.openings.get i = some o)
    (kind : ∀ item, o.prepare = some item → item.action = .prepare) :
    ((p.consider env window i).db.openings.get i).bind
        (fun o => o.candidate.bind CandidateOpportunity.schedulerCode) =
      some (if o.jobTaken then .alreadyInProgress else .admitted) := by
  unfold Pass.inserts at inserts
  rw [found] at inserts
  dsimp only at inserts
  cases candidate : o.candidate with
  | none => simp [candidate] at inserts
  | some co =>
    simp only [candidate, Bool.and_eq_true, decide_eq_true_eq, Option.isNone_iff_eq_none] at inserts
    obtain ⟨⟨⟨⟨⟨open_, inWindow⟩, free⟩, room⟩, attempt⟩, legacy⟩ := inserts
    rw [Pass.consider_stored found candidate kind]
    unfold Pass.answer
    have admitted : (decideOpening env p.context o co).code = .admitted := by
      simpa [Verdict.admissible] using open_
    obtain ⟨daily, weekly⟩ := caps_of_admitted admitted
    simp only [open_, Bool.true_eq_false, if_false, Nat.not_le.mpr inWindow, free]
    have tried : Tried env p.db o p.db.ledger
        (admitCandidate env p.db (decideOpening env p.context o co) co ⟨o, p.db.ledger⟩) :=
      admit_tried daily weekly kind
    have conflicts : o.conflicts = o.jobTaken := by simp [Opening.conflicts, attempt, legacy]
    generalize admitCandidate env p.db (decideOpening env p.context o co) co ⟨o, p.db.ledger⟩ =
      outcome at tried ⊢
    cases tried with
    | full cap ledger' is =>
      have full : capFull p.db.policy (p.db.balance env) = some cap := is
      rw [room] at full
      cases full
    | conflict _ taken => rw [if_pos (conflicts ▸ taken)]
    | granted o' ledger' _ free => rw [if_neg (by rw [← conflicts, free]; decide)]

theorem inserts_retake (p : Pass) :
    (p.retake taken).inserts env window i = p.inserts env window i := by
  unfold Pass.inserts
  have get : (p.retake taken).db.openings.get i = (p.db.openings.get i).map
      (Opening.retake (taken i)) := get_retake
  rw [get]
  cases p.db.openings.get i with
  | none => rfl
  | some o => rfl

end Retake

/-! ### Two tenants -/

namespace Tenancy
variable {env : Env} {window : Nat} {w : Tenancy} {a b : TenantId} {i : OpportunityId}

theorem find_without (p : ApplicationRecord → Bool) (others : ∀ r, p r = true → r.tenant ≠ some a) :
    (w.without a).applications.find? p = w.applications.find? p := by
  unfold without
  dsimp only
  rw [List.find?_filter]
  congr 1
  funext r
  by_cases chosen : p r = true
  · simp [chosen, others r chosen]
  · simp [chosen]

theorem view_without (distinct : a ≠ b) :
    (w.without a).view b = (w.view b).retake (w.without a).taken := by
  have attempts (i : OpportunityId) : (w.without a).attemptOf b i = w.attemptOf b i := by
    unfold attemptOf
    rw [find_without]
    intro r chosen
    simp only [Bool.decide_and, Bool.and_eq_true, decide_eq_true_eq] at chosen
    rw [chosen.1]
    exact fun same => distinct (Option.some.inj same).symm
  have legacy (i : OpportunityId) : (w.without a).legacyOf i = w.legacyOf i := by
    unfold legacyOf
    change Option.map _ ((w.without a).applications.find? fun r => decide
      (r.tenant = none ∧ some r.job = w.canonicalJob i)) = _
    rw [find_without]
    intro r chosen
    simp only [Bool.decide_and, Bool.and_eq_true, decide_eq_true_eq] at chosen
    rw [chosen.1]
    exact fun same => by cases same
  unfold view DB.retake DB.revise
  have rows : (Table.mapRows (fun i o => { o with
        attempt := (w.without a).attemptOf b i, legacy := (w.without a).legacyOf i,
        jobTaken := (w.without a).taken i }) (w.own b).openings) =
      ((w.own b).openings.mapRows fun i o => { o with
        attempt := w.attemptOf b i, legacy := w.legacyOf i, jobTaken := w.taken i }).mapRows
          fun i o => o.retake ((w.without a).taken i) := by
    apply Table.eq_of_rows
    simp only [Table.mapRows_rows, List.map_map, attempts, legacy]
    rfl
  exact congrArg (fun t => { w.own b with openings := t }) rows

/-- A row that a run inserts takes no job of another opportunity, so that a run may look at the jobs
once. -/
theorem taken_insert (r : ApplicationRecord) (free : r.job ∉ w.applications.map ApplicationRecord.job)
    (apart : ∀ r' ∈ w.applications, r.Apart r') {j : OpportunityId}
    (mine : some r.job = w.canonicalJob i) (other : j ≠ i) :
    (w.insert r free apart).taken j = w.taken j := by
  have elsewhere : some r.job ≠ w.canonicalJob j := by
    intro same
    have one := w.linked i j (mine.symm.trans same) (by simp [← mine])
    exact other one.symm
  unfold taken insert
  simp [elsewhere]

/-- A row that has the job of an opportunity is the only one. -/
theorem taken_without (i : OpportunityId) :
    (w.without a).taken i = (w.taken i && !w.carries a i) := by
  unfold taken carries without
  cases job : w.canonicalJob i with
  | none => simp
  | some j =>
    simp only [Option.isNone_some, Bool.false_or, Option.some.injEq]
    by_cases carried : ∃ r ∈ w.applications, r.tenant = some a ∧ r.job = j
    · obtain ⟨r, member, owner, same⟩ := carried
      have alone : ∀ r' ∈ w.applications, r'.job = j → r' = r := fun r' member' same' =>
        List.inj_on_of_nodup_map w.jobs member' member (same'.trans same.symm)
      have found : (w.applications.any fun r => decide (r.tenant = some a ∧ r.job = j)) = true :=
        List.any_eq_true.mpr ⟨r, member, by simp [owner, same]⟩
      rw [found, Bool.not_true, Bool.and_false, ← Bool.not_eq_true, List.any_eq_true]
      rintro ⟨r', member', same'⟩
      obtain ⟨stored, other⟩ := List.mem_filter.mp member'
      rw [alone r' stored (by simpa using same'), owner] at other
      simp at other
    · have none_ : (w.applications.any fun r => decide (r.tenant = some a ∧ r.job = j)) = false := by
        rw [← Bool.not_eq_true, List.any_eq_true]
        rintro ⟨r, member, both⟩
        exact carried ⟨r, member, by simpa using both⟩
      rw [none_, Bool.not_false, Bool.and_true, Bool.eq_iff_iff, List.any_eq_true, List.any_eq_true]
      constructor
      · rintro ⟨r, member, same⟩
        exact ⟨r, (List.mem_filter.mp member).1, same⟩
      · rintro ⟨r, member, same⟩
        refine ⟨r, List.mem_filter.mpr ⟨member, decide_eq_true fun owner => carried ?_⟩, same⟩
        exact ⟨r, member, owner, by simpa using same⟩

theorem taken_of_carries (carried : w.carries a i = true) : w.taken i = true := by
  obtain ⟨r, member, both⟩ := List.any_eq_true.mp carried
  have same : some r.job = w.canonicalJob i := (of_decide_eq_true both).2
  unfold taken
  rw [Bool.or_eq_true]
  exact .inr (List.any_eq_true.mpr ⟨r, member, decide_eq_true same⟩)

theorem view_retake (b : TenantId) : (w.view b).retake w.taken = w.view b := by
  have rows : ((w.view b).retake w.taken).openings = (w.view b).openings := by
    apply Table.eq_of_rows
    unfold view DB.retake DB.revise
    simp only [Table.mapRows_rows, List.map_map]
    rfl
  exact congrArg (fun t => { w.own b with openings := t }) rows

theorem stored_taken {p : Pass} (kept : p.retake w.taken = p) {o : Opening}
    (found : p.db.openings.get i = some o) : o.jobTaken = w.taken i := by
  have again : (p.retake w.taken).db.openings.get i = some o := by rw [kept, found]
  have retaken : (p.retake w.taken).db.openings.get i =
      (p.db.openings.get i).map (Opening.retake (w.taken i)) := get_retake
  rw [found, again] at retaken
  exact congrArg Opening.jobTaken (Option.some.inj retaken)

theorem consider_kept {p : Pass} (kept : p.retake w.taken = p) (i : OpportunityId) :
    (p.consider env window i).retake w.taken = p.consider env window i := by
  rw [← consider_retake fun _ o found => (stored_taken kept found).symm, kept]

/-- What keeps a turn apart from the other tenant's rows. -/
theorem guard_iff {p : Pass} (kept : p.retake w.taken = p) (i : OpportunityId) :
    (p.inserts env window i = true → w.carries a i = false) ↔
      (p.inserts env window i = true → ∀ o, p.db.openings.get i = some o →
        (w.without a).taken i = o.jobTaken) := by
  refine imp_congr_right fun inserts => ?_
  constructor
  · intro free o found
    rw [stored_taken kept found, taken_without, free, Bool.not_false, Bool.and_true]
  · intro same
    have there : ∃ o, p.db.openings.get i = some o := by
      unfold Pass.inserts at inserts
      split at inserts
      · cases inserts
      · rename_i o found
        exact ⟨o, found⟩
    obtain ⟨o, found⟩ := there
    have here := same o found
    rw [stored_taken kept found, taken_without] at here
    cases carried : w.carries a i with
    | false => rfl
    | true =>
      rw [carried, taken_of_carries carried] at here
      cases here

theorem view_filed (b : TenantId) : (w.view b).Filed := by
  intro i o item found prepare
  unfold view at found
  rw [Table.get_mapRows, Option.map_eq_some_iff] at found
  obtain ⟨o', stored, rfl⟩ := found
  exact w.filed b i o' item stored prepare

/-- The code a run leaves on a candidate it comes to insert a row for. -/
theorem code_inserted {db : DB} (filed : db.Filed) {before after : List OpportunityId}
    (split : db.ordered = before ++ i :: after)
    (inserts : (before.foldl (Pass.consider env window) (db.openPass env)).inserts env window i = true) :
    ∃ o, (before.foldl (Pass.consider env window) (db.openPass env)).db.openings.get i = some o ∧
      codeAfterRun env window db i = some (if o.jobTaken then .alreadyInProgress else .admitted) := by
  have at_ : db.ordered[before.length]? = some i := by simp [split]
  have take : db.ordered.take before.length = before := by simp [split]
  have nodup := db.ordered_nodup
  rw [split] at nodup
  have absent : i ∉ before := fun member =>
    List.disjoint_of_nodup_append nodup member List.mem_cons_self
  obtain ⟨o, co, stored, candidate⟩ := DB.ordered_rows (List.mem_of_getElem? at_)
  have here : (before.foldl (Pass.consider env window) (db.openPass env)).db.openings.get i =
      some (reconcile env db ⟨o, db.ledger⟩).opening := by
    rw [foldl_get_other absent]
    exact reconcileAll_get stored
  refine ⟨_, here, ?_⟩
  have kept := reconcile_preserved env db ⟨o, db.ledger⟩
  rw [codeAfterRun_turn at_, take]
  exact inserts_code inserts here (kept.action (filed i o · stored))

/-- Everyone has one opening to apply to; tenant 1 has applied to the opening with this id. -/
def applied (i : OpportunityId) : Tenancy where
  applications := [⟨some 1, i, some i, .fresh 0⟩]
  jobs := List.nodup_singleton _
  attempts := List.pairwise_singleton ..
  canonicalJob := some
  linked := fun _ _ same _ => Option.some.inj same
  own := fun _ => .single (.strong 1 "Acme" "Engineer")
  filed := fun _ => by
    intro i o item found prepare
    have row := Table.get_eq_some.mp found
    simp only [DB.single, List.mem_singleton, Prod.mk.injEq] at row
    rw [row.2] at prepare
    cases prepare

end Tenancy

end RangeApply
