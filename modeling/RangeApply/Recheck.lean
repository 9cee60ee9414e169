import RangeApply.Decisions
import RangeApply.Service

/-! The recheck before a submission beside the decision of the scheduler. Both ask indexes of the
other openings for a cool-down of the company and for the same title; the scheduler's know of
openings that are marked as applied without an attempt, those of the recheck do not. -/
namespace RangeApply

/-! ### What the indexes hold -/

theorem foldl_adds {α β : Type} {f : β → α → β} {P : β → Prop} {Q : α → Prop}
    (each : ∀ b a, P (f b a) ↔ P b ∨ Q a) (b : β) (as : List α) :
    P (as.foldl f b) ↔ P b ∨ ∃ a ∈ as, Q a := by
  induction as generalizing b with
  | nil => simp
  | cons a as ih => simp [ih, each, or_assoc]

def reaches (cooldownDays : Int) (started : Option Time) (t : Time) : Prop :=
  0 < cooldownDays ∧ ∃ s, started = some s ∧ t ≤ s + days cooldownDays

namespace Opening

/-- What a slot or a submission starts the cool-down with. -/
def attemptStart (p : Opening) : Option Time :=
  p.attempt.bind fun row =>
    if row.isSubmitted then row.appliedAt else if row.holdsSlot then row.reservedAt else none

def live (p : Opening) : Bool := p.attempt.any fun row => row.holdsSlot || row.isSubmitted

/-- The candidate's row says that the candidate applied, and no attempt does. -/
def onlyMarked (p : Opening) : Bool := p.attempt.isNone && p.candidate.any fun co => co.state.applied

def markedAt (p : Opening) : Option Time :=
  if p.onlyMarked then p.candidate.map CandidateOpportunity.stateChangedAt else none

def employerKey (env : Env) (p : Opening) : String := companyKey env p.opportunity.company

def titleKey (env : Env) (p : Opening) : String :=
  duplicateKey env p.opportunity.company p.opportunity.title

end Opening

namespace Indexes
variable {env : Env} {cooldownDays : Int} {key : String} {t : Time} {id : OpportunityId}

theorem covers_record_iff (index : CooldownIndex) (other : String) (ends : Time) (source : String) :
    (index.record other ends source).Covers key t ↔
      if key = other then t ≤ ends else index.Covers key t := by
  unfold CooldownIndex.Covers CooldownIndex.record
  dsimp only
  split <;> simp

theorem covers_add_iff (index : CooldownIndex) (company : String) (started : Option Time)
    (source : String) : (index.add env company started cooldownDays source).Covers key t ↔
      index.Covers key t ∨
        (companyKey env company = key ∧ reaches cooldownDays started t) := by
  unfold CooldownIndex.add
  split
  · simp [reaches]
  rename_i s
  split
  · rename_i off
    simp [reaches, Int.not_lt.mpr off]
  rename_i on
  have reached : reaches cooldownDays (some s) t ↔ t ≤ s + days cooldownDays := by
    simp [reaches, Int.not_le.mp on]
  rw [reached]
  dsimp only
  split
  · rename_i unknown
    rw [covers_record_iff]
    split
    · rename_i here
      subst here
      simp [CooldownIndex.Covers, unknown]
    · rename_i elsewhere
      simp [Ne.symm elsewhere]
  · rename_i known there
    have before : index.Covers (companyKey env company) t ↔ t ≤ known := by
      simp [CooldownIndex.Covers, there]
    split
    · rename_i later
      rw [covers_record_iff]
      split
      · rename_i here
        subst here
        rw [before]
        simp only [true_and]
        exact ⟨.inr, fun either => either.elim (fun le => Int.le_trans le (Int.le_of_lt later)) id⟩
      · rename_i elsewhere
        simp [Ne.symm elsewhere]
    · rename_i earlier
      by_cases here : companyKey env company = key
      · subst here
        rw [before]
        simp only [true_and]
        exact ⟨.inl, fun either => either.elim id fun le => Int.le_trans le (Int.not_lt.mp earlier)⟩
      · simp [here]

theorem covers_addAttempt_iff (index : Indexes) (p : Opening) :
    (index.addAttempt env cooldownDays p).cooldown.Covers key t ↔
      index.cooldown.Covers key t ∨
        (p.employerKey env = key ∧ reaches cooldownDays p.attemptStart t) := by
  have never : ¬ reaches cooldownDays none t := by simp [reaches]
  unfold addAttempt
  cases attempt : p.attempt with
  | none => simp [Opening.attemptStart, attempt, never]
  | some row =>
    have started : p.attemptStart =
        if row.isSubmitted then row.appliedAt else if row.holdsSlot then row.reservedAt else none := by
      simp [Opening.attemptStart, attempt]
    have same (index' : Indexes) :
        (if row.holdsSlot || row.isSubmitted then index'.addDuplicate env p else index').cooldown =
          index'.cooldown := by
      split <;> rfl
    dsimp only
    rw [same, started]
    by_cases submitted : row.isSubmitted = true
    · rw [if_pos submitted, if_pos submitted]
      exact covers_add_iff ..
    · rw [if_neg submitted, if_neg submitted]
      by_cases holds : row.holdsSlot = true
      · rw [if_pos holds, if_pos holds]
        exact covers_add_iff ..
      · rw [if_neg holds, if_neg holds]
        simp [never]

theorem covers_addCandidate_iff (index : Indexes) (p : Opening) :
    (index.addCandidate env cooldownDays p).cooldown.Covers key t ↔
      index.cooldown.Covers key t ∨ (p.employerKey env = key ∧ reaches cooldownDays p.markedAt t) := by
  have never : ¬ reaches cooldownDays none t := by simp [reaches]
  unfold addCandidate Opening.markedAt Opening.onlyMarked
  cases candidate : p.candidate with
  | none => simp [never]
  | some co =>
    dsimp only
    by_cases marked : co.state.applied = true ∧ p.attempt.isNone = true
    · rw [if_pos marked]
      simp only [Option.any_some, marked.1, marked.2, Bool.and_self, if_true, Option.map_some]
      exact covers_add_iff ..
    · have off : ¬ (p.attempt.isNone && co.state.applied) = true := by
        rw [Bool.and_eq_true]
        exact fun both => marked ⟨both.2, both.1⟩
      simp only [if_neg marked, Option.any_some, if_neg off, never, and_false, or_false]

theorem mem_addAttempt_iff (index : Indexes) (p : Opening) :
    (key, id) ∈ (index.addAttempt env cooldownDays p).duplicates ↔ (key, id) ∈ index.duplicates ∨
      (p.live = true ∧ p.titleKey env = key ∧ p.opportunity.id = id) := by
  unfold addAttempt
  cases attempt : p.attempt with
  | none => simp [Opening.live, attempt]
  | some row =>
    have live : p.live = (row.holdsSlot || row.isSubmitted) := by simp [Opening.live, attempt]
    have same : (if row.isSubmitted then
        index.addCooldown env cooldownDays p row.appliedAt "submitted"
      else if row.holdsSlot then index.addCooldown env cooldownDays p row.reservedAt "in_progress"
      else index).duplicates = index.duplicates := by
      split
      · rfl
      · split <;> rfl
    dsimp only
    rw [live]
    split
    · rename_i here
      simp only [addDuplicate, same, List.mem_cons, here, true_and, Prod.mk.injEq]
      rw [or_comm, eq_comm (a := key), eq_comm (a := id)]
      rfl
    · rename_i off
      simp [same, off]

theorem mem_addCandidate_iff (index : Indexes) (p : Opening) :
    (key, id) ∈ (index.addCandidate env cooldownDays p).duplicates ↔ (key, id) ∈ index.duplicates ∨
      (p.onlyMarked = true ∧ p.titleKey env = key ∧ p.opportunity.id = id) := by
  unfold addCandidate Opening.onlyMarked
  cases candidate : p.candidate with
  | none => simp
  | some co =>
    dsimp only
    by_cases marked : co.state.applied = true ∧ p.attempt.isNone = true
    · rw [if_pos marked]
      simp only [addDuplicate, addCooldown, List.mem_cons, Prod.mk.injEq, Option.any_some, marked.1,
        marked.2, Bool.and_self, true_and]
      rw [or_comm, eq_comm (a := key), eq_comm (a := id)]
      rfl
    · have off : (p.attempt.isNone && co.state.applied) = false := by
        rw [← Bool.not_eq_true, Bool.and_eq_true]
        exact fun both => marked ⟨both.2, both.1⟩
      rw [if_neg marked]
      simp [off]

theorem covers_build (attempts candidates : List Opening) :
    (build env cooldownDays attempts candidates).cooldown.Covers key t ↔
      (∃ p ∈ attempts, p.employerKey env = key ∧ reaches cooldownDays p.attemptStart t) ∨
        ∃ p ∈ candidates, p.employerKey env = key ∧ reaches cooldownDays p.markedAt t := by
  have nothing : ¬ empty.cooldown.Covers key t := by
    simp [CooldownIndex.Covers, empty, CooldownIndex.empty]
  rw [build, foldl_adds (P := fun index : Indexes => index.cooldown.Covers key t) covers_addCandidate_iff,
    foldl_adds (P := fun index : Indexes => index.cooldown.Covers key t) covers_addAttempt_iff]
  simp [nothing]

theorem mem_build (attempts candidates : List Opening) :
    (key, id) ∈ (build env cooldownDays attempts candidates).duplicates ↔
      (∃ p ∈ attempts, p.live = true ∧ p.titleKey env = key ∧ p.opportunity.id = id) ∨
        ∃ p ∈ candidates, p.onlyMarked = true ∧ p.titleKey env = key ∧ p.opportunity.id = id := by
  rw [build, foldl_adds (P := fun index : Indexes => (key, id) ∈ index.duplicates) mem_addCandidate_iff,
    foldl_adds (P := fun index : Indexes => (key, id) ∈ index.duplicates) mem_addAttempt_iff]
  simp [empty]

/-! ### What stands against an opening -/

/-- The company is in cool-down, or another opening has the title. -/
def blocks (env : Env) (index : Indexes) (now : Time) (posting : Opportunity) : Prop :=
  index.others (duplicateKey env posting.company posting.title) posting.id ≠ [] ∨
    index.cooldown.activeUntil env posting.company now ≠ none

theorem active_iff (index : CooldownIndex) (company : String) (now : Time) :
    index.activeUntil env company now ≠ none ↔
      index.Covers (companyKey env company) (now + 1) := by
  constructor
  · intro active
    unfold CooldownIndex.activeUntil at active
    split at active
    · exact absurd rfl active
    · rename_i ends found
      split at active
      · rename_i early
        exact ⟨ends, found, early⟩
      · exact absurd rfl active
  · exact fun covers => covers.active (Int.lt_succ now)

theorem others_ne_nil (index : Indexes) (key : String) (id : OpportunityId) :
    index.others key id ≠ [] ↔ ∃ i, (key, i) ∈ index.duplicates ∧ i ≠ id := by
  constructor
  · intro some
    obtain ⟨i, member⟩ := List.exists_mem_of_ne_nil _ some
    simp only [others, List.mem_filter, List.mem_map, decide_eq_true_eq] at member
    obtain ⟨⟨⟨k, j⟩, ⟨known, here⟩, rfl⟩, other⟩ := member
    exact ⟨j, (here : k = key) ▸ known, other⟩
  · rintro ⟨i, member, other⟩
    have here : i ∈ index.others key id := by
      simp only [others, List.mem_filter, List.mem_map, decide_eq_true_eq]
      exact ⟨⟨(key, i), ⟨member, rfl⟩, rfl⟩, other⟩
    exact List.ne_nil_of_mem here

/-- This opening's attempt stands against the posting. -/
def attemptBlocks (env : Env) (cooldownDays : Int) (now : Time) (posting : Opportunity) (p : Opening) :
    Prop :=
  (p.employerKey env = companyKey env posting.company ∧
      reaches cooldownDays p.attemptStart (now + 1)) ∨
    (p.live = true ∧ p.titleKey env = duplicateKey env posting.company posting.title ∧
      p.opportunity.id ≠ posting.id)

def markBlocks (env : Env) (cooldownDays : Int) (now : Time) (posting : Opportunity) (p : Opening) :
    Prop :=
  (p.employerKey env = companyKey env posting.company ∧
      reaches cooldownDays p.markedAt (now + 1)) ∨
    (p.onlyMarked = true ∧
      p.titleKey env = duplicateKey env posting.company posting.title ∧
      p.opportunity.id ≠ posting.id)

theorem blocks_build (attempts candidates : List Opening) (now : Time) (posting : Opportunity) :
    (build env cooldownDays attempts candidates).blocks env now posting ↔
      (∃ p ∈ attempts, attemptBlocks env cooldownDays now posting p) ∨
        ∃ p ∈ candidates, markBlocks env cooldownDays now posting p := by
  unfold blocks
  rw [others_ne_nil, active_iff, covers_build]
  simp only [mem_build]
  constructor
  · rintro (⟨i, ⟨p, member, live, key, rfl⟩ | ⟨p, member, marked, key, rfl⟩, other⟩ |
      ⟨p, member, company, reached⟩ | ⟨p, member, company, reached⟩)
    · exact .inl ⟨p, member, .inr ⟨live, key, other⟩⟩
    · exact .inr ⟨p, member, .inr ⟨marked, key, other⟩⟩
    · exact .inl ⟨p, member, .inl ⟨company, reached⟩⟩
    · exact .inr ⟨p, member, .inl ⟨company, reached⟩⟩
  · rintro (⟨p, member, ⟨company, reached⟩ | ⟨live, key, other⟩⟩ |
      ⟨p, member, ⟨company, reached⟩ | ⟨marked, key, other⟩⟩)
    · exact .inr (.inl ⟨p, member, company, reached⟩)
    · exact .inl ⟨_, .inl ⟨p, member, live, key, rfl⟩, other⟩
    · exact .inr (.inr ⟨p, member, company, reached⟩)
    · exact .inl ⟨_, .inr ⟨p, member, marked, key, rfl⟩, other⟩

theorem attemptBlocks_company {now : Time} {posting : Opportunity} {p : Opening}
    (here : attemptBlocks env cooldownDays now posting p) : p.attempt.isSome = true ∧
      p.employerKey env = companyKey env posting.company := by
  rcases here with ⟨company, -, s, started, -⟩ | ⟨live, key, -⟩
  · refine ⟨?_, company⟩
    cases attempt : p.attempt with
    | none => simp [Opening.attemptStart, attempt] at started
    | some row => rfl
  · refine ⟨?_, company_of_duplicateKey key⟩
    cases attempt : p.attempt with
    | none => simp [Opening.live, attempt] at live
    | some row => rfl

end Indexes

/-! ### The decision -/

/-- A refusal for what else was done at the company. -/
def AdmissionReason.history : AdmissionReason → Bool
  | .cooldownActive | .duplicateApplication => true
  | _ => false

/-- The decision gets as far as the history of the company. -/
structure Considers (env : Env) (ctx : Context) (o : Opening) (co : CandidateOpportunity) : Prop where
  wanted : co.state ≠ .skipped
  posted : ¬ (o.opportunity.status = .closed ∨ co.state = .closed)
  earlier : earlierVerdict ctx o co = none
  gates : (evaluateAdmission env ctx.policy (candidacy o co)).admitted = true
  preparation : preparationVerdict o = none

section Sides
variable {env : Env} {ctx : Context} {x : CheckInputs} {o : Opening} {co : CandidateOpportunity}
  {row : Application} {ledger : CapLedger} {reserve executing : Bool}

theorem statefulVerdict_history : (∃ v, statefulVerdict env ctx o = some v ∧ v.code.history = true) ↔
    ctx.index.blocks env ctx.now o.opportunity := by
  unfold statefulVerdict Indexes.blocks
  dsimp only
  split
  · rename_i others
    simp [others, Verdict.refuse, AdmissionReason.history]
  · rename_i alone
    rw [ne_eq, not_not] at alone
    cases active : ctx.index.cooldown.activeUntil env o.opportunity.company ctx.now with
    | some t => simp [Verdict.refuse, AdmissionReason.history]
    | none =>
      dsimp only
      split
      · simp [alone, Verdict.refuse, AdmissionReason.history]
      · split <;> simp [alone, Verdict.refuse, AdmissionReason.history]

/-- A decision refuses for the company's history when it gets there and an index blocks. -/
theorem decide_history : (decideOpening env ctx o co).code.history = true ↔
    Considers env ctx o co ∧ ctx.index.blocks env ctx.now o.opportunity := by
  have held {v : Verdict} (code : v.code ∈ heldCodes) : v.code.history = false := by
    have all : ∀ code ∈ heldCodes, code.history = false := by decide
    exact all _ code
  have gate (refused : (evaluateAdmission env ctx.policy (candidacy o co)).admitted = false) :
      (evaluateAdmission env ctx.policy (candidacy o co)).code.history = false := by
    have all : ∀ code ∈ gateCodes, code.history = false := by decide
    exact all _ (code_of_refused env ctx.policy _ refused)
  rw [← statefulVerdict_history]
  unfold decideOpening
  split
  · rename_i skipped
    simp only [Verdict.refuse, AdmissionReason.history, Bool.false_eq_true, false_iff]
    exact fun both => both.1.wanted skipped
  split
  · rename_i closed
    simp only [Verdict.refuse, AdmissionReason.history, Bool.false_eq_true, false_iff]
    exact fun both => both.1.posted closed
  rename_i wanted posted
  cases earlier : earlierVerdict ctx o co with
  | some v =>
    simp only [held (earlierVerdict_code earlier), Bool.false_eq_true, false_iff]
    exact fun both => by simp [both.1.earlier] at earlier
  | none =>
    dsimp only
    split
    · rename_i refused
      simp only [gate refused, Bool.false_eq_true, false_iff]
      exact fun both => by simp [both.1.gates] at refused
    · rename_i admitted
      cases prepared : preparationVerdict o with
      | some v =>
        simp only [held (preparationVerdict_code prepared), Bool.false_eq_true, false_iff]
        exact fun both => by simp [both.1.preparation] at prepared
      | none =>
        have considers : Considers env ctx o co :=
          ⟨wanted, posted, earlier, by simpa using admitted, prepared⟩
        simp only [considers, true_and]
        cases stateful : statefulVerdict env ctx o with
        | some v => simp
        | none => simp [AdmissionReason.history]

/-! ### The check -/

theorem companyHistoryFailures_nil (others : ∀ p ∈ x.others, p.opportunity.id ≠ o.opportunity.id) :
    companyHistoryFailures env x o = [] ↔
      ∀ p ∈ x.others, ¬ Indexes.attemptBlocks env x.policy.cooldownDays x.now o.opportunity p := by
  have same : (∃ p ∈ sameCompany env x o,
      Indexes.attemptBlocks env x.policy.cooldownDays x.now o.opportunity p) ↔
        ∃ p ∈ x.others, Indexes.attemptBlocks env x.policy.cooldownDays x.now o.opportunity p := by
    constructor
    · rintro ⟨p, member, here⟩
      exact ⟨p, List.mem_of_mem_filter member, here⟩
    · rintro ⟨p, member, here⟩
      obtain ⟨attempt, company⟩ := Indexes.attemptBlocks_company here
      refine ⟨p, List.mem_filter.mpr ⟨member, ?_⟩, here⟩
      simp only [attempt, Bool.true_and, decide_eq_true_eq]
      exact company
  have unblocked : (¬ (Indexes.build env x.policy.cooldownDays (sameCompany env x o) []).blocks env
      x.now o.opportunity) ↔
        ∀ p ∈ x.others, ¬ Indexes.attemptBlocks env x.policy.cooldownDays x.now o.opportunity p := by
    rw [Indexes.blocks_build, same]
    simp
  rw [← unblocked]
  have stranger : (sameCompany env x o).find? (fun p => p.opportunity.id = o.opportunity.id) = none := by
    rw [List.find?_eq_none]
    intro p member
    simpa using others p (List.mem_of_mem_filter member)
  unfold companyHistoryFailures Indexes.blocks
  dsimp only
  split
  · rename_i none
    simp [none, Indexes.build, Indexes.empty, Indexes.others, CooldownIndex.activeUntil,
      CooldownIndex.empty]
  · rw [stranger]
    generalize Indexes.build env x.policy.cooldownDays (sameCompany env x o) [] = index
    simp only [Option.bind_none, ite_self, List.append_nil, List.append_eq_nil_iff, not_or, not_not]
    constructor
    · rintro ⟨cooldown, duplicates⟩
      constructor
      · by_contra others
        simp [others] at duplicates
      · by_contra active
        obtain ⟨t, found⟩ := Option.ne_none_iff_exists'.mp active
        simp [found] at cooldown
    · rintro ⟨alone, free⟩
      simp [alone, free]

/-- The attempt, its package, the opening, the blocklist and the caps are in order. -/
structure InOrder (env : Env) (x : CheckInputs) (o : Opening) (row : Application) (ledger : CapLedger)
    (reserve executing : Bool) : Prop where
  attempt : attemptFailures (expectedStatus executing) row = []
  preparation : preparationFailures x o (o.preparation row.preparationId) = []
  opening : openingFailures env { x with others := [] } o = []
  caps : (checkCaps x (x.keys env) reserve ledger row).1 = none

theorem check_inOrder : (check env x o row ledger reserve executing).report.ok = true ↔
    InOrder env x o row ledger reserve executing ∧ companyHistoryFailures env x o = [] := by
  have nothing : companyHistoryFailures env { x with others := [] } o = [] := by
    simp [companyHistoryFailures, sameCompany]
  have apart : openingFailures env x o = [] ↔
      openingFailures env { x with others := [] } o = [] ∧ companyHistoryFailures env x o = [] := by
    simp only [openingFailures, List.append_eq_nil_iff, nothing, and_true]
  rw [check_ok_iff, allFailures, List.append_eq_nil_iff, List.append_eq_nil_iff, apart]
  constructor
  · rintro ⟨-, ⟨⟨attempt, preparation⟩, opening, history⟩, caps⟩
    exact ⟨⟨attempt, preparation, opening, caps⟩, history⟩
  · rintro ⟨⟨attempt, preparation, opening, caps⟩, history⟩
    refine ⟨?_, ⟨⟨attempt, preparation⟩, opening, history⟩, caps⟩
    exact fun elsewhere => elsewhere.2 (attemptFailures_nil attempt).1

end Sides

/-! ### The two together -/

/-- Nothing stands against the attempt but openings that are marked as applied: the decision gets
as far as the company's history, everything else is in order for the check, no other attempt is in
the way, and such an opening is. -/
structure OnlyMarks (env : Env) (x : CheckInputs) (o o' : Opening) (co : CandidateOpportunity)
    (row : Application) (ledger : CapLedger) (reserve executing : Bool) (ctx : Context) : Prop where
  considered : Considers env ctx o' co
  inOrder : InOrder env x o row ledger reserve executing
  attempts : ∀ p ∈ x.others, ¬ Indexes.attemptBlocks env x.policy.cooldownDays x.now o.opportunity p
  marked : ∃ p ∈ x.others, Indexes.markBlocks env x.policy.cooldownDays x.now o.opportunity p

/-- What the scheduler decides against: the indexes of all the other openings. -/
def CheckInputs.context (env : Env) (x : CheckInputs) : Context :=
  ⟨x.policy, x.now, Indexes.build env x.policy.cooldownDays x.others x.others⟩

/-- Where the scheduler would refuse for a cool-down or a duplicate, whatever its own rows of the
opening are, the check fails: except when only a mark stands against the attempt. -/
theorem recheck_strict_iff (env : Env) (x : CheckInputs) (o o' : Opening) (co : CandidateOpportunity)
    (row : Application) (ledger : CapLedger) (reserve executing : Bool)
    (posting : o'.opportunity = o.opportunity)
    (others : ∀ p ∈ x.others, p.opportunity.id ≠ o.opportunity.id) :
    ((decideOpening env (x.context env) o' co).code.history = true →
      (check env x o row ledger reserve executing).report.ok = false) ↔
    ¬ OnlyMarks env x o o' co row ledger reserve executing (x.context env) := by
  have decides : (decideOpening env (x.context env) o' co).code.history = true ↔
      Considers env (x.context env) o' co ∧
        ((∃ p ∈ x.others, Indexes.attemptBlocks env x.policy.cooldownDays x.now o.opportunity p) ∨
          ∃ p ∈ x.others, Indexes.markBlocks env x.policy.cooldownDays x.now o.opportunity p) := by
    rw [decide_history, posting]
    exact and_congr_right fun _ => Indexes.blocks_build ..
  have checks : (check env x o row ledger reserve executing).report.ok = true ↔
      InOrder env x o row ledger reserve executing ∧ ∀ p ∈ x.others,
        ¬ Indexes.attemptBlocks env x.policy.cooldownDays x.now o.opportunity p := by
    rw [check_inOrder, companyHistoryFailures_nil others]
  rw [← not_iff_not, not_not, Classical.not_imp, Bool.not_eq_false, decides, checks]
  constructor
  · rintro ⟨⟨considered, blocked⟩, inOrder, attempts⟩
    refine ⟨considered, inOrder, attempts, blocked.resolve_left ?_⟩
    rintro ⟨p, member, here⟩
    exact attempts p member here
  · rintro ⟨considered, inOrder, attempts, marked⟩
    exact ⟨⟨considered, .inr marked⟩, inOrder, attempts⟩

/-! ### A mark without an attempt -/

def Opening.marked : Opening :=
  { Opening.strong 2 "Acme" "Designer" with candidate := some (.strong .submitted) }

/-- The scheduler holds the company in cool-down, and the check of a READY attempt at it passes. -/
theorem mark_overlooked :
    ¬ ∀ (x : CheckInputs) (o o' : Opening) (co : CandidateOpportunity) (row : Application)
      (ledger : CapLedger) (reserve executing : Bool), o'.opportunity = o.opportunity →
      (∀ p ∈ x.others, p.opportunity.id ≠ o.opportunity.id) → o.attempt = some row →
      row.holdsSlot = true →
      (decideOpening .utc (x.context .utc) o' co).code.history = true →
      (check .utc x o row ledger reserve executing).report.ok = false := by
  intro all
  let ready := (Opening.ready 1 "Acme" "Engineer").attempt.getD (.fresh 0)
  have failed := all ⟨.initial, 0, [.marked], []⟩ (.ready 1 "Acme" "Engineer")
    (.strong 1 "Acme" "Engineer") (.strong .eligible) ready .empty true false rfl (by decide) rfl
    (by decide) (by decide +kernel)
  exact absurd failed (by decide +kernel)

/-- An attempt at the company is in the way of both. -/
theorem attempt_noticed :
    let x : CheckInputs := ⟨.initial, 0, [.ready 2 "Acme" "Designer"], []⟩
    let o := Opening.ready 1 "Acme" "Engineer"
    (check .utc x o (o.attempt.getD (.fresh 0)) .empty true false).report.ok = false := by
  refine (recheck_strict_iff .utc _ (.ready 1 "Acme" "Engineer") (.strong 1 "Acme" "Engineer")
    (.strong .eligible) _ .empty true false rfl (by decide)).mpr ?_ (by decide +kernel)
  intro marks
  exact marks.attempts _ List.mem_cons_self (.inl ⟨rfl, by decide, 0, rfl, by decide⟩)

end RangeApply
