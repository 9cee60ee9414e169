import RangeApply.Unread

/-! Priority decides order, never whether. While the caps and the window have room for every
candidate and no two candidates are of one company, the turn of a candidate does not depend on the
candidates before it, and the order of the pass does not matter. -/
namespace RangeApply

/-- What orders the candidates of one eligibility, relevance and fit band. -/
structure Rank where
  priorityScore : Option Int
  deadline : Option Time
  firstSeenAt : Option Time

def CandidateOpportunity.ranked (score : Option Int) (co : CandidateOpportunity) :
    CandidateOpportunity := { co with priorityScore := score }

def Opening.ranked (k : Rank) (o : Opening) : Opening :=
  { o with
    opportunity := { o.opportunity with deadline := k.deadline, firstSeenAt := k.firstSeenAt }
    candidate := o.candidate.map (·.ranked k.priorityScore) }

/-- The same tenant with other priority scores, deadlines and first-seen dates. -/
def DB.ranked (assign : OpportunityId → Rank) (db : DB) : DB :=
  db.revise fun i => Opening.ranked (assign i)

/-- What the cap of a period leaves. -/
def DB.remaining (env : Env) (db : DB) (kind : PeriodKind) : Int :=
  max 0 ((match kind with
    | .day => db.policy.dailyCap
    | .week => db.policy.weeklyCap) - db.used env kind)

/-- Room for every candidate, and companies of their own. -/
structure DB.Uncrowded (env : Env) (window : Nat) (db : DB) : Prop where
  window : db.candidates.length ≤ window
  remaining : ∀ kind, (db.candidates.length : Int) ≤ db.remaining env kind
  apart : (db.candidates.map fun r => companyKey env r.2.opportunity.company).Nodup

/-! ### Indexes that agree on an opening -/

namespace Indexes
variable {env : Env} {a b c : Indexes} {o o' : Opening}

/-- The two indexes hold the same against the opening. -/
structure Agree (env : Env) (o : Opening) (a b : Indexes) : Prop where
  cooldown : b.cooldown.until_ (companyKey env o.opportunity.company) =
    a.cooldown.until_ (companyKey env o.opportunity.company)
  others : b.others (duplicateKey env o.opportunity.company o.opportunity.title) o.opportunity.id =
    a.others (duplicateKey env o.opportunity.company o.opportunity.title) o.opportunity.id

theorem Agree.refl (env : Env) (o : Opening) (a : Indexes) : Agree env o a a := ⟨rfl, rfl⟩

theorem Agree.trans (first : Agree env o a b) (second : Agree env o b c) : Agree env o a c :=
  ⟨second.cooldown.trans first.cooldown, second.others.trans first.others⟩

theorem Agree.verdict (agree : Agree env o a b) (policy : ApplicationPolicy) (now : Time)
    (co : CandidateOpportunity) :
    decideOpening env ⟨policy, now, b⟩ o co = decideOpening env ⟨policy, now, a⟩ o co := by
  have stateful : statefulVerdict env ⟨policy, now, b⟩ o = statefulVerdict env ⟨policy, now, a⟩ o := by
    unfold statefulVerdict CooldownIndex.activeUntil
    dsimp only
    rw [agree.others, agree.cooldown]
  unfold decideOpening
  rw [stateful]
  rfl

/-- An admission at another company changes nothing for the opening. -/
theorem agree_added (d : Int) (started : Option Time) (kind : String)
    (other : companyKey env o'.opportunity.company ≠ companyKey env o.opportunity.company) :
    Agree env o a ((addCooldown env d a o' started kind).addDuplicate env o') := by
  constructor
  · unfold addDuplicate addCooldown CooldownIndex.add
    dsimp only
    cases started with
    | none => rfl
    | some start =>
      have elsewhere (ends : Time) : (a.cooldown.record (companyKey env o'.opportunity.company) ends
          kind).until_ (companyKey env o.opportunity.company) =
            a.cooldown.until_ (companyKey env o.opportunity.company) := if_neg (Ne.symm other)
      dsimp only
      split
      · rfl
      split
      · exact elsewhere _
      · split
        · exact elsewhere _
        · rfl
  · have key : duplicateKey env o'.opportunity.company o'.opportunity.title ≠
        duplicateKey env o.opportunity.company o.opportunity.title :=
      fun same => other (company_of_duplicateKey same)
    unfold others addDuplicate addCooldown
    simp [key]

end Indexes

/-! ### A pass with room -/

/-- Whether an admission with empty caps is granted; the caps aside, that is what a turn with room
answers. -/
def Pass.grants (env : Env) (p : Pass) (i : OpportunityId) : Bool :=
  match p.db.openings.get i with
  | none => false
  | some o =>
    match o.candidate with
    | none => false
    | some co =>
      let v := decideOpening env p.context o co
      v.admissible && decide ((admitCandidate env p.db v co ⟨o, .empty⟩).1 = .admitted)

section Admit
variable {env : Env} {db db' : DB} {v : Verdict} {co : CandidateOpportunity} {o : Opening}
  {ledger ledger' : CapLedger}

theorem SameSettings.admissions (same : SameSettings db db') (s : Slice) :
    admitCandidate env db' v co s = admitCandidate env db v co s := by
  unfold admitCandidate
  rw [same.now, same.policy, same.keys]

theorem empty_room {keys : PeriodKeys} {dailyCap weeklyCap : Int}
    (room : ledger.reserve keys dailyCap weeklyCap = (ledger', none)) :
    ∃ taken, CapLedger.empty.reserve keys dailyCap weeklyCap = (taken, none) := by
  have answer := CapLedger.reserve_answer ledger keys dailyCap weeklyCap
  rw [room] at answer
  have paused : ¬ dailyCap ≤ 0 ∧ ¬ weeklyCap ≤ 0 := by
    constructor
    · intro daily
      rw [if_pos daily] at answer
      cases answer
    · intro weekly
      rw [if_pos weekly] at answer
      split at answer <;> cases answer
  have fresh := CapLedger.reserve_answer .empty keys dailyCap weeklyCap
  have none_ (kind : PeriodKind) (key : String) : CapLedger.empty.balance kind key = 0 := rfl
  rw [if_neg paused.1, if_neg paused.2, none_, none_, if_neg paused.1, if_neg paused.2] at fresh
  exact ⟨_, Prod.ext rfl fresh⟩

/-- With room in both periods an admission is granted or meets a conflict. -/
theorem admit_room (v : Verdict) (co : CandidateOpportunity) (o : Opening)
    (room : ledger.reserve (db.keys env) db.policy.dailyCap db.policy.weeklyCap =
    (ledger', none)) :
    (admitCandidate env db v co ⟨o, ledger⟩ = (.alreadyInProgress, ⟨o, ledger⟩) ∧
        (admitCandidate env db v co ⟨o, .empty⟩).1 ≠ .admitted) ∨
      (∃ o', admitCandidate env db v co ⟨o, ledger⟩ = (.admitted, ⟨o', ledger'⟩) ∧
        o'.opportunity = o.opportunity ∧
        (admitCandidate env db v co ⟨o, .empty⟩).1 = .admitted) := by
  obtain ⟨taken, fresh⟩ := empty_room room
  -- the row does not depend on the ledger
  have answer : (∃ e, ∀ l l' : CapLedger,
        l.reserve (db.keys env) db.policy.dailyCap db.policy.weeklyCap = (l', none) →
        Application.reserve db.now l (db.keys env) db.policy.dailyCap db.policy.weeklyCap v.lane v.level
          (o.attempt <|> o.legacy) o.jobTaken = .error e) ∨
      ∃ row, ∀ l l' : CapLedger,
        l.reserve (db.keys env) db.policy.dailyCap db.policy.weeklyCap = (l', none) →
        Application.reserve db.now l (db.keys env) db.policy.dailyCap db.policy.weeklyCap v.lane v.level
          (o.attempt <|> o.legacy) o.jobTaken = .ok (l', .ok row) := by
    unfold Application.reserve
    cases o.attempt <|> o.legacy with
    | some row => exact .inr ⟨_, fun l l' granted => by rw [granted]⟩
    | none =>
      cases o.jobTaken with
      | true => exact .inl ⟨_, fun l l' granted => by rw [granted]; rfl⟩
      | false => exact .inr ⟨_, fun l l' granted => by rw [granted]; rfl⟩
  unfold admitCandidate
  rcases answer with ⟨e, refused⟩ | ⟨row, granted⟩
  · rw [refused ledger ledger' room, refused .empty taken fresh]
    exact .inl ⟨rfl, by simp⟩
  · rw [granted ledger ledger' room, granted .empty taken fresh]
    dsimp only
    cases admittedItem db.now v co row o with
    | error e => exact .inl ⟨rfl, by simp⟩
    | ok done => exact .inr ⟨_, rfl, rfl, rfl⟩

end Admit

/-! ### The pass, candidate by candidate -/

/-- The pass from `p₀` after `k` candidates, with these still to come. -/
structure Pass.Unaffected (env : Env) (p₀ : Pass) (k : Nat) (rest : List OpportunityId) (p : Pass) :
    Prop where
  settings : SameSettings p₀.db p.db
  rows : ∀ j ∈ rest, p.db.openings.get j = p₀.db.openings.get j
  admitted : p.admitted ≤ k
  hit : p.capHit = none
  balance : ∀ kind, p.db.balance env kind ≤ p₀.db.balance env kind + k
  index : ∀ j ∈ rest, ∀ o, p₀.db.openings.get j = some o → Indexes.Agree env o p₀.index p.index

/-- No two of these candidates are of one company. -/
def Pass.Apart (env : Env) (p : Pass) (ids : List OpportunityId) : Prop :=
  ids.Pairwise fun i j => ∀ o o', p.db.openings.get i = some o → p.db.openings.get j = some o' →
    companyKey env o.opportunity.company ≠ companyKey env o'.opportunity.company

section Walk
variable {env : Env} {window k : Nat} {p₀ p : Pass} {i : OpportunityId} {rest : List OpportunityId}

theorem Pass.Unaffected.stamp (before : Pass.Unaffected env p₀ k rest p) (code : AdmissionReason)
    (v : Verdict) (fresh : i ∉ rest) : Pass.Unaffected env p₀ k rest (p.stamp i code v) := by
  have chain : Chain (Considered env) p.db (p.stamp i code v).db := Pass.stamp_chain i code v p
  have settings := chain.settings
  constructor
  · exact before.settings.trans settings
  · intro j member
    have other : j ≠ i := fun same => fresh (same ▸ member)
    rw [Pass.stamp_get_other p code v other]
    exact before.rows j member
  · exact before.admitted
  · exact before.hit
  · intro kind
    rw [settings.balance env (p.stamp_ledger i code v)]
    exact before.balance kind
  · exact before.index

theorem Pass.Unaffected.next (before : Pass.Unaffected env p₀ k (i :: rest) p) :
    Pass.Unaffected env p₀ (k + 1) rest p := by
  constructor
  · exact before.settings
  · exact fun j member => before.rows j (List.mem_cons_of_mem i member)
  · exact Nat.le_succ_of_le before.admitted
  · exact before.hit
  · intro kind
    have here := before.balance kind
    push_cast
    omega
  · exact fun j member => before.index j (List.mem_cons_of_mem i member)

/-- An admission that is answered, granted or not, is nothing to candidates of other companies. -/
theorem Pass.Unaffected.settle (before : Pass.Unaffected env p₀ k (i :: rest) p) (fresh : i ∉ rest)
    {o : Opening} {outcome : AdmissionReason × Slice} (found : p.db.openings.get i = some o)
    (code : ¬ (outcome.1 = .dailyCapReached ∨ outcome.1 = .weeklyCapReached))
    (posting : outcome.2.opening.opportunity = o.opportunity)
    (grown : ∀ kind, outcome.2.ledger.balance kind ((p.db.keys env).key kind) ≤ p.db.balance env kind + 1)
    (apart : ∀ j ∈ rest, ∀ o', p₀.db.openings.get j = some o' →
      companyKey env o.opportunity.company ≠ companyKey env o'.opportunity.company) :
    Pass.Unaffected env p₀ (k + 1) rest (p.settleAdmission env i outcome) := by
  have rows (j : OpportunityId) (member : j ∈ rest) :
      (p.settleAdmission env i outcome).db.openings.get j = p.db.openings.get j :=
    Pass.settleAdmission_get_other p outcome fun same => fresh (same ▸ member)
  have stored : p.settleAdmission env i outcome =
      { p with
        db := p.db.put i outcome.2
        index := if outcome.1 = .admitted then p.extendIndex env outcome.2.opening else p.index
        admitted := p.admitted + 1 } := by
    simp only [Pass.settleAdmission, if_neg code, DB.update, found]
  rw [stored] at rows ⊢
  constructor
  · exact before.settings.trans (.put _ _ _)
  · intro j member
    exact (rows j member).trans (before.rows j (List.mem_cons_of_mem i member))
  · exact Nat.succ_le_succ before.admitted
  · exact before.hit
  · intro kind
    have here := before.balance kind
    have after : (p.db.put i outcome.2).balance env kind ≤ p.db.balance env kind + 1 := grown kind
    push_cast
    omega
  · intro j member o' there
    have known := before.index j (List.mem_cons_of_mem i member) o' there
    dsimp only
    split
    · refine known.trans (Indexes.agree_added _ _ _ ?_)
      rw [posting]
      exact apart j member o' there
    · exact known

/-- Room for one more admission after `k`. -/
def Pass.Room (env : Env) (p : Pass) (k : Nat) : Prop :=
  p.db.balance env .day + k < p.db.policy.dailyCap ∧ p.db.balance env .week + k < p.db.policy.weeklyCap

theorem Pass.Unaffected.reserve (before : Pass.Unaffected env p₀ k rest p) (room : p₀.Room env k)
    (daily : 0 < p.db.policy.dailyCap) (weekly : 0 < p.db.policy.weeklyCap) :
    ∃ ledger', p.db.ledger.reserve (p.db.keys env) p.db.policy.dailyCap p.db.policy.weeklyCap =
      (ledger', none) := by
  have answer := reserve_capFull daily weekly p.db.ledger (p.db.keys env)
  have day := before.balance .day
  have week := before.balance .week
  have policy := before.settings.policy
  obtain ⟨dayRoom, weekRoom⟩ := room
  refine ⟨_, Prod.ext rfl (answer.trans ?_)⟩
  unfold capFull
  change (if p.db.policy.dailyCap ≤ p.db.balance env .day then some AdmissionReason.dailyCapReached
    else if p.db.policy.weeklyCap ≤ p.db.balance env .week then some .weeklyCapReached else none) = none
  rw [if_neg (by rw [policy]; omega), if_neg (by rw [policy]; omega)]

/-- The turn of a candidate with room: what it is granted does not depend on the turns before. -/
theorem consider_unaffected (before : Pass.Unaffected env p₀ k (i :: rest) p) (fresh : i ∉ rest)
    (apart : p₀.Apart env (i :: rest)) (inWindow : k < window) (room : p₀.Room env k) :
    Pass.Unaffected env p₀ (k + 1) rest (p.consider env window i) ∧
      p.admits env window i = p₀.grants env i := by
  have row := before.rows i List.mem_cons_self
  unfold Pass.consider Pass.admits Pass.grants
  rw [row]
  cases found : p₀.db.openings.get i with
  | none => exact ⟨before.next, rfl⟩
  | some o =>
    dsimp only
    cases candidate : o.candidate with
    | none => exact ⟨before.next, rfl⟩
    | some co =>
      dsimp only
      have verdict : decideOpening env p.context o co = decideOpening env p₀.context o co := by
        have agree := before.index i List.mem_cons_self o found
        unfold Pass.context
        rw [before.settings.policy, before.settings.now]
        exact agree.verdict _ _ co
      rw [verdict]
      split
      · rename_i refused
        exact ⟨before.next.stamp _ _ fresh, by rw [refused]; rfl⟩
      rename_i open_
      have admissible : (decideOpening env p₀.context o co).admissible = true := by simpa using open_
      have early : p.admitted < window := Nat.lt_of_le_of_lt before.admitted inWindow
      rw [if_neg (Nat.not_le.mpr early), before.hit]
      dsimp only
      have admitted : (decideOpening env p.context o co).code = .admitted := by
        rw [verdict]
        simpa [Verdict.admissible] using admissible
      obtain ⟨daily, weekly⟩ := caps_of_admitted admitted
      obtain ⟨ledger', reserved⟩ := before.reserve room daily weekly
      have here : p.db.openings.get i = some o := row.trans found
      have others : ∀ j ∈ rest, ∀ o', p₀.db.openings.get j = some o' →
          companyKey env o.opportunity.company ≠ companyKey env o'.opportunity.company :=
        fun j member o' there => (List.pairwise_cons.mp apart).1 j member o o' found there
      have same : admitCandidate env p.db (decideOpening env p₀.context o co) co ⟨o, .empty⟩ =
          admitCandidate env p₀.db (decideOpening env p₀.context o co) co ⟨o, .empty⟩ :=
        before.settings.admissions ⟨o, .empty⟩
      rcases admit_room (decideOpening env p₀.context o co) co o reserved with
        ⟨conflict, refused⟩ | ⟨o', granted, posting, alone⟩
      · rw [conflict]
        refine ⟨(before.settle fresh here ?_ rfl ?_ others).stamp _ _ fresh, ?_⟩
        · simp
        · intro kind
          exact Int.le_add_one (Int.le_refl _)
        · rw [same] at refused
          simp [refused]
      · rw [granted]
        refine ⟨(before.settle fresh here ?_ posting ?_ others).stamp _ _ fresh, ?_⟩
        · simp
        · intro kind
          have grown := (CapLedger.reserve_granted reserved).2.2 kind ((p.db.keys env).key kind)
          have balance : p.db.balance env kind =
              p.db.ledger.balance kind ((p.db.keys env).key kind) := rfl
          rw [grown, balance]
          cases kind <;> simp [CapLedger.slots, PeriodKeys.key]
        · rw [same] at alone
          simp [admissible, early, alone]

/-- With room for all of them, the candidates admitted are those granted at the opening of the
pass. -/
theorem admissions_granted {ids : List OpportunityId} (before : Pass.Unaffected env p₀ k ids p)
    (nodup : ids.Nodup) (apart : p₀.Apart env ids) (inWindow : k + ids.length ≤ window)
    (room : ∀ j < ids.length, p₀.Room env (k + j)) (i : OpportunityId) :
    i ∈ p.admissions env window ids ↔ i ∈ ids ∧ p₀.grants env i = true := by
  induction ids generalizing k p with
  | nil => simp [Pass.admissions]
  | cons j ids ih =>
    obtain ⟨fresh, nodup'⟩ := List.nodup_cons.mp nodup
    rw [List.length_cons] at inWindow room
    have early : k < window := by omega
    obtain ⟨after, granted⟩ := consider_unaffected before fresh apart early
      (room 0 (Nat.succ_pos _))
    have later := ih after nodup' (List.pairwise_cons.mp apart).2 (by omega) fun n less => by
      have here := room (n + 1) (Nat.succ_lt_succ less)
      rwa [Nat.add_left_comm, Nat.add_comm] at here
    unfold Pass.admissions
    rw [granted]
    by_cases here : p₀.grants env j = true
    · rw [if_pos here, List.mem_cons, List.mem_cons, later]
      constructor
      · rintro (rfl | ⟨member, there⟩)
        · exact ⟨.inl rfl, here⟩
        · exact ⟨.inr member, there⟩
      · rintro ⟨rfl | member, there⟩
        · exact .inl rfl
        · exact .inr ⟨member, there⟩
    · rw [if_neg here, List.mem_cons, later]
      constructor
      · rintro ⟨member, there⟩
        exact ⟨.inr member, there⟩
      · rintro ⟨rfl | member, there⟩
        · exact absurd there here
        · exact ⟨member, there⟩

end Walk

/-! ### The opening of the pass -/

section Open
variable {env : Env} {window : Nat} {db : DB}

theorem reconcile_balance (s : Slice) (kind : PeriodKind) (key : String) :
    (reconcile env db s).ledger.balance kind key ≤ s.ledger.balance kind key := by
  have reconciled := reconcile_reconciled env db s
  generalize reconcile env db s = s' at reconciled ⊢
  cases reconciled with
  | kept => exact Int.le_refl _
  | followed => exact Int.le_refl _
  | stopped row co stop attempt candidate holds =>
    change (row.release db.now s.ledger stop.2 stop.1).1.balance kind key ≤ _
    have back : 0 ≤ CapLedger.givenBack row.capDay row.capWeek kind key := by
      unfold CapLedger.givenBack CapLedger.slots
      cases kind <;> dsimp only <;> split <;> (try split) <;> decide
    rw [Application.release_ledger, if_pos holds, CapLedger.balance_release]
    omega

/-- Reconciliation only gives slots back. -/
theorem reconcileAll_balance (env : Env) (db : DB) (kind : PeriodKind) :
    (reconcileAll env db).balance env kind ≤ db.balance env kind := by
  have all (ids : List OpportunityId) (acc : DB) (key : String) :
      (ids.foldl (fun acc i => acc.update i (reconcile env db)) acc).ledger.balance kind key ≤
        acc.ledger.balance kind key := by
    induction ids generalizing acc with
    | nil => exact Int.le_refl _
    | cons i ids ih =>
      rw [List.foldl_cons]
      refine Int.le_trans (ih _) ?_
      rcases DB.update_cases (reconcile env db) with same | ⟨o, -, changed⟩
      · rw [same]
      · rw [changed]
        exact reconcile_balance ⟨o, acc.ledger⟩ kind key
  have settings := (reconcileAll_chain env db).settings
  unfold DB.balance
  rw [settings.keys]
  exact all db.ids db _

theorem DB.Uncrowded.openApart (uncrowded : db.Uncrowded env window) :
    (db.openPass env).Apart env db.ordered := by
  refine db.ordered_nodup.imp_of_mem ?_
  intro i j memberI memberJ distinct o o' found found' same
  obtain ⟨oi, ci, storedI, candidateI⟩ := DB.ordered_rows memberI
  obtain ⟨oj, cj, storedJ, candidateJ⟩ := DB.ordered_rows memberJ
  have posting {k : OpportunityId} {ok o'' : Opening} (stored : db.openings.get k = some ok)
      (there : (db.openPass env).db.openings.get k = some o'') :
      o''.opportunity = ok.opportunity := by
    have settled : (reconcileAll env db).openings.get k = some (reconcile env db ⟨ok, db.ledger⟩).opening :=
      reconcileAll_get stored
    cases Option.some.inj (there.symm.trans settled)
    exact (reconcile_preserved env db ⟨ok, db.ledger⟩).opportunity
  rw [posting storedI found, posting storedJ found'] at same
  have rowI : (i, oi) ∈ db.candidates :=
    List.mem_filter.mpr ⟨Table.get_eq_some.mp storedI, by simp [candidateI]⟩
  have rowJ : (j, oj) ∈ db.candidates :=
    List.mem_filter.mpr ⟨Table.get_eq_some.mp storedJ, by simp [candidateJ]⟩
  have one := List.inj_on_of_nodup_map uncrowded.apart rowI rowJ same
  exact distinct (Prod.mk.inj one).1

theorem DB.Uncrowded.room (uncrowded : db.Uncrowded env window) (j : Nat)
    (less : j < db.candidates.length) : (db.openPass env).Room env j := by
  have settings := (reconcileAll_chain env db).settings
  have left (kind : PeriodKind) : (reconcileAll env db).balance env kind + j <
      match kind with
      | .day => db.policy.dailyCap
      | .week => db.policy.weeklyCap := by
    have remaining := uncrowded.remaining kind
    have given := reconcileAll_balance env db kind
    have used : db.balance env kind ≤ db.used env kind := Int.le_max_right _ _
    unfold DB.remaining at remaining
    omega
  have policy : (db.openPass env).db.policy = db.policy := settings.policy
  unfold Pass.Room
  rw [policy]
  exact ⟨left .day, left .week⟩

theorem mem_admissions (uncrowded : db.Uncrowded env window) (i : OpportunityId) :
    i ∈ db.admissions env window ↔ i ∈ db.ordered ∧ (db.openPass env).grants env i = true := by
  have length : db.ordered.length = db.candidates.length := by
    unfold DB.ordered
    rw [List.length_map]
    exact (sortBy_perm _).length_eq
  have start : Pass.Unaffected env (db.openPass env) 0 db.ordered (db.openPass env) := by
    constructor
    · exact .refl _
    · exact fun _ _ => rfl
    · exact Nat.le_refl _
    · rfl
    · exact fun kind => by simp
    · exact fun _ _ _ _ => .refl _ _ _
  refine admissions_granted start db.ordered_nodup uncrowded.openApart ?_ ?_ i
  · rw [length, Nat.zero_add]
    exact uncrowded.window
  · intro j less
    rw [Nat.zero_add]
    exact uncrowded.room j (length ▸ less)

end Open

/-! ### Other priorities -/

theorem ranked_unread (k : Rank) :
    Unread (CandidateOpportunity.ranked k.priorityScore) (Opening.ranked k) where
  candidate := fun _ => rfl
  attempt := fun _ => rfl
  prepare := fun _ => rfl
  preparations := fun _ => rfl
  id := fun _ => rfl
  company := fun _ => rfl
  title := fun _ => rfl
  status := fun _ => rfl
  setAttempt := fun _ _ => rfl
  setPrepare := fun _ _ => rfl
  setCandidate := fun _ _ => rfl
  state := fun _ => rfl
  stateChangedAt := fun _ => rfl
  policyAdmitted := fun _ => rfl
  transition := fun co now state reason => by
    unfold CandidateOpportunity.transition
    have kept : (co.ranked k.priorityScore).state = co.state := rfl
    rw [kept]
    split
    · refine congrArg Except.ok ?_
      unfold CandidateOpportunity.forceTo
      rw [kept]
      split
      · rfl
      · rfl
    · rfl

section Ranked
variable {env : Env} {window : Nat} {db : DB} {assign : OpportunityId → Rank} {i : OpportunityId}

/-- No decision looks at what orders the candidates. -/
theorem decide_ranked (ctx : Context) (k : Rank) (o : Opening) (co : CandidateOpportunity) :
    decideOpening env ctx (o.ranked k) (co.ranked k.priorityScore) = decideOpening env ctx o co := rfl

theorem admit_ranked (v : Verdict) (k : Rank) (o : Opening) (co : CandidateOpportunity)
    (ledger : CapLedger) :
    (admitCandidate env (db.ranked assign) v (co.ranked k.priorityScore) ⟨o.ranked k, ledger⟩).1 =
      (admitCandidate env db v co ⟨o, ledger⟩).1 := by
  have item (row : Application) :
      (admittedItem db.now v (co.ranked k.priorityScore) row (o.ranked k)).toBool =
        (admittedItem db.now v co row o).toBool := by
    unfold admittedItem
    have prepare : (o.ranked k).prepare = o.prepare := rfl
    have latest : (o.ranked k).latestPreparation = o.latestPreparation := rfl
    rw [prepare, latest]
    cases o.prepare with
    | none => rfl
    | some item => rfl
  have reserved : Application.reserve (db.ranked assign).now ledger ((db.ranked assign).keys env)
        (db.ranked assign).policy.dailyCap (db.ranked assign).policy.weeklyCap v.lane v.level
        ((o.ranked k).attempt <|> (o.ranked k).legacy) (o.ranked k).jobTaken =
      Application.reserve db.now ledger (db.keys env) db.policy.dailyCap db.policy.weeklyCap
        v.lane v.level (o.attempt <|> o.legacy) o.jobTaken := rfl
  unfold admitCandidate
  dsimp only
  rw [reserved]
  generalize Application.reserve db.now ledger (db.keys env) db.policy.dailyCap db.policy.weeklyCap
    v.lane v.level (o.attempt <|> o.legacy) o.jobTaken = answer
  rcases answer with e | ⟨ledger', cap | row⟩
  · rfl
  · rfl
  · have same := item row
    have now : (db.ranked assign).now = db.now := rfl
    dsimp only
    rw [now]
    cases mine : admittedItem db.now v (co.ranked k.priorityScore) row (o.ranked k) with
    | error e =>
      rw [mine] at same
      cases theirs : admittedItem db.now v co row o with
      | error e' => rfl
      | ok done =>
        rw [theirs] at same
        cases same
    | ok done =>
      rw [mine] at same
      cases theirs : admittedItem db.now v co row o with
      | ok done' => rfl
      | error e =>
        rw [theirs] at same
        cases same

theorem grants_ranked :
    ((db.ranked assign).openPass env).grants env i = (db.openPass env).grants env i := by
  have opened : (db.ranked assign).openPass env =
      { db.openPass env with db := (db.openPass env).db.ranked assign } :=
    openPass_revise fun i => ranked_unread (assign i)
  have row : ((db.openPass env).db.ranked assign).openings.get i =
      ((db.openPass env).db.openings.get i).map (Opening.ranked (assign i)) := get_revise
  rw [opened]
  unfold Pass.grants
  dsimp only
  rw [row]
  cases (db.openPass env).db.openings.get i with
  | none => rfl
  | some o =>
    have candidate : (o.ranked (assign i)).candidate =
        o.candidate.map (·.ranked (assign i).priorityScore) := rfl
    dsimp only [Option.map_some]
    rw [candidate]
    cases o.candidate with
    | none => rfl
    | some co =>
      dsimp only [Option.map_some]
      rw [admit_ranked, decide_ranked]
      rfl

theorem candidates_ranked : (db.ranked assign).candidates =
    db.candidates.map fun r => (r.1, r.2.ranked (assign r.1)) :=
  candidates_revise fun i => ranked_unread (assign i)

theorem mem_ordered {i : OpportunityId} : i ∈ db.ordered ↔ i ∈ db.candidates.map Prod.fst :=
  ((sortBy_perm _).map Prod.fst).mem_iff

theorem DB.Uncrowded.ranked (uncrowded : db.Uncrowded env window) (assign : OpportunityId → Rank) :
    (db.ranked assign).Uncrowded env window := by
  constructor
  · rw [candidates_ranked, List.length_map]
    exact uncrowded.window
  · intro kind
    rw [candidates_ranked, List.length_map]
    exact uncrowded.remaining kind
  · rw [candidates_ranked, List.map_map]
    exact uncrowded.apart

end Ranked

end RangeApply
