import RangeApply.Preview

/-! The projection beside the run. The run reconciles first, and each admission goes into the
indexes, the ledger and the window of the candidates after it; the projection follows the window
and the caps, and decides every candidate on the state as it stands. -/
namespace RangeApply

section Foreseen
variable (env : Env) (window : Nat) (db : DB)

def DB.indexAfter (ids : List OpportunityId) : Indexes :=
  ids.foldl (fun index i => match db.openings.get i with
    | none => index
    | some o => index.reserved env db.policy.cooldownDays db.now o) (db.openPass env).index

def DB.conflicts (i : OpportunityId) : Bool := (db.openings.get i).any Opening.conflicts

/-- What the run does before it comes to a candidate changes nothing for it: reconciliation and
the admissions to be expected earlier leave what `decide` says and which cap is full, and its own
admission meets no other row. -/
structure Foreseen (earlier : List OpportunityId) (i : OpportunityId) : Prop where
  verdict : ((reconcileAll env db).verdict env
      ⟨db.policy, db.now, db.indexAfter env (db.expected env window earlier)⟩ i).map Verdict.code =
    (db.verdict env (db.context env) i).map Verdict.code
  caps : db.admits env i = true → (db.expected env window earlier).length < window →
    let n : Int := (db.expected env window earlier).length
    let full := capFull db.policy fun kind => db.used env kind + n
    capFull db.policy (fun kind => (reconcileAll env db).balance env kind + n) = full ∧
      (full = none → db.conflicts i = false)

end Foreseen

/-! ### The two side by side -/

def outcomeCodes : List AdmissionReason := [.windowDeferred, .dailyCapReached, .weeklyCapReached]

theorem capFull_codes {policy : ApplicationPolicy} {used : PeriodKind → Int} {c : AdmissionReason}
    (full : capFull policy used = some c) : c ∈ outcomeCodes := by
  unfold capFull at full
  split at full
  · cases full
    decide
  split at full
  · cases full
    decide
  · cases full

/-- What a run says of a verdict, by the window, the cap that is full and the other row. -/
def outcome (deferred : Bool) (full : Option AdmissionReason) (taken : Bool) (code : AdmissionReason) :
    AdmissionReason :=
  if code = .admitted then
    if deferred then .windowDeferred
    else full.getD (if taken then .alreadyInProgress else .admitted)
  else code

theorem verdictCodes_clear {code : AdmissionReason} (listed : code ∈ verdictCodes) :
    code ∉ outcomeCodes := by
  revert listed
  cases code <;> decide

theorem outcome_eq_iff {deferred taken : Bool} {full full' : Option AdmissionReason}
    {code code' : AdmissionReason} (caps : ∀ c, full = some c → c ∈ outcomeCodes)
    (caps' : ∀ c, full' = some c → c ∈ outcomeCodes) (clear : code' = .admitted → code ∉ outcomeCodes)
    (clear' : code = .admitted → code' ∉ outcomeCodes)
    (progress : code' = .admitted → taken = true → code ≠ .alreadyInProgress) :
    outcome deferred full' taken code' = outcome deferred full false code ↔
      code' = code ∧ (code = .admitted → deferred = false →
        full' = full ∧ (full = none → taken = false)) := by
  have other : AdmissionReason.admitted ∉ outcomeCodes := by decide
  have other' : AdmissionReason.alreadyInProgress ∉ outcomeCodes := by decide
  have window : AdmissionReason.windowDeferred ∈ outcomeCodes := by decide
  unfold outcome
  by_cases admitted' : code' = .admitted
  · by_cases admitted : code = .admitted
    · cases deferred <;> cases taken <;> cases full <;> cases full' <;> grind
    · cases deferred <;> cases taken <;> cases full' <;> grind
  · by_cases admitted : code = .admitted
    · cases deferred <;> cases full <;> grind
    · grind

/-- The run after these candidates, as long as it went as foreseen. -/
structure Ran (env : Env) (window : Nat) (db : DB) (earlier : List OpportunityId) (p : Pass) :
    Prop where
  settings : SameSettings (reconcileAll env db) p.db
  rows : ∀ j, j ∉ earlier → p.db.openings.get j = (reconcileAll env db).openings.get j
  admitted : p.admitted = (db.expected env window earlier).length
  index : p.index = db.indexAfter env (db.expected env window earlier)
  balance : ∀ kind, p.db.balance env kind =
    (reconcileAll env db).balance env kind + (db.expected env window earlier).length
  hit : ∀ c, p.capHit = some c → capFull db.policy (p.db.balance env) = some c

section Ran
variable {env : Env} {window : Nat} {db : DB} {earlier : List OpportunityId} {p : Pass}
  {i : OpportunityId} {o o' : Opening} {co co' : CandidateOpportunity}

theorem ran_start : Ran env window db [] (db.openPass env) := by
  constructor
  · exact .refl _
  · intro j _
    rfl
  · simp [DB.expected, DB.openPass]
  · simp [DB.expected, DB.indexAfter]
  · intro kind
    simp [DB.expected, DB.openPass]
  · intro c hit
    cases hit

theorem Ran.found (ran : Ran env window db earlier p) (fresh : i ∉ earlier)
    (stored : db.openings.get i = some o) (candidate : o.candidate = some co) :
    ∃ o' co', p.db.openings.get i = some o' ∧ o'.candidate = some co' ∧ Preserved o o' ∧
      (reconcileAll env db).verdict env p.context i = some (decideOpening env p.context o' co') := by
  have kept := reconcile_preserved env db ⟨o, db.ledger⟩
  have settled : (reconcileAll env db).openings.get i =
      some (reconcile env db ⟨o, db.ledger⟩).opening := reconcileAll_get stored
  have known : (reconcile env db ⟨o, db.ledger⟩).opening.candidate.isSome = true := by
    rw [kept.candidate, candidate]
    rfl
  obtain ⟨co', candidate'⟩ := Option.isSome_iff_exists.mp known
  exact ⟨_, co', (ran.rows i fresh).trans settled, candidate', kept, DB.verdict_eq settled candidate'⟩

theorem Ran.context (ran : Ran env window db earlier p) :
    p.context = ⟨db.policy, db.now, db.indexAfter env (db.expected env window earlier)⟩ := by
  have settings := (reconcileAll_chain env db).settings
  simp only [Pass.context, ran.index, ran.settings.policy, ran.settings.now, settings.policy,
    settings.now]

theorem Ran.caps (ran : Ran env window db earlier p) :
    capFull p.db.policy (p.db.balance env) = capFull db.policy fun kind =>
      (reconcileAll env db).balance env kind + (db.expected env window earlier).length := by
  have settings := (reconcileAll_chain env db).settings.trans ran.settings
  rw [settings.policy, funext ran.balance]

theorem Ran.answer (ran : Ran env window db earlier p) (kept : Preserved o o')
    (kind : ∀ item, o.prepare = some item → item.action = .prepare) :
    p.answer env window o' co' =
      outcome (decide (window ≤ (db.expected env window earlier).length))
        (capFull db.policy fun kind =>
          (reconcileAll env db).balance env kind + (db.expected env window earlier).length)
        o.conflicts (decideOpening env p.context o' co').code := by
  have caps := ran.caps
  have policy := ((reconcileAll_chain env db).settings.trans ran.settings).policy
  unfold Pass.answer outcome Verdict.admissible
  by_cases admitted : (decideOpening env p.context o' co').code = .admitted
  · obtain ⟨daily, weekly⟩ := caps_of_admitted admitted
    have tried : Tried env p.db o' p.db.ledger
        (admitCandidate env p.db (decideOpening env p.context o' co') co' ⟨o', p.db.ledger⟩) :=
      admit_tried daily weekly (kept.action kind)
    simp only [admitted, decide_true, Bool.true_eq_false, if_false, if_true, ran.admitted,
      decide_eq_true_eq]
    split
    · rfl
    cases hit : p.capHit with
    | some c =>
      have full := ran.hit c hit
      rw [← policy, caps] at full
      rw [full]
      rfl
    | none =>
      dsimp only
      generalize admitCandidate env p.db (decideOpening env p.context o' co') co'
        ⟨o', p.db.ledger⟩ = answered at tried ⊢
      cases tried with
      | full c ledger' is =>
        rw [← caps]
        exact congrArg (Option.getD · _) is.symm
      | conflict room taken =>
        rw [← caps, ← kept.conflicts, taken]
        exact congrArg (Option.getD · AdmissionReason.alreadyInProgress) room.symm
      | granted o'' ledger' room free =>
        rw [← caps, ← kept.conflicts, free]
        exact congrArg (Option.getD · AdmissionReason.admitted) room.symm
  · simp only [admitted, decide_false, if_true, if_false]

theorem Ran.answer_iff (ran : Ran env window db earlier p) (kept : Preserved o o')
    (stored : db.openings.get i = some o) (candidate : o.candidate = some co)
    (candidate' : o'.candidate = some co')
    (verdict : (reconcileAll env db).verdict env p.context i =
      some (decideOpening env p.context o' co'))
    (kind : ∀ item, o.prepare = some item → item.action = .prepare) :
    some (p.answer env window o' co') = db.projectedCode env window earlier i ↔
      Foreseen env window db earlier i := by
  have admits := admits_iff env stored candidate
  have context := ran.context
  have current : db.projectedCode env window earlier i =
      some (outcome (decide (window ≤ (db.expected env window earlier).length))
        (capFull db.policy fun kind =>
          db.used env kind + (db.expected env window earlier).length) false
        (decideOpening env (db.context env) o co).code) := by
    simp [DB.projectedCode, DB.verdict_eq stored candidate, outcome]
  rw [current, ran.answer kept kind, Option.some_inj, outcome_eq_iff]
  · constructor
    · rintro ⟨same, caps⟩
      constructor
      · rw [← context, verdict, DB.verdict_eq stored candidate, Option.map_some, Option.map_some, same]
      · intro admitted inWindow
        have here := caps (admits.mp admitted) (by simpa using inWindow)
        simpa [DB.conflicts, stored] using here
    · rintro ⟨same, caps⟩
      rw [← context, verdict, DB.verdict_eq stored candidate, Option.map_some, Option.map_some,
        Option.some_inj] at same
      refine ⟨same, fun admitted inWindow => ?_⟩
      have here := caps (admits.mpr admitted) (by simpa using inWindow)
      simpa [DB.conflicts, stored] using here
  · intro c full
    exact capFull_codes full
  · intro c full
    exact capFull_codes full
  · intro admitted
    obtain ⟨daily, weekly⟩ := caps_of_admitted admitted
    rw [context] at daily weekly
    exact verdictCodes_clear (decide_code daily weekly)
  · intro admitted
    obtain ⟨daily, weekly⟩ := caps_of_admitted admitted
    apply verdictCodes_clear
    exact decide_code (by rw [context]; exact daily) (by rw [context]; exact weekly)
  · intro admitted taken progress
    -- an opening with another row at its job id has no attempt, so reconciliation left it alone
    have idle : o.attempt = none := by
      simp only [Opening.conflicts, Bool.and_eq_true, Option.isNone_iff_eq_none] at taken
      exact taken.1.1
    have same := kept.idle idle
    subst same
    cases candidate.symm.trans candidate'
    rw [context] at admitted
    have code := decide_reindexed (b := db.indexes env) admitted
    change (decideOpening env (db.context env) o' co).code ∈ _ at code
    rw [progress] at code
    exact absurd code (by decide)

theorem SameSettings.balance {db db' : DB} (same : SameSettings db db') (env : Env)
    (ledger : db'.ledger = db.ledger) : db'.balance env = db.balance env := by
  funext kind
  rw [DB.balance, DB.balance, same.keys, ledger]

theorem Ran.stamp (ran : Ran env window db earlier p) (member : i ∈ earlier)
    (code : AdmissionReason) (v : Verdict) : Ran env window db earlier (p.stamp i code v) := by
  have chain : Chain (Considered env) p.db (p.stamp i code v).db := Pass.stamp_chain i code v p
  have settings := chain.settings
  have balance := settings.balance env (p.stamp_ledger i code v)
  constructor
  · exact ran.settings.trans settings
  · intro j other
    have different : j ≠ i := fun same => other (same ▸ member)
    rw [Pass.stamp_get_other p code v different]
    exact ran.rows j other
  · exact ran.admitted
  · exact ran.index
  · rw [balance]
    exact ran.balance
  · rw [balance]
    exact ran.hit

theorem Ran.pass (ran : Ran env window db earlier p)
    (same : db.expected env window (earlier ++ [i]) = db.expected env window earlier) :
    Ran env window db (earlier ++ [i]) p := by
  obtain ⟨settings, rows, admitted, index, balance, hit⟩ := ran
  constructor
  · exact settings
  · intro j other
    exact rows j fun member => other (List.mem_append_left _ member)
  · rw [same]
    exact admitted
  · rw [same]
    exact index
  · rw [same]
    exact balance
  · exact hit

theorem Ran.refused (ran : Ran env window db earlier p) (here : p.db.openings.get i = some o')
    (same : db.expected env window (earlier ++ [i]) = db.expected env window earlier)
    {c : AdmissionReason} {ledger : CapLedger}
    (full : capFull p.db.policy (p.db.balance env) = some c)
    (kept : ∀ kind key, ledger.balance kind key = p.db.ledger.balance kind key) :
    Ran env window db (earlier ++ [i]) (p.settleAdmission env i (c, ⟨o', ledger⟩)) := by
  have code : c = .dailyCapReached ∨ c = .weeklyCapReached := by
    have listed := capFull_codes full
    unfold capFull at full
    split at full
    · exact .inl (Option.some.inj full).symm
    split at full
    · exact .inr (Option.some.inj full).symm
    · cases full
  have policy := ((reconcileAll_chain env db).settings.trans ran.settings).policy
  have passed := ran.pass same
  have stored : p.settleAdmission env i (c, ⟨o', ledger⟩) =
      { p with db := p.db.put i ⟨o', ledger⟩, capHit := some c } := by
    simp only [Pass.settleAdmission, if_pos code, DB.update, here]
  have balance : (p.db.put i ⟨o', ledger⟩).balance env = p.db.balance env := by
    funext kind
    exact kept kind _
  rw [stored]
  constructor
  · exact passed.settings.trans (.put _ _ _)
  · intro j other
    have different : j ≠ i := fun same => other (by simp [same])
    rw [DB.get_put_other _ different]
    exact passed.rows j other
  · exact passed.admitted
  · exact passed.index
  · rw [balance]
    exact passed.balance
  · intro c' hit
    cases hit
    rw [balance, ← policy]
    exact full

theorem Ran.granted (ran : Ran env window db earlier p) (here : p.db.openings.get i = some o')
    (stored : db.openings.get i = some o) (posting : o'.opportunity = o.opportunity)
    (more : db.expected env window (earlier ++ [i]) = db.expected env window earlier ++ [i])
    (free : p.capHit = none) {o'' : Opening} {ledger : CapLedger}
    (opportunity : o''.opportunity = o'.opportunity)
    (reserved : o''.attempt.bind Application.reservedAt = some p.db.now)
    (slots : ∀ kind, ledger.balance kind ((p.db.keys env).key kind) =
      p.db.ledger.balance kind ((p.db.keys env).key kind) + 1) :
    Ran env window db (earlier ++ [i]) (p.settleAdmission env i (.admitted, ⟨o'', ledger⟩)) := by
  have settings := (reconcileAll_chain env db).settings.trans ran.settings
  have done : p.settleAdmission env i (.admitted, ⟨o'', ledger⟩) =
      { p with
        db := p.db.put i ⟨o'', ledger⟩
        index := p.extendIndex env o''
        admitted := p.admitted + 1 } := by
    simp [Pass.settleAdmission, DB.update, here]
  have index : p.extendIndex env o'' =
      p.index.reserved env db.policy.cooldownDays db.now o := by
    simp only [Pass.extendIndex, Indexes.reserved, Indexes.addCooldown, Indexes.addDuplicate,
      reserved, opportunity, posting, settings.policy, settings.now]
  rw [done]
  constructor
  · exact ran.settings.trans (.put _ _ _)
  · intro j other
    have different : j ≠ i := fun same => other (by simp [same])
    rw [DB.get_put_other _ different]
    exact ran.rows j fun member => other (List.mem_append_left _ member)
  · rw [more, List.length_append, ← ran.admitted]
    rfl
  · rw [more, index, ran.index]
    simp only [DB.indexAfter, List.foldl_append, List.foldl_cons, List.foldl_nil, stored]
  · intro kind
    have now := ran.balance kind
    have one := slots kind
    rw [more, List.length_append, List.length_singleton]
    change ledger.balance kind ((p.db.keys env).key kind) = _
    rw [one]
    change p.db.balance env kind + 1 = _
    rw [now]
    push_cast
    omega
  · intro c hit
    rw [free] at hit
    cases hit

theorem Ran.consider (ran : Ran env window db earlier p) (fresh : i ∉ earlier)
    (stored : db.openings.get i = some o) (candidate : o.candidate = some co)
    (kind : ∀ item, o.prepare = some item → item.action = .prepare)
    (foreseen : Foreseen env window db earlier i) :
    Ran env window db (earlier ++ [i]) (p.consider env window i) := by
  obtain ⟨o', co', here, candidate', kept, verdict⟩ := ran.found fresh stored candidate
  have member : i ∈ earlier ++ [i] := by simp
  have admits := admits_iff env stored candidate
  have policy := ((reconcileAll_chain env db).settings.trans ran.settings).policy
  have same : (decideOpening env p.context o' co').code =
      (decideOpening env (db.context env) o co).code := by
    have verdicts := foreseen.verdict
    rw [← ran.context, verdict, DB.verdict_eq stored candidate] at verdicts
    exact Option.some.inj verdicts
  rw [← same] at admits
  have skips : ¬ (db.admits env i = true ∧
      (db.expected env window earlier).length < db.room env window) →
      db.expected env window (earlier ++ [i]) = db.expected env window earlier := by
    intro no
    rw [expected_append, if_neg no]
  unfold Pass.consider
  simp only [here, candidate']
  by_cases admitted : (decideOpening env p.context o' co').code = .admitted
  · simp only [Verdict.admissible, admitted, decide_true, Bool.true_eq_false, if_false]
    by_cases deferred : window ≤ p.admitted
    · rw [if_pos deferred]
      rw [ran.admitted] at deferred
      exact (ran.pass (skips fun both => absurd (lt_room.mp both.2).1 (by omega))).stamp member _ _
    rw [if_neg deferred]
    rw [ran.admitted] at deferred
    obtain ⟨caps, noRow⟩ := foreseen.caps (admits.mpr admitted) (by omega)
    cases hit : p.capHit with
    | some c =>
      have full := ran.hit c hit
      rw [← policy, ran.caps, caps] at full
      refine (ran.pass (skips fun both => ?_)).stamp member _ _
      rw [(lt_room.mp both.2).2] at full
      cases full
    | none =>
      obtain ⟨daily, weekly⟩ := caps_of_admitted admitted
      have tried : Tried env p.db o' p.db.ledger
          (admitCandidate env p.db (decideOpening env p.context o' co') co' ⟨o', p.db.ledger⟩) :=
        admit_tried daily weekly (kept.action kind)
      dsimp only
      generalize admitCandidate env p.db (decideOpening env p.context o' co') co'
        ⟨o', p.db.ledger⟩ = answered at tried ⊢
      cases tried with
      | full c ledger' is unchanged =>
        refine (ran.refused here (skips fun both => ?_) is unchanged).stamp member _ _
        have room := (lt_room.mp both.2).2
        rw [← caps, ← ran.caps] at room
        cases room.symm.trans is
      | conflict room taken =>
        have free := noRow (caps.symm.trans (ran.caps.symm.trans room))
        rw [DB.conflicts, stored, Option.any_some, ← kept.conflicts, taken] at free
        cases free
      | granted o'' ledger' room _ _ opportunity reserved slots =>
        have more : db.expected env window (earlier ++ [i]) =
            db.expected env window earlier ++ [i] := by
          rw [expected_append, if_pos]
          refine ⟨admits.mpr admitted, lt_room.mpr ⟨by omega, ?_⟩⟩
          exact caps.symm.trans (ran.caps.symm.trans room)
        exact (ran.granted here stored kept.opportunity more hit opportunity reserved slots).stamp
          member _ _
  · simp only [Verdict.admissible, admitted, decide_false, if_true]
    exact (ran.pass (skips fun both => admitted (admits.mp both.1))).stamp member _ _

theorem take_append {k : Nat} (at_ : db.ordered[k]? = some i) :
    db.ordered.take (k + 1) = db.ordered.take k ++ [i] := by
  rw [List.take_add_one, at_]
  rfl

theorem not_earlier {k : Nat} (at_ : db.ordered[k]? = some i) : i ∉ db.ordered.take k := by
  have nodup : (db.ordered.take (k + 1)).Nodup := db.ordered_nodup.sublist (List.take_sublist _ _)
  rw [take_append at_, List.nodup_append] at nodup
  intro member
  exact nodup.2.2 i member i (by simp) rfl

/-- PREPARE items are what the prepare slot of an opening holds. -/
def DB.Filed (db : DB) : Prop :=
  ∀ i o item, db.openings.get i = some o → o.prepare = some item → item.action = .prepare

/-- As long as every candidate is foreseen the run goes as foreseen. -/
theorem ran_take (filed : db.Filed) (k : Nat) (foreseen : ∀ j < k, ∀ i, db.ordered[j]? = some i →
      Foreseen env window db (db.ordered.take j) i) :
    Ran env window db (db.ordered.take k)
      ((db.ordered.take k).foldl (Pass.consider env window) (db.openPass env)) := by
  induction k with
  | zero => exact ran_start
  | succ k ih =>
    have before := ih fun j earlier => foreseen j (Nat.lt_succ_of_lt earlier)
    cases at_ : db.ordered[k]? with
    | none =>
      rw [List.take_add_one, at_, Option.toList_none, List.append_nil]
      exact before
    | some i =>
      obtain ⟨o, co, stored, candidate⟩ := DB.ordered_rows (List.mem_of_getElem? at_)
      rw [take_append at_, List.foldl_append, List.foldl_cons, List.foldl_nil]
      exact before.consider (not_earlier at_) stored candidate (filed i o · stored)
        (foreseen k (Nat.lt_succ_self k) i at_)

theorem foldl_get_other {ids : List OpportunityId} (absent : i ∉ ids) (p : Pass) :
    (ids.foldl (Pass.consider env window) p).db.openings.get i = p.db.openings.get i := by
  induction ids generalizing p with
  | nil => rfl
  | cons j ids ih =>
    have other : i ≠ j := List.ne_of_not_mem_cons absent
    rw [List.foldl_cons, ih (List.not_mem_of_not_mem_cons absent), Pass.consider_get_other p other]

theorem enqueueReady_candidate (env : Env) (now : Time) (o : Opening) :
    (enqueueReady env now o).candidate = o.candidate := by
  unfold enqueueReady
  split
  · split <;> rfl
  · rfl

theorem codeAfterRun_turn {k : Nat} (at_ : db.ordered[k]? = some i) :
    codeAfterRun env window db i =
      ((((db.ordered.take k).foldl (Pass.consider env window) (db.openPass env)).consider env window
        i).db.openings.get i).bind fun o => o.candidate.bind CandidateOpportunity.schedulerCode := by
  have split : db.ordered = db.ordered.take k ++ i :: db.ordered.drop (k + 1) := by
    conv_lhs => rw [← List.take_append_drop (k + 1) db.ordered, take_append at_]
    rw [List.append_assoc]
    rfl
  have absent : i ∉ db.ordered.drop (k + 1) := by
    have nodup := db.ordered_nodup
    rw [split] at nodup
    exact (List.nodup_cons.mp (List.nodup_append.mp nodup).2.1).1
  have stays : (db.ordered.foldl (Pass.consider env window) (db.openPass env)).db.openings.get i =
      (((db.ordered.take k).foldl (Pass.consider env window) (db.openPass env)).consider env window
        i).db.openings.get i := by
    conv_lhs => rw [split]
    rw [List.foldl_append, List.foldl_cons, foldl_get_other absent]
  unfold codeAfterRun schedule DB.enqueueAll
  dsimp only
  rw [Table.get_mapRows, stays]
  cases Table.get _ i with
  | none => rfl
  | some o => simp only [Option.map_some, Option.bind_some, enqueueReady_candidate]

/-- After candidates that are foreseen the next one gets the code of the preview exactly when it is
foreseen. -/
theorem next_agrees_iff (filed : db.Filed) {k : Nat} (at_ : db.ordered[k]? = some i)
    (foreseen : ∀ j < k, ∀ i, db.ordered[j]? = some i →
      Foreseen env window db (db.ordered.take j) i) :
    codeAfterRun env window db i = db.projectedCode env window (db.ordered.take k) i ↔
      Foreseen env window db (db.ordered.take k) i := by
  have ran := ran_take filed k foreseen
  obtain ⟨o, co, stored, candidate⟩ := DB.ordered_rows (List.mem_of_getElem? at_)
  have kind : ∀ item, o.prepare = some item → item.action = .prepare := (filed i o · stored)
  obtain ⟨o', co', here, candidate', kept, verdict⟩ := ran.found (not_earlier at_) stored candidate
  rw [codeAfterRun_turn at_, Pass.consider_stored here candidate' (kept.action kind)]
  exact ran.answer_iff kept stored candidate candidate' verdict kind

end Ran

/-- The codes of a preview are those of a run from the same state exactly when every candidate it
lists is foreseen: reconciliation and the admissions to be expected before it change nothing for
the candidate. -/
theorem preview_agrees_iff (env : Env) (window limit : Nat) (db : DB) (filed : db.Filed) :
    (∀ d ∈ (preview env window limit db).decisions,
      codeAfterRun env window db d.opportunityId = some d.code) ↔
    ∀ k < limit, ∀ i, db.ordered[k]? = some i →
      Foreseen env window db (db.ordered.take k) i := by
  rw [preview_decisions fun i code => codeAfterRun env window db i = code]
  constructor
  · intro agrees k
    induction k using Nat.strongRecOn with
    | ind k ih =>
      intro below i at_
      have earlier : ∀ j < k, ∀ i, db.ordered[j]? = some i →
          Foreseen env window db (db.ordered.take j) i := fun j less =>
        ih j less (Nat.lt_trans less below)
      exact (next_agrees_iff filed at_ earlier).mp (agrees k below i at_)
  · intro foreseen k below i at_
    have earlier : ∀ j < k, ∀ i, db.ordered[j]? = some i →
        Foreseen env window db (db.ordered.take j) i := fun j less =>
      foreseen j (Nat.lt_trans less below)
    exact (next_agrees_iff filed at_ earlier).mpr (foreseen k below i at_)

/-! ### Two openings to look at -/

def DB.pair (a b : Opening) : DB where
  now := 0
  policy := .initial
  switches := []
  live := true
  answersAt := none
  openings := ⟨[(1, a), (2, b)], by simp⟩
  ledger := .empty

theorem pair_filed (a b : Opening) (first : a.prepare = none) (second : b.prepare = none) :
    (DB.pair a b).Filed := by
  intro i o item found prepare
  have row := Table.get_eq_some.mp found
  simp only [DB.pair, List.mem_cons, Prod.mk.injEq, List.not_mem_nil, or_false] at row
  rcases row with ⟨-, rfl⟩ | ⟨-, rfl⟩
  · rw [first] at prepare
    cases prepare
  · rw [second] at prepare
    cases prepare

/-- Two openings at one company: the preview admits both, the run holds the second in cool-down. -/
theorem second_opening_cools :
    ¬ ∀ (env : Env) (window limit : Nat) (db : DB), db.Filed →
      ∀ d ∈ (preview env window limit db).decisions,
        codeAfterRun env window db d.opportunityId = some d.code := by
  intro all
  have agrees := all .utc 500 200
    (.pair (.strong 1 "Acme" "Engineer") (.strong 2 "Acme" "Designer")) (pair_filed _ _ rfl rfl)
  revert agrees
  decide +kernel

/-- Two openings at two companies are both foreseen. -/
theorem strangers_agree :
    let db := DB.pair (.strong 1 "Acme" "Engineer") (.strong 2 "Beta" "Designer")
    (preview .utc 500 200 db).decisions.map (fun d => codeAfterRun .utc 500 db d.opportunityId) =
      (preview .utc 500 200 db).decisions.map fun d => some d.code := by
  intro db
  have order : db.ordered = [1, 2] := by decide +kernel
  apply List.map_congr_left
  apply (preview_agrees_iff .utc 500 200 db (pair_filed _ _ rfl rfl)).mpr
  intro k below i at_
  rw [order] at at_ ⊢
  rcases k with _ | _ | k
  · cases at_
    exact ⟨by decide +kernel, by decide +kernel⟩
  · cases at_
    exact ⟨by decide +kernel, by decide +kernel⟩
  · cases at_

end RangeApply
