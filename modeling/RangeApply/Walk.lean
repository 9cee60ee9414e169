import RangeApply.Changes
import RangeApply.Readmission

/-! A scheduling pass over its candidates: each is looked at once, with the rows that
reconciliation left it, against indexes that only grow. -/
namespace RangeApply

/-! ### Growing indexes -/

namespace Indexes

/-- What blocks under the first indexes blocks under the second. -/
structure Le (a b : Indexes) : Prop where
  cooldown : ∀ key t, a.cooldown.Covers key t → b.cooldown.Covers key t
  duplicates : a.duplicates ⊆ b.duplicates

theorem Le.refl (a : Indexes) : a.Le a := ⟨fun _ _ => id, List.Subset.refl _⟩

theorem Le.trans {a b c : Indexes} (first : a.Le b) (second : b.Le c) : a.Le c :=
  ⟨fun key t covers => second.cooldown key t (first.cooldown key t covers),
    fun _ member => second.duplicates (first.duplicates member)⟩

/-- An admission at this instant: the company is in cool-down, its title taken. -/
def reserved (env : Env) (cooldownDays : Int) (now : Time) (index : Indexes) (o : Opening) : Indexes :=
  (addCooldown env cooldownDays index o (some now) "in_progress").addDuplicate env o

theorem le_added (env : Env) (cooldownDays : Int) (index : Indexes) (o : Opening) (start : Option Time)
    (kind : String) : index.Le ((addCooldown env cooldownDays index o start kind).addDuplicate env o) where
  cooldown := fun _ _ covers => covers.add _ _ _ _
  duplicates := fun _ member => List.mem_cons_of_mem _ member

variable {env : Env} {a b : Indexes}

theorem Le.others_nil (le : a.Le b) {key : String} {i : OpportunityId} (alone : b.others key i = []) :
    a.others key i = [] := by
  rw [List.eq_nil_iff_forall_not_mem] at alone ⊢
  intro j member
  apply alone j
  simp only [others, List.mem_filter, List.mem_map] at member ⊢
  obtain ⟨⟨d, ⟨known, here⟩, same⟩, other⟩ := member
  exact ⟨⟨d, ⟨le.duplicates known, here⟩, same⟩, other⟩

theorem Le.activeUntil_none (le : a.Le b) {company : String} {now : Time}
    (free : b.cooldown.activeUntil env company now = none) :
    a.cooldown.activeUntil env company now = none := by
  by_contra active
  unfold CooldownIndex.activeUntil at active
  split at active
  · exact active rfl
  · rename_i ends found
    split at active
    · rename_i early
      have covers : b.cooldown.Covers (companyKey env company) ends :=
        le.cooldown _ _ ⟨ends, found, Int.le_refl _⟩
      exact covers.active early free
    · exact active rfl

theorem Le.admissible (le : a.Le b) {policy : ApplicationPolicy} {now : Time} {o : Opening}
    {co : CandidateOpportunity}
    (admits : (decideOpening env ⟨policy, now, b⟩ o co).admissible = true) :
    (decideOpening env ⟨policy, now, a⟩ o co).admissible = true := by
  simp only [Verdict.admissible, decide_eq_true_eq, decide_admitted] at admits ⊢
  obtain ⟨unskipped, unclosed, earlier, gates, prepared, stateful⟩ := admits
  obtain ⟨alone, free, caps⟩ := statefulVerdict_none.mp stateful
  exact ⟨unskipped, unclosed, earlier, gates, prepared,
    statefulVerdict_none.mpr ⟨le.others_nil alone, le.activeUntil_none free, caps⟩⟩

end Indexes

/-! ### One candidate -/

namespace Pass
variable {env : Env} {window : Nat}

theorem stamp_get_other (p : Pass) {i j : OpportunityId} (code : AdmissionReason) (v : Verdict)
    (other : j ≠ i) : (p.stamp i code v).db.openings.get j = p.db.openings.get j := by
  unfold stamp
  dsimp only
  rcases p.db.update_cases (i := i) (fun s => { s with opening := { s.opening with
      candidate := s.opening.candidate.map (·.stamp p.db.now code v p.db.policy.version) } })
    with same | ⟨o, -, changed⟩
  · rw [same]
  · rw [changed, DB.get_put_other _ other]

theorem stamp_ledger (p : Pass) (i : OpportunityId) (code : AdmissionReason) (v : Verdict) :
    (p.stamp i code v).db.ledger = p.db.ledger := by
  unfold stamp
  dsimp only
  rcases p.db.update_cases (i := i) (fun s => { s with opening := { s.opening with
      candidate := s.opening.candidate.map (·.stamp p.db.now code v p.db.policy.version) } })
    with same | ⟨o, -, changed⟩
  · rw [same]
  · rw [changed]
    rfl

theorem settleAdmission_get_other (p : Pass) {i j : OpportunityId} (outcome : AdmissionReason × Slice)
    (other : j ≠ i) : (p.settleAdmission env i outcome).db.openings.get j = p.db.openings.get j := by
  rw [settleAdmission_db]
  rcases p.db.update_cases (i := i) (fun _ => outcome.2) with same | ⟨o, -, changed⟩
  · rw [same]
  · rw [changed, DB.get_put_other _ other]

theorem consider_get_other (p : Pass) {i j : OpportunityId} (other : j ≠ i) :
    (p.consider env window i).db.openings.get j = p.db.openings.get j := by
  have turn := consider_turn env window p i
  generalize p.consider env window i = p' at turn ⊢
  cases turn with
  | skipped => rfl
  | refused code v => exact stamp_get_other p code v other
  | tried => rw [stamp_get_other _ _ _ other, settleAdmission_get_other _ _ other]

theorem settleAdmission_index (p : Pass) (i : OpportunityId) (outcome : AdmissionReason × Slice) :
    (p.settleAdmission env i outcome).index =
      if outcome.1 = .admitted then p.extendIndex env outcome.2.opening else p.index := by
  unfold settleAdmission
  by_cases admitted : outcome.1 = .admitted
  · simp [admitted]
  · simp only [if_neg admitted]
    split <;> rfl

theorem consider_le (p : Pass) (i : OpportunityId) : p.index.Le (p.consider env window i).index := by
  have turn := consider_turn env window p i
  generalize p.consider env window i = p' at turn ⊢
  cases turn with
  | skipped => exact .refl _
  | refused => exact .refl _
  | @tried _ _ _ _ _ outcome =>
    have after : p.index.Le (p.settleAdmission env i outcome).index := by
      rw [settleAdmission_index]
      split
      · exact Indexes.le_added ..
      · exact .refl _
    exact after

/-! ### The walk -/

inductive Walked (env : Env) (p₀ : Pass) (db : DB) (i : OpportunityId) (s : Slice) : Slice → Prop
  | stamped (code : AdmissionReason) (v : Verdict) :
      Walked env p₀ db i s { s with opening := { s.opening with
        candidate := s.opening.candidate.map (·.stamp db.now code v db.policy.version) } }
  | admitted (co : CandidateOpportunity) (v : Verdict) (candidate : s.opening.candidate = some co)
      (unchanged : p₀.db.openings.get i = some s.opening)
      (admissible : (decideOpening env p₀.context s.opening co).admissible = true) :
      Walked env p₀ db i s (admitCandidate env db v co s).2

section Walk
variable {p₀ p : Pass} {i : OpportunityId}

theorem stamp_walked (code : AdmissionReason) (v : Verdict) :
    Chain (Walked env p₀) p.db (p.stamp i code v).db :=
  Touched.chain <| Touched.update (fun s => { s with opening := { s.opening with
      candidate := s.opening.candidate.map (·.stamp p.db.now code v p.db.policy.version) } })
    fun _ _ => .stamped code v

theorem consider_walked (here : p.db.openings.get i = p₀.db.openings.get i)
    (same : SameSettings p₀.db p.db) (le : p₀.index.Le p.index) :
    Chain (Walked env p₀) p.db (p.consider env window i).db := by
  have turn := consider_turn env window p i
  generalize p.consider env window i = p' at turn ⊢
  cases turn with
  | skipped => exact .done _
  | refused code v => exact stamp_walked code v
  | @tried o co found candidate admissible outcome done =>
    refine .trans ?_ (stamp_walked _ _)
    rw [settleAdmission_db, done]
    refine Touched.chain <| Touched.update _ fun o' found' => ?_
    cases Option.some.inj (found.symm.trans found')
    refine .admitted co _ candidate (here.symm.trans found) (le.admissible ?_)
    simpa [context, same.policy, same.now] using admissible

/-- Every admission of a pass is of an opening as the pass found it, and one that its first
indexes allow. -/
theorem walk (env : Env) (window : Nat) (p₀ : Pass) {ids : List OpportunityId} (nodup : ids.Nodup) :
    Chain (Walked env p₀) p₀.db (ids.foldl (consider env window) p₀).db := by
  have each (p : Pass) (same : SameSettings p₀.db p.db) (le : p₀.index.Le p.index)
      (rows : ∀ i ∈ ids, p.db.openings.get i = p₀.db.openings.get i) :
      Chain (Walked env p₀) p.db (ids.foldl (consider env window) p).db := by
    induction ids generalizing p with
    | nil => exact .done _
    | cons i ids ih =>
      obtain ⟨fresh, rest⟩ := List.nodup_cons.mp nodup
      have one : Chain (Walked env p₀) p.db (p.consider env window i).db :=
        consider_walked (rows i List.mem_cons_self) same le
      refine one.trans (ih rest _ (same.trans one.settings) (le.trans (consider_le p i))
        fun j member => ?_)
      have other : j ≠ i := fun h => fresh (h ▸ member)
      rw [consider_get_other p other]
      exact rows j (List.mem_cons_of_mem _ member)
  exact each p₀ (.refl _) (.refl _) fun _ _ => rfl

end Walk

end Pass

theorem DB.ordered_nodup (db : DB) : db.ordered.Nodup := by
  have rows : (db.candidates.map Prod.fst).Nodup :=
    db.openings.nodup.sublist (List.filter_sublist.map Prod.fst)
  exact ((sortBy_perm db.candidates).map Prod.fst).nodup_iff.mpr rows

end RangeApply
