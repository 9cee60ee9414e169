import Mathlib.Data.Finset.Erase
import RangeApply.Documents

/-! One active document to a preparation, type and format, in every state the service reaches; and
what a call that fails leaves of the active documents. -/
namespace RangeApply.Documents

variable {S : Sorts}

/-! ### Finding an artifact -/

/-- The artifact is one of the versions of a document. -/
def Artifact.versionOf (tenant prep artifactType : String) (fmt : DocumentFormat)
    (r : Artifact) : Prop :=
  r.tenant = tenant ∧ r.preparation = prep ∧ r.artifactType = artifactType ∧ r.format = fmt

section Find
variable {db : Db S} {tenant prep artifactType : String} {fmt : DocumentFormat}

theorem mem_versions {p : Artifact → Bool} {r : ArtifactId × Artifact} :
    (r ∈ db.artifacts.rows.filter fun r => decide (r.2.tenant = tenant) &&
      decide (r.2.preparation = prep) && decide (r.2.artifactType = artifactType) &&
      decide (r.2.format = fmt) && p r.2) ↔
    db.artifacts.get r.1 = some r.2 ∧ r.2.versionOf tenant prep artifactType fmt ∧
      p r.2 = true := by
  rw [List.mem_filter, Table.get_eq_some]
  simp only [Bool.and_eq_true, decide_eq_true_iff, Artifact.versionOf, and_assoc]

theorem active_found {k : ArtifactId} {row : Artifact}
    (found : db.active tenant prep artifactType fmt = some (k, row)) :
    db.artifacts.get k = some row ∧ row.versionOf tenant prep artifactType fmt ∧
      row.active = true :=
  mem_versions.mp (greatest_spec found).1

theorem active_missing (missing : db.active tenant prep artifactType fmt = none)
    {k : ArtifactId} {row : Artifact} (stored : db.artifacts.get k = some row)
    (version : row.versionOf tenant prep artifactType fmt) : row.active = false := by
  by_contra active
  have member := mem_versions (p := Artifact.active) (r := (k, row)).mpr
    ⟨stored, version, by simpa using active⟩
  rw [greatest_eq_none.mp missing] at member
  cases member

end Find

/-! ### What every state satisfies -/

/-- Two artifacts are versions of one document of a preparation. -/
def Artifact.sameDocument (r r' : Artifact) : Prop :=
  r.preparation = r'.preparation ∧ r.artifactType = r'.artifactType ∧ r.format = r'.format

def Db.OneActive (db : Db S) : Prop :=
  ∀ k k' r r', db.artifacts.get k = some r → db.artifacts.get k' = some r' →
    r.active → r'.active → r.sameDocument r' → k = k'

structure Db.Sound (db : Db S) : Prop where
  one : db.OneActive
  owned : ∀ k r, db.artifacts.get k = some r →
    ∃ p, db.preparations.get r.preparation = some p ∧ p.tenant = r.tenant

/-- The artifacts of `db'` are artifacts of `db`, some of them no longer active. -/
def Db.Retires (db db' : Db S) : Prop :=
  ∀ k r', db'.artifacts.get k = some r' → ∃ r, db.artifacts.get k = some r ∧
    r'.tenant = r.tenant ∧ r'.sameDocument r ∧ (r'.active → r.active)

theorem Db.Sound.retire {db db' : Db S} (sound : db.Sound) (retires : db.Retires db')
    (preparations : ∀ id p, db.preparations.get id = some p →
      ∃ p', db'.preparations.get id = some p' ∧ p'.tenant = p.tenant) : db'.Sound where
  one k k' r r' stored stored' active active' same := by
    obtain ⟨old, here, -, ⟨prep, type, format⟩, was⟩ := retires k r stored
    obtain ⟨old', here', -, ⟨prep', type', format'⟩, was'⟩ := retires k' r' stored'
    refine sound.one k k' old old' here here' (was active) (was' active') ⟨?_, ?_, ?_⟩
    · rw [← prep, ← prep', same.1]
    · rw [← type, ← type', same.2.1]
    · rw [← format, ← format', same.2.2]
  owned k r stored := by
    obtain ⟨old, here, tenant, ⟨prep, -, -⟩, -⟩ := retires k r stored
    obtain ⟨p, found, owner⟩ := sound.owned k old here
    obtain ⟨p', later, kept⟩ := preparations _ p found
    exact ⟨p', prep ▸ later, by rw [kept, owner, tenant]⟩

theorem Db.Retires.refl (db : Db S) : db.Retires db :=
  fun _ r stored => ⟨r, stored, rfl, ⟨rfl, rfl, rfl⟩, id⟩

section Marking

variable {s : State S} {k : ArtifactId} {reason : String}

theorem invalidate_kept (reason : String) (r : Artifact) : (r.invalidate reason).tenant = r.tenant ∧
    (r.invalidate reason).sameDocument r ∧ (r.invalidate reason).active = false := by
  unfold Artifact.invalidate
  split
  · rename_i gone
    exact ⟨rfl, ⟨rfl, rfl, rfl⟩, by simp [Artifact.active, gone]⟩
  · exact ⟨rfl, ⟨rfl, rfl, rfl⟩, by simp [Artifact.active]⟩

theorem mark_retires (s : State S) (k : ArtifactId) (reason : String) :
    s.db.Retires (s.mark k reason).db := by
  intro i r' stored
  by_cases here : i = k
  · subst here
    have found : (s.db.artifacts.get i).map (Artifact.invalidate reason) = some r' :=
      (Table.get_modify_self _ _ _).symm.trans stored
    obtain ⟨r, old, rfl⟩ := Option.map_eq_some_iff.mp found
    obtain ⟨tenant, same, gone⟩ := invalidate_kept reason r
    exact ⟨r, old, tenant, same, fun active => by rw [gone] at active; cases active⟩
  · have old : s.db.artifacts.get i = some r' :=
      (Table.get_modify_other _ _ here).symm.trans stored
    exact ⟨r', old, rfl, ⟨rfl, rfl, rfl⟩, id⟩

theorem mark_sound (sound : s.db.Sound) : (s.mark k reason).db.Sound :=
  sound.retire (mark_retires s k reason) fun _ p found => ⟨p, found, rfl⟩

/-- Once the active version is marked, its document has none. -/
theorem mark_active {row : Artifact} {tenant prep artifactType : String} {fmt : DocumentFormat}
    (sound : s.db.Sound) (current : s.db.active tenant prep artifactType fmt = some (k, row)) :
    (s.mark k reason).db.active tenant prep artifactType fmt = none := by
  obtain ⟨stored, ⟨-, rfl, rfl, rfl⟩, active⟩ := active_found current
  cases left : (s.mark k reason).db.active tenant row.preparation row.artifactType row.format with
  | none => rfl
  | some r =>
    obtain ⟨i, r'⟩ := r
    obtain ⟨stored', version, active'⟩ := active_found left
    obtain ⟨old, here, -, same, was⟩ := mark_retires s k reason i r' stored'
    have one : i = k := sound.one i k old row here stored (was active') active
      ⟨by rw [← same.1, version.2.1], by rw [← same.2.1, version.2.2.1],
        by rw [← same.2.2, version.2.2.2]⟩
    subst one
    have marked : (s.db.artifacts.get i).map (Artifact.invalidate reason) = some r' :=
      (Table.get_modify_self _ _ _).symm.trans stored'
    rw [here, Option.map_some] at marked
    cases marked
    rw [(invalidate_kept reason old).2.2] at active'
    cases active'

end Marking

/-! ### A new version -/

section Inserting

theorem newId_free (db : Db S) : db.artifacts.get db.newId = none := by
  have above (l : List ArtifactId) : ∀ k ∈ l, k ≤ l.foldr max 0 := by
    induction l with
    | nil => exact fun k member => absurd member List.not_mem_nil
    | cons a l ih =>
      intro k member
      rw [List.foldr_cons]
      rcases List.mem_cons.mp member with rfl | later
      · exact le_max_left _ _
      · exact (ih k later).trans (le_max_right _ _)
  cases found : db.artifacts.get db.newId with
  | none => rfl
  | some r =>
    have low := above _ _ (List.mem_map_of_mem (f := Prod.fst) (Table.get_eq_some.mp found))
    exact absurd low (Nat.not_succ_le_self _)

variable {s : State S} {row : Artifact} {tenant prep artifactType : String} {fmt : DocumentFormat}

theorem insert_found {k : ArtifactId} {r : Artifact}
    (stored : (s.insert row).db.artifacts.get k = some r) :
    s.db.artifacts.get k = some r ∨ (k = s.db.newId ∧ r = row) := by
  cases before : s.db.artifacts.get k with
  | some r' =>
    have kept := Table.get_insertNew (k := s.db.newId) (v := row) before
    exact .inl (kept.symm.trans stored)
  | none => exact .inr (Table.get_insertNew_none before stored)

theorem insert_sound (sound : s.db.Sound) (version : row.versionOf tenant prep artifactType fmt)
    (owner : ∃ p, s.db.preparations.get prep = some p ∧ p.tenant = tenant)
    (missing : s.db.active tenant prep artifactType fmt = none) : (s.insert row).db.Sound := by
  obtain ⟨rfl, rfl, rfl, rfl⟩ := version
  obtain ⟨p, found, tenant⟩ := owner
  -- another version of the document belongs to the same tenant, so it is not active
  have idle {k : ArtifactId} {r : Artifact} (stored : s.db.artifacts.get k = some r)
      (same : r.sameDocument row) : r.active = false := by
    obtain ⟨p', found', owner⟩ := sound.owned k r stored
    rw [same.1, found] at found'
    cases found'
    exact active_missing missing stored ⟨owner.symm.trans tenant, same.1, same.2.1, same.2.2⟩
  refine ⟨fun k k' r r' stored stored' active active' same => ?_, fun k r stored => ?_⟩
  · rcases insert_found stored with old | ⟨rfl, rfl⟩ <;>
      rcases insert_found stored' with old' | ⟨rfl, rfl⟩
    · exact sound.one k k' r r' old old' active active' same
    · rw [idle old same] at active
      cases active
    · rw [idle old' ⟨same.1.symm, same.2.1.symm, same.2.2.symm⟩] at active'
      cases active'
    · rfl
  · rcases insert_found stored with old | ⟨rfl, rfl⟩
    · exact sound.owned k r old
    · exact ⟨p, found, tenant⟩

end Inserting

/-! ### The calls -/

section Calls
variable {e : Surroundings S} {s : State S} {tenant prep artifactType : String}
  {fmt : DocumentFormat} {options : S.Options}

theorem plan_made {db : Db S} {pl : Plan S}
    (made : plan e db tenant prep artifactType fmt options = .ok pl) :
    db.preparations.get prep = some pl.preparation ∧ pl.preparation.tenant = tenant ∧
      pl.prep = prep ∧ pl.artifactType = artifactType ∧ pl.format = fmt := by
  unfold plan at made
  simp only [bind, Except.bind, pure, Except.pure, throw, throwThe, MonadExceptOf.throw] at made
  split at made
  · rename_i p found
    obtain ⟨stored, owner⟩ := Option.filter_eq_some_iff.mp found
    split at made
    · cases made
    split at made
    · split at made
      · cases made
      split at made
      · split at made
        · cases made
        cases made
        exact ⟨stored, of_decide_eq_true owner, rfl, rfl, rfl⟩
      · cases made
    · cases made
  · cases made

theorem produce_made {pl : Plan S} {row : Artifact} {files : String → Option S.Data}
    (made : produce e s pl = .ok (row, files)) :
    row.versionOf pl.preparation.tenant pl.prep pl.artifactType pl.format := by
  unfold produce at made
  simp only [bind, Except.bind, pure, Except.pure, throw, throwThe, MonadExceptOf.throw] at made
  split at made
  · cases made
  split at made
  · split at made
    · split at made
      · cases made
      split at made
      · cases made
      split at made
      · cases made
        exact ⟨rfl, rfl, rfl, rfl⟩
      · cases made
      · cases made
    · cases made
    · cases made
  · cases made

theorem render_sound {pl : Plan S} (sound : s.db.Sound)
    (found : s.db.preparations.get pl.prep = some pl.preparation)
    (missing : s.db.active pl.preparation.tenant pl.prep pl.artifactType pl.format = none) :
    (s.render e pl).1.db.Sound := by
  unfold State.render
  cases made : produce e s pl with
  | error failure => exact sound
  | ok answer =>
    obtain ⟨row, files⟩ := answer
    exact insert_sound sound (produce_made made) ⟨_, found, rfl⟩ missing

/-- What `getOrRender` comes to: it stops, uses the current artifact again, or renders, after the
current artifact, if there is one, is marked. -/
theorem getOrRender_cases (e : Surroundings S) (s : State S) (tenant prep artifactType : String)
    (fmt : DocumentFormat) (force : Bool) (options : S.Options) :
    (getOrRender e s tenant prep artifactType fmt force options).1 = s ∨
    ∃ pl, plan e s.db tenant prep artifactType fmt options = .ok pl ∧
      ((s.db.active tenant prep artifactType fmt = none ∧
        getOrRender e s tenant prep artifactType fmt force options = s.render e pl) ∨
      ∃ k row reason, s.db.active tenant prep artifactType fmt = some (k, row) ∧
        outdated e s pl force row = .ok (some reason) ∧
        getOrRender e s tenant prep artifactType fmt force options =
          (s.mark k reason).render e pl) := by
  unfold getOrRender
  cases made : plan e s.db tenant prep artifactType fmt options with
  | error failure => exact .inl rfl
  | ok pl =>
    cases current : s.db.active tenant prep artifactType fmt with
    | none => exact .inr ⟨pl, rfl, .inl ⟨rfl, rfl⟩⟩
    | some found =>
      obtain ⟨k, row⟩ := found
      dsimp only
      cases old : outdated e s pl force row with
      | error failure => exact .inl rfl
      | ok answer =>
        cases answer with
        | none => exact .inl rfl
        | some reason => exact .inr ⟨pl, rfl, .inr ⟨k, row, reason, rfl, old, rfl⟩⟩

theorem getOrRender_sound (e : Surroundings S) (tenant prep artifactType : String)
    (fmt : DocumentFormat) (options : S.Options) (sound : s.db.Sound) (force : Bool) :
    (getOrRender e s tenant prep artifactType fmt force options).1.db.Sound := by
  rcases getOrRender_cases e s tenant prep artifactType fmt force options with
    same | ⟨pl, made, ⟨missing, same⟩ | ⟨k, row, reason, current, -, same⟩⟩
  · rw [same]
    exact sound
  · rw [same]
    obtain ⟨found, rfl, rfl, rfl, rfl⟩ := plan_made made
    exact render_sound sound found missing
  · rw [same]
    obtain ⟨found, rfl, rfl, rfl, rfl⟩ := plan_made made
    exact render_sound (mark_sound sound) found (mark_active sound current)

theorem ensure_sound (wanted : List String) (sound : s.db.Sound) :
    (ensureForExecution e s tenant prep fmt options wanted).1.db.Sound := by
  induction wanted generalizing s with
  | nil => exact sound
  | cons artifactType wanted ih =>
    have next := getOrRender_sound e tenant prep artifactType fmt options sound false
    unfold ensureForExecution
    dsimp only
    split
    · exact ih next
    · split
      · exact next
      · exact ih next

theorem materialize_sound (sound : s.db.Sound) (k : ArtifactId) (prep : Option String)
    (forUpload : Bool) : (materialize e s tenant k prep forUpload).1.db.Sound := by
  unfold materialize
  repeat' split
  all_goals first | exact sound | exact mark_sound sound

theorem invalidate_sound (sound : s.db.Sound) (k : ArtifactId) (reason : String) :
    (invalidate s tenant k reason).1.db.Sound := by
  unfold invalidate
  split
  · exact sound
  · exact mark_sound sound

theorem invalidateForPreparation_sound (sound : s.db.Sound) (reason : String) :
    (invalidateForPreparation s tenant prep reason).db.Sound := by
  have all (l : List (ArtifactId × Artifact)) (s : State S) (sound : s.db.Sound) :
      (l.foldl (fun s r => s.mark r.1 reason) s).db.Sound := by
    induction l generalizing s with
    | nil => exact sound
    | cons r l ih => exact ih _ (mark_sound sound)
  exact all _ s sound

end Calls

/-! ### Runs, and calls that fail -/

theorem perform_sound {s : State S} (now : s.db.Sound) (before : s.committed.Sound) (op : Op S) :
    (s.perform op).db.Sound := by
  cases op with
  | getOrRender e tenant prep artifactType fmt force options =>
    exact getOrRender_sound e tenant prep artifactType fmt options now force
  | ensureForExecution e tenant prep fmt options =>
    simp only [State.perform]
    split
    · exact now
    · exact ensure_sound _ now
  | materialize e tenant k prep forUpload => exact materialize_sound now k prep forUpload
  | invalidate tenant k reason => exact invalidate_sound now k reason
  | invalidateForPreparation tenant prep reason => exact invalidateForPreparation_sound now reason
  | commit => exact now
  | rollback => exact before
  | prepare prep p =>
    exact now.retire (.refl _) fun id old found => ⟨old, Table.get_insertNew found, rfl⟩
  | changePreparation prep p =>
    refine now.retire (.refl _) fun id old found => ?_
    by_cases here : id = prep
    · subst here
      refine ⟨p.rewrite old, ?_, rfl⟩
      exact (Table.get_modify_self _ _ _).trans (by rw [found]; rfl)
    · exact ⟨old, (Table.get_modify_other _ _ here).trans found, rfl⟩
  | changeFile path data => exact now

theorem committed_kept {e : Surroundings S} {s : State S} {tenant prep artifactType : String}
    {fmt : DocumentFormat} {force : Bool} {options : S.Options} :
    (getOrRender e s tenant prep artifactType fmt force options).1.committed = s.committed := by
  have rendered (s : State S) (pl : Plan S) : (s.render e pl).1.committed = s.committed := by
    unfold State.render
    split <;> rfl
  rcases getOrRender_cases e s tenant prep artifactType fmt force options with
    same | ⟨pl, -, ⟨-, same⟩ | ⟨k, row, reason, -, -, same⟩⟩
  · rw [same]
  · rw [same, rendered]
  · rw [same, rendered]
    rfl

theorem perform_committed (s : State S) (op : Op S) :
    (s.perform op).committed = s.committed ∨ (s.perform op).committed = s.db := by
  cases op with
  | commit => exact .inr rfl
  | getOrRender e tenant prep artifactType fmt force options => exact .inl committed_kept
  | ensureForExecution e tenant prep fmt options =>
    have all (wanted : List String) (s : State S) :
        (ensureForExecution e s tenant prep fmt options wanted).1.committed = s.committed := by
      induction wanted generalizing s with
      | nil => rfl
      | cons artifactType wanted ih =>
        unfold ensureForExecution
        dsimp only
        split
        · exact (ih _).trans committed_kept
        · split
          · exact committed_kept
          · exact (ih _).trans committed_kept
    simp only [State.perform]
    split
    · exact .inl rfl
    · exact .inl (all _ s)
  | materialize e tenant k prep forUpload =>
    simp only [State.perform, materialize]
    repeat' split
    all_goals exact .inl rfl
  | invalidate tenant k reason =>
    simp only [State.perform, invalidate]
    split <;> exact .inl rfl
  | invalidateForPreparation tenant prep reason =>
    have all (l : List (ArtifactId × Artifact)) (s : State S) :
        (l.foldl (fun s r => s.mark r.1 reason) s).committed = s.committed := by
      induction l generalizing s with
      | nil => rfl
      | cons r l ih => exact ih _
    exact .inl (all _ s)
  | rollback | prepare | changePreparation | changeFile => exact .inl rfl

theorem empty_sound : (⟨.empty, .empty⟩ : Db S).Sound where
  one := by
    intro k k' r r' stored
    cases stored
  owned := by
    intro k r stored
    cases stored

theorem Reachable.sound {s : State S} (reached : Reachable s) :
    s.db.Sound ∧ s.committed.Sound := by
  induction reached with
  | start files =>
    exact ⟨empty_sound, empty_sound⟩
  | step op reached ih =>
    refine ⟨perform_sound ih.1 ih.2 op, ?_⟩
    rcases perform_committed _ op with same | same
    · rw [same]
      exact ih.2
    · rw [same]
      exact ih.1

def Db.activeIds (db : Db S) : Finset ArtifactId := db.artifacts.select Artifact.active

theorem mark_activeIds (s : State S) (k : ArtifactId) (reason : String) :
    (s.mark k reason).db.activeIds = s.db.activeIds.erase k := by
  ext i
  rw [Finset.mem_erase, Db.activeIds, Db.activeIds, Table.mem_select, Table.mem_select]
  by_cases here : i = k
  · subst here
    have marked : (s.mark i reason).db.artifacts.get i =
        (s.db.artifacts.get i).map (Artifact.invalidate reason) := Table.get_modify_self _ _ _
    rw [marked]
    cases s.db.artifacts.get i with
    | none => simp
    | some r => simp [(invalidate_kept reason r).2.2]
  · have kept : (s.mark k reason).db.artifacts.get i = s.db.artifacts.get i :=
      Table.get_modify_other _ _ here
    rw [kept]
    simp [here]

/-- The artifact has to go: a new one was asked for, it was made of other inputs, or its file is
not intact. -/
def Artifact.Outdated (e : Surroundings S) (files : String → Option S.Data) (fingerprint : String)
    (force : Bool) (row : Artifact) : Prop :=
  force = true ∨ row.inputFingerprint ≠ fingerprint ∨
    ∃ problems, verify e files row = .ok problems ∧ problems ≠ []

theorem outdated_reason {e : Surroundings S} {s : State S} {pl : Plan S} {force : Bool}
    {row : Artifact} {reason : String} (old : outdated e s pl force row = .ok (some reason)) :
    row.Outdated e s.files pl.fingerprint force := by
  unfold outdated at old
  split at old
  · exact .inl ‹_›
  split at old
  · split at old
    · cases old
    · cases old
    · rename_i problems some_problem found
      exact .inr (.inr ⟨problems, found, some_problem⟩)
  · exact .inr (.inl ‹_›)

theorem render_failed {e : Surroundings S} {s : State S} {pl : Plan S} {failure : Failure}
    (failed : (s.render e pl).2 = .error failure) : (s.render e pl).1 = s := by
  unfold State.render at failed ⊢
  split
  · rfl
  · rename_i made
    rw [made] at failed
    cases failed

/-- In every state there is at most one active artifact to a preparation, type and format. A call
that fails writes no file and leaves the active artifacts, but for the one that had to go. -/
theorem documents_replaced : (∀ s : State S, Reachable s → s.db.OneActive) ∧
    ∀ (e : Surroundings S) (s : State S) (tenant prep artifactType : String)
      (fmt : DocumentFormat) (force : Bool) (options : S.Options) (failure : Failure),
      let after := getOrRender e s tenant prep artifactType fmt force options
      after.2 = .error failure →
      after.1.files = s.files ∧
      (after.1.db.activeIds = s.db.activeIds ∨
        ∃ pl k row, plan e s.db tenant prep artifactType fmt options = .ok pl ∧
          s.db.active tenant prep artifactType fmt = some (k, row) ∧
          row.Outdated e s.files pl.fingerprint force ∧
          after.1.db.activeIds = s.db.activeIds.erase k) := by
  refine ⟨fun s reached => reached.sound.1.one, ?_⟩
  intro e s tenant prep artifactType fmt force options failure after failed
  rcases getOrRender_cases e s tenant prep artifactType fmt force options with
    same | ⟨pl, made, ⟨-, same⟩ | ⟨k, row, reason, current, old, same⟩⟩
  · exact ⟨congrArg State.files same, .inl (by rw [same])⟩
  · simp only [after, same] at failed ⊢
    rw [render_failed failed]
    exact ⟨rfl, .inl rfl⟩
  · simp only [after, same] at failed ⊢
    rw [render_failed failed]
    exact ⟨rfl, .inr ⟨pl, k, row, made, current, outdated_reason old, mark_activeIds s k reason⟩⟩

/-- Sorts and surroundings in which everything is a text and every step succeeds. -/
abbrev texts : Sorts := ⟨String, String, String, String, String⟩

def working (renderer : RenderInput texts → Except Failure String) : Surroundings texts where
  renderers := fun _ => some ⟨"fpdf2", "pdf-v1", fun _ => .ok "core", fun _ => .ok true, renderer⟩
  profile := .ok "A. Candidate"
  resumeModel := fun blocks _ _ => blocks
  coverLetterModel := fun blocks _ _ _ => blocks
  digest := fun payload => payload.model
  validate := fun _ _ _ => ⟨.passed, 1, []⟩
  hash := id
  size := fun data => data.length
  magic := fun _ _ => true
  maxBytes := 100
  strip := id
  escapes := fun _ => false
  unreadable := fun _ => none
  unwritable := fun _ => none

def readyPreparation : Preparation texts :=
  ⟨"t", "co", .ready, 1, "f", none, true, none, none, [("RESUME", "%PDF-1")]⟩

def printer : Surroundings texts := working fun input => .ok input.model

def brokenPrinter : Surroundings texts := working fun _ => .error (.render "no font")

/-- A preparation whose resume has been rendered. -/
def rendered : State texts :=
  ((State.empty fun _ => none).perform (.prepare "p" readyPreparation)).perform
    (.getOrRender printer "t" "p" "RESUME" .pdf false "")

/-- The file of the artifact is intact and its inputs are current; asked for a new one, the renderer
fails, and no artifact is active. -/
theorem failed_regeneration_retires : Reachable rendered ∧
    (getOrRender printer rendered "t" "p" "RESUME" .pdf false "").2 = .ok (1, false) ∧
    let after := getOrRender brokenPrinter rendered "t" "p" "RESUME" .pdf true ""
    after.2 = .error (.document "render failed: no font") ∧
      1 ∈ rendered.db.activeIds ∧ 1 ∉ after.1.db.activeIds :=
  ⟨.step _ (.step _ (.start _)), rfl, rfl, by decide, by decide⟩

end RangeApply.Documents
