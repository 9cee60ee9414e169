import RangeApply.LiveVersion

/-! Preparing an opportunity once more. A package that is still current is recognised by its inputs,
of which the questions are kept only as keys; the call that leaves them out, and the test whether a
package is stale, start from what is stored. -/
namespace RangeApply

/-! ### Stale inputs -/

/-- The names of the inputs that differ. -/
def Inputs.changed (current stored : Inputs) : List String :=
  ([("ai", decide (current.ai ≠ stored.ai)),
    ("cover_letter_mode", decide (current.coverLetterMode ≠ stored.coverLetterMode)),
    ("evidence_fingerprint", decide (current.evidenceFingerprint ≠ stored.evidenceFingerprint)),
    ("job_content_hash", decide (current.jobContentHash ≠ stored.jobContentHash)),
    ("job_id", decide (current.jobId ≠ stored.jobId)),
    ("lane", decide (current.lane ≠ stored.lane)),
    ("match_fingerprint", decide (current.matchFingerprint ≠ stored.matchFingerprint)),
    ("match_id", decide (current.matchId ≠ stored.matchId)),
    ("policy_version", decide (current.policyVersion ≠ stored.policyVersion)),
    ("positioning_variant_id",
      decide (current.positioningVariantId ≠ stored.positioningVariantId)),
    ("positioning_variant_version",
      decide (current.positioningVariantVersion ≠ stored.positioningVariantVersion)),
    ("questions", decide (current.questions ≠ stored.questions)),
    ("tailoring_level", decide (current.tailoringLevel ≠ stored.tailoringLevel)),
    ("template_version", decide (current.templateVersion ≠ stored.templateVersion))].filter
      (·.2)).map (·.1)

theorem Inputs.changed_questions (stored : Inputs) (questions : List Text) :
    ({ stored with questions } : Inputs).changed stored =
      if questions = stored.questions then [] else ["questions"] := by
  by_cases same : questions = stored.questions <;> simp [changed, same]

/-- `_MATERIAL_NEUTRAL_INPUTS`. -/
def neutralInputs : List String := ["policy_version", "match_id"]

namespace PreparationTables
variable (env : ComposerEnv) (ctx : PreparationContext) (db : PreparationTables)

/-- `current_inputs`: from the stored keys of the questions, where there are any. -/
def currentInputs (row : PreparationRow) : Res Inputs :=
  match db.targets row.co with
  | none => .error (.notFound ("Candidate opportunity not found: " ++ toString row.co))
  | some t =>
    let questions :=
      if row.inputs.questions = [] then row.answers.map (·.question) else row.inputs.questions
    .ok (fingerprint env ctx t row.built.level questions)

/-- `stale_inputs`. -/
def staleInputs (row : PreparationRow) : Res (List String) := do
  let current ← db.currentInputs env ctx row
  if current = row.inputs then .ok []
  else
    let changed := current.changed row.inputs
    let material := changed.filter (· ∉ neutralInputs)
    if material = [] ∧ changed ≠ [] then .ok []
    else .ok (if material = [] then ["fingerprint"] else material)

end PreparationTables

/-! ### The questions of a package -/

/-- The questions that are answered: none that is blank or was asked before, and of each its first
512 characters. -/
def keptQuestions (u : Unicode) : List Text → List Text → List Text
  | _, [] => []
  | seen, question :: questions =>
    let key := normalizeQuestion u question
    if key = [] ∨ key ∈ seen then keptQuestions u seen questions
    else question.take 512 :: keptQuestions u (key :: seen) questions

theorem resolveAnswers_questions (u : Unicode) (snapshot : EvidenceSnapshot)
    (validate : Text → List String → List String) (selection : EvidenceSelection)
    (jobTitle company : Text) (position : Nat) (seen questions : List Text) :
    (resolveAnswers u snapshot validate selection jobTitle company position seen questions).map
      (·.question) = keptQuestions u seen questions := by
  induction questions generalizing position seen with
  | nil => rfl
  | cons question questions ih =>
    unfold resolveAnswers keptQuestions
    dsimp only
    split
    · exact ih ..
    · rw [List.map_cons, ih]
      rfl

theorem build_questions (env : ComposerEnv) (ctx : PreparationContext) (t : Target)
    (level : TailoringLevel) (questions : List Text) :
    (build env ctx t level questions).answers.map (·.question) =
      keptQuestions env.unicode [] questions :=
  resolveAnswers_questions ..

theorem questionKeys_eq_nil {u : Unicode} {questions : List Text} :
    questionKeys u questions = [] ↔ questions = [] := by
  simp only [questionKeys, ← List.length_eq_zero_iff, List.length_insertionSort, List.length_map]

/-! ### What a move of the opportunity leaves -/

theorem forceTo_keeps (now : Time) (co : CandidateOpportunity) (state : OpportunityState)
    (reason : String) :
    (co.forceTo now state reason).fitBand = co.fitBand ∧
      (co.forceTo now state reason).policyAdmitted = co.policyAdmitted ∧
      (co.forceTo now state reason).policyReason = co.policyReason ∧
      (co.forceTo now state reason).state = state := by
  unfold CandidateOpportunity.forceTo
  split
  · exact ⟨rfl, rfl, rfl, ‹_›⟩
  · exact ⟨rfl, rfl, rfl, rfl⟩

/-- What the preparing of an opportunity reads of it. -/
structure SameAdmission (co moved : CandidateOpportunity) : Prop where
  fitBand : moved.fitBand = co.fitBand
  admission : ∀ force, admissionProblem co force = none → admissionProblem moved force = none

theorem SameAdmission.refl (co : CandidateOpportunity) : SameAdmission co co :=
  ⟨rfl, fun _ open_ => open_⟩

theorem transition_admission {now : Time} {co moved : CandidateOpportunity}
    {target : OpportunityState} {reason : String}
    (admitted : target ∉ [OpportunityState.ineligible, .closed, .skipped, .rejected])
    (done : co.transition now target reason = .ok moved) : SameAdmission co moved := by
  unfold CandidateOpportunity.transition at done
  split at done
  · cases done
    obtain ⟨band, policy, policyReason, state⟩ := forceTo_keeps now co target reason
    refine ⟨band, fun force open_ => ?_⟩
    unfold admissionProblem at *
    rw [policy, policyReason, state, if_neg admitted]
    split at open_
    · cases open_
    · exact open_
  · cases done

theorem movePrepared_admission {now : Time} {status : PreparationStatus}
    {co moved : CandidateOpportunity} (done : movePrepared now status co = .ok moved) :
    SameAdmission co moved := by
  unfold movePrepared at done
  split at done
  · exact transition_admission (by decide) done
  · split at done
    · exact transition_admission (by decide) done
    · cases done
      exact .refl co

theorem moveTarget_target {now : Time} {db db' : PreparationTables} {co : OpportunityId}
    {status : PreparationStatus} {t : Target} (found : db.targets co = some t)
    (done : db.moveTarget now co status = .ok db') :
    ∃ moved, db'.targets co = some { t with co := moved } ∧ SameAdmission t.co moved := by
  unfold PreparationTables.moveTarget at done
  rw [found] at done
  obtain ⟨moved, made, stored⟩ := bind_ok.mp done
  cases stored
  exact ⟨moved, if_pos rfl, movePrepared_admission made⟩

/-! ### What a call comes to -/

def Prepared.row? : Prepared → Option PreparationRow
  | .blocked _ => none
  | .reused row => some row
  | .created row _ => some row

section Call
variable (env : ComposerEnv) (ctx : PreparationContext)

/-- The inputs of the package that a call is for. -/
def inputsFor (t : Target) (previous : Option PreparationRow) (options : PrepareOptions) : Inputs :=
  fingerprint env ctx t (options.level.getD (ctx.policy.level t.co.fitBand))
    (questionsFor env previous options.questions)

variable {env ctx} {now : Time} {db : PreparationTables} {id : PreparationId} {co : OpportunityId}
  {t : Target} {previous : Option PreparationRow} {options : PrepareOptions}

/-- The stored row of a version, and what was built for it. -/
theorem prepareTarget_came {result : Prepared} {row : PreparationRow}
    (made : prepareTarget env ctx now db id co t previous options = .ok result)
    (comes : result.row? = some row) :
    admissionProblem t.co options.force = none ∧ row.inputs = inputsFor env ctx t previous options ∧
      ((previous.filter (reusable · options.force (inputsFor env ctx t previous options)) =
          some row ∧ result = .reused row) ∨
        (previous.filter (reusable · options.force (inputsFor env ctx t previous options)) = none ∧
          (∃ built, row = nextVersion id co previous (inputsFor env ctx t previous options) built ∧
            built = build env ctx t (options.level.getD (ctx.policy.level t.co.fitBand))
              (questionsFor env previous options.questions)) ∧
          ∃ db', result = .created row db' ∧ persist now db previous row = .ok db')) := by
  unfold prepareTarget at made
  dsimp only at made
  split at made
  · cases made
    cases comes
  · rename_i admitted
    refine ⟨admitted, ?_⟩
    split at made
    · rename_i p found
      cases made
      cases comes
      obtain ⟨-, reused⟩ := Option.filter_eq_some_iff.mp found
      simp only [reusable, Bool.and_eq_true, decide_eq_true_eq] at reused
      exact ⟨reused.1.1.2, .inl ⟨found, rfl⟩⟩
    · rename_i stale
      obtain ⟨stored, persisted, same⟩ := bind_ok.mp made
      cases same
      cases comes
      exact ⟨rfl, .inr ⟨stale, ⟨_, rfl, rfl⟩, stored, rfl, persisted⟩⟩

/-- A call returns the latest version exactly when it may be reused. -/
theorem prepareTarget_reused {row : PreparationRow}
    (admitted : admissionProblem t.co options.force = none) :
    prepareTarget env ctx now db id co t (some row) options = .ok (.reused row) ↔
      reusable row options.force (inputsFor env ctx t (some row) options) = true := by
  unfold prepareTarget
  dsimp only
  rw [admitted]
  dsimp only
  by_cases reused : reusable row options.force (inputsFor env ctx t (some row) options) = true
  · rw [Option.filter_some]
    unfold inputsFor at reused
    simp only [reused, if_true, inputsFor]
  · rw [Option.filter_some]
    unfold inputsFor at reused
    simp only [reused, inputsFor, Bool.false_eq_true, if_false, iff_false]
    intro created
    obtain ⟨stored, -, same⟩ := bind_ok.mp created
    cases same

theorem supersede_keeps (r : PreparationRow) : KeepsVersion r r.supersede := by
  unfold PreparationRow.supersede
  split
  · exact ⟨rfl, rfl, rfl⟩
  · exact .refl r

theorem mem_superseded {q : PreparationRow} (member : q ∈ (superseded db previous).rows) :
    ∃ r ∈ db.rows, q = r ∨ q = r.supersede := by
  cases previous with
  | none => exact ⟨q, member, .inl rfl⟩
  | some p =>
    obtain ⟨r, inside, ⟨-, same⟩ | ⟨-, same⟩⟩ := PreparationTables.mem_updateRow member
    · exact ⟨r, inside, .inr same⟩
    · exact ⟨r, inside, .inl same⟩

/-- A version that follows the newest one is the latest. -/
theorem latest_persist {row : PreparationRow} {db' : PreparationTables}
    (newest : Newest db row.co previous)
    (next : row.version = (previous.map (·.version + 1)).getD 1)
    (stored : persist now db previous row = .ok db') : db'.latest row.co = some row := by
  have rows := persist_rows stored
  have member : row ∈ db'.rows := rows ▸ List.mem_concat_self
  have last := latest_newest db' row.co
  cases found : db'.latest row.co with
  | none =>
    rw [found] at last
    exact absurd rfl (last row member)
  | some p =>
    rw [found] at last
    obtain ⟨inside, here, top⟩ := last
    rw [rows, List.mem_append, List.mem_singleton] at inside
    rcases inside with old | rfl
    · obtain ⟨r, was, kept⟩ := mem_superseded old
      have keeps : KeepsVersion r p := by
        rcases kept with rfl | rfl
        · exact .refl _
        · exact supersede_keeps r
      have above := top row member rfl
      have same : r.co = row.co := keeps.co.symm.trans here
      cases previous with
      | none => exact absurd same (newest r was)
      | some previous =>
        have below := newest.2.2 r was same
        rw [keeps.version, next] at above
        simp only [Option.map_some, Option.getD_some] at above
        omega
    · rfl

/-! ### Over a run -/

/-- A version was built at the level that its inputs name, and answers nothing when they name no
question. -/
structure PreparationRow.Coherent (r : PreparationRow) : Prop where
  level : r.built.level = r.inputs.tailoringLevel
  silent : r.inputs.questions = [] → r.answers = []

def Coherent (db : PreparationTables) : Prop := ∀ r ∈ db.rows, r.Coherent

theorem Coherent.of_rows {db' : PreparationTables} (same : db'.rows = db.rows)
    (coherent : Coherent db) : Coherent db' := by
  intro r member
  exact coherent r (same ▸ member)

theorem Coherent.updateRow (coherent : Coherent db) {f : PreparationRow → PreparationRow}
    (keeps : ∀ r ∈ db.rows, (f r).Coherent) :
    Coherent (db.updateRow id f) := by
  intro q member
  obtain ⟨r, inside, ⟨-, rfl⟩ | ⟨-, rfl⟩⟩ := PreparationTables.mem_updateRow member
  · exact keeps r inside
  · exact coherent q inside

theorem PreparationRow.Coherent.supersede {r : PreparationRow} (coherent : r.Coherent) :
    r.supersede.Coherent := by
  unfold PreparationRow.supersede
  split
  · exact ⟨coherent.level, coherent.silent⟩
  · exact coherent

theorem Coherent.created {row : PreparationRow} {db' : PreparationTables} (coherent : Coherent db)
    (made : prepareTarget env ctx now db id co t previous options = .ok (.created row db')) :
    Coherent db' := by
  obtain ⟨-, -, ⟨-, reused⟩ | ⟨-, ⟨built, rfl, rfl⟩, _, created, stored⟩⟩ :=
    prepareTarget_came made rfl
  · cases reused
  · cases created
    intro q member
    rw [persist_rows stored, List.mem_append, List.mem_singleton] at member
    rcases member with old | rfl
    · obtain ⟨r, inside, rfl | rfl⟩ := mem_superseded old
      · exact coherent q inside
      · exact (coherent r inside).supersede
    · refine ⟨rfl, fun none_ => ?_⟩
      have nothing : questionsFor env previous options.questions = [] :=
        questionKeys_eq_nil.mp none_
      change (build env ctx t _ (questionsFor env previous options.questions)).answers = []
      rw [nothing]
      rfl

theorem Coherent.prepareItem {s : PreparationPass} {every : Nat} {item : BatchItem}
    (coherent : Coherent s.tables.stored ∧ Coherent s.tables.working) :
    Coherent (prepareItem env ctx now options every s item).tables.stored ∧
      Coherent (prepareItem env ctx now options every s item).tables.working := by
  unfold RangeApply.prepareItem
  split
  · exact coherent
  · exact ⟨coherent.1, coherent.1⟩
  · rename_i result turn
    cases result with
    | blocked message => exact coherent
    | reused row => exact coherent
    | created row db' =>
      obtain ⟨t, made⟩ := turn_created turn
      have new := coherent.2.created made
      simp only [PreparationPass.settle, Batch.save]
      split
      · exact ⟨new, new⟩
      · exact ⟨coherent.1, new⟩

theorem Coherent.prepareAll {s : PreparationPass} {every : Nat} (items : List BatchItem)
    (coherent : Coherent s.tables.stored ∧ Coherent s.tables.working) :
    Coherent (items.foldl (RangeApply.prepareItem env ctx now options every) s).tables.working := by
  induction items generalizing s with
  | nil => exact coherent.2
  | cons item items ih => exact ih (Coherent.prepareItem coherent)

theorem Coherent.after {s : PreparationState} (coherent : Coherent s.tables)
    {result : Res PreparationTables} (kept : ∀ db', result = .ok db' → Coherent db') :
    Coherent (s.after result).tables := by
  cases result with
  | error e => exact coherent
  | ok db' => exact kept db' rfl

theorem Coherent.apply {s : PreparationState} (coherent : Coherent s.tables) (op : VersionOp) :
    Coherent (s.apply env op).tables := by
  cases op with
  | world targets => exact coherent
  | prepare ctx now co options =>
    simp only [PreparationState.apply]
    cases made : s.tables.prepare env ctx now s.nextId co options with
    | error e => exact coherent
    | ok result =>
      cases result with
      | blocked message => exact coherent
      | reused row => exact coherent
      | created row db' =>
        unfold PreparationTables.prepare at made
        split at made
        · cases made
        · exact coherent.created made
  | prepareMany ctx now options every items => exact Coherent.prepareAll items ⟨coherent, coherent⟩
  | answerQuestion now id position text =>
    apply coherent.after
    intro db' done
    unfold PreparationTables.answerQuestion at done
    obtain ⟨row, found, done⟩ := bind_ok.mp done
    have kept : (row.answered position (Text.strip text)).Coherent := by
      obtain ⟨level, silent⟩ := coherent row (require_ok found).1
      refine ⟨level, fun none_ => ?_⟩
      simp only [PreparationRow.answered, silent none_, List.map_nil]
    split at done
    · cases done
    · split at done
      · cases done
      · dsimp only at done
        split at done
        · cases done
          exact coherent.updateRow fun _ _ => kept
        · split at done
          · cases done
            exact coherent.updateRow fun _ _ => kept
          · apply Coherent.of_rows (PreparationTables.rows_moveTarget done)
            exact coherent.updateRow fun _ _ => ⟨kept.level, kept.silent⟩
  | approve now id =>
    apply coherent.after
    intro db' done
    unfold PreparationTables.approve at done
    obtain ⟨row, found, done⟩ := bind_ok.mp done
    split at done
    · cases done
    · split at done
      · cases done
      · apply Coherent.of_rows (PreparationTables.rows_moveTarget done)
        apply coherent.updateRow
        intro r member
        refine ⟨(coherent r member).level, fun none_ => ?_⟩
        simp only [PreparationRow.approved, (coherent r member).silent none_, List.map_nil]
  | reject id =>
    apply coherent.after
    intro db' done
    obtain ⟨row, found, same⟩ := bind_ok.mp done
    cases same
    exact coherent.updateRow fun r member => ⟨(coherent r member).level, (coherent r member).silent⟩
  | invalidate id =>
    apply coherent.after
    intro db' done
    obtain ⟨row, found, same⟩ := bind_ok.mp done
    cases same
    exact coherent.updateRow fun r member => ⟨(coherent r member).level, (coherent r member).silent⟩

theorem run_coherent {s : PreparationState} (coherent : Coherent s.tables) (ops : List VersionOp) :
    Coherent (s.run env ops).tables := by
  induction ops generalizing s with
  | nil => exact coherent
  | cons op ops ih => exact ih (coherent.apply op)

end Call

/-! ### Preparing twice -/

section Twice
variable (env : ComposerEnv) (ctx : PreparationContext) (now : Time) (co : OpportunityId)
  (options : PrepareOptions)

/-- A call, in a state that was reached, came to a row that may be reused. -/
structure FirstCall (s : PreparationState) (row : PreparationRow) : Prop where
  reached : ∃ targets ops, s = (PreparationState.start targets).run env ops
  came : ∃ result, s.tables.prepare env ctx now s.nextId co options = .ok result ∧
    result.row? = some row
  current : row.status ≠ .failed ∧ row.status ≠ .invalidated

/-- The next call returns the row, also when it leaves the questions out, and the row is fresh. -/
structure PreparedAgain (s : PreparationState) (row : PreparationRow) : Prop where
  same : s.tables.prepare env ctx now s.nextId co options = .ok (.reused row)
  default : s.tables.prepare env ctx now s.nextId co { options with questions := none } =
    .ok (.reused row)
  fresh : s.tables.staleInputs env ctx row = .ok []

/-- The questions that a call asks. -/
def asked (db : PreparationTables) : List Text :=
  questionsFor env (db.latest co) options.questions

/-- The questions on the answers of the package: those of the version that is reused, or those that
are kept of what is asked. -/
def answeredQuestions (db : PreparationTables) : List Text :=
  match (db.targets co).bind fun t =>
    (db.latest co).filter
      (reusable · options.force (inputsFor env ctx t (db.latest co) options)) with
  | some row => row.answers.map (·.question)
  | none => keptQuestions env.unicode [] (asked env co options db)

/-- The questions are the standard ones or come back from the answers with the keys they had, and
the keys are keys of themselves. -/
structure Repeatable (db : PreparationTables) : Prop where
  unforced : options.force = false
  answered : questionKeys env.unicode (asked env co options db) =
      questionKeys env.unicode defaultQuestions ∨
    questionKeys env.unicode (answeredQuestions env ctx co options db) =
      questionKeys env.unicode (asked env co options db)
  stable : questionKeys env.unicode (questionKeys env.unicode (asked env co options db)) =
    questionKeys env.unicode (asked env co options db)

variable {env ctx now co options} {s : PreparationState} {row : PreparationRow}

/-- What is there after the first call. -/
structure FirstDone (env : ComposerEnv) (ctx : PreparationContext) (co : OpportunityId)
    (options : PrepareOptions) (before after : PreparationTables) (row : PreparationRow)
    (t : Target) (moved : CandidateOpportunity) : Prop where
  target : after.targets co = some { t with co := moved }
  kept : SameAdmission t.co moved
  admitted : admissionProblem t.co options.force = none
  latest : after.latest co = some row
  here : row.co = co
  inputs : row.inputs = inputsFor env ctx t (before.latest co) options
  level : row.built.level = options.level.getD (ctx.policy.level t.co.fitBand)
  answers : row.answers.map (·.question) = answeredQuestions env ctx co options before
  silent : row.inputs.questions = [] → row.answers.map (·.question) = []

theorem FirstCall.done (first : FirstCall env ctx now co options s row) :
    ∃ t moved, FirstDone env ctx co options s.tables
      (s.apply env (.prepare ctx now co options)).tables row t moved := by
  obtain ⟨⟨targets, ops, rfl⟩, ⟨result, made, comes⟩, -⟩ := first
  generalize reached : (PreparationState.start targets).run env ops = s at *
  have coherent : Coherent s.tables := by
    rw [← reached]
    exact run_coherent (fun r member => by cases member) ops
  simp only [PreparationState.apply, made]
  unfold PreparationTables.prepare at made
  split at made
  · cases made
  · rename_i t found
    have newest := latest_newest s.tables co
    obtain ⟨admitted, inputs, ⟨reused, rfl⟩ | ⟨stale, ⟨built, built_, same⟩, db', rfl, stored⟩⟩ :=
      prepareTarget_came made comes
    · obtain ⟨latest, -⟩ := Option.filter_eq_some_iff.mp reused
      rw [latest] at newest
      refine ⟨t, t.co, found, .refl t.co, admitted, latest, newest.2.1, inputs, ?_, ?_, ?_⟩
      · rw [(coherent row newest.1).level, inputs]
        rfl
      · simp only [answeredQuestions, found, Option.bind_some, reused]
      · intro none_
        rw [(coherent row newest.1).silent none_]
        rfl
    · subst built_ same
      obtain ⟨moved, target, kept⟩ := moveTarget_target (by
        cases s.tables.latest co <;> exact found) stored
      refine ⟨t, moved, target, kept, admitted, latest_persist newest rfl stored, rfl, rfl, rfl,
        (build_questions ..).trans ?_, fun none_ => (build_questions ..).trans ?_⟩
      · simp only [answeredQuestions, found, Option.bind_some, stale]
        rfl
      · rw [questionKeys_eq_nil.mp none_]
        rfl

namespace FirstDone
variable {before after : PreparationTables} {t : Target} {moved : CandidateOpportunity}

/-- A later fingerprint differs in the questions only. -/
theorem fingerprint_again (done : FirstDone env ctx co options before after row t moved)
    (questions : List Text) :
    fingerprint env ctx { t with co := moved } row.built.level questions =
      { row.inputs with questions := questionKeys env.unicode questions } := by
  rw [done.inputs, done.level]
  simp only [inputsFor, fingerprint, chooseVariant, Target.jobTitle, Target.matchedKeys,
    Target.matchFingerprint, done.kept.fitBand]

theorem keys (done : FirstDone env ctx co options before after row t moved) :
    row.inputs.questions = questionKeys env.unicode (asked env co options before) := by
  rw [done.inputs]
  rfl

/-- The next call returns the row when its questions have the stored keys. -/
theorem again (done : FirstDone env ctx co options before after row t moved)
    (current : row.status ≠ .failed ∧ row.status ≠ .invalidated) (id : PreparationId)
    (questions : Option (List Text)) :
    after.prepare env ctx now id co { options with questions } = .ok (.reused row) ↔
      options.force = false ∧
        questionKeys env.unicode (questionsFor env (some row) questions) =
          row.inputs.questions := by
  unfold PreparationTables.prepare
  rw [done.target, done.latest]
  dsimp only
  rw [prepareTarget_reused (done.kept.admission _ done.admitted)]
  have inputs : inputsFor env ctx { t with co := moved } (some row) { options with questions } =
      { row.inputs with
        questions := questionKeys env.unicode (questionsFor env (some row) questions) } := by
    rw [← done.fingerprint_again]
    simp only [inputsFor, done.level, done.kept.fitBand]
  rw [inputs]
  simp only [reusable, Bool.and_eq_true, decide_eq_true_eq, Bool.not_eq_true']
  constructor
  · rintro ⟨⟨⟨unforced, equal⟩, -⟩, -⟩
    exact ⟨unforced, (congrArg Inputs.questions equal).symm⟩
  · rintro ⟨unforced, equal⟩
    rw [equal]
    exact ⟨⟨⟨unforced, rfl⟩, by simpa using current.1⟩, by simpa using current.2⟩

/-- The questions of a call that leaves them out. -/
theorem default_keys (done : FirstDone env ctx co options before after row t moved) :
    questionKeys env.unicode (questionsFor env (some row) none) = row.inputs.questions ↔
      questionKeys env.unicode (asked env co options before) =
          questionKeys env.unicode defaultQuestions ∨
        questionKeys env.unicode (answeredQuestions env ctx co options before) =
          questionKeys env.unicode (asked env co options before) := by
  simp only [questionsFor, done.keys, ne_eq, ite_not, done.answers]
  split
  · rename_i standard
    exact ⟨fun _ => .inl standard, fun _ => standard.symm⟩
  · rename_i own
    exact ⟨.inr, fun either => either.resolve_left own⟩

/-- The package is stale exactly when its keys are no keys of themselves. -/
theorem fresh_iff (done : FirstDone env ctx co options before after row t moved) :
    after.staleInputs env ctx row = .ok [] ↔
      questionKeys env.unicode (questionKeys env.unicode (asked env co options before)) =
        questionKeys env.unicode (asked env co options before) := by
  have current : after.currentInputs env ctx row = .ok { row.inputs with
      questions := questionKeys env.unicode row.inputs.questions } := by
    unfold PreparationTables.currentInputs
    rw [done.here, done.target]
    dsimp only
    split
    · rename_i none_
      rw [done.silent none_, none_, done.fingerprint_again]
    · rw [done.fingerprint_again]
  rw [← done.keys]
  unfold PreparationTables.staleInputs
  rw [current]
  simp only [Except.bind, bind, Inputs.changed_questions]
  by_cases stable : questionKeys env.unicode row.inputs.questions = row.inputs.questions
  · simp [stable]
  · have differs : ({ row.inputs with questions := questionKeys env.unicode row.inputs.questions }
        : Inputs) ≠ row.inputs := fun equal => stable (congrArg Inputs.questions equal)
    simp [stable, differs, neutralInputs]

end FirstDone

/-- A package just prepared is found again and fresh exactly when its questions are repeatable. -/
theorem prepared_again_iff (first : FirstCall env ctx now co options s row) :
    PreparedAgain env ctx now co options (s.apply env (.prepare ctx now co options)) row ↔
      Repeatable env ctx co options s.tables := by
  obtain ⟨t, moved, done⟩ := first.done
  constructor
  · intro again
    obtain ⟨unforced, keys⟩ := (done.again first.current _ none).mp again.default
    exact ⟨unforced, done.default_keys.mp keys, done.fresh_iff.mp again.fresh⟩
  · intro repeatable
    have default := done.default_keys.mpr repeatable.answered
    constructor
    · apply (done.again first.current _ options.questions).mpr
      refine ⟨repeatable.unforced, ?_⟩
      cases questions : options.questions with
      | none => exact default
      | some given =>
        rw [done.keys, asked, questions]
        rfl
    · exact (done.again first.current _ none).mpr ⟨repeatable.unforced, default⟩
    · exact done.fresh_iff.mpr repeatable.stable

end Twice

/-! A question that is blank. -/

def admittedTarget : OpportunityId → Option Target := fun _ =>
  some { bareTarget with
    co := { CandidateOpportunity.strong .queued with policyAdmitted := some true } }

def asking (questions : List Text) : PrepareOptions := ⟨some .l0, some questions, false⟩

/-- The status of the row that the first call comes to. -/
def firstStatus (questions : List Text) : Option PreparationStatus :=
  ((((PreparationState.start admittedTarget).tables.prepare bareEnv bareContext 0 0 0
    (asking questions)).toOption).bind Prepared.row?).map (·.status)

theorem firstCall_of_status {questions : List Text}
    (status : firstStatus questions = some .needsReview) :
    ∃ row, FirstCall bareEnv bareContext 0 0 (asking questions) (.start admittedTarget) row := by
  unfold firstStatus at status
  obtain ⟨row, came, review⟩ := Option.map_eq_some_iff.mp status
  obtain ⟨result, made, comes⟩ := Option.bind_eq_some_iff.mp came
  refine ⟨row, ⟨_, [], rfl⟩, ⟨result, ?_, comes⟩, by simp [review], by simp [review]⟩
  change (PreparationState.start admittedTarget).tables.prepare bareEnv bareContext 0 0 0
    (asking questions) = .ok result
  cases call : (PreparationState.start admittedTarget).tables.prepare bareEnv bareContext 0 0 0
      (asking questions) with
  | error e => simp [call, Except.toOption] at made
  | ok found => simpa [call, Except.toOption] using made

theorem nothing_prepared_again :
    ∃ row, PreparedAgain bareEnv bareContext 0 0 (asking [])
      ((PreparationState.start admittedTarget).apply bareEnv (.prepare bareContext 0 0 (asking [])))
      row := by
  obtain ⟨row, first⟩ := @firstCall_of_status [] (by decide +kernel)
  exact ⟨row, (prepared_again_iff first).mpr ⟨rfl, .inr (by decide +kernel), rfl⟩⟩

/-- The blank question is in the inputs and on no answer: the call that leaves the questions out
asks none, and makes a second version. -/
theorem blank_question_forgotten :
    ∃ row, FirstCall bareEnv bareContext 0 0 (asking [[' ']]) (.start admittedTarget) row ∧
      ¬PreparedAgain bareEnv bareContext 0 0 (asking [[' ']])
        ((PreparationState.start admittedTarget).apply bareEnv
          (.prepare bareContext 0 0 (asking [[' ']]))) row := by
  obtain ⟨row, first⟩ := @firstCall_of_status [[' ']] (by decide +kernel)
  refine ⟨row, first, fun again => ?_⟩
  have versions : ((((PreparationState.start admittedTarget).apply bareEnv
      (.prepare bareContext 0 0 (asking [[' ']]))).apply bareEnv
        (.prepare bareContext 0 0 { asking [[' ']] with questions := none })).tables.rows.map
          (·.version)) = [1, 2] := by decide +kernel
  have kept : (((PreparationState.start admittedTarget).apply bareEnv
      (.prepare bareContext 0 0 (asking [[' ']]))).tables.rows.map (·.version)) = [1] := by
    decide +kernel
  rw [PreparationState.apply, again.default] at versions
  exact absurd (kept.symm.trans versions) (by decide)

end RangeApply
