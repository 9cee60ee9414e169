import RangeApply.Mapping
import RangeApply.Overlay
import RangeApply.Snapshots

/-! Every history of the forms of an application: looks of executors and answers of the candidate,
in any order. Each stored field is a record that the mapping refreshes until the candidate writes
over it. -/
namespace RangeApply.Captures
open Mapping

inductive FormEvent (δ : Type)
  | captured (fields : List FormField) (package : ExecutionPackage)
  | answered (fingerprint : δ) (position : ℕ) (text : Text) (status : ApplicationStatus)

section History
variable {δ : Type} [DecidableEq δ] (env : FormEnv) (digest : List FieldShape → δ)

/-- What is stored after an event; a call that raises stores nothing. -/
def step (forms : Snapshots δ) : FormEvent δ → Snapshots δ
  | .captured fields package => (captureForm env digest fields package forms).1
  | .answered fingerprint position text status =>
    match answerField env fingerprint position text status forms with
    | .ok (forms, _) => forms
    | .error _ => forms

def run (events : List (FormEvent δ)) : Snapshots δ := events.foldl (step env digest) .empty

/-- What an event is to one field of one form. -/
def mark (fingerprint : δ) (i : ℕ) : FormEvent δ → Overlay.Mark (FormField × FieldAnswer) Text
  | .captured fields package =>
    if formFingerprint env digest fields = fingerprint then
      match fields[i]? with
      | some field => .shown (field, mapOne env package field)
      | none => .passes
    else .passes
  | .answered form position text _ =>
    if form = fingerprint ∧ position = i ∧ Text.strip text ≠ [] then .said (Text.strip text)
    else .passes

/-- The stored field, by its own history. -/
def rowOf (cell : Overlay.Cell (FormField × FieldAnswer) Text) : FormFieldRow :=
  let row := FormFieldRow.new cell.first.1 cell.last.2
  match cell.word with
  | none => row
  | some text => row.say env.unicode text

/-- No other form that was captured has the fingerprint of this one. -/
def Faithful (shape : List FieldShape) (events : List (FormEvent δ)) : Prop :=
  ∀ fields package, .captured fields package ∈ events →
    formFingerprint env digest fields = digest shape → fields.map (·.shape env.unicode) = shape

end History

/-! ### One step -/

section Step
variable {δ : Type} [DecidableEq δ] {env : FormEnv} {digest : List FieldShape → δ}
variable {forms : Snapshots δ} {fingerprint : δ} {fields : List FormField}
variable {package : ExecutionPackage} {i : ℕ}

theorem mark_at {field : FormField} (same : formFingerprint env digest fields = fingerprint)
    (here : fields[i]? = some field) :
    mark env digest fingerprint i (.captured fields package) =
      .shown (field, mapOne env package field) := by
  simp [mark, same, here]

theorem mark_past (same : formFingerprint env digest fields = fingerprint)
    (past : fields[i]? = none) :
    mark env digest fingerprint i (.captured fields package) = .passes := by
  simp [mark, same, past]

theorem get_captured :
    (step env digest forms (.captured fields package)).get fingerprint =
      if formFingerprint env digest fields = fingerprint then
        some (captureRows fields (mapFields env fields package) (forms.get fingerprint))
      else forms.get fingerprint := by
  by_cases same : formFingerprint env digest fields = fingerprint
  · subst same
    rw [if_pos rfl]
    exact Table.get_set_self _ _ _
  · rw [if_neg same]
    exact Table.get_set_other _ _ (Ne.symm same)

theorem get_answered (form : δ) (position : ℕ) (text : Text) (status : ApplicationStatus) :
    (step env digest forms (.answered form position text status)).get fingerprint =
      if form = fingerprint ∧ Text.strip text ≠ [] then
        (forms.get fingerprint).map (·.modify position (·.say env.unicode (Text.strip text)))
      else forms.get fingerprint := by
  dsimp only [step, answerField]
  cases here : forms.get form with
  | none =>
    by_cases same : form = fingerprint
    · subst same
      simp [here]
    · simp [same]
  | some rows =>
    by_cases past : rows.length ≤ position
    · by_cases same : form = fingerprint
      · subst same
        simp [past, here, List.modify_eq_self past]
      · simp [past, same]
    by_cases blank : Text.strip text = []
    · simp [past, blank]
    by_cases same : form = fingerprint
    · subst same
      simp [past, blank, here, Table.get_put_self here]
    · simp [past, blank, same, Table.get_put_other forms _ (Ne.symm same)]

end Step

/-! ### Rows -/

section Rows
variable {env : FormEnv} {first earlier field : FormField} {before package : ExecutionPackage}

theorem category_of_key {u : Unicode} {f g : FormField}
    (same : normalizeQuestion u f.label = normalizeQuestion u g.label) :
    (classifyQuestion u f.label).category = (classifyQuestion u g.label).category := by
  unfold classifyQuestion
  rw [same]

/-- A later look at a field the candidate has not answered leaves what a first look would. -/
theorem new_refresh (then_ : earlier.shape env.unicode = field.shape env.unicode) :
    (FormFieldRow.new first (mapOne env before earlier)).refresh (some (mapOne env package field)) =
      FormFieldRow.new first (mapOne env package field) := by
  have old := mapOne_mapped env before earlier
  have fresh := mapOne_mapped env package field
  have keys : normalizeQuestion env.unicode earlier.label =
      normalizeQuestion env.unicode field.label := congrArg FieldShape.label then_
  have key : (mapOne env package field).questionKey = (mapOne env before earlier).questionKey :=
    fresh.about.questionKey.trans (keys.symm.trans old.about.questionKey.symm)
  have category : (mapOne env package field).category = (mapOne env before earlier).category := by
    rw [fresh.about.category, old.about.category, category_of_key keys]
  have machine : (FormFieldRow.new first (mapOne env before earlier)).source ≠ .user := old.machine
  unfold FormFieldRow.refresh
  rw [if_neg machine]
  simp [FormFieldRow.new, Option.filter, key, category]

theorem new_answer (same : first.shape env.unicode = field.shape env.unicode) :
    (FormFieldRow.new first (mapOne env package field)).toFieldAnswer =
      { mapOne env package field with
        label := first.label.take 512, reason := clip 256 (mapOne env package field).reason } := by
  have about := (mapOne_mapped env package field).about
  have externalId : first.externalId = field.externalId := congrArg FieldShape.id same
  have fieldType : first.fieldType = field.fieldType := congrArg FieldShape.type same
  have required : first.required = field.required := congrArg FieldShape.required same
  simp [FormFieldRow.new, externalId, fieldType, required, about.externalId, about.fieldType,
    about.required]

theorem say_refresh (row : FormFieldRow) (text : Text) (fresh : Option FieldAnswer) :
    (row.say env.unicode text).refresh fresh = row.say env.unicode text :=
  if_pos rfl

theorem say_say (u : Unicode) (row : FormFieldRow) (text more : Text) :
    (row.say u text).say u more = row.say u more := by
  unfold FormFieldRow.say
  simp only [FormFieldRow.field]
  split <;> rfl

end Rows

/-! ### The run -/

section Run
variable {δ : Type} [DecidableEq δ] {env : FormEnv} {digest : List FieldShape → δ}
variable {shape : List FieldShape} {events : List (FormEvent δ)}

theorem shape_at {fields : List FormField} {i : ℕ} {field : FormField}
    (same : fields.map (·.shape env.unicode) = shape) (here : fields[i]? = some field) :
    shape[i]? = some (field.shape env.unicode) := by
  rw [← same, List.getElem?_map, here, Option.map_some]

/-- Every showing of a field has its shape, and is what the mapping said then. -/
theorem shown_at (faithful : Faithful env digest shape events) {i : ℕ} {f : FormField}
    {a : FieldAnswer}
    (member : (f, a) ∈ Overlay.shows (events.map (mark env digest (digest shape) i))) :
    shape[i]? = some (f.shape env.unicode) ∧ ∃ package, a = mapOne env package f := by
  obtain ⟨m, among, is⟩ := List.mem_filterMap.mp member
  obtain ⟨event, happened, rfl⟩ := List.mem_map.mp among
  cases event with
  | captured fields package =>
    unfold mark at is
    dsimp only at is
    split at is
    · next same =>
      cases here : fields[i]? with
      | none => simp [here, Overlay.Mark.shown?] at is
      | some field =>
        simp only [here, Overlay.Mark.shown?, Option.some.injEq, Prod.mk.injEq] at is
        obtain ⟨rfl, rfl⟩ := is
        exact ⟨shape_at (faithful fields package happened same) here, package, rfl⟩
    · cases is
  | answered form position text status =>
    unfold mark at is
    dsimp only at is
    split at is <;> cases is

/-- A form is stored with all its fields, each as its own history says. -/
structure Kept (env : FormEnv) (digest : List FieldShape → δ) (shape : List FieldShape)
    (events : List (FormEvent δ)) (stored : Option (List FormFieldRow)) : Prop where
  whole : ∀ rows, stored = some rows → rows.length = shape.length
  rows : ∀ i, stored.bind (·[i]?) =
    (Overlay.run (events.map (mark env digest (digest shape) i))).map (rowOf env)

theorem Kept.captured {stored : Option (List FormFieldRow)}
    (kept : Kept env digest shape events stored) (faithful : Faithful env digest shape events)
    {fields : List FormField} (package : ExecutionPackage)
    (same : formFingerprint env digest fields = digest shape)
    (shapes : fields.map (·.shape env.unicode) = shape) :
    Kept env digest shape (events ++ [.captured fields package])
      (some (captureRows fields (mapFields env fields package) stored)) := by
  have length : fields.length = shape.length := by rw [← shapes, List.length_map]
  refine ⟨fun rows here => ?_, fun i => ?_⟩
  · obtain rfl := Option.some.inj here
    cases stored with
    | none => simp [captureRows, mapFields, length]
    | some rows => simpa [captureRows] using kept.whole rows rfl
  have before := kept.rows i
  have among (a : FormField × FieldAnswer)
      (member : a ∈ Overlay.shows (events.map (mark env digest (digest shape) i))) :=
    shown_at faithful member
  rw [List.map_append, List.map_singleton, Overlay.run_concat, Option.bind_some]
  generalize at_ : Overlay.run (events.map (mark env digest (digest shape) i)) = cell at before ⊢
  have all := fun c (here : cell = some c) => Overlay.run_all among (at_.trans here)
  cases stored with
  | none =>
    have fresh : cell = none := by simpa using before.symm
    subst fresh
    cases here : fields[i]? with
    | none => simp [captureRows, List.getElem?_zipWith, here, mark_past same here]
    | some field =>
      rw [mark_at same here]
      simp [captureRows, List.getElem?_zipWith, mapFields, here, Overlay.step, rowOf]
  | some rows =>
    rw [Option.bind_some] at before
    cases here : fields[i]? with
    | none =>
      have past : rows[i]? = none := by
        rw [List.getElem?_eq_none_iff] at here ⊢
        rw [kept.whole rows rfl]
        omega
      rw [past] at before
      have fresh : cell = none := by simpa using before.symm
      subst fresh
      simp [captureRows, past, mark_past same here]
    | some field =>
      rw [mark_at same here]
      have fresh : (mapFields env fields package)[i]? = some (mapOne env package field) := by
        rw [mapFields, List.getElem?_map, here, Option.map_some]
      rw [captureRows, List.getElem?_mapIdx, before, fresh]
      cases cell with
      | none =>
        have inside : i < rows.length := by
          rw [kept.whole rows rfl, ← length]
          exact (List.getElem?_eq_some_iff.mp here).1
        rw [List.getElem?_eq_getElem inside] at before
        cases before
      | some c =>
        obtain ⟨⟨first, a₁⟩, ⟨earlier, a₀⟩, word⟩ := c
        obtain ⟨-, then_, package₀, last⟩ := all _ rfl
        dsimp only at then_ last
        subst last
        have alike : earlier.shape env.unicode = field.shape env.unicode :=
          Option.some.inj (then_.symm.trans (shape_at shapes here))
        cases word with
        | none => exact congrArg some (new_refresh alike)
        | some text => exact congrArg some (say_refresh _ text _)

theorem Kept.other {stored : Option (List FormFieldRow)}
    (kept : Kept env digest shape events stored) {event : FormEvent δ}
    (passes : ∀ i, mark env digest (digest shape) i event = .passes) :
    Kept env digest shape (events ++ [event]) stored := by
  refine ⟨kept.whole, fun i => (kept.rows i).trans ?_⟩
  rw [List.map_append, List.map_singleton, Overlay.run_concat, passes, Overlay.step_passes]

theorem Kept.answered {stored : Option (List FormFieldRow)}
    (kept : Kept env digest shape events stored) (position : ℕ) {text : Text}
    (status : ApplicationStatus) (some_ : Text.strip text ≠ []) :
    Kept env digest shape (events ++ [.answered (digest shape) position text status])
      (stored.map (·.modify position (·.say env.unicode (Text.strip text)))) := by
  refine ⟨fun rows here => ?_, fun i => ?_⟩
  · obtain ⟨rows, was, rfl⟩ := Option.map_eq_some_iff.mp here
    rw [List.length_modify]
    exact kept.whole rows was
  have before := kept.rows i
  rw [List.map_append, List.map_singleton, Overlay.run_concat]
  generalize Overlay.run (events.map (mark env digest (digest shape) i)) = cell at before ⊢
  have at_ : (stored.map (·.modify position (·.say env.unicode (Text.strip text)))).bind (·[i]?) =
      (stored.bind (·[i]?)).map fun row =>
        if position = i then row.say env.unicode (Text.strip text) else row := by
    cases stored with
    | none => rfl
    | some rows =>
      simp only [Option.map_some, Option.bind_some, List.getElem?_modify]
      cases rows[i]? <;> by_cases here : position = i <;> simp [here]
  rw [at_, before]
  unfold mark
  by_cases here : position = i
  · simp only [here, some_, true_and, ne_eq, not_false_eq_true, if_true]
    cases cell with
    | none => rfl
    | some c =>
      obtain ⟨first, last, word⟩ := c
      cases word with
      | none => rfl
      | some earlier => exact congrArg some (say_say _ _ _ _)
  · simp [here, Function.comp_def]

theorem kept_run (events : List (FormEvent δ)) (faithful : Faithful env digest shape events) :
    Kept env digest shape events ((run env digest events).get (digest shape)) := by
  induction events using List.reverseRecOn with
  | nil => exact ⟨nofun, fun _ => rfl⟩
  | append_singleton events event ih =>
    have kept := ih fun fields package member =>
      faithful fields package (List.mem_append_left _ member)
    rw [run, List.foldl_concat]
    change Kept _ _ _ _ ((step env digest (run env digest events) event).get (digest shape))
    cases event with
    | captured fields package =>
      rw [get_captured]
      split
      · next same =>
        have shapes := faithful fields package (by simp) same
        exact kept.captured (fun f p m => faithful f p (List.mem_append_left _ m)) package same
          shapes
      · next other => exact kept.other fun i => if_neg other
    | answered form position text status =>
      rw [get_answered]
      split
      · next same =>
        obtain ⟨rfl, some_⟩ := same
        exact kept.answered position status some_
      · next other =>
        exact kept.other fun i => if_neg fun same => other ⟨same.1, same.2.2⟩

/-- What is returned for a field with this history when it is mapped afresh: what the mapping says,
until the candidate has spoken; then the candidate's last word, under the field as it was first
shown. -/
def told (env : FormEnv) (marks : List (Overlay.Mark (FormField × FieldAnswer) Text))
    (field : FormField) (fresh : FieldAnswer) : FieldAnswer :=
  let first := (Overlay.shows marks).head?.getD (field, fresh)
  match (Overlay.words marks).getLast? with
  | none => { fresh with label := first.1.label.take 512, reason := clip 256 fresh.reason }
  | some text =>
    let kept := (Overlay.shows (Overlay.untouched marks)).getLast?.getD first
    ((FormFieldRow.new first.1 kept.2).say env.unicode text).toFieldAnswer

/-- Every showing is of a field like this one. -/
def Alike (env : FormEnv) (marks : List (Overlay.Mark (FormField × FieldAnswer) Text))
    (field : FormField) : Prop :=
  ∀ shown ∈ Overlay.shows marks, shown.1.shape env.unicode = field.shape env.unicode

theorem Alike.first {marks : List (Overlay.Mark (FormField × FieldAnswer) Text)} {field : FormField}
    (alike : Alike env marks field) (fresh : FieldAnswer) :
    ((Overlay.shows marks).head?.getD (field, fresh)).1.shape env.unicode =
      field.shape env.unicode := by
  cases first : (Overlay.shows marks).head? with
  | none => rfl
  | some shown => exact alike shown (List.mem_of_mem_head? first)

theorem told_shown {marks : List (Overlay.Mark (FormField × FieldAnswer) Text)} {field : FormField}
    (package : ExecutionPackage) (alike : Alike env marks field) :
    ((Overlay.run (marks ++ [.shown (field, mapOne env package field)])).map (rowOf env)).map
        (·.toFieldAnswer) = some (told env marks field (mapOne env package field)) := by
  have first := alike.first (mapOne env package field)
  rw [Overlay.run_shown, told]
  cases (Overlay.words marks).getLast? with
  | none => exact congrArg some (new_answer first)
  | some text => rfl

theorem alike_marks {fields : List FormField}
    (faithful : Faithful env digest (fields.map (·.shape env.unicode)) events) {i : ℕ}
    {field : FormField} (here : fields[i]? = some field) :
    Alike env (events.map (mark env digest (formFingerprint env digest fields) i)) field := by
  intro shown member
  have at_ := (shown_at faithful member).1
  rw [List.getElem?_map, here] at at_
  exact (Option.some.inj at_).symm

/-- After any looks and answers, a look at a form returns for each field what the field's own
history tells. -/
theorem captured_told (events : List (FormEvent δ)) (fields : List FormField)
    (package : ExecutionPackage)
    (faithful : Faithful env digest (fields.map (·.shape env.unicode)) events) :
    (captureForm env digest fields package (run env digest events)).2 =
      fields.mapIdx fun i field =>
        told env (events.map (mark env digest (formFingerprint env digest fields) i)) field
          (mapOne env package field) := by
  have later := (kept_run events faithful).captured faithful package rfl rfl
  refine List.ext_getElem? fun i => ?_
  have row := later.rows i
  change _ = Option.map (rowOf env) (Overlay.run
    ((events ++ [FormEvent.captured fields package]).map
      (mark env digest (formFingerprint env digest fields) i))) at row
  rw [List.map_append, List.map_singleton, Option.bind_some] at row
  refine (List.getElem?_map ..).trans ((congrArg (Option.map (·.toFieldAnswer)) row).trans ?_)
  rw [List.getElem?_mapIdx]
  cases here : fields[i]? with
  | none =>
    have unseen : Overlay.shows (events.map
        (mark env digest (formFingerprint env digest fields) i)) = [] := by
      refine List.eq_nil_iff_forall_not_mem.mpr fun shown member => ?_
      have at_ := (shown_at faithful member).1
      rw [List.getElem?_map, here] at at_
      cases at_
    rw [mark_past rfl here, Overlay.run_concat, Overlay.step_passes, Overlay.run_eq, unseen]
    rfl
  | some field =>
    rw [mark_at rfl here]
    exact told_shown package (alike_marks faithful here)

/-- What is known of a returned answer: a word of the candidate is final; without one the mapping of
the moment decides. -/
structure Answers (env : FormEnv) (package : ExecutionPackage) (field : FormField)
    (word : Option Text) (a : FieldAnswer) : Prop where
  externalId : a.externalId = field.externalId
  required : a.required = field.required
  decided : field.required = true → a.status ≠ .skipped
  spoken : ∀ text, word = some text →
    a.answer = some text ∧ a.source = .user ∧ a.status = .answered
  unspoken : word = none → a.status = (mapOne env package field).status ∧
    (a.status = .answered → Grounded env package field (normalizeQuestion env.unicode field.label)
      (classifyQuestion env.unicode field.label).category a)

theorem told_answers {marks : List (Overlay.Mark (FormField × FieldAnswer) Text)}
    {field : FormField} (package : ExecutionPackage) (alike : Alike env marks field) :
    Answers env package field (Overlay.words marks).getLast?
      (told env marks field (mapOne env package field)) := by
  have first := alike.first (mapOne env package field)
  have mapped := mapOne_mapped env package field
  unfold told
  generalize (Overlay.shows marks).head?.getD (field, mapOne env package field) = shown at first
  cases (Overlay.words marks).getLast? with
  | none =>
    exact ⟨mapped.about.externalId, mapped.about.required, mapped.decided, nofun,
      fun _ => ⟨rfl, mapped.grounded⟩⟩
  | some text =>
    refine ⟨congrArg FieldShape.id first, congrArg FieldShape.required first, nofun, ?_, nofun⟩
    rintro _ ⟨⟩
    exact ⟨rfl, rfl, rfl⟩

/-- The fresh mapping of the fields that the candidate has not answered. -/
def unanswered (env : FormEnv) (digest : List FieldShape → δ) (events : List (FormEvent δ))
    (fields : List FormField) (package : ExecutionPackage) : List FieldAnswer :=
  (fields.mapIdx fun i field =>
    if Overlay.words (events.map (mark env digest (formFingerprint env digest fields) i)) = []
    then some (mapOne env package field) else none).filterMap id

theorem count_told (package : ExecutionPackage) {fields : List FormField}
    (faithful : Faithful env digest (fields.map (·.shape env.unicode)) events)
    {status : FieldAnswerStatus} (open_ : status ≠ .answered) :
    (captureForm env digest fields package (run env digest events)).2.countP
        (fun a => a.required && a.status = status) =
      (unanswered env digest events fields package).countP
        (fun a => a.required && a.status = status) := by
  rw [captured_told events fields package faithful, unanswered, List.countP_filterMap,
    List.mapIdx_eq_zipIdx_map, List.mapIdx_eq_zipIdx_map, List.countP_map, List.countP_map]
  refine List.countP_congr ?_
  rintro ⟨field, i⟩ member
  have here : fields[i]? = some field := List.mem_zipIdx_iff_getElem?.mp member
  have answers := told_answers package (alike_marks faithful here)
  have about := (mapOne_mapped env package field).about
  dsimp only [Function.comp_apply]
  generalize told env _ field (mapOne env package field) = a at answers ⊢
  generalize Overlay.words (events.map (mark env digest (formFingerprint env digest fields) i)) =
    words at answers ⊢
  cases words with
  | nil =>
    simp [answers.required, about.required, (answers.unspoken rfl).1]
  | cons word words =>
    obtain ⟨-, -, answered⟩ :=
      answers.spoken _ (List.getLast?_eq_some_getLast (List.cons_ne_nil _ _))
    simp [answered, open_.symm]

/-- What a look still asks for is what the mapping asks for of the fields that the candidate has not
answered: nobody is asked twice. -/
theorem captured_blocking (events : List (FormEvent δ)) (fields : List FormField)
    (package : ExecutionPackage)
    (faithful : Faithful env digest (fields.map (·.shape env.unicode)) events) :
    blocking (captureForm env digest fields package (run env digest events)).2 =
      blocking (unanswered env digest events fields package) :=
  Prod.ext (count_told package faithful nofun) (count_told package faithful nofun)

end Run

section Final
variable {δ : Type} [DecidableEq δ] (env : FormEnv) (digest : List FieldShape → δ)

/-- A look returns one answer to a field: the candidate's last word on it, whatever was looked at
since, or else what the mapping says now, whatever it said before. -/
theorem captured_answers (events : List (FormEvent δ)) (fields : List FormField)
    (package : ExecutionPackage)
    (faithful : Faithful env digest (fields.map (·.shape env.unicode)) events) :
    (captureForm env digest fields package (run env digest events)).2.length = fields.length ∧
      ∀ i field, fields[i]? = some field → ∃ a,
        (captureForm env digest fields package (run env digest events)).2[i]? = some a ∧
          a = told env (events.map (mark env digest (formFingerprint env digest fields) i)) field
            (mapOne env package field) ∧
          Answers env package field (Overlay.words (events.map
            (mark env digest (formFingerprint env digest fields) i))).getLast? a := by
  rw [captured_told events fields package faithful]
  refine ⟨List.length_mapIdx, fun i field here => ⟨_, ?_, rfl, ?_⟩⟩
  · rw [List.getElem?_mapIdx, here, Option.map_some]
  · exact told_answers package (alike_marks faithful here)

end Final

/-! ### Going on -/

section Resume
variable {δ : Type} [DecidableEq δ] {env : FormEnv} {digest : List FieldShape → δ}

/-- A required field that is left to a person. -/
def Blocks (a : FieldAnswer) : Prop :=
  a.required = true ∧ (a.status = .needsUserInput ∨ a.status = .needsReview)

theorem blocking_eq_zero {answers : List FieldAnswer} :
    blocking answers = (0, 0) ↔ ∀ a ∈ answers, ¬ Blocks a := by
  simp only [blocking, Prod.mk.injEq, List.countP_eq_zero, Blocks]
  constructor
  · rintro ⟨inputs, reviews⟩ a member ⟨required, asks | reviewed⟩
    · exact inputs a member (by simp [required, asks])
    · exact reviews a member (by simp [required, reviewed])
  · intro none_
    constructor
    all_goals
      intro a member open_
      simp only [Bool.and_eq_true, decide_eq_true_eq] at open_
    · exact none_ a member ⟨open_.1, .inl open_.2⟩
    · exact none_ a member ⟨open_.1, .inr open_.2⟩

theorem answerField_ok (digest : List FieldShape → δ) {forms forms' : Snapshots δ} {fingerprint : δ} {position : ℕ} {text : Text}
    {status : ApplicationStatus} {resumes : Bool}
    (answered : answerField env fingerprint position text status forms = .ok (forms', resumes)) :
    forms' = step env digest forms (.answered fingerprint position text status) ∧
      ∃ rows, forms'.get fingerprint = some rows ∧
        (resumes = true → blocking (rows.map (·.toFieldAnswer)) = (0, 0)) := by
  refine ⟨by rw [step, answered], ?_⟩
  unfold answerField at answered
  split at answered
  · cases answered
  next rows here =>
  dsimp only at answered
  split at answered
  · cases answered
  split at answered
  · cases answered
  cases answered
  refine ⟨_, Table.get_put_self here, fun goes => ?_⟩
  obtain ⟨-, none_⟩ := of_decide_eq_true goes
  exact Prod.ext (by omega) (by omega)

/-- An event that is an answer of the candidate. -/
def FormEvent.answers : FormEvent δ → Bool
  | .captured _ _ => false
  | .answered _ _ _ _ => true

theorem mark_answers (fingerprint : δ) (i : ℕ) {event : FormEvent δ}
    (answers : event.answers = true) :
    (mark env digest fingerprint i event).shown? = none := by
  cases event with
  | captured fields package => cases answers
  | answered form position text status =>
    unfold mark
    dsimp only
    split <;> rfl

/-- The stored field when the candidate has answered since the last look at its form. -/
theorem stored_since {before later : List (FormEvent δ)} {fields : List FormField}
    (package : ExecutionPackage) (answers : ∀ event ∈ later, event.answers = true)
    (faithful : Faithful env digest (fields.map (·.shape env.unicode))
      (before ++ .captured fields package :: later)) {rows : List FormFieldRow}
    (stored : (run env digest (before ++ .captured fields package :: later)).get
      (formFingerprint env digest fields) = some rows) {i : ℕ} {field : FormField}
    (here : fields[i]? = some field)
    (silent : Overlay.words ((before ++ .captured fields package :: later).map
      (mark env digest (formFingerprint env digest fields) i)) = []) :
    ∃ row ∈ rows, row.required = field.required ∧
      row.status = (mapOne env package field).status := by
  have row := (kept_run _ faithful).rows i
  have alike := alike_marks faithful here
  have shape := Overlay.run_eq ((before ++ .captured fields package :: later).map
    (mark env digest (formFingerprint env digest fields) i))
  change Option.bind ((run env digest _).get (formFingerprint env digest fields)) _ =
    Option.map (rowOf env) (Overlay.run ((before ++ .captured fields package :: later).map
      (mark env digest (formFingerprint env digest fields) i))) at row
  have all := fun c (at_ : Overlay.run _ = some c) => Overlay.run_all alike at_
  rw [silent] at shape
  rw [stored, Option.bind_some] at row
  rw [List.map_append, List.map_cons, mark_at rfl here] at row shape all
  obtain ⟨first, last, word, at_, fresh⟩ := Overlay.run_last
    (before.map (mark env digest (formFingerprint env digest fields) i))
    (field, mapOne env package field)
    (later.map (mark env digest (formFingerprint env digest fields) i)) (by
      intro m member
      obtain ⟨event, among, rfl⟩ := List.mem_map.mp member
      exact mark_answers _ i (answers event among))
  obtain ⟨_, _, cell⟩ := Option.map_eq_some_iff.mp (shape.symm.trans at_)
  obtain rfl : word = none := (congrArg Overlay.Cell.word cell).symm
  obtain rfl := fresh rfl
  rw [at_] at row
  refine ⟨_, List.mem_of_getElem? row, ?_, rfl⟩
  exact congrArg FieldShape.required (all _ at_).1

theorem mem_unanswered {events : List (FormEvent δ)} {fields : List FormField}
    {package : ExecutionPackage} {a : FieldAnswer}
    (member : a ∈ unanswered env digest events fields package) :
    ∃ i field, fields[i]? = some field ∧ a = mapOne env package field ∧
      Overlay.words (events.map (mark env digest (formFingerprint env digest fields) i)) = [] := by
  obtain ⟨entry, among, is⟩ := List.mem_filterMap.mp member
  rw [List.mapIdx_eq_zipIdx_map] at among
  obtain ⟨⟨field, i⟩, at_, rfl⟩ := List.mem_map.mp among
  dsimp only [id] at is
  split at is
  · next silent =>
    exact ⟨i, field, List.mem_zipIdx_iff_getElem?.mp at_, (Option.some.inj is).symm, silent⟩
  · cases is

end Resume

/-! ### One form -/

section Example

def plainEnv : FormEnv := ⟨.ascii, fun _ _ => none⟩

def noMaterials : ExecutionPackage where
  company := "Acme".ascii
  resume := none
  coverLetter := none
  answers := []
  profile := ⟨[], []⟩
  bank := []

def noticeField : FormField := ⟨none, "Notice period".ascii, .text, true, []⟩

def noticeShown : List (FormEvent (List FieldShape)) := [.captured [noticeField] noMaterials]

def noticeAnswered : FormEvent (List FieldShape) :=
  .answered (formFingerprint plainEnv id [noticeField]) 0 "  30 days ".ascii .needsUserInput

theorem captured_answers_notice : ∃ a,
    (captureForm plainEnv id [noticeField] noMaterials
      (run plainEnv id (noticeShown ++ [noticeAnswered]))).2[0]? = some a ∧
        a.answer = some "30 days".ascii := by
  obtain ⟨-, fields⟩ := captured_answers plainEnv id (noticeShown ++ [noticeAnswered]) [noticeField]
    noMaterials fun _ _ _ same => same
  obtain ⟨a, at_, -, answers⟩ := fields 0 noticeField rfl
  exact ⟨a, at_, (answers.spoken "30 days".ascii (by decide +kernel)).1⟩

/-- The candidate's word, and no question left. -/
example : let captured := (captureForm plainEnv id [noticeField] noMaterials
      (run plainEnv id (noticeShown ++ [noticeAnswered]))).2
    captured.map (·.answer) = [some "30 days".ascii] ∧ blocking captured = (0, 0) := by
  decide +kernel

end Example

end RangeApply.Captures
