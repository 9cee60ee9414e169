import RangeApply.Forms

/-! What the mapping puts in a form: a recorded fact fitted to the field, or a reason why there is
none. -/
namespace RangeApply.Mapping

/-! ### What is meant -/

section Meaning
variable (env : FormEnv) (package : ExecutionPackage) (field : FormField) (key : Text)
variable (category : QuestionCategory)

/-- What an answer says of its field. -/
structure About (a : FieldAnswer) : Prop where
  externalId : a.externalId = field.externalId
  label : a.label = field.label
  questionKey : a.questionKey = key
  fieldType : a.fieldType = field.fieldType
  required : a.required = field.required
  category : a.category = category.value

/-- A text as its field can take it. -/
def Fitted (text : Text) (a : FieldAnswer) : Prop :=
  match field.fieldType with
  | .text | .textarea | .email | .phone => a.answer = some text ∧ a.selectedValues = []
  | .select | .radio | .checkbox | .multiSelect | .yesno =>
    a.answer = some text ∧ a.selectedValues = matchOptions env.unicode field text ∧
      a.selectedValues ≠ []
  | .combobox =>
    a.answer = some text ∧
      (field.options = [] ∧ a.selectedValues = [] ∨
        ∃ chosen, chooseOption env.unicode (field.options.map (·.label)) text a.category =
          some chosen ∧ a.selectedValues = [chosen])
  | .numeric => ∃ number, numberRe.search env.unicode text = some number ∧
      a.answer = some (number.text.map fun c => if c = ',' then '.' else c) ∧ a.selectedValues = []
  | .date => ∃ parsed, parseDate env text = some parsed ∧ a.answer = some parsed ∧
      a.selectedValues = []
  | .file | .unknown => False

/-- A text that was recorded, or its link. -/
def Verbatim (text stored : Text) : Prop := text = stored ∨ text = Text.strip stored

/-- Where a text about a question was recorded: the profile, an approved answer of the bank, or an
answered question of the preparation. -/
inductive Recorded (text : Text) : Origin → Prop
  | profile {fact : ProfileFact} {reason : String} (known : package.profile.get fact = some text) :
    Recorded text ⟨.profile, ["profile:" ++ fact.value], reason, none⟩
  | banked {entry : AnswerBankEntry} {reason : String} (approved : entry ∈ package.bank.approved)
      (asked : entry.questionKey env.unicode = key ∨
        shareable env.unicode category key = true ∧ entry.category = category.value)
      (verbatim : Verbatim text entry.answer) :
    Recorded text (banked entry reason)
  | prepared {answer : PreparationAnswer} {stored : Text} {reason : String}
      (member : answer ∈ package.answers) (answered : answer.status = .answered)
      (asked : answer.questionKey = key ∨ answer.category = category.value)
      (said : answer.answer = some stored) (verbatim : Verbatim text stored) :
    Recorded text (prepared answer reason)

/-- The prepared document that a file field takes. -/
def Attached (a : FieldAnswer) : Prop :=
  field.fieldType = .file ∧ a.source = .artifact ∧
    (a.artifactType = some "RESUME" ∧ package.resume = some a.evidenceKeys ∨
      a.artifactType = some "COVER_LETTER" ∧ package.coverLetter = some a.evidenceKeys)

/-- An answer is a document of the package, or a recorded text that was fitted to the field. -/
def Grounded (a : FieldAnswer) : Prop :=
  Attached package field a ∨
    ∃ text origin, Recorded env package key category text origin ∧ Fitted env field text a ∧
      a.source = origin.source ∧ a.evidenceKeys = origin.evidenceKeys ∧
      a.preparationAnswer = origin.preparationAnswer

/-- What holds of whatever a field is mapped to. -/
structure Mapped (a : FieldAnswer) : Prop where
  about : About field key category a
  decided : field.required = true → a.status ≠ .skipped
  grounded : a.status = .answered → Grounded env package field key category a
  machine : a.source ≠ .user

/-- The entries of the bank that are looked up for the field. -/
structure Looked (entry shared : Option AnswerBankEntry) : Prop where
  asked : ∀ e, entry = some e → e ∈ package.bank.approved ∧ e.questionKey env.unicode = key
  shares : ∀ e, shared = some e → e ∈ package.bank.approved ∧
    shareable env.unicode category key = true ∧ e.category = category.value

end Meaning

/-! ### A text for a field -/

section Typed
variable {env : FormEnv} {package : ExecutionPackage} {field : FormField} {key : Text}
variable {category : QuestionCategory} {base : FieldAnswer} {text : Text} {origin : Origin}

theorem about_base : About field key category (baseAnswer field key category) :=
  ⟨rfl, rfl, rfl, rfl, rfl, rfl⟩

theorem ask_status (base : FieldAnswer) (review : Bool) (reason : String) :
    (ask base review reason).status ≠ .answered ∧
      (base.required = true → (ask base review reason).status ≠ .skipped) := by
  unfold ask
  cases review <;> cases base.required <;> simp

theorem mapped_ask (about : About field key category base) (machine : base.source ≠ .user)
    (review : Bool) (reason : String) :
    Mapped env package field key category (ask base review reason) := by
  obtain ⟨unanswered, decided⟩ := ask_status base review reason
  obtain ⟨externalId, label, questionKey, fieldType, required, category⟩ := about
  exact ⟨⟨externalId, label, questionKey, fieldType, required, category⟩,
    fun needed => decided (required.trans needed), fun answered => absurd answered unanswered,
    machine⟩

theorem Recorded.machine (recorded : Recorded env package key category text origin) :
    origin.source ≠ .user := by
  cases recorded <;> nofun

/-- What `_typed` answers is fitted to the field. -/
theorem typed_fitted (answered : (typed env field base text origin).status = .answered) :
    Fitted env field text (typed env field base text origin) := by
  revert answered
  unfold typed Fitted
  cases field.fieldType with
  | text | textarea | email | phone => exact fun _ => ⟨rfl, rfl⟩
  | file | unknown => exact fun answered => absurd answered (ask_status _ _ _).1
  | numeric =>
    dsimp only
    split
    · next number found => exact fun _ => ⟨number, found, rfl, rfl⟩
    · exact fun answered => absurd answered (ask_status _ _ _).1
  | date =>
    dsimp only
    split
    · next parsed found => exact fun _ => ⟨parsed, found, rfl, rfl⟩
    · exact fun answered => absurd answered (ask_status _ _ _).1
  | combobox =>
    dsimp only
    split
    · next bare =>
      split
      · exact fun answered => absurd answered (ask_status _ _ _).1
      · exact fun _ => ⟨rfl, .inl ⟨bare, rfl⟩⟩
    · split
      · next chosen found => exact fun _ => ⟨rfl, .inr ⟨chosen, found, rfl⟩⟩
      · exact fun answered => absurd answered (ask_status _ _ _).1
  | select | radio | checkbox | multiSelect | yesno =>
    dsimp only
    split
    · exact fun answered => absurd answered (ask_status _ _ _).1
    · next chosen some_ => exact fun _ => ⟨rfl, rfl, some_⟩

/-- The record `_typed` starts from. -/
def common (base : FieldAnswer) (origin : Origin) : FieldAnswer :=
  { base with
    source := origin.source
    evidenceKeys := origin.evidenceKeys
    preparationAnswer := origin.preparationAnswer }

/-- `_typed` answers, or asks with the text it could not fit. -/
theorem typed_cases (env : FormEnv) (field : FormField) (base : FieldAnswer) (text : Text)
    (origin : Origin) :
    (∃ answer selected reason, typed env field base text origin =
      { common base origin with
        status := .answered, answer := some answer, selectedValues := selected, reason }) ∨
    ∃ review reason, typed env field base text origin =
      ask { common base origin with answer := some text } review reason := by
  unfold typed common
  cases field.fieldType with
  | text | textarea | email | phone => exact .inl ⟨_, _, _, rfl⟩
  | file | unknown => exact .inr ⟨_, _, rfl⟩
  | combobox =>
    dsimp only
    split
    · split
      · exact .inr ⟨_, _, rfl⟩
      · exact .inl ⟨_, _, _, rfl⟩
    · split
      · exact .inl ⟨_, _, _, rfl⟩
      · exact .inr ⟨_, _, rfl⟩
  | numeric | date =>
    dsimp only
    split
    · exact .inl ⟨_, _, _, rfl⟩
    · exact .inr ⟨_, _, rfl⟩
  | select | radio | checkbox | multiSelect | yesno =>
    dsimp only
    split
    · exact .inr ⟨_, _, rfl⟩
    · exact .inl ⟨_, _, _, rfl⟩

theorem mapped_typed (about : About field key category base)
    (recorded : Recorded env package key category text origin) :
    Mapped env package field key category (typed env field base text origin) := by
  have fitted : (typed env field base text origin).status = .answered →
      Fitted env field text (typed env field base text origin) := typed_fitted
  obtain ⟨externalId, label, questionKey, fieldType, required, named⟩ := about
  rcases typed_cases env field base text origin with
    ⟨answer, selected, reason, eq⟩ | ⟨review, reason, eq⟩
  · rw [eq] at fitted ⊢
    refine ⟨⟨externalId, label, questionKey, fieldType, required, named⟩, nofun,
      fun answered => ?_, recorded.machine⟩
    exact .inr ⟨text, origin, recorded, fitted answered, rfl, rfl, rfl⟩
  · rw [eq]
    refine mapped_ask ?_ recorded.machine review reason
    exact ⟨externalId, label, questionKey, fieldType, required, named⟩

end Typed

/-! ### One field -/

section Field
variable {env : FormEnv} {package : ExecutionPackage} {field : FormField} {key : Text}
variable {category : QuestionCategory} {entry shared : Option AnswerBankEntry} {a : FieldAnswer}

theorem mapped_skip (optional : field.required = false) (reason : String) :
    Mapped env package field key category (skip field key category reason) :=
  ⟨⟨rfl, rfl, rfl, rfl, rfl, rfl⟩,
    fun required => absurd (optional.symm.trans required) Bool.false_ne_true, nofun, nofun⟩

theorem mapped_file (file : field.fieldType = .file) :
    Mapped env package field key category
      (fileAnswer env field key category package.toPreparedPackage) := by
  unfold fileAnswer
  dsimp only
  split
  · next autofill => exact mapped_skip autofill.2 _
  have given (hint : Bool) (document : Option (List String)) (evidence : List String)
      (found : (if hint then document else none) = some evidence) : document = some evidence := by
    cases hint
    · cases found
    · exact found
  split
  · next evidence found =>
    exact ⟨⟨rfl, rfl, rfl, rfl, rfl, rfl⟩, nofun,
      fun _ => .inl ⟨file, rfl, .inl ⟨rfl, given _ _ _ found⟩⟩, nofun⟩
  · next evidence _ found =>
    exact ⟨⟨rfl, rfl, rfl, rfl, rfl, rfl⟩, nofun,
      fun _ => .inl ⟨file, rfl, .inr ⟨rfl, given _ _ _ found⟩⟩, nofun⟩
  · split
    · next cover => exact mapped_skip cover.2 _
    · exact mapped_ask about_base nofun _ _

theorem mapped_identity
    (found : identityAnswer env field key category package.toPreparedPackage = some a) :
    Mapped env package field key category a := by
  obtain ⟨⟨pattern, fact⟩, -, rfl⟩ := Option.map_eq_some_iff.mp found
  dsimp only
  split
  · next value known => exact mapped_typed about_base (.profile known)
  · exact mapped_ask about_base nofun _ _

theorem text_some {answer : PreparationAnswer} {text : Text} (said : answer.text = some text) :
    answer.status = .answered ∧ answer.answer = some text := by
  unfold PreparationAnswer.text at said
  split at said
  · next answered =>
    obtain ⟨stored, here, same⟩ := Option.bind_eq_some_iff.mp said
    unfold Text.orNone at same
    split at same
    · cases same
    · exact ⟨answered, here.trans same⟩
  · cases said

theorem preparedByKey_some {answer : PreparationAnswer}
    (found : preparedByKey key package.toPreparedPackage = some answer) :
    answer ∈ package.answers ∧ answer.questionKey = key := by
  refine ⟨List.mem_reverse.mp (List.mem_of_find?_eq_some found), ?_⟩
  simpa using List.find?_some found

theorem mapped_link (looked : Looked env package key category entry shared) :
    Mapped env package field key category
      (linkAnswer env field key category package.toPreparedPackage entry) := by
  unfold linkAnswer
  dsimp only
  split
  · next answer found =>
    have link {text value : Text} (is : (if (linkValueRe.matchStart env.unicode
        (Text.strip text)).isSome = true then some (Text.strip text) else none) = some value) :
        value = Text.strip text := by
      split at is
      · exact (Option.some.inj is).symm
      · cases is
    rcases Option.or_eq_some_iff.mp found with prepared | ⟨-, banked⟩
    · obtain ⟨answer, here, typed⟩ := Option.bind_eq_some_iff.mp prepared
      obtain ⟨value, linked, rfl⟩ := Option.map_eq_some_iff.mp typed
      obtain ⟨text, said, is⟩ := Option.bind_eq_some_iff.mp linked
      obtain ⟨answered, stored⟩ := text_some said
      obtain ⟨member, asked⟩ := preparedByKey_some here
      exact mapped_typed about_base (.prepared member answered (.inl asked) stored (.inr (link is)))
    · obtain ⟨e, here, typed⟩ := Option.bind_eq_some_iff.mp banked
      obtain ⟨value, is, rfl⟩ := Option.map_eq_some_iff.mp typed
      obtain ⟨approved, asked⟩ := looked.asked e here
      exact mapped_typed about_base (.banked approved (.inl asked) (.inr (link is)))
  · exact mapped_ask about_base nofun _ _

theorem mapped_exact (looked : Looked env package key category entry shared)
    (found : exactAnswer env field key category package.toPreparedPackage entry = some a) :
    Mapped env package field key category a := by
  unfold exactAnswer at found
  dsimp only at found
  rcases Option.or_eq_some_iff.mp found with typed | ⟨-, waiting⟩
  · rcases Option.or_eq_some_iff.mp typed with prepared | ⟨-, banked⟩
    · obtain ⟨answer, here, typed⟩ := Option.bind_eq_some_iff.mp prepared
      obtain ⟨text, said, rfl⟩ := Option.map_eq_some_iff.mp typed
      obtain ⟨answered, stored⟩ := text_some said
      obtain ⟨member, asked⟩ := preparedByKey_some here
      exact mapped_typed about_base (.prepared member answered (.inl asked) stored (.inl rfl))
    · obtain ⟨e, usable, rfl⟩ := Option.map_eq_some_iff.mp banked
      split at usable
      · cases usable
      · obtain ⟨approved, asked⟩ := looked.asked e usable
        exact mapped_typed about_base (.banked approved (.inl asked) (.inl rfl))
  · obtain ⟨answer, -, rfl⟩ := Option.map_eq_some_iff.mp waiting
    exact ⟨⟨rfl, rfl, rfl, rfl, rfl, rfl⟩, nofun, nofun, nofun⟩

theorem mapped_guard
    (found : categoryGuard env field key category package.toPreparedPackage = some a) :
    Mapped env package field key category a := by
  unfold categoryGuard at found
  dsimp only at found
  split at found
  · split at found <;> cases found
    exact mapped_ask about_base nofun _ _
  · split at found <;> cases found
    exact mapped_ask about_base nofun _ _
  · split at found <;> cases found
    exact mapped_ask about_base nofun _ _
  · split at found
    · cases found
      exact mapped_ask about_base nofun _ _
    · split at found <;> cases found
      next optional => exact mapped_skip optional _
  · cases found

theorem mapped_category (looked : Looked env package key category entry shared)
    (found : categoryAnswer env field key category package.toPreparedPackage shared = some a) :
    Mapped env package field key category a := by
  unfold categoryAnswer at found
  dsimp only at found
  split at found
  · cases found
  rcases Option.or_eq_some_iff.mp found with own | ⟨-, banked⟩
  · rcases Option.or_eq_some_iff.mp own with prepared | ⟨-, guarded⟩
    · obtain ⟨answer, member, typed⟩ := List.exists_of_findSome?_eq_some prepared
      split at typed
      · next asked =>
        obtain ⟨text, said, rfl⟩ := Option.map_eq_some_iff.mp typed
        obtain ⟨answered, stored⟩ := text_some said
        exact mapped_typed about_base (.prepared member answered (.inr asked) stored (.inl rfl))
      · cases typed
    · exact mapped_guard guarded
  · obtain ⟨e, here, rfl⟩ := Option.map_eq_some_iff.mp banked
    obtain ⟨approved, shares, asked⟩ := looked.shares e here
    exact mapped_typed about_base (.banked approved (.inr ⟨shares, asked⟩) (.inl rfl))

theorem mapped_fact (found : factAnswer env field key category package.toPreparedPackage = some a) :
    Mapped env package field key category a := by
  obtain ⟨fact, -, typed⟩ := Option.bind_eq_some_iff.mp found
  obtain ⟨value, known, rfl⟩ := Option.map_eq_some_iff.mp typed
  exact mapped_typed about_base (.profile known)

theorem mapped_mapWith (looked : Looked env package key category entry shared) :
    Mapped env package field key category
      (mapWith env field key category package.toPreparedPackage entry shared) := by
  unfold mapWith
  dsimp only
  split
  · exact mapped_ask about_base nofun _ _
  split
  · next file => exact mapped_file file
  split
  · next identity => exact mapped_identity identity
  split
  · exact mapped_ask about_base nofun _ _
  split
  · exact mapped_ask about_base nofun _ _
  split
  · exact mapped_link looked
  split
  · next found =>
    rcases Option.or_eq_some_iff.mp found with known | ⟨-, fact⟩
    · rcases Option.or_eq_some_iff.mp known with exact_ | ⟨-, shared_⟩
      · exact mapped_exact looked exact_
      · exact mapped_category looked shared_
    · exact mapped_fact fact
  · split <;> exact mapped_ask about_base nofun _ _

/-- A demographic question, or one for a secret. -/
def Personal (u : Unicode) (category : QuestionCategory) (key : Text) : Prop :=
  category = .voluntary ∨ secretHintRe.found u key = true

theorem mapWith_personal (personal : Personal env.unicode category key)
    (answered : (mapWith env field key category package.toPreparedPackage entry shared).status =
      .answered) :
    field.fieldType = .file ∨ ∃ p ∈ identityPatterns, p.1.found env.unicode key = true := by
  unfold mapWith at answered
  dsimp only at answered
  split at answered
  · exact absurd answered (ask_status _ _ _).1
  split at answered
  · next file => exact .inl file
  split at answered
  · next a identity =>
    obtain ⟨p, found, -⟩ := Option.map_eq_some_iff.mp identity
    have asked := List.find?_some found
    simp only [Bool.and_eq_true] at asked
    exact .inr ⟨p, List.mem_of_find?_eq_some found, asked.2⟩
  split at answered
  · exact absurd answered (ask_status _ _ _).1
  · next other =>
    rw [if_pos (personal.resolve_left other)] at answered
    exact absurd answered (ask_status _ _ _).1

theorem mapOne_mapped (env : FormEnv) (package : ExecutionPackage) (field : FormField) :
    Mapped env package field (normalizeQuestion env.unicode field.label)
      (classifyQuestion env.unicode field.label).category (mapOne env package field) := by
  refine mapped_mapWith ⟨fun e found => ?_, fun e found => ?_⟩
  · refine ⟨List.mem_reverse.mp (List.mem_of_find?_eq_some found), ?_⟩
    simpa using List.find?_some found
  · split at found
    · next shares =>
      exact ⟨(List.mem_filter.mp (List.mem_of_head? found)).1, shares,
        AnswerBank.category_of_head found⟩
    · cases found

end Field

end RangeApply.Mapping
