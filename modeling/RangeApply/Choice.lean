import RangeApply.Forms

/-! Which option an answer picks: what justifies the pick, that the rule which decides names that
option alone, and that the order of the options does not matter. -/
namespace RangeApply

/-! ### The rules -/

/-- The rules in the order in which they are tried. -/
inductive ChoiceRule
  | equal | polarity | parts | exactly | contained | level

section Rules
variable (u : Unicode) (text label : Text)

/-- The parts of a place, separated by commas. -/
def answerParts : List Text := ((text.splitOn ',').map (normalizeQuestion u)).filter (· ≠ [])

def samePolarity : Bool :=
  (polarity u (normalizeQuestion u text)).any fun p =>
    polarity u (normalizeQuestion u label) = some p

def holdsParts : Bool :=
  1 < (answerParts u text).length && (answerParts u text).all fun p =>
    word u p (normalizeQuestion u label)

/-- One text is in the other, as characters. -/
def overlaps : Bool :=
  normalizeQuestion u label ≠ [] &&
    (Text.occurs (normalizeQuestion u label) (normalizeQuestion u text) ||
      Text.occurs (normalizeQuestion u text) (normalizeQuestion u label))

def sameLevel : Bool :=
  (degreeLevel u (normalizeQuestion u text)).any fun level =>
    Text.occurs level.ascii (normalizeQuestion u label)

/-- The rule names the label. -/
def ChoiceRule.names : ChoiceRule → Bool
  | equal => normalizeQuestion u label = normalizeQuestion u text
  | polarity => samePolarity u text label
  | parts => holdsParts u text label
  | exactly =>
    holdsParts u text label && normalizeQuestion u label = joined " " (answerParts u text)
  | contained => overlaps u text label
  | level => sameLevel u text label

/-- One text is in the other as whole words. -/
def Within : Prop :=
  normalizeQuestion u label ≠ [] ∧
    (word u (normalizeQuestion u label) (normalizeQuestion u text) ∨
      word u (normalizeQuestion u text) (normalizeQuestion u label))

/-- What may justify a pick. -/
inductive Justified : Prop
  | equal (same : normalizeQuestion u label = normalizeQuestion u text)
  | polarity (same : samePolarity u text label)
  | parts (all : holdsParts u text label)
  | within (whole : Within u text label)
  | level (same : sameLevel u text label)

/-- The texts overlap, and in the middle of a word only. -/
def OverlapsInside : Prop := overlaps u text label ∧ ¬ Within u text label

variable {u text label}

theorem justified_of_names {rule : ChoiceRule} (names : rule.names u text label) :
    Justified u text label ∨ OverlapsInside u text label := by
  cases rule with
  | equal => exact .inl (.equal (by simpa [ChoiceRule.names] using names))
  | polarity => exact .inl (.polarity names)
  | parts => exact .inl (.parts names)
  | exactly =>
    unfold ChoiceRule.names at names
    rw [Bool.and_eq_true] at names
    exact .inl (.parts names.1)
  | contained =>
    by_cases whole : Within u text label
    · exact .inl (.within whole)
    · exact .inr ⟨names, whole⟩
  | level => exact .inl (.level names)

end Rules

/-! ### One of them -/

section Only
variable {α : Type} {l l' : List α} {a : α}

theorem only_eq_some : only l = some a ↔ l = [a] := by
  unfold only
  split
  · simp
  · rename_i more
    simp only [reduceCtorEq, false_iff]
    rintro rfl
    exact more a rfl

theorem only_perm (perm : l.Perm l') : only l = only l' := by
  apply Option.ext
  intro a
  rw [only_eq_some, only_eq_some]
  constructor
  · rintro rfl
    exact List.perm_singleton.mp perm.symm
  · rintro rfl
    exact List.perm_singleton.mp perm

end Only

/-! ### One label -/

section Choose
variable (u : Unicode) (labels : List Text) (text : Text) (category : String)

/-- The labels that a rule names. -/
def named (rule : ChoiceRule) : List Text := labels.filter (rule.names u text)

theorem byPolarity_eq : ((polarity u (normalizeQuestion u text)).bind fun p =>
    only (labels.filter fun l => polarity u (normalizeQuestion u l) = some p)) =
      only (named u labels text .polarity) := by
  unfold named ChoiceRule.names samePolarity
  cases polarity u (normalizeQuestion u text) with
  | none => simp [only]
  | some p => rfl

theorem byLevel_eq : ((degreeLevel u (normalizeQuestion u text)).bind fun level =>
    only (labels.filter fun l => Text.occurs level.ascii (normalizeQuestion u l))) =
      only (named u labels text .level) := by
  unfold named ChoiceRule.names sameLevel
  cases degreeLevel u (normalizeQuestion u text) with
  | none => simp [only]
  | some level => rfl

theorem byParts_eq : (if 1 < (answerParts u text).length then
    labels.filter fun l => (answerParts u text).all fun p => word u p (normalizeQuestion u l)
      else []) = named u labels text .parts := by
  unfold named ChoiceRule.names holdsParts
  split
  · rename_i several
    simp [several]
  · rename_i single
    simp [single]

/-- The choice, rule by rule. -/
theorem chooseOption_eq : chooseOption u labels text category =
    if normalizeQuestion u text = [] then none
    else match (only (named u labels text .equal)).or (only (named u labels text .polarity)) with
      | some label => some label
      | none => match named u labels text .parts with
        | [label] => some label
        | _ :: _ :: _ => only (named u labels text .exactly)
        | [] => (only (named u labels text .contained)).or
            (if category = QuestionCategory.education.value then only (named u labels text .level)
              else none) := by
  have tight : (named u labels text .parts).filter (fun l =>
      normalizeQuestion u l = joined " " (answerParts u text)) = named u labels text .exactly := by
    unfold named ChoiceRule.names
    rw [List.filter_filter]
    refine List.filter_congr fun l _ => ?_
    rw [Bool.and_comm]
  rw [← tight, ← byPolarity_eq, ← byLevel_eq, ← byParts_eq]
  rfl

variable {u labels text category} {label : Text}

/-- A label is picked by a rule that names it and no other. -/
theorem chooseOption_some (picked : chooseOption u labels text category = some label) :
    ∃ rule, named u labels text rule = [label] := by
  rw [chooseOption_eq] at picked
  split at picked
  · cases picked
  · split at picked
    · rename_i first
      rw [Option.some.inj picked] at first
      rcases Option.or_eq_some_iff.mp first with equal | ⟨-, polarity⟩
      · exact ⟨.equal, only_eq_some.mp equal⟩
      · exact ⟨.polarity, only_eq_some.mp polarity⟩
    · split at picked
      · rename_i single
        rw [Option.some.inj picked] at single
        exact ⟨.parts, single⟩
      · exact ⟨.exactly, only_eq_some.mp picked⟩
      · rcases Option.or_eq_some_iff.mp picked with contained | ⟨-, level⟩
        · exact ⟨.contained, only_eq_some.mp contained⟩
        · split at level
          · exact ⟨.level, only_eq_some.mp level⟩
          · cases level

theorem named_perm {labels' : List Text} (perm : labels.Perm labels') (rule : ChoiceRule) :
    (named u labels text rule).Perm (named u labels' text rule) :=
  perm.filter _

theorem chooseOption_perm {labels' : List Text} (perm : labels.Perm labels') :
    chooseOption u labels text category = chooseOption u labels' text category := by
  have same (rule : ChoiceRule) :
      only (named u labels text rule) = only (named u labels' text rule) :=
    only_perm (named_perm perm rule)
  have parts : (named u labels text .parts).Perm (named u labels' text .parts) :=
    named_perm perm .parts
  rw [chooseOption_eq, chooseOption_eq, same, same, same, same, same]
  cases here : named u labels text .parts with
  | nil =>
    rw [here] at parts
    rw [List.nil_perm.mp parts]
  | cons a rest =>
    rw [here] at parts
    cases rest with
    | nil => rw [List.singleton_perm.mp parts]
    | cons b rest =>
      have length := parts.length_eq
      cases there : named u labels' text .parts with
      | nil =>
        rw [there] at length
        cases length
      | cons c more =>
        cases more with
        | nil =>
          rw [there] at length
          cases length
        | cons d more => rfl

end Choose

/-! ### The options of a field -/

section Match
variable {u : Unicode} {field : FormField} {text : Text} {o : FormOption}

/-- The field is one box to tick. -/
def LoneBox (field : FormField) : Prop := field.fieldType = .checkbox ∧ field.options.length = 1

/-- The options that a rule names. -/
def namedOptions (u : Unicode) (field : FormField) (text : Text) (rule : ChoiceRule) :
    List FormOption :=
  field.options.filter fun o => rule.names u text o.label

/-- The category by which a single choice is made. -/
def choiceCategory (u : Unicode) (field : FormField) : String :=
  (classifyQuestion u field.label).category.value

theorem matchOptions_multi (multi : field.fieldType = .multiSelect) :
    matchOptions u field text =
      (if namedOptions u field text .equal = [] then namedOptions u field text .contained
        else namedOptions u field text .equal).map FormOption.chosen := by
  unfold matchOptions
  rw [multi]
  rfl

theorem matchOptions_box (type : field.fieldType = .checkbox) {box : FormOption}
    (lone : field.options = [box]) :
    matchOptions u field text = if polarity u text = some true then [box.chosen] else [] := by
  unfold matchOptions
  rw [type, lone]

theorem matchOptions_single (single : field.fieldType ≠ .multiSelect) (several : ¬ LoneBox field) :
    matchOptions u field text =
      match chooseOption u (field.options.map (·.label)) text (choiceCategory u field) with
      | none => []
      | some label => ((field.options.find? (·.label = label)).map FormOption.chosen).toList := by
  unfold matchOptions
  split
  · rename_i multi
    exact absurd multi single
  · rename_i box type lone
    exact absurd ⟨type, by rw [lone]; rfl⟩ several
  · rfl

/-- A label that a rule names alone is the label of one option, which is the first with it. -/
theorem option_of_label {rule : ChoiceRule} {label : Text}
    (alone : named u (field.options.map (·.label)) text rule = [label]) :
    ∃ o, namedOptions u field text rule = [o] ∧
      field.options.find? (·.label = label) = some o := by
  unfold named at alone
  rw [List.filter_map, List.map_eq_singleton_iff] at alone
  obtain ⟨o, only_, rfl⟩ := alone
  have own : o ∈ field.options ∧ rule.names u text o.label = true := by
    have member : o ∈ namedOptions u field text rule := by
      rw [show namedOptions u field text rule = [o] from only_]
      exact List.mem_singleton_self o
    exact List.mem_filter.mp member
  refine ⟨o, only_, ?_⟩
  obtain ⟨o', found⟩ : ∃ o', field.options.find? (·.label = o.label) = some o' := by
    rw [← Option.isSome_iff_exists, List.find?_isSome]
    exact ⟨o, own.1, by simp⟩
  have label : o'.label = o.label := by simpa using List.find?_some found
  have member : o' ∈ namedOptions u field text rule := by
    refine List.mem_filter.mpr ⟨List.mem_of_find?_eq_some found, ?_⟩
    rw [label]
    exact own.2
  rw [show namedOptions u field text rule = [o] from only_, List.mem_singleton] at member
  rw [found, member]

/-- A single choice is an option that a rule names alone. -/
theorem single_choice (single : field.fieldType ≠ .multiSelect) (several : ¬ LoneBox field)
    {v : Text} (picked : v ∈ matchOptions u field text) :
    ∃ o rule, namedOptions u field text rule = [o] ∧ matchOptions u field text = [o.chosen] := by
  rw [matchOptions_single single several] at picked ⊢
  cases choice : chooseOption u (field.options.map (·.label)) text (choiceCategory u field) with
  | none =>
    rw [choice] at picked
    cases picked
  | some label =>
    obtain ⟨rule, alone⟩ := chooseOption_some choice
    obtain ⟨o, only_, first⟩ := option_of_label alone
    refine ⟨o, rule, only_, ?_⟩
    dsimp only
    rw [first]
    rfl

theorem matchOptions_justified {v : Text} (picked : v ∈ matchOptions u field text) :
    ∃ o ∈ field.options, v = o.chosen ∧
      (Justified u text o.label ∨ OverlapsInside u text o.label ∨
        LoneBox field ∧ polarity u text = some true) := by
  have justified {rule : ChoiceRule} {o : FormOption}
      (here : o ∈ namedOptions u field text rule) : o ∈ field.options ∧
        (Justified u text o.label ∨ OverlapsInside u text o.label ∨
          LoneBox field ∧ polarity u text = some true) := by
    obtain ⟨member, names⟩ := List.mem_filter.mp here
    exact ⟨member, (justified_of_names names).imp_right .inl⟩
  by_cases multi : field.fieldType = .multiSelect
  · rw [matchOptions_multi multi] at picked
    obtain ⟨o, here, rfl⟩ := List.mem_map.mp picked
    split at here
    · exact ⟨o, (justified here).1, rfl, (justified here).2⟩
    · exact ⟨o, (justified here).1, rfl, (justified here).2⟩
  · by_cases lone : LoneBox field
    · obtain ⟨box, only_⟩ := List.length_eq_one_iff.mp lone.2
      rw [matchOptions_box lone.1 only_] at picked
      split at picked
      · rename_i yes
        refine ⟨box, ?_, List.mem_singleton.mp picked, .inr (.inr ⟨lone, yes⟩)⟩
        rw [only_]
        exact List.mem_singleton_self box
      · cases picked
    · obtain ⟨o, rule, only_, all⟩ := single_choice multi lone picked
      rw [all, List.mem_singleton] at picked
      have here : o ∈ namedOptions u field text rule := by
        rw [only_]
        exact List.mem_singleton_self o
      exact ⟨o, (justified here).1, picked, (justified here).2⟩

theorem matchOptions_perm {options : List FormOption} (perm : options.Perm field.options) :
    (matchOptions u { field with options := options } text).Perm (matchOptions u field text) := by
  let field' : FormField := { field with options := options }
  change (matchOptions u field' text).Perm (matchOptions u field text)
  have named (rule : ChoiceRule) :
      (namedOptions u field' text rule).Perm (namedOptions u field text rule) := perm.filter _
  by_cases multi : field.fieldType = .multiSelect
  · have multi' : field'.fieldType = .multiSelect := multi
    rw [matchOptions_multi multi, matchOptions_multi multi']
    refine List.Perm.map _ ?_
    by_cases equal : namedOptions u field text .equal = []
    · have equal' : namedOptions u field' text .equal = [] :=
        List.perm_nil.mp (equal ▸ named .equal)
      rw [if_pos equal, if_pos equal']
      exact named .contained
    · have equal' : namedOptions u field' text .equal ≠ [] := fun none_ =>
        equal (List.nil_perm.mp (none_ ▸ named .equal))
      rw [if_neg equal, if_neg equal']
      exact named .equal
  · have multi' : field'.fieldType ≠ .multiSelect := multi
    by_cases lone : LoneBox field
    · obtain ⟨box, only_⟩ := List.length_eq_one_iff.mp lone.2
      have only' : field'.options = [box] := List.perm_singleton.mp (only_ ▸ perm)
      have type' : field'.fieldType = .checkbox := lone.1
      rw [matchOptions_box lone.1 only_, matchOptions_box type' only']
    · have lone' : ¬ LoneBox field' := fun box => lone ⟨box.1, perm.length_eq ▸ box.2⟩
      rw [matchOptions_single multi lone, matchOptions_single multi' lone']
      have same : chooseOption u (field'.options.map (·.label)) text (choiceCategory u field') =
          chooseOption u (field.options.map (·.label)) text (choiceCategory u field) :=
        chooseOption_perm (perm.map _)
      rw [same]
      cases choice : chooseOption u (field.options.map (·.label)) text (choiceCategory u field) with
      | none => exact .refl _
      | some label =>
        obtain ⟨rule, alone⟩ := chooseOption_some choice
        obtain ⟨o, only_, first⟩ := option_of_label alone
        have alone' : RangeApply.named u (field'.options.map (·.label)) text rule = [label] :=
          List.perm_singleton.mp (alone ▸ named_perm (perm.map _) rule)
        obtain ⟨o', only', first'⟩ := option_of_label alone'
        have eq : o' = o := by
          have both := named rule
          rw [only_, only'] at both
          exact List.singleton_perm_singleton.mp both
        dsimp only
        rw [first, first', eq]

end Match

/-! ### The law -/

/-- A box to tick on a form. -/
def acknowledge : FormField :=
  ⟨none, "Terms".ascii, .checkbox, true, [⟨"I acknowledge".ascii, none⟩]⟩

end RangeApply
