import RangeApply.Arrival

/-! What the fill of a form does to the page: every command is of an answered field, to the control
of that field, with what its answer says. -/
namespace RangeApply.Playwright
open Program

/-! ### What an answer allows -/

section Delivers
variable (u : Unicode) (x : Executor) (package : Package)

/-- The commands that put an answer in its control. -/
inductive Delivers (field : PageField) (selector : Text) (answer : FieldAnswer) : Touch → Prop
  | text {value : Text} (typed : field.fieldType ∈ typedTypes) (said : answer.answer = some value) :
    Delivers field selector answer (.fill selector value)
  | focus (combobox : field.fieldType = .combobox) : Delivers field selector answer (.click selector)
  | empty (combobox : field.fieldType = .combobox) : Delivers field selector answer (.fill selector [])
  | close (combobox : field.fieldType = .combobox) : Delivers field selector answer (.escape selector)
  | term {wanted term : Text} (combobox : field.fieldType = .combobox)
      (wants : wantedOf answer = some wanted) (listed : term ∈ searchTerms u wanted answer.category) :
    Delivers field selector answer (.type selector term)
  | option {wanted chosen : Text} {labels : List Text} (combobox : field.fieldType = .combobox)
      (wants : wantedOf answer = some wanted)
      (chooses : chooseOption u labels wanted answer.category = some chosen) :
    Delivers field selector answer (.option (labels.idxOf chosen))
  | button {wanted : Text} {rest buttons : List Text} {i : Nat} (yesno : field.fieldType = .yesno)
      (values : answer.selectedValues = wanted :: rest)
      (names : buttons.findIdx? (fun t =>
        decide (normalizeQuestion u t = normalizeQuestion u wanted)) = some i) :
    Delivers field selector answer (.button selector i)
  | document {kind : String} {path : Text} {expected : Option Expected}
      (file : field.fieldType = .file) (wants : answer.artifactType = some kind)
      (named : documentOf x package kind = some (path, expected)) :
    Delivers field selector answer (.upload selector path)
  | select {value : Text} {rest : List Text} (one : field.fieldType = .select)
      (values : answer.selectedValues = value :: rest) :
    Delivers field selector answer (.select selector [value])
  | selectAll (multi : field.fieldType = .multiSelect) :
    Delivers field selector answer (.select selector answer.selectedValues)
  | box {value : Text} (boxes : field.fieldType = .multiSelect ∨ field.fieldType = .radio)
      (chosen : value ∈ answer.selectedValues) :
    Delivers field selector answer (.check (boxOf selector value))
  | check (box : field.fieldType = .checkbox) (chosen : answer.selectedValues ≠ []) :
    Delivers field selector answer (.check selector)

/-- The document is the one some kind of artifact names, as it was recorded. -/
def Usable (path : Text) (info : FileInfo) : Prop :=
  ∃ kind expected, documentOf x package kind = some (path, expected) ∧
    intact expected (some info) = true

/-- The command puts one of the answers in its control. -/
def DeliversAny (form : FormSnapshot) (answers : List FieldAnswer) (t : Touch) : Prop :=
  ∃ answer ∈ answers, answer.status = .answered ∧
    ∃ control, controlOf form answer = some control ∧
      Delivers u x package control.1 control.2 answer t

end Delivers

/-! ### Programs that type -/

section Types
variable {ω α β : Type} {b : Browser ω} {frame : Option Frame}
variable {rules : Rules} {delivers delivers' : Touch → Prop} {usable : Text → FileInfo → Prop}

/-- In front of a form the acts are allowed, and leave it there. -/
def Typed (rules : Rules) (delivers : Touch → Prop) (usable : Text → FileInfo → Prop)
    (acts : List Act) : Prop :=
  ∀ start, (start = .clear ∨ start = .typed) →
    ∃ final, (final = .clear ∨ final = .typed) ∧ Steps rules delivers usable 0 start final acts

theorem typed_nil : Typed rules delivers usable [] := fun start here => ⟨start, here, .nil⟩

theorem Typed.append {acts more : List Act} (first : Typed rules delivers usable acts)
    (second : Typed rules delivers usable more) : Typed rules delivers usable (acts ++ more) := by
  intro start here
  obtain ⟨middle, there, steps⟩ := first start here
  obtain ⟨final, end_, steps'⟩ := second middle there
  exact ⟨final, end_, steps.append steps'⟩

theorem Typed.mono {acts : List Act} (typed : Typed rules delivers usable acts)
    (more : ∀ t, delivers t → delivers' t) : Typed rules delivers' usable acts := by
  intro start here
  obtain ⟨final, end_, steps⟩ := typed start here
  exact ⟨final, end_, { steps with touches := fun t member => more t (steps.touches t member) }⟩

/-- One act that keeps the stage. -/
theorem typed_single (a : Act) (permitted : ∀ start, (start = .clear ∨ start = .typed) →
    rules.permits start a ∧ rules.next start a = start) (untouched : ∀ t, a ≠ .touched t)
    (unpressed : a.presses = false) : Typed rules delivers usable [a] := by
  intro start here
  obtain ⟨may, same⟩ := permitted start here
  have steps : Steps rules delivers usable 0 start (rules.next start a) [a] :=
    .single a may untouched unpressed
  rw [same] at steps
  exact ⟨start, here, steps⟩

theorem typed_touched {t : Touch} (allowed : delivers t)
    (elsewhere : ∀ selector path, t ≠ .upload selector path) :
    Typed rules delivers usable [.touched t] := by
  intro start here
  refine ⟨.typed, .inr rfl, ⟨here, trivial⟩, rfl, rfl, ?_, ?_⟩
  · intro t' member
    obtain rfl := Act.touched.inj (List.mem_singleton.mp member)
    exact allowed
  · refine backed_of_no_upload fun selector path member => ?_
    exact elsewhere selector path (Act.touched.inj (List.mem_singleton.mp member)).symm

theorem typed_upload {selector path : Text} {info : FileInfo}
    (allowed : delivers (.upload selector path)) (good : usable path info) :
    Typed rules delivers usable
      [.read path (some info), .touched (.upload selector path)] := by
  intro start here
  refine ⟨.typed, .inr rfl, ⟨here, here, trivial⟩, rfl, rfl, ?_, ?_⟩
  · intro t member
    simp only [List.mem_cons, reduceCtorEq, Act.touched.injEq, List.not_mem_nil, or_false,
      false_or] at member
    exact member ▸ allowed
  · intro past selector' path' rest whole
    rcases past with _ | ⟨first, _ | ⟨second, past⟩⟩
    · simp at whole
    · simp only [List.cons_append, List.nil_append, List.cons.injEq, Act.touched.injEq,
        Touch.upload.injEq] at whole
      obtain ⟨rfl, ⟨-, rfl⟩, -⟩ := whole
      exact ⟨[], info, rfl, good⟩
    · simp at whole

/-- The program types what is allowed, and leaves the run as it was. -/
def Types (rules : Rules) (delivers : Touch → Prop) (usable : Text → FileInfo → Prop)
    (m : Drive ω α) : Prop :=
  ∀ s, m.Runs Session.log s (fun _ acts s' => Typed rules delivers usable acts ∧ s'.run = s.run)
    fun e acts s' => (∃ x, e = .other x) ∧ Typed rules delivers usable acts ∧ s'.run = s.run

theorem Silent.types {m : Drive ω α} (silent : Silent m) : Types rules delivers usable m := by
  intro s
  refine (silent s).mono ?_ ?_
  · rintro _ _ _ ⟨rfl, same⟩
    exact ⟨typed_nil, same⟩
  · rintro _ _ _ ⟨other, rfl, same⟩
    exact ⟨other, typed_nil, same⟩

theorem types_pure (a : α) : Types rules delivers usable (pure a : Drive ω α) :=
  (silent_pure a).types

theorem types_noteFill (label : Text) (reason : String) :
    Types rules delivers usable (noteFill label reason : Drive ω Unit) :=
  fun _ => runs_modify (List.append_nil _).symm ⟨typed_nil, rfl⟩

theorem touch_runs (t : Touch) (s : Session ω) : (touch b frame t).Runs Session.log s
    (fun _ acts s' => acts = [.touched t] ∧ s'.run = s.run)
    fun e acts s' => (∃ x, e = .other x) ∧ acts = [.touched t] ∧ s'.run = s.run := by
  refine runs_write fun s₁ same₁ => (silent_call (b.touch frame t) s₁).mono ?_ ?_
  · rintro _ _ s₂ ⟨rfl, same₂⟩
    exact ⟨rfl, same₂.trans same₁⟩
  · rintro _ _ s₂ ⟨other, rfl, same₂⟩
    exact ⟨other, rfl, same₂.trans same₁⟩

theorem types_touch {t : Touch} (allowed : delivers t)
    (elsewhere : ∀ selector path, t ≠ .upload selector path) :
    Types rules delivers usable (touch b frame t) := by
  intro s
  refine (touch_runs t s).mono ?_ ?_
  · rintro _ _ s₁ ⟨rfl, same₁⟩
    exact ⟨typed_touched allowed elsewhere, same₁⟩
  · rintro _ _ s₁ ⟨other, rfl, same₁⟩
    exact ⟨other, typed_touched allowed elsewhere, same₁⟩

theorem Types.bind {m : Drive ω α} {f : α → Drive ω β} (first : Types rules delivers usable m)
    (second : ∀ a, Types rules delivers usable (f a)) : Types rules delivers usable (m >>= f) := by
  intro s
  refine Program.runs_bind (first s) (fun _ _ _ holds => holds) ?_
  rintro a acts s₁ ⟨typed, same₁⟩
  refine (second a s₁).mono ?_ ?_
  · exact fun _ _ _ ⟨typed', same₂⟩ => ⟨typed.append typed', same₂.trans same₁⟩
  · exact fun _ _ _ ⟨other, typed', same₂⟩ => ⟨other, typed.append typed', same₂.trans same₁⟩

theorem types_ite {c : Prop} [Decidable c] {m m' : Drive ω α}
    (yes : c → Types rules delivers usable m) (no : ¬c → Types rules delivers usable m') :
    Types rules delivers usable (if c then m else m') := by
  by_cases here : c
  · rw [if_pos here]
    exact yes here
  · rw [if_neg here]
    exact no here

theorem Types.orElse {m : Drive ω α} {handler : Failure → Drive ω α}
    (first : Types rules delivers usable m) (second : ∀ e, Types rules delivers usable (handler e)) :
    Types rules delivers usable (m.orElse handler) := by
  intro s
  refine runs_orElse (first s) ?_
  rintro e acts s₁ ⟨-, typed, same₁⟩
  refine (second e s₁).mono ?_ ?_
  · exact fun _ _ _ ⟨typed', same₂⟩ => ⟨typed.append typed', same₂.trans same₁⟩
  · exact fun _ _ _ ⟨other, typed', same₂⟩ => ⟨other, typed.append typed', same₂.trans same₁⟩

/-! ### A control -/

section Control
variable {u : Unicode} {printable : Char → Bool} {x : Executor} {package : Package}
variable {field : PageField} {selector : Text} {answer : FieldAnswer}

theorem silent_optionRounds (rounds : Nat) (last : List Text) :
    Silent (optionRounds u b frame rounds last) := by
  induction rounds generalizing last with
  | zero => exact silent_pure _
  | succ rounds ih =>
    refine (silent_call _).bind fun _ => (silent_call _).bind fun shown => ?_
    dsimp only
    split
    · split
      · exact silent_pure _
      · exact ih _
    · refine ((silent_call _).orElse fun _ => silent_pure _).bind fun notice => ?_
      split
      · exact silent_pure _
      · exact ih _

theorem silent_waitForOptions : Silent (waitForOptions u b frame) :=
  (silent_peek _).bind fun _ => silent_optionRounds _ _

theorem silent_comboboxShows (chosen : Text) : Silent (comboboxShows u b frame selector chosen) :=
  (silent_call _).bind fun _ => silent_pure _

theorem types_tryTerm {wanted term : Text} (combobox : field.fieldType = .combobox)
    (wants : wantedOf answer = some wanted) (listed : term ∈ searchTerms u wanted answer.category) :
    Types rules (Delivers u x package field selector answer) usable
      (tryTerm u printable b frame selector field.label wanted answer.category term) := by
  refine (types_touch (.focus combobox) (by simp)).bind fun _ => ?_
  refine (types_touch (.empty combobox) (by simp)).bind fun _ => ?_
  refine (types_touch (.term combobox wants listed) (by simp)).bind fun _ => ?_
  refine silent_waitForOptions.types.bind fun labels => ?_
  split
  · exact types_pure _
  · next chosen chooses =>
    refine (types_touch (.option combobox wants chooses) (by simp)).bind fun _ => ?_
    refine (silent_call _).types.bind fun _ => (silent_comboboxShows chosen).types.bind fun shown => ?_
    split
    · exact types_pure _
    · exact (types_noteFill _ _).bind fun _ => types_pure _

theorem types_tryTerms {wanted : Text} (combobox : field.fieldType = .combobox)
    (wants : wantedOf answer = some wanted) (terms seen : List Text)
    (listed : ∀ term ∈ terms, term ∈ searchTerms u wanted answer.category) :
    Types rules (Delivers u x package field selector answer) usable
      (tryTerms u printable b frame selector field.label wanted answer.category terms seen) := by
  induction terms generalizing seen with
  | nil => exact types_pure _
  | cons term rest ih =>
    refine (types_tryTerm combobox wants (listed term List.mem_cons_self)).bind fun tried => ?_
    split
    · exact types_pure _
    · exact ih _ fun term' member => listed term' (List.mem_cons_of_mem term member)

theorem types_pickCombobox {wanted : Text} (combobox : field.fieldType = .combobox)
    (wants : wantedOf answer = some wanted) :
    Types rules (Delivers u x package field selector answer) usable
      (pickCombobox u printable b frame selector field.label wanted answer.category) := by
  refine (types_tryTerms combobox wants _ _ fun _ member => member).bind fun tried => ?_
  split
  · exact types_pure _
  · refine Types.bind ?_ fun _ => (types_noteFill _ _).bind fun _ => types_pure _
    refine Types.orElse ?_ fun _ => types_pure _
    exact (types_touch (.empty combobox) (by simp)).bind fun _ =>
      types_touch (.close combobox) (by simp)

theorem types_pressYesno {wanted : Text} {rest : List Text} (yesno : field.fieldType = .yesno)
    (values : answer.selectedValues = wanted :: rest) :
    Types rules (Delivers u x package field selector answer) usable
      (pressYesno u printable b frame selector field.label wanted) := by
  refine (silent_call _).types.bind fun buttons => ?_
  split
  · exact (types_noteFill _ _).bind fun _ => types_pure _
  · next i names =>
    have presses : Types rules (Delivers u x package field selector answer) usable
        (pressButton b frame selector i) := by
      refine (silent_call _).types.bind fun pressed => ?_
      split
      · exact types_pure _
      · exact (types_touch (.button yesno values names) (by simp)).bind fun _ =>
          (silent_call _).types
    refine presses.bind fun _ => (silent_call _).types.bind fun now => ?_
    split
    · exact types_pure _
    · exact (types_noteFill _ _).bind fun _ => types_pure _

theorem types_checkAll (multi : field.fieldType = .multiSelect ∨ field.fieldType = .radio)
    (values : List Text) (chosen : ∀ v ∈ values, v ∈ answer.selectedValues) :
    Types rules (Delivers u x package field selector answer) usable
      (checkAll b frame selector values) := by
  induction values with
  | nil => exact types_pure _
  | cons value rest ih =>
    refine (types_touch (.box multi (chosen value List.mem_cons_self)) (by simp)).bind fun _ => ?_
    exact ih fun v member => chosen v (List.mem_cons_of_mem value member)

theorem types_filling {m : Drive ω Unit} (types : Types rules delivers usable m) :
    Types rules delivers usable (filling m) := types.bind fun _ => types_pure _

theorem typed_read (path : Text) (info : Option FileInfo) :
    Typed rules delivers usable [.read path info] :=
  typed_single (.read path info) (fun _ here => ⟨here, rfl⟩) (by simp) rfl

theorem checkedPath_runs {s : Session ω} (path : Text) (expected : Option Expected) :
    (checkedPath b path expected).Runs Session.log s
      (fun r acts s' => s'.run = s.run ∧ ∃ info, acts = [.read path info] ∧
        r = if intact expected info then some path else none)
      fun _ _ _ => False := by
  have reads : (readFile b path).Runs Session.log s
      (fun info acts s' => s'.run = s.run ∧ acts = [.read path info]) fun _ _ _ => False :=
    runs_peek fun _ => runs_write fun _ same => runs_pure ⟨same, rfl⟩
  refine Program.runs_bind reads (fun _ _ _ never => never.elim) ?_
  rintro info _ s₁ ⟨same, rfl⟩
  exact runs_pure ⟨same, info, rfl, rfl⟩

theorem types_uploading (file : field.fieldType = .file) :
    Types rules (Delivers u x package field selector answer) (Usable x package) (do
      match ← artifactPath b x package answer.artifactType with
      | none => pure .fileMissing
      | some path => filling (touch b frame (.upload selector path))) := by
  intro s
  unfold artifactPath
  split
  · exact types_pure _ s
  next path expected found =>
  obtain ⟨kind, kind_, named⟩ := Option.bind_eq_some_iff.mp found
  have wants : answer.artifactType = some kind := by
    unfold RangeApply.given at kind_
    grind
  refine Program.runs_bind (checkedPath_runs path expected) (fun _ _ _ never => never.elim) ?_
  rintro _ _ s₁ ⟨same₁, info, rfl, rfl⟩
  by_cases good : intact expected info = true
  · obtain ⟨info, rfl⟩ : ∃ i, info = some i := by
      cases info with
      | none => cases good
      | some i => exact ⟨i, rfl⟩
    rw [if_pos good]
    have typed : Typed rules (Delivers u x package field selector answer) (Usable x package)
        [.read path (some info), .touched (.upload selector path)] :=
      typed_upload (.document file wants named) ⟨kind, expected, named, good⟩
    refine Program.runs_bind (touch_runs _ s₁) ?_ ?_
    · rintro _ _ s₂ ⟨other, rfl, same₂⟩
      exact ⟨other, typed, same₂.trans same₁⟩
    · rintro _ _ s₂ ⟨rfl, same₂⟩
      exact runs_pure ⟨typed, same₂.trans same₁⟩
  · rw [if_neg good]
    exact runs_pure ⟨typed_read path info, same₁⟩

theorem types_fill : Types rules (Delivers u x package field selector answer) (Usable x package)
    (fill u printable b frame x package field selector answer) := by
  refine types_ite (fun combobox => ?_) fun _ => ?_
  · split
    · exact types_pure _
    · next wanted wants => exact types_pickCombobox combobox wants
  refine types_ite (fun yesno => ?_) fun _ => ?_
  · split
    · exact types_pure _
    · next wanted rest values => exact types_pressYesno yesno values
  refine types_ite types_uploading fun _ => ?_
  refine types_ite (fun typed => ?_) fun _ => ?_
  · split
    · exact types_pure _
    · next value said => exact types_filling (types_touch (.text typed said) (by simp))
  refine types_ite (fun one => ?_) fun _ => ?_
  · split
    · exact types_pure _
    · next value rest values => exact types_filling (types_touch (.select one values) (by simp))
  refine types_ite (fun multi => types_ite (fun _ => types_pure _) fun _ => ?_) fun _ => ?_
  · refine types_ite (fun _ => ?_) fun _ => ?_
    · exact types_filling (types_checkAll (.inl multi) _ fun _ member => member)
    · exact types_filling (types_touch (.selectAll multi) (by simp))
  refine types_ite (fun radio => ?_) fun _ => ?_
  · split
    · exact types_pure _
    · next value rest values =>
      refine types_filling (types_touch (.box (.inr radio) ?_) (by simp))
      rw [values]
      exact List.mem_cons_self
  refine types_ite (fun box => types_ite (fun _ => types_pure _) fun chosen => ?_) fun _ => ?_
  · exact types_filling (types_touch (.check box chosen) (by simp))
  · exact (types_noteFill _ _).bind fun _ => types_pure _

end Control

/-! ### The form -/

section Form
variable {u : Unicode} {printable : Char → Bool} {x : Executor} {package : Package}
variable {form : FormSnapshot} {answers : List FieldAnswer} {answer : FieldAnswer}

/-- Nothing that is required was left. -/
def Tally.complete (t : Tally) : Prop :=
  t.missingRequired = [] ∧ t.fileMissing = [] ∧ t.unfillableRequired = []

/-- The answer was put in its control; or it has none, and there was nothing to put there. -/
def Settled (form : FormSnapshot) (acts : List Act) (answer : FieldAnswer) : Prop :=
  (controlOf form answer = none ∧ answer.status ≠ .answered) ∨
    ∃ control, controlOf form answer = some control ∧ answer.status = .answered ∧
      .filled control.2 answer.label ∈ acts

theorem Settled.append {acts : List Act} (settled : Settled form acts answer) (more : List Act) :
    Settled form (acts ++ more) answer := by
  rcases settled with away | ⟨control, found, answered, filled⟩
  · exact .inl away
  · exact .inr ⟨control, found, answered, List.mem_append_left more filled⟩

theorem Settled.later {acts : List Act} (settled : Settled form acts answer) (earlier : List Act) :
    Settled form (earlier ++ acts) answer := by
  rcases settled with away | ⟨control, found, answered, filled⟩
  · exact .inl away
  · exact .inr ⟨control, found, answered, List.mem_append_right earlier filled⟩

theorem lost_complete {t : Tally} (complete : (t.lost answer).complete) :
    t.complete ∧ (answer.required = true → answer.status ≠ .answered) := by
  unfold Tally.lost at complete
  split at complete
  · exact absurd complete.1 (by simp)
  · next open_ => exact ⟨complete, fun required answered => open_ ⟨required, answered⟩⟩

theorem unanswered_complete {t : Tally} (complete : (t.unanswered answer).complete) :
    t.complete ∧ answer.required ≠ true := by
  unfold Tally.unanswered at complete
  split at complete
  · exact absurd complete.1 (by simp)
  · next optional => exact ⟨complete, optional⟩

theorem count_complete {t : Tally} {outcome : Filled} (complete : (t.count answer outcome).complete) :
    t.complete ∧ (answer.required = true → outcome = .filled) := by
  cases outcome with
  | filled => exact ⟨complete, fun _ => rfl⟩
  | fileMissing =>
    unfold Tally.count at complete
    dsimp only at complete
    split at complete
    · exact absurd complete.2.1 (by simp)
    · next optional => exact ⟨complete, fun required => absurd required optional⟩
  | skipped =>
    obtain ⟨missing, files, left⟩ := complete
    unfold Tally.count at left
    dsimp only at left
    split at left
    · exact absurd left (by simp)
    · next optional => exact ⟨⟨missing, files, left⟩, fun required => absurd required optional⟩

/-- What the fill of one answer leaves. -/
structure FilledOne (rules : Rules) (u : Unicode) (x : Executor) (package : Package)
    (form : FormSnapshot) (answers : List FieldAnswer) (answer : FieldAnswer) (t t' : Tally)
    (acts : List Act) : Prop where
  typed : Typed rules (DeliversAny u x package form answers) (Usable x package) acts
  complete : t'.complete → t.complete ∧ (answer.required = true → Settled form acts answer)

theorem fillOne_runs (rules : Rules) {s : Session ω} (member : answer ∈ answers) (t : Tally) :
    (fillOne u printable b frame x package form t answer).Runs Session.log s
      (fun t' acts s' =>
        FilledOne rules u x package form answers answer t t' acts ∧ s'.run = s.run)
      fun e acts s' => e.early ∧
        Typed rules (DeliversAny u x package form answers) (Usable x package) acts ∧
        s'.run = s.run := by
  unfold fillOne
  split
  · next away =>
    refine runs_pure ⟨⟨typed_nil, fun complete => ?_⟩, rfl⟩
    obtain ⟨whole, unanswered⟩ := lost_complete complete
    exact ⟨whole, fun required => .inl ⟨away, unanswered required⟩⟩
  next field selector found =>
  split
  · refine runs_pure ⟨⟨typed_nil, fun complete => ?_⟩, rfl⟩
    obtain ⟨whole, optional⟩ := unanswered_complete complete
    exact ⟨whole, fun required => absurd required optional⟩
  next answered =>
  have answered : answer.status = .answered := not_not.mp answered
  have any (touch : Touch) (delivers : Delivers u x package field selector answer touch) :
      DeliversAny u x package form answers touch :=
    ⟨answer, member, answered, (field, selector), found, delivers⟩
  have fills : (guarded u b (classifyFill u) (fill u printable b frame x package field selector
      answer)).Runs Session.log s
      (fun _ acts s' => Typed rules (Delivers u x package field selector answer) (Usable x package)
        acts ∧ s'.run = s.run)
      fun e acts s' => e.early ∧ Typed rules (Delivers u x package field selector answer)
        (Usable x package) acts ∧ s'.run = s.run :=
    guarded_runs (fun acts run => Typed rules (Delivers u x package field selector answer)
      (Usable x package) acts ∧ run = s.run) (classifyFill_early u) (types_fill s)
  refine Program.runs_bind fills ?_ ?_
  · exact fun _ _ _ ⟨early, typed, same⟩ => ⟨early, typed.mono any, same⟩
  rintro outcome acts s₁ ⟨typed, same₁⟩
  unfold noteFilled
  split
  · next done =>
    refine runs_write fun s₂ same₂ => runs_pure ⟨⟨?_, fun complete => ?_⟩, same₂.trans same₁⟩
    · refine (typed.mono any).append ?_
      exact typed_single (.filled selector answer.label) (fun _ here => ⟨here, rfl⟩) (by simp) rfl
    · obtain ⟨whole, -⟩ := count_complete complete
      exact ⟨whole, fun _ => .inr ⟨(field, selector), found, answered, by simp⟩⟩
  · next left =>
    refine runs_pure ⟨⟨?_, fun complete => ?_⟩, same₁⟩
    · rw [List.append_nil]
      exact typed.mono any
    · obtain ⟨whole, filled⟩ := count_complete complete
      exact ⟨whole, fun required => absurd (filled required) left⟩

theorem fillForm_runs (rules : Rules) {s : Session ω} :
    (fillForm u printable b frame x package form answers).Runs Session.log s
      (fun t acts s' => Typed rules (DeliversAny u x package form answers) (Usable x package) acts ∧
        s'.run = s.run ∧
        (t.complete → ∀ a ∈ answers, a.required = true → Settled form acts a))
      fun e acts s' => e.early ∧
        Typed rules (DeliversAny u x package form answers) (Usable x package) acts ∧
        s'.run = s.run := by
  have cleared : (Program.modify fun s => { s with fillNotes := [] } : Drive ω Unit).Runs Session.log s
      (fun _ acts s' => acts = [] ∧ s'.run = s.run) (fun _ _ _ => False) :=
    runs_modify (List.append_nil _).symm ⟨rfl, rfl⟩
  refine Program.runs_bind cleared (fun _ _ _ never => never.elim) ?_
  rintro ⟨⟩ _ s₁ ⟨rfl, same₁⟩
  refine runs_foldlM (fun past (t : Tally) acts (s' : Session ω) =>
    Typed rules (DeliversAny u x package form answers) (Usable x package) acts ∧ s'.run = s.run ∧
      (t.complete → ∀ a ∈ past, a.required = true → Settled form acts a))
    ⟨typed_nil, same₁, by simp⟩ ?_
  rintro past answer rest t acts s₂ rfl ⟨typed, same₂, settled⟩
  have here : answer ∈ past ++ answer :: rest := by simp
  refine (fillOne_runs rules here t).mono ?_ ?_
  · rintro t' more s₃ ⟨one, same₃⟩
    refine ⟨typed.append one.typed, same₃.trans same₂, fun complete a member required => ?_⟩
    obtain ⟨whole, put⟩ := one.complete complete
    rcases List.mem_append.mp member with earlier | last
    · exact (settled whole a earlier required).append more
    · obtain rfl := List.mem_singleton.mp last
      exact (put required).later acts
  · rintro e more s₃ ⟨early, typed', same₃⟩
    exact ⟨early, typed.append typed', same₃.trans same₂⟩

end Form

end Types

end RangeApply.Playwright
