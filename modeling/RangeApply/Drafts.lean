import RangeApply.Handling

/-! What the operations draft: the parts of a signal that classification, attribution and
retraction leave alone, and the statuses a draft can end in. -/
namespace RangeApply

namespace Signal
variable {env : SignalEnv} {look : Lookups} {known : ApplicationId → Bool} {ai : Option AIReply}
  {u : Unicode} {n : NormalizedSignal} {row : Signal} {r : AttributionResult}

/-! ### Classifying -/

/-- What classifying and attributing a signal leave alone. -/
structure SameHistory (row row' : Signal) : Prop where
  events : row'.events = row.events
  source : row'.source = row.source
  declared : row'.declared = row.declared
  payload : row'.payload = row.payload

theorem SameHistory.refl (row : Signal) : SameHistory row row := ⟨rfl, rfl, rfl, rfl⟩

theorem SameHistory.trans {row row' row'' : Signal} (first : SameHistory row row')
    (second : SameHistory row' row'') : SameHistory row row'' :=
  ⟨second.events.trans first.events, second.source.trans first.source,
    second.declared.trans first.declared, second.payload.trans first.payload⟩

theorem classify_history : SameHistory row (row.classify u ai n).2 := by
  unfold classify
  split
  · exact .refl row
  · exact ⟨rfl, rfl, rfl, rfl⟩

theorem classify_category : (row.classify u ai n).2.category = (row.classify u ai n).1.category := by
  unfold classify
  split <;> rfl

theorem classify_confidence :
    (row.classify u ai n).2.confidence = (row.classify u ai n).1.confidence := by
  unfold classify
  split <;> rfl

@[simp] theorem classify_applicationId : (row.classify u ai n).2.applicationId = row.applicationId := by
  unfold classify
  split <;> rfl

@[simp] theorem classify_attributions : (row.classify u ai n).2.attributions = row.attributions := by
  unfold classify
  split <;> rfl

/-! ### Attributing -/

/-- The decision the signal ends with is the stored one: its own last one, or one appended. -/
theorem store_cases (r : AttributionResult) (row : Signal) :
    (row.store r = row ∧ ∃ current, row.attributions.getLast? = some current ∧
      current.applicationId = r.applicationId) ∨
    row.store r = { row with
      attributions := row.attributions ++ [r], attributionStatus := r.status,
      applicationId := r.applicationId } := by
  unfold store
  cases last : row.attributions.getLast? with
  | none => exact .inr rfl
  | some current =>
    dsimp only
    split
    · rename_i same
      simp only [Bool.and_eq_true, decide_eq_true_eq] at same
      exact .inl ⟨rfl, current, rfl, same.1.2⟩
    · exact .inr rfl

theorem store_history : SameHistory row (row.store r) := by
  obtain ⟨same, -⟩ | appended := store_cases r row
  · rw [same]
    exact .refl row
  · rw [appended]
    exact ⟨rfl, rfl, rfl, rfl⟩

@[simp] theorem store_category : (row.store r).category = row.category := by
  obtain ⟨same, -⟩ | appended := store_cases r row
  · rw [same]
  · rw [appended]

theorem attribute_history : SameHistory row (row.attribute_ env look n).2 := by
  unfold attribute_
  split
  · exact .refl row
  · exact store_history

@[simp] theorem attribute_category : (row.attribute_ env look n).2.category = row.category := by
  unfold attribute_
  split
  · rfl
  · exact store_category

/-- The signal belongs to the application of its current attribution. -/
def Placed (row : Signal) : Prop :=
  row.applicationId = row.attributions.getLast?.bind AttributionResult.applicationId

theorem Placed.store (placed : row.Placed) : (row.store r).Placed := by
  obtain ⟨same, -⟩ | appended := store_cases r row
  · rw [same]
    exact placed
  · rw [appended]
    simp [Placed]

theorem store_applicationId (placed : row.Placed) : (row.store r).applicationId = r.applicationId := by
  obtain ⟨same, current, last, agrees⟩ | appended := store_cases r row
  · rw [same, placed, last]
    exact agrees
  · rw [appended]

theorem Placed.attribute (placed : row.Placed) : (row.attribute_ env look n).2.Placed := by
  unfold attribute_
  split
  · exact placed
  · exact placed.store

theorem attribute_applicationId (placed : row.Placed) :
    (row.attribute_ env look n).2.applicationId = (row.attribute_ env look n).1.applicationId := by
  unfold attribute_
  split
  · rename_i current manual
    obtain ⟨last, -⟩ := Option.filter_eq_some_iff.mp manual
    rw [placed, last]
    rfl
  · exact store_applicationId placed

/-! ### What is recorded -/

/-- What `_apply` files stands for the application it was told, in the category it was told. -/
structure Files (row : Signal) (known : ApplicationId → Bool) (c : Classification)
    (r : AttributionResult) (f : Filing) : Prop where
  classified : c.category ≠ .unknown
  application : r.applicationId = some f.key.application
  known : known f.key.application = true
  outcome : (row.outcome c).1 = some f.key.outcome
  origin : (row.outcome c).2.2 = f.key.origin
  evidence : (row.outcome c).2.1 = f.evidence
  category : f.category = c.category
  supersedes : f.supersedes = none
  status : f.status = (appliedStatus c f.key.outcome f.evidence).1

theorem appliedStatus_cases (c : Classification) (outcome : OutcomeKind)
    (evidence : EvidenceStrength) : (appliedStatus c outcome evidence).1 = .needsReview ∨
      (appliedStatus c outcome evidence).1 = .applied := by
  unfold appliedStatus
  split
  · exact .inl rfl
  split
  · exact .inl rfl
  · exact .inr rfl

/-- `_apply` leaves the signal to a person, to a later attribution, or attributed; or it files. -/
theorem apply_cases (known : ApplicationId → Bool) (c : Classification) (r : AttributionResult)
    (row : Signal) :
    (∃ status reason, row.apply_ known c r = .settle status reason ∧
      (status = .needsReview ∨ status = .unmatched ∨ status = .attributed)) ∨
    ∃ f, row.apply_ known c r = .file f ∧ row.Files known c r f := by
  unfold apply_
  split
  · exact .inl ⟨_, _, rfl, .inl rfl⟩
  rename_i classified
  split
  · exact .inl ⟨_, _, rfl, .inl rfl⟩
  split
  · exact .inl ⟨_, _, rfl, .inr (.inl rfl)⟩
  · rename_i a attributed
    split
    · exact .inl ⟨_, _, rfl, .inr (.inl rfl)⟩
    · rename_i exists_
      dsimp only
      split
      · exact .inl ⟨_, _, rfl, .inr (.inr rfl)⟩
      · rename_i outcome follows
        have told : r.applicationId = some a := by
          split at attributed
          · contradiction
          · exact attributed
        exact .inr ⟨_, rfl, classified, told, by simpa using exists_, follows, rfl, rfl, rfl, rfl, rfl⟩

theorem attribute_applicationId_of_classify (placed : row.Placed) :
    ((row.classify u ai n).2.attribute_ env look n).2.applicationId =
      ((row.classify u ai n).2.attribute_ env look n).1.applicationId :=
  attribute_applicationId (by simpa [Placed] using placed)

/-! ### Recording an event -/

/-- A retraction makes no event active. -/
theorem retract_active {reason : String} {row : Signal} {k : EventKey} {e' : OutcomeEvent}
    (found : (row.retract reason).events.get k = some e') : e'.active = false := by
  simp only [retract, Table.get_mapRows, Option.map_eq_some_iff] at found
  obtain ⟨e, -, rfl⟩ := found
  unfold OutcomeEvent.retract
  split
  · rename_i retracted
    simp [OutcomeEvent.active, retracted]
  · simp [OutcomeEvent.active]

section Record
variable {f : Filing} {e : OutcomeEvent}

@[simp] theorem record_applicationId (f : Filing) (e : OutcomeEvent) (row : Signal) :
    (row.record f e).applicationId = row.applicationId := by
  unfold record
  split <;> rfl

@[simp] theorem record_category (f : Filing) (e : OutcomeEvent) (row : Signal) :
    (row.record f e).category = row.category := by
  unfold record
  split <;> rfl

@[simp] theorem record_attributions (f : Filing) (e : OutcomeEvent) (row : Signal) :
    (row.record f e).attributions = row.attributions := by
  unfold record
  split <;> rfl

theorem record_held (held : (row.events.get f.key).isSome = true) : row.record f e = row :=
  if_pos held

theorem record_free (free : row.events.get f.key = none) :
    (row.record f e).events = supersede f (row.events.insertNew f.key e) := by
  simp [record, free]

theorem record_new (free : row.events.get f.key = none) :
    (row.record f e).events.get f.key = some e := by
  have inserted : (row.events.insertNew f.key e).get f.key = some e := Table.get_insertNew_self free
  rw [record_free free, supersede]
  split
  · exact inserted
  · split
    · exact inserted
    · rename_i old _ other
      rw [Table.get_modify_other _ _ (Ne.symm other), inserted]

/-- Recording makes only the new event active. -/
theorem active_of_record {k : EventKey} {e' : OutcomeEvent} (other : k ≠ f.key)
    (found : (row.record f e).events.get k = some e') (active : e'.active = true) :
    row.events.get k = some e' := by
  have inserted {x : OutcomeEvent} (found : (row.events.insertNew f.key e).get k = some x) :
      row.events.get k = some x := by
    cases before : row.events.get k with
    | none => exact absurd (Table.get_insertNew_none before found).1 other
    | some y => rwa [Table.get_insertNew before] at found
  cases free : row.events.get f.key with
  | some y => rwa [record_held (by rw [free]; rfl)] at found
  | none =>
    rw [record_free free, supersede] at found
    split at found
    · exact inserted found
    · split at found
      · exact inserted found
      · rename_i old _ _
        by_cases superseded : k = old
        · subst superseded
          rw [Table.get_modify_self] at found
          obtain ⟨x, -, rfl⟩ := Option.map_eq_some_iff.mp found
          simp [OutcomeEvent.active] at active
        · rw [Table.get_modify_other _ _ superseded] at found
          exact inserted found

end Record

theorem apply_congr {row' : Signal} (same : row'.payload = row.payload) (c : Classification)
    (r : AttributionResult) : row'.apply_ known c r = row.apply_ known c r := by
  have outcome : row'.outcome c = row.outcome c := by
    unfold Signal.outcome fromExecution verificationStatus
    rw [same]
  simp only [apply_, outcome]

/-- What follows from a reading is filed for what the reading says. -/
theorem files_of_apply {c : Classification} {f : Filing} (filed : row.apply_ known c r = .file f) :
    row.Files known c r f := by
  obtain ⟨status, reason, settled, -⟩ | ⟨f', filed', files⟩ := apply_cases known c r row
  · rw [settled] at filed
    contradiction
  · rw [filed'] at filed
    cases filed
    exact files

end Signal

/-! ### What every draft is -/

/-- A draft of a signal: events stay as they are or are all retracted, and what is recorded is
about the application and the category the signal is left with. -/
structure Draft.Sound (row : Signal) (d : Draft) : Prop where
  history : (d.row.events = row.events ∧ d.touched = []) ∨
    (∃ reason, d.row.events = (row.retract reason).events) ∧ d.touched = row.touched
  placed : row.Placed → d.row.Placed
  keeps : d.consequence = .keep → d.row = row
  settles : ∀ status reason, d.consequence = .settle status reason → status ≠ .applied
  application : row.Placed → ∀ f, d.consequence = .file f →
    d.row.applicationId = some f.key.application
  category : ∀ f, d.consequence = .file f → f.category = d.row.category
  supersedes : ∀ f old, d.consequence = .file f → f.supersedes = some old →
    f.key.origin = .human ∧ old.application = f.key.application

/-- A signal without events is drafted without any. -/
theorem Draft.Sound.get_none {row : Signal} {d : Draft} (sound : d.Sound row)
    (none_ : row.events = .empty) (k : EventKey) : d.row.events.get k = none := by
  rcases sound.history with ⟨same, -⟩ | ⟨⟨reason, retracted⟩, -⟩
  · rw [same, none_]
    rfl
  · rw [retracted, Signal.retract, none_]
    rfl

theorem Draft.Sound.placed_final {row : Signal} {d : Draft} {e : Filing → OutcomeEvent}
    (sound : d.Sound row) (placed : row.Placed) : (d.final e).Placed := by
  have before := sound.placed placed
  unfold Draft.final
  split
  · exact before
  · exact before
  · simpa [Signal.Placed, Signal.setStatus] using before

namespace Signal
variable {env : SignalEnv} {look : Lookups} {known : ApplicationId → Bool} {ai : Option AIReply}
  {n : NormalizedSignal} {row : Signal}

/-- A row that has been read and attributed, with what `_apply` makes of it. -/
theorem apply_sound {row' final : Signal} {touched : List ApplicationId} {c : Classification}
    {r : AttributionResult}
    (history : (row'.events = row.events ∧ touched = []) ∨
      (∃ reason, row'.events = (row.retract reason).events) ∧ touched = row.touched)
    (placed : row.Placed → row'.Placed ∧ row'.applicationId = r.applicationId)
    (category : row'.category = c.category)
    (same : final = row' ∨ final = { row' with status := .new }) :
    Draft.Sound row ⟨final, touched, row'.apply_ known c r⟩ := by
  have events : final.events = row'.events := by rcases same with rfl | rfl <;> rfl
  have application : final.applicationId = row'.applicationId := by rcases same with rfl | rfl <;> rfl
  have attributions : final.attributions = row'.attributions := by rcases same with rfl | rfl <;> rfl
  have reading : final.category = row'.category := by rcases same with rfl | rfl <;> rfl
  constructor
  case history => simpa only [events] using history
  case placed =>
    intro before
    simpa only [Placed, application, attributions] using (placed before).1
  case keeps =>
    intro keep
    obtain ⟨status, reason, settled, -⟩ | ⟨f, filed, -⟩ := apply_cases known c r row'
    · rw [settled] at keep
      contradiction
    · rw [filed] at keep
      contradiction
  case settles =>
    intro status reason settles
    obtain ⟨status', reason', settled, kinds⟩ | ⟨f, filed, -⟩ := apply_cases known c r row'
    · rw [settled] at settles
      cases settles
      rcases kinds with rfl | rfl | rfl <;> decide
    · rw [filed] at settles
      contradiction
  case application =>
    intro before f file
    rw [application, (placed before).2]
    exact (files_of_apply file).application
  case category =>
    intro f file
    rw [(files_of_apply file).category, reading, category]
  case supersedes =>
    intro f old file superseded
    rw [(files_of_apply file).supersedes] at superseded
    contradiction

/-- A signal that is only given a status. -/
theorem settle_sound {row' : Signal} {touched : List ApplicationId} {status : SignalStatus}
    {reason : String}
    (history : (row'.events = row.events ∧ touched = []) ∨
      (∃ reason, row'.events = (row.retract reason).events) ∧ touched = row.touched)
    (application : row'.applicationId = row.applicationId)
    (attributions : row'.attributions = row.attributions) (other : status ≠ .applied) :
    Draft.Sound row ⟨row', touched, .settle status reason⟩ where
  history := history
  placed before := by simpa only [Placed, application, attributions] using before
  keeps keep := by contradiction
  settles := by rintro _ _ ⟨⟩; exact other
  application _ _ file := by contradiction
  category _ file := by contradiction
  supersedes _ _ file := by contradiction

theorem processAs_sound : Draft.Sound row (row.processAs env look known ai n) := by
  unfold processAs
  split
  · exact ⟨.inl ⟨rfl, rfl⟩, id, fun _ => rfl, by rintro _ _ ⟨⟩, by rintro _ _ ⟨⟩, by rintro _ ⟨⟩,
      by rintro _ _ ⟨⟩⟩
  · dsimp only
    split
    · exact settle_sound (.inl ⟨classify_history.events, rfl⟩) classify_applicationId
        classify_attributions (by decide)
    · refine apply_sound (.inl ⟨?_, rfl⟩) ?_ ?_ (.inl rfl)
      · exact attribute_history.events.trans classify_history.events
      · intro placed
        have read : (row.classify env.unicode ai n).2.Placed := by simpa [Placed] using placed
        exact ⟨read.attribute, attribute_applicationId read⟩
      · rw [attribute_category, classify_category]

theorem reopen_same (row : Signal) : row.reopen = row ∨ row.reopen = { row with status := .new } := by
  unfold reopen
  split
  · exact .inr rfl
  · exact .inl rfl

theorem link_sound {a : ApplicationId} {actor : String} {d : Draft}
    (drafted : row.link env known ai a actor = .ok d) : Draft.Sound row d := by
  simp only [link] at drafted
  split at drafted
  · contradiction
  split at drafted
  · contradiction
  · cases Except.ok.inj drafted
    refine apply_sound ?_ ?_ classify_category (reopen_same _)
    · rw [classify_history.events, store_history.events]
      split
      · exact .inr ⟨⟨_, rfl⟩, rfl⟩
      · exact .inl ⟨rfl, rfl⟩
    · intro placed
      rw [classify_applicationId, Placed, classify_applicationId, classify_attributions]
      split
      · have moved : (row.retract s!"relinked to {a} by {actor}").Placed := placed
        exact ⟨moved.store, store_applicationId moved⟩
      · exact ⟨placed.store, store_applicationId placed⟩

theorem confirmClassification_sound {category : SignalCategory} {actor : String} {d : Draft}
    (drafted : row.confirmClassification env look known category actor = .ok d) :
    Draft.Sound row d := by
  simp only [confirmClassification] at drafted
  split at drafted
  · contradiction
  · cases Except.ok.inj drafted
    refine apply_sound ?_ ?_ ?_ (reopen_same _)
    · split
      · split
        · exact .inr ⟨⟨_, rfl⟩, rfl⟩
        · exact .inl ⟨rfl, rfl⟩
      · rw [attribute_history.events]
        split
        · exact .inr ⟨⟨_, rfl⟩, rfl⟩
        · exact .inl ⟨rfl, rfl⟩
    · intro placed
      -- a person's category leaves the attribution as it was
      have kept : Placed { (if (decide (row.category ≠ category) ||
          decide (row.classificationSource ≠ some .human)) && row.applicationId.isSome then
          row.retract s!"classification changed to {category.value} by {actor}" else row) with
          category := category, confidence := .high, classificationSource := some .human,
          classifierVersion := some humanVersion } := by
        split <;> exact placed
      split
      · rename_i current last
        split at last
        · exact ⟨kept, by rw [kept, last]; rfl⟩
        · contradiction
      · exact ⟨kept.attribute, attribute_applicationId kept⟩
    · split
      · rfl
      · exact attribute_category

theorem confirmOutcome_sound {outcome : OutcomeKind} {actor : String} {d : Draft}
    (drafted : row.confirmOutcome known outcome actor = .ok d) : Draft.Sound row d := by
  simp only [confirmOutcome] at drafted
  split at drafted
  · contradiction
  · rename_i a placed
    split at drafted
    · contradiction
    · cases Except.ok.inj drafted
      refine ⟨.inl ⟨rfl, rfl⟩, id, by rintro ⟨⟩, by rintro _ _ ⟨⟩, ?_, ?_, ?_⟩
      · rintro - f ⟨⟩
        exact placed
      · rintro f ⟨⟩
        rfl
      · rintro f old ⟨⟩ found
        obtain ⟨e, first, rfl⟩ := Option.map_eq_some_iff.mp found
        have here := List.find?_some first
        simp only [Bool.and_eq_true, decide_eq_true_eq] at here
        exact ⟨rfl, here.1.1⟩

theorem merge_sound {i into : SignalId} {target : Option Signal} {actor : String} {d : Draft}
    (drafted : row.merge env i into target actor = .ok d) : Draft.Sound row d := by
  simp only [merge] at drafted
  split at drafted
  · contradiction
  split at drafted
  · contradiction
  split at drafted
  · contradiction
  · cases Except.ok.inj drafted
    exact settle_sound (.inr ⟨⟨_, rfl⟩, rfl⟩) rfl rfl (by decide)

end Signal

/-- Every operation drafts soundly. -/
theorem Inbox.draft_sound {env : SignalEnv} {out : Outside} {i : SignalId} {o : SignalOp} {s : Inbox}
    {row : Signal} {d : Draft} (drafted : s.draft env out i o row = .ok d) : d.Sound row := by
  cases o with
  | process =>
    cases Except.ok.inj drafted
    exact Signal.processAs_sound
  | reprocess =>
    simp only [draft, Signal.reprocess] at drafted
    split at drafted
    · cases Except.ok.inj drafted
      exact Signal.processAs_sound
    · contradiction
  | link a actor => exact Signal.link_sound drafted
  | confirmClassification category actor => exact Signal.confirmClassification_sound drafted
  | rejectClassification actor =>
    cases Except.ok.inj drafted
    exact Signal.settle_sound (.inr ⟨⟨_, rfl⟩, rfl⟩) rfl rfl (by decide)
  | confirmOutcome outcome actor => exact Signal.confirmOutcome_sound drafted
  | ignore actor note =>
    cases Except.ok.inj drafted
    exact Signal.settle_sound (.inr ⟨⟨_, rfl⟩, rfl⟩) rfl rfl (by decide)
  | merge into actor => exact Signal.merge_sound drafted

end RangeApply
