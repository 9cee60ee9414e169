import RangeApply.Drafts

/-! Reprocessing a signal. What is read again is the stored part of the message: its subject, and
an excerpt that is redacted, cut, and gone once it is purged. -/
namespace RangeApply

/-! ### What the attribution and the classification depend on -/

/-- A machine attributes a signal to an application, or leaves it to a person. -/
def AttributionResult.Machine (r : AttributionResult) : Prop :=
  (r.status = .matched ∧ r.applicationId.isSome = true) ∨
    (r.status = .ambiguous ∨ r.status = .unmatched) ∧ r.applicationId = none

/-- A message so classified is skipped: surely advertising. -/
def Classification.Skips (c : Classification) : Prop := c.category = .other ∧ c.confident = true

section Attribution
variable {env : SignalEnv} {look : Lookups} {n : NormalizedSignal}

theorem companyRule_machine : (companyRule env look n).Machine := by
  unfold companyRule
  dsimp only
  split
  · exact .inr ⟨.inr rfl, rfl⟩
  · split
    · exact .inr ⟨.inr rfl, rfl⟩
    · exact .inl ⟨rfl, rfl⟩
    · exact .inr ⟨.inl rfl, rfl⟩
    · exact .inl ⟨rfl, rfl⟩
    · exact .inr ⟨.inl rfl, rfl⟩

theorem attributeSignal_machine : (attributeSignal env look n).Machine := by
  unfold attributeSignal
  dsimp only
  split
  · exact .inl ⟨rfl, rfl⟩
  · exact .inr ⟨.inl rfl, rfl⟩
  · split
    · exact .inr ⟨.inr rfl, rfl⟩
    · exact companyRule_machine

end Attribution

theorem judge_source (rules : List Rule) : (judge rules).source = .rules := by
  unfold judge
  dsimp only
  split <;> rfl

namespace Signal
variable {env : SignalEnv} {look : Lookups} {known : ApplicationId → Bool} {u : Unicode}
  {n n' : NormalizedSignal} {row row' : Signal}

/-- With the AI classifier off, the message does not decide what it is classified by. -/
theorem machine_source (u : Unicode) (n n' : NormalizedSignal) (row : Signal) :
    (row.machineClassification u none n).source = (row.machineClassification u none n').source := by
  unfold machineClassification
  split
  · rfl
  · split
    · rfl
    · simp [classifyText, judge_source]

theorem machine_not_human (u : Unicode) (n : NormalizedSignal) (row : Signal) :
    (row.machineClassification u none n).source ≠ .human := by
  unfold machineClassification
  split
  · simp
  · split
    · simp
    · simp [classifyText, judge_source]

/-- A message is classified by its text, by what was declared and by its payload. -/
theorem machine_congr (source : row'.source = row.source) (declared : row'.declared = row.declared)
    (payload : row'.payload = row.payload) (u : Unicode) (n : NormalizedSignal) :
    row'.machineClassification u none n = row.machineClassification u none n := by
  unfold machineClassification fromExecution verificationStatus
  rw [source, declared, payload]

/-- A classified message about an application that exists is filed, if an outcome follows. -/
theorem apply_files {c : Classification} {r : AttributionResult} {a : ApplicationId}
    {outcome : OutcomeKind} (classified : c.category ≠ .unknown) (matched : r.status = .matched)
    (about : r.applicationId = some a) (here : known a = true)
    (follows : (row.outcome c).1 = some outcome) :
    ∃ f, row.apply_ known c r = .file f ∧ f.key = ⟨a, outcome, (row.outcome c).2.2⟩ := by
  unfold apply_
  rw [if_neg classified, matched, about]
  simp [here, follows]

theorem machine_kept (kept : row.Kept row') (u : Unicode) (n : NormalizedSignal) :
    row'.machineClassification u none n = row.machineClassification u none n := by
  obtain ⟨_, _, _, rfl⟩ := kept
  rfl

/-- What is filed for one reading is filed under the same key for another in the same category, by
the same means and for the same application. -/
theorem files_again {known' : ApplicationId → Bool} {c c' : Classification} {r r' : AttributionResult}
    {f' : Filing} (filed : row.apply_ known' c' r' = .file f') (category : c'.category = c.category)
    (source : c'.source = c.source) (application : r'.applicationId = r.applicationId)
    (machine : r.Machine) (here : known f'.key.application = true) :
    ∃ f, row.apply_ known c r = .file f ∧ f.key = f'.key := by
  have files := files_of_apply filed
  have attributed : r.applicationId = some f'.key.application :=
    application.symm.trans files.application
  have matched : r.status = .matched := by
    rcases machine with ⟨matched, -⟩ | ⟨-, none_⟩
    · exact matched
    · rw [none_] at attributed
      contradiction
  have outcome : (row.outcome c).1 = some f'.key.outcome := by
    rw [← files.outcome]
    simp only [Signal.outcome, category]
    split <;> rfl
  have origin : (row.outcome c).2.2 = f'.key.origin := by
    rw [← files.origin]
    simp only [Signal.outcome, source]
    split <;> rfl
  obtain ⟨f, filed, key⟩ :=
    apply_files (category ▸ files.classified) matched attributed here outcome
  exact ⟨f, filed, by rw [key, origin]⟩

/-! ### Processing by a machine -/

/-- The row with a classification on it. -/
def classified (c : Classification) (row : Signal) : Signal :=
  { row with
    category := c.category, confidence := c.confidence, classificationSource := some c.source,
    classifierVersion := some c.classifierVersion }

/-- No person has classified, attributed, ignored or merged the signal. -/
structure Unreviewed (row : Signal) : Prop where
  going : ¬ (row.status = .ignored ∨ row.status = .merged)
  classification : row.classificationSource ≠ some .human
  attribution : ∀ current, row.attributions.getLast? = some current → current.status ≠ .manual

theorem processAs_skips (unreviewed : row.Unreviewed)
    (skips : (row.machineClassification env.unicode none n).Skips) :
    row.processAs env look known none n =
      ⟨{ row.classified (row.machineClassification env.unicode none n) with
          attributionStatus := .skipped }, [],
        .settle .ignored "classified OTHER (alerts / marketing); not an application signal"⟩ := by
  have not_human := machine_not_human env.unicode n row
  unfold processAs classify
  rw [if_neg unreviewed.going, if_neg unreviewed.classification]
  dsimp only
  rw [if_pos ⟨skips.1, skips.2, by simpa using not_human⟩]
  rfl

theorem processAs_attributes (unreviewed : row.Unreviewed)
    (attributes : ¬ (row.machineClassification env.unicode none n).Skips) :
    row.processAs env look known none n =
      ⟨(row.classified (row.machineClassification env.unicode none n)).store
        (attributeSignal env look n), [],
        row.apply_ known (row.machineClassification env.unicode none n)
          (attributeSignal env look n)⟩ := by
  have no_manual : row.attributions.getLast?.filter (fun current => current.status = .manual) =
      none := by
    refine Option.filter_eq_none_iff.mpr fun current last => ?_
    simpa using unreviewed.attribution current last
  unfold processAs classify
  rw [if_neg unreviewed.going, if_neg unreviewed.classification]
  dsimp only
  rw [if_neg fun skips => attributes ⟨skips.1, skips.2.1⟩]
  simp only [attribute_, no_manual]
  exact congrArg (Draft.mk _ _) (apply_congr store_history.payload _ _)

/-- What one processing by a machine leaves of a signal that is not skipped. -/
structure ReadOnce (known : ApplicationId → Bool) (c : Classification) (r : AttributionResult)
    (row : Signal) : Prop where
  source : row.classificationSource = some c.source
  category : row.category = c.category
  confidence : row.confidence = c.confidence
  attributions : row.attributions = [r]
  application : row.applicationId = r.applicationId
  filed : ∀ f, row.apply_ known c r = .file f → (row.events.get f.key).isSome = true

variable {c : Classification} {r : AttributionResult} {e : Filing → OutcomeEvent} {d : Draft}

theorem ReadOnce.kept (once : row.ReadOnce known c r) (kept : row.Kept row') :
    row'.ReadOnce known c r := by
  obtain ⟨_, _, _, rfl⟩ := kept
  exact ⟨once.source, once.category, once.confidence, once.attributions, once.application,
    fun f filed => once.filed f filed⟩

/-- A draft decides everything of the signal but its status and its events. -/
theorem final_eq (e : Filing → OutcomeEvent) (d : Draft) : ∃ status reason events,
    d.final e = { d.row with status := status, statusReason := reason, events := events } := by
  unfold Draft.final
  split
  · exact ⟨_, _, _, rfl⟩
  · exact ⟨_, _, _, rfl⟩
  · rename_i f _
    refine ⟨f.status, clipped 256 (some f.reason), (d.row.record f (e f)).events, ?_⟩
    unfold setStatus record
    split <;> rfl

theorem final_held (e : Filing → OutcomeEvent) {f : Filing} (filed : d.consequence = .file f) :
    ((d.final e).events.get f.key).isSome = true := by
  simp only [Draft.final, filed, setStatus]
  cases free : d.row.events.get f.key with
  | none =>
    rw [record_new free]
    rfl
  | some old =>
    rw [record_held (by rw [free]; rfl), free]
    rfl

theorem readOnce_attributed (first : row.attributions = []) (touched : List ApplicationId) :
    ((⟨(row.classified c).store r, touched, row.apply_ known c r⟩ : Draft).final e).ReadOnce
      known c r := by
  have stored : (row.classified c).store r = { row.classified c with
      attributions := [r], attributionStatus := r.status, applicationId := r.applicationId } := by
    simp only [store, classified, first]
    rfl
  obtain ⟨status, reason, events, final⟩ :=
    final_eq e ⟨(row.classified c).store r, touched, row.apply_ known c r⟩
  have filed {f : Filing} (filed : row.apply_ known c r = .file f) := final_held e
    (d := ⟨(row.classified c).store r, touched, row.apply_ known c r⟩) filed
  rw [final] at filed ⊢
  rw [stored] at filed ⊢
  exact ⟨rfl, rfl, rfl, rfl, rfl, fun f here => filed here⟩

theorem processAs_history : SameHistory row (row.processAs env look known none n).row := by
  unfold processAs
  split
  · exact .refl row
  · dsimp only
    split
    · exact ⟨classify_history.events, classify_history.source, classify_history.declared,
        classify_history.payload⟩
    · exact classify_history.trans attribute_history

theorem final_machine (row : Signal) (m : NormalizedSignal) :
    ((row.processAs env look known none n).final e).machineClassification env.unicode none m =
      row.machineClassification env.unicode none m := by
  obtain ⟨status, reason, events, final⟩ := final_eq e (row.processAs env look known none n)
  have same : SameHistory row (row.processAs env look known none n).row := processAs_history
  rw [final]
  exact machine_congr same.source same.declared same.payload env.unicode m

/-- The signal is stored, and was not read yet. -/
def Unread (row : Signal) : Prop := ∃ n declared, (ingested n declared).Kept row

theorem Unread.readOnce (unread : row.Unread)
    (open_ : ((row.processAs env look known none n).final e).status.reprocessable = true) :
    ¬ (row.machineClassification env.unicode none n).Skips ∧
      ((row.processAs env look known none n).final e).ReadOnce known
        (row.machineClassification env.unicode none n) (attributeSignal env look n) := by
  have begun : row.Unreviewed ∧ row.attributions = [] := by
    obtain ⟨_, _, _, _, _, rfl⟩ := unread
    exact ⟨⟨by simp [ingested], by simp [ingested], by simp [ingested]⟩, rfl⟩
  obtain ⟨unreviewed, first⟩ := begun
  by_cases skips : (row.machineClassification env.unicode none n).Skips
  · rw [processAs_skips unreviewed skips] at open_
    contradiction
  · rw [processAs_attributes unreviewed skips]
    exact ⟨skips, readOnce_attributed first []⟩

/-! ### Processing again -/

/-- Nothing that was read or recorded is different. -/
structure Unchanged (row row' : Signal) : Prop where
  category : row'.category = row.category
  confidence : row'.confidence = row.confidence
  application : row'.applicationId = row.applicationId
  events : ∀ k e, e.active = true → (row'.events.get k = some e ↔ row.events.get k = some e)

/-- Two readings classify alike and attribute to the same application. -/
structure Agrees (c c' : Classification) (r r' : AttributionResult) : Prop where
  category : c'.category = c.category
  confidence : c'.confidence = c.confidence
  application : r'.applicationId = r.applicationId

instance decidableAgrees (c c' : Classification) (r r' : AttributionResult) :
    Decidable (Agrees c c' r r') :=
  decidable_of_iff (c'.category = c.category ∧ c'.confidence = c.confidence ∧
    r'.applicationId = r.applicationId)
    ⟨fun all => ⟨all.1, all.2.1, all.2.2⟩, fun a => ⟨a.category, a.confidence, a.application⟩⟩

theorem Agrees.skips {c' : Classification} {r' : AttributionResult} (agrees : Agrees c c' r r')
    (skips : c'.Skips) : c.Skips := by
  refine ⟨agrees.category ▸ skips.1, ?_⟩
  simpa only [Classification.confident, agrees.confidence] using skips.2

/-- An event that is filed under a key of the signal changes no event. -/
theorem final_events_held (filed : ∀ f, d.consequence = .file f →
    (d.row.events.get f.key).isSome = true) : (d.final e).events = d.row.events := by
  unfold Draft.final
  split
  · rfl
  · rfl
  · rename_i f consequence
    rw [record_held (filed f consequence)]
    rfl

section Again
variable {known' : ApplicationId → Bool} {look' : Lookups} {c' : Classification}

theorem ReadOnce.unreviewed (once : row.ReadOnce known c r) (machine : r.Machine)
    (source : c.source ≠ .human) (open_ : row.status.reprocessable = true) : row.Unreviewed where
  going := by
    rintro (ignored | merged)
    · simp [ignored, SignalStatus.reprocessable] at open_
    · simp [merged, SignalStatus.reprocessable] at open_
  classification := by
    rw [once.source]
    simpa using source
  attribution current last := by
    rw [once.attributions] at last
    cases Option.some.inj last
    rcases machine with ⟨matched, -⟩ | ⟨ambiguous | unmatched, -⟩ <;> simp_all

/-- What the second reading files was filed by the first. -/
theorem ReadOnce.events_again {r' : AttributionResult} (once : row.ReadOnce known c r)
    (machine : r.Machine) (source : c'.source = c.source) (agrees : Agrees c c' r r')
    (here : ∀ a, r.applicationId = some a → known' a = true → known a = true) :
    ((⟨(row.classified c').store r', [], row.apply_ known' c' r'⟩ : Draft).final e).events =
      row.events := by
  have same : ((row.classified c').store r').events = row.events := store_history.events
  refine (final_events_held fun f' filed => ?_).trans same
  have files := files_of_apply filed
  have there := here f'.key.application (agrees.application.symm.trans files.application) files.known
  obtain ⟨f, filed_first, key⟩ :=
    files_again filed agrees.category source agrees.application machine there
  rw [same, ← key]
  exact once.filed f filed_first

/-- A signal that has been processed once is left unchanged exactly by a reading that agrees with
the first. -/
theorem unchanged_iff (once : row.ReadOnce known c r)
    (read : c = row.machineClassification env.unicode none n) (attributes : ¬ c.Skips)
    (machine : r.Machine) (open_ : row.status.reprocessable = true)
    (here : ∀ a, r.applicationId = some a → known' a = true → known a = true) :
    Unchanged row ((row.processAs env look' known' none n').final e) ↔
      Agrees c (row.machineClassification env.unicode none n') r (attributeSignal env look' n') := by
  have source : (row.machineClassification env.unicode none n').source = c.source :=
    read ▸ machine_source env.unicode n' n row
  have unreviewed : row.Unreviewed := once.unreviewed machine
    (by rw [← source]; exact machine_not_human env.unicode n' row) open_
  by_cases skips : (row.machineClassification env.unicode none n').Skips
  · rw [processAs_skips unreviewed skips]
    constructor
    · intro same
      have category : (row.machineClassification env.unicode none n').category = c.category :=
        same.category.trans once.category
      have confidence : (row.machineClassification env.unicode none n').confidence = c.confidence :=
        same.confidence.trans once.confidence
      refine absurd ⟨category.symm.trans skips.1, ?_⟩ attributes
      simpa only [Classification.confident, confidence] using skips.2
    · intro agrees
      exact absurd (agrees.skips skips) attributes
  · rw [processAs_attributes unreviewed skips]
    generalize attributeSignal env look' n' = r'
    generalize row.machineClassification env.unicode none n' = c' at source
    have placed : (row.classified c').Placed := by
      simpa [Placed, classified, once.attributions] using once.application
    obtain ⟨status, reason, events, final⟩ :=
      final_eq e ⟨(row.classified c').store r', [], row.apply_ known' c' r'⟩
    have stored : ((row.classified c').store r').category = c'.category ∧
        ((row.classified c').store r').confidence = c'.confidence := by
      obtain ⟨same, -⟩ | appended := store_cases r' (row.classified c')
      · rw [same]
        exact ⟨rfl, rfl⟩
      · rw [appended]
        exact ⟨rfl, rfl⟩
    constructor
    · intro same
      rw [final] at same
      exact ⟨stored.1.symm.trans (same.category.trans once.category),
        stored.2.symm.trans (same.confidence.trans once.confidence),
        (store_applicationId placed).symm.trans (same.application.trans once.application)⟩
    · intro agrees
      have kept := once.events_again (e := e) machine source agrees here
      refine ⟨?_, ?_, ?_, fun k e' _ => by rw [kept]⟩
      · rw [final]
        exact stored.1.trans (agrees.category.trans once.category.symm)
      · rw [final]
        exact stored.2.trans (agrees.confidence.trans once.confidence.symm)
      · rw [final]
        exact (store_applicationId placed).trans (agrees.application.trans once.application.symm)

end Again

end Signal

namespace Inbox
variable {env : SignalEnv} {s s' : Inbox} {request : SignalIngest} {process : Option Bool}
  {out : Outside} {row : Signal}

/-- A new signal belongs to no application, so no thread leads to it. -/
theorem lookups_insert (index : AttemptIndex) (i : SignalId) (n : NormalizedSignal)
    (declared : Option SignalCategory) (s : Inbox) :
    (s.insert i (.ingested n declared)).lookups index = s.lookups index := by
  have thread : (s.insert i (.ingested n declared)).thread = s.thread := by
    funext message
    simp only [Inbox.thread, insert, Table.insertNew]
    split
    · rfl
    · simp [List.filter_append, Signal.ingested]
  simp only [lookups, thread]
  rfl

theorem draft_reprocess (accepted : row.status.reprocessable = true) (out : Outside) (i : SignalId)
    (s : Inbox) : s.draft env out i .reprocess row =
      .ok (row.process env (s.lookups out.index) s.known out.ai) :=
  if_pos accepted

/-- A new signal becomes what processing its message makes of it. -/
theorem step_ingested
    (new : s.signals.get (NormalizedSignal.of env s.db.now request).dedupeKey = none)
    (processed : process.getD request.process = true)
    (found : (s.step env (.ingest request process out)).signals.get
      (NormalizedSignal.of env s.db.now request).dedupeKey = some row) :
    ∃ e, ((((Signal.ingested (.of env s.db.now request) request.category).processAs env
      (s.lookups out.index) s.known out.ai (.of env s.db.now request)).final e).Kept row) := by
  unfold step at found
  split at found
  · rename_i s' done
    simp only [apply, ingestWith] at done
    generalize NormalizedSignal.of env s.db.now request = n at *
    split at done
    · contradiction
    · simp only [new] at done
      cases Except.ok.inj done
      have here : (s.insert n.dedupeKey (.ingested n request.category)).signals.get n.dedupeKey =
          some (.ingested n request.category) := Table.get_insertNew_self new
      obtain ⟨e, -, turns⟩ := enact_turns (emitExecution_emits out.emitted) here
      obtain ⟨row', found', kept⟩ := turns.own
      cases Option.some.inj (found'.symm.trans found)
      rw [lookups_insert] at kept
      exact ⟨e, kept⟩
  · rw [new] at found
    contradiction

/-- The first processing of the signal `i`, which read the message `n`: when it was ingested, or
later from what was stored. -/
inductive FirstRead (env : SignalEnv) (out : Outside) (s : Inbox) :
    SignalId → NormalizedSignal → Signal → Prop
  | ingested {request : SignalIngest} {process : Option Bool} {row : Signal}
      (new : s.signals.get (NormalizedSignal.of env s.db.now request).dedupeKey = none)
      (processed : process.getD request.process = true)
      (read : (s.step env (.ingest request process out)).signals.get
        (NormalizedSignal.of env s.db.now request).dedupeKey = some row) :
      FirstRead env out s (NormalizedSignal.of env s.db.now request).dedupeKey
        (.of env s.db.now request) row
  | stored {i : SignalId} {row₀ row : Signal} (found : s.signals.get i = some row₀)
      (unread : row₀.Unread)
      (read : (s.step env (.on i .reprocess out)).signals.get i = some row) :
      FirstRead env out s i (row₀.renormalize env) row

theorem FirstRead.begun {i : SignalId} {n : NormalizedSignal} (first : s.FirstRead env out i n row) :
    ∃ (row₀ : Signal) (e : Filing → OutcomeEvent), row₀.Unread ∧
      ((row₀.processAs env (s.lookups out.index) s.known out.ai n).final e).Kept row := by
  cases first with
  | ingested new processed read =>
    obtain ⟨e, kept⟩ := step_ingested new processed read
    exact ⟨_, e, ⟨_, _, .refl _⟩, kept⟩
  | @stored _ row₀ _ found unread read =>
    have accepted : row₀.status.reprocessable = true := by
      obtain ⟨_, _, _, _, _, rfl⟩ := unread
      rfl
    obtain ⟨e, last, -, found', kept⟩ := step_drafted found (draft_reprocess accepted out i s)
    cases Option.some.inj (found'.symm.trans read)
    exact ⟨row₀, e, unread, kept⟩

end Inbox

/-- What is stored of a message is classified as the message was, and attributed to the same
application. -/
def Signal.ReadAgain (env : SignalEnv) (look look' : Lookups) (n : NormalizedSignal) (row : Signal) :
    Prop :=
  Agrees (row.machineClassification env.unicode none n)
    (row.machineClassification env.unicode none (row.renormalize env))
    (attributeSignal env look n) (attributeSignal env look' (row.renormalize env))

instance decidableReadAgain (env : SignalEnv) (look look' : Lookups) (n : NormalizedSignal)
    (row : Signal) : Decidable (row.ReadAgain env look look' n) :=
  inferInstanceAs (Decidable (Signal.Agrees _ _ _ _))

/-- With the AI classifier off and no attempt added, reprocessing a signal that was processed once,
and may have been observed again or purged since, changes nothing exactly when what is stored reads
as what was read first. -/
theorem reprocess_unchanged_iff {env : SignalEnv} {s s' : Inbox} {i : SignalId}
    {n : NormalizedSignal} {out : Outside} {row row' row'' : Signal} (off : out.ai = none)
    (first : s.FirstRead env out i n row) (stored : row.Kept row')
    (found : s'.signals.get i = some row')
    (attempts : ∀ a, s'.known a = true → s.known a = true)
    (accepted : row'.status.reprocessable = true)
    (again : (s'.step env (.on i .reprocess out)).signals.get i = some row'') :
    Signal.Unchanged row row'' ↔
      row'.ReadAgain env (s.lookups out.index) (s'.lookups out.index) n := by
  obtain ⟨row₀, e, unread, begun⟩ := first.begun
  rw [off] at begun
  have kept := begun.trans stored
  have open_ : ((row₀.processAs env (s.lookups out.index) s.known none n).final
      e).status.reprocessable = true := by
    obtain ⟨_, _, _, rfl⟩ := kept
    exact accepted
  obtain ⟨attributes, once⟩ := unread.readOnce open_
  have read (m : NormalizedSignal) : row'.machineClassification env.unicode none m =
      row₀.machineClassification env.unicode none m :=
    (Signal.machine_kept kept env.unicode m).trans (Signal.final_machine row₀ m)
  obtain ⟨e', last, -, found', ended⟩ :=
    Inbox.step_drafted found (Inbox.draft_reprocess accepted out i s')
  rw [off] at ended
  cases Option.some.inj (found'.symm.trans again)
  have exact_ : Signal.Unchanged row'
      ((row'.process env (s'.lookups out.index) s'.known none).final e') ↔
        row'.ReadAgain env (s.lookups out.index) (s'.lookups out.index) n := by
    rw [Signal.ReadAgain, read n]
    exact Signal.unchanged_iff (once.kept kept) (read n).symm attributes attributeSignal_machine
      accepted fun a _ => attempts a
  rw [← exact_]
  obtain ⟨_, _, _, rfl⟩ := stored
  obtain ⟨_, _, _, rfl⟩ := ended
  exact ⟨fun same => ⟨same.1, same.2, same.3, same.4⟩, fun same => ⟨same.1, same.2, same.3, same.4⟩⟩

/-- A person notes a rejection, naming the company. -/
def rejectionNote : SignalIngest :=
  { SignalIngest.manual "note" .rejection with
    text := some "Acme said no".ascii, observedAt := some 0, process := true }

/-- The company has one application. -/
def oneAtAcme : Outside :=
  { Outside.indexed [0] with index := { AttemptIndex.of [0] with byCompany := [("acme", [0])] } }

/-- The note reads again as long as its excerpt is there, and is then left unchanged. -/
theorem note_unchanged :
    let s : Inbox := .start (.submitted ["Acme"])
    let i := (NormalizedSignal.of .utc s.db.now rejectionNote).dedupeKey
    let s₁ := s.step .utc (.ingest rejectionNote none oneAtAcme)
    let s₂ : Inbox := { s₁ with db := s.db }
    ∃ row row', s₁.signals.get i = some row ∧
      (s₂.step .utc (.on i .reprocess oneAtAcme)).signals.get i = some row' ∧
      row.status = .applied ∧ Signal.Unchanged row row' := by
  intro s i s₁ s₂
  have seen : ((s₁.signals.get i).map fun row => (row.status, decide (row.ReadAgain .utc
      (s.lookups oneAtAcme.index) (s₂.lookups oneAtAcme.index)
      (.of .utc s.db.now rejectionNote)))) = some (.applied, true) := by
    decide +kernel
  obtain ⟨row, first, both⟩ := Option.map_eq_some_iff.mp seen
  obtain ⟨applied, alike⟩ := Prod.mk.inj both
  have accepted : row.status.reprocessable = true := by rw [applied]; rfl
  have signals : s₂.signals = s₁.signals := by simp only [s₂]
  have found : s₂.signals.get i = some row := by rw [signals, first]
  obtain ⟨e, row', -, again, -⟩ :=
    Inbox.step_drafted found (Inbox.draft_reprocess accepted oneAtAcme i s₂)
  refine ⟨row, row', first, again, applied, ?_⟩
  have known (a : ApplicationId) : s₂.known a = true → s.known a = true := by
    simp only [Inbox.known, Inbox.attempt, s₂]
    exact id
  exact (reprocess_unchanged_iff rfl (.ingested rfl rfl first) (.refl row) found known accepted
    again).mpr (of_decide_eq_true alike)

/-- The note is processed, purged and processed again. -/
def purgeOps : List InboxOp :=
  [.ingest rejectionNote none oneAtAcme, .purgeExcerpts 0,
    .on (.ref .manual "note".ascii) .reprocess oneAtAcme]

/-- Once it is purged nothing names the company: the signal is of no application. -/
theorem purged_note_unmatched :
    let note (k : Nat) := ((Inbox.run .utc (.start (.submitted ["Acme"])) (purgeOps.take k)).signals.get
      (.ref .manual "note".ascii)).map fun row => (row.status, row.applicationId)
    note 1 = some (.applied, some 0) ∧ note 3 = some (.unmatched, none) := by
  decide +kernel

end RangeApply
