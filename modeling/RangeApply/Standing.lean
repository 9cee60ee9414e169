import RangeApply.Drafts

/-! The automatic events of a signal. Some operations retract them before the signal is read
again; those that do not leave them behind when the signal is read otherwise than before. -/
namespace RangeApply

namespace Signal

/-- An active event under the key was recorded by no person. -/
def Automated (row : Signal) (k : EventKey) : Prop :=
  k.origin ≠ .human ∧ ∃ e, row.events.get k = some e ∧ e.active = true

/-- The active automatic events are about the signal as it is attributed and classified now, and
there is one at most. -/
structure Standing (row : Signal) : Prop where
  current : ∀ k e, k.origin ≠ .human → row.events.get k = some e → e.active = true →
    row.applicationId = some k.application ∧ e.category = row.category
  one : ∀ k k', row.Automated k → row.Automated k' → k = k'

variable {row row' : Signal}

theorem standing_of_quiet (quiet : ∀ k, ¬ row.Automated k) : row.Standing where
  current k e origin found active := absurd ⟨origin, e, found, active⟩ (quiet k)
  one k _ automated := absurd automated (quiet k)

/-- A signal with no other automatic events, application and category stands as well. -/
theorem Standing.shrink (standing : row.Standing) (application : row'.applicationId = row.applicationId)
    (category : row'.category = row.category)
    (events : ∀ k e, k.origin ≠ .human → row'.events.get k = some e → e.active = true →
      row.events.get k = some e) : row'.Standing where
  current k e origin found active := by
    rw [application, category]
    exact standing.current k e origin (events k e origin found active) active
  one k k' automated automated' := by
    obtain ⟨origin, e, found, active⟩ := automated
    obtain ⟨origin', e', found', active'⟩ := automated'
    exact standing.one k k' ⟨origin, e, events k e origin found active, active⟩
      ⟨origin', e', events k' e' origin' found' active', active'⟩

theorem Standing.kept (kept : row.Kept row') (standing : row.Standing) : row'.Standing := by
  obtain ⟨_, _, _, rfl⟩ := kept
  exact standing.shrink rfl rfl fun _ _ _ found _ => found

end Signal

namespace Draft
variable {row : Signal} {d : Draft} {e : Filing → OutcomeEvent} {f : Filing}

/-- The signal stands as it is drafted, and no second automatic event is recorded for it. -/
structure Steady (d : Draft) : Prop where
  standing : d.row.Standing
  sole : ∀ f, d.consequence = .file f → f.key.origin ≠ .human → d.row.events.get f.key = none →
    ∀ k, ¬ d.row.Automated k

theorem final_standing (sound : d.Sound row) (placed : row.Placed) (fresh : ∀ f, EventFor f (e f))
    (steady : d.Steady) : (d.final e).Standing := by
  unfold final
  cases consequence : d.consequence with
  | keep => exact steady.standing
  | settle status reason => exact steady.standing.shrink rfl rfl fun _ _ _ found _ => found
  | file f =>
    have application : (d.row.record f (e f)).applicationId = d.row.applicationId :=
      Signal.record_applicationId f (e f) d.row
    have category : (d.row.record f (e f)).category = d.row.category :=
      Signal.record_category f (e f) d.row
    by_cases adds : f.key.origin ≠ .human ∧ d.row.events.get f.key = none
    · -- the new event is the only automatic one
      have quiet := steady.sole f consequence adds.1 adds.2
      have only {k : EventKey} {e' : OutcomeEvent} (origin : k.origin ≠ .human)
          (found : (d.row.record f (e f)).events.get k = some e') (active : e'.active = true) :
          k = f.key := by
        by_contra other
        exact quiet k ⟨origin, e', Signal.active_of_record other found active, active⟩
      constructor
      · intro k e' origin found active
        obtain rfl := only origin found active
        cases Option.some.inj ((Signal.record_new adds.2).symm.trans found)
        refine ⟨application.trans (sound.application placed f consequence), ?_⟩
        rw [(fresh f).category, sound.category f consequence]
        exact category.symm
      · rintro k k' ⟨origin, e', found, active⟩ ⟨origin', e'', found', active'⟩
        rw [only origin found active, only origin' found' active']
    · refine steady.standing.shrink application category fun k e' origin found active => ?_
      cases held : d.row.events.get f.key with
      | some old =>
        have same : d.row.record f (e f) = d.row := Signal.record_held (by rw [held]; rfl)
        change (d.row.record f (e f)).events.get k = some e' at found
        rwa [same] at found
      | none =>
        refine Signal.active_of_record ?_ found active
        rintro rfl
        exact adds ⟨origin, held⟩

/-- What is left of the drafted events stands at the end only if they did. -/
theorem steady_of_final (fresh : ∀ f, EventFor f (e f))
    (adds : ∀ f, d.consequence = .file f → f.supersedes = none)
    (standing : (d.final e).Standing) : d.Steady := by
  have final_eq {f : Filing} (consequence : d.consequence = .file f) :
      d.final e = (d.row.record f (e f)).setStatus f.status f.reason := by
    simp only [final, consequence]
  have kept {f : Filing} (consequence : d.consequence = .file f) {k : EventKey} {e' : OutcomeEvent}
      (found : d.row.events.get k = some e') : (d.final e).events.get k = some e' := by
    rw [final_eq consequence]
    cases held : d.row.events.get f.key with
    | some old =>
      have same : d.row.record f (e f) = d.row := Signal.record_held (by rw [held]; rfl)
      simpa only [Signal.setStatus, same] using found
    | none =>
      have inserted : (d.row.record f (e f)).events = d.row.events.insertNew f.key (e f) := by
        rw [Signal.record_free held, Signal.supersede, adds f consequence]
      simpa only [Signal.setStatus, inserted] using Table.get_insertNew found
  constructor
  · cases consequence : d.consequence with
    | keep => simpa only [final, consequence] using standing
    | settle status reason =>
      simp only [final, consequence] at standing
      exact standing.shrink rfl rfl fun _ _ _ found _ => found
    | file f =>
      refine standing.shrink ?_ ?_ fun k e' _ found _ => kept consequence found
      · rw [final_eq consequence]
        exact (Signal.record_applicationId f (e f) d.row).symm
      · rw [final_eq consequence]
        exact (Signal.record_category f (e f) d.row).symm
  · rintro f consequence origin free k ⟨origin', e', found, active⟩
    have own : (d.final e).Automated f.key := by
      refine ⟨origin, e f, ?_, (fresh f).active⟩
      rw [final_eq consequence]
      exact Signal.record_new free
    obtain rfl := standing.one k f.key ⟨origin', e', kept consequence found, active⟩ own
    rw [free] at found
    contradiction

end Draft

/-! ### How a signal is read -/

/-- What an operation reads a signal as, keeping its events: the classification, and the
attribution unless the message is skipped. -/
abbrev Reading := Classification × Option AttributionResult

namespace Signal

section Reading
variable (env : SignalEnv) (look : Lookups) (known : ApplicationId → Bool) (ai : Option AIReply)

def processReading (row : Signal) : Option Reading :=
  if row.status = .ignored ∨ row.status = .merged then none
  else
    let n := row.renormalize env
    let read := row.classify env.unicode ai n
    if read.1.category = .other ∧ read.1.confident = true ∧
        read.2.classificationSource ≠ some .human then some (read.1, none)
    else some (read.1, some (read.2.attribute_ env look n).1)

/-- A link to another application retracts the events. -/
def linkReading (a : ApplicationId) (actor : String) (row : Signal) : Option Reading :=
  if row.status = .merged ∨ known a = false ∨
      (row.applicationId.isSome && decide (row.applicationId ≠ some a)) = true then none
  else
    let linked := row.store (humanLink a actor)
    some ((linked.classify env.unicode ai (linked.renormalize env)).1, some (humanLink a actor))

/-- A classification that is new to the signal retracts its events. -/
def confirmReading (category : SignalCategory) (row : Signal) : Option Reading :=
  if row.status = .merged ∨ ((decide (row.category ≠ category) ||
      decide (row.classificationSource ≠ some .human)) && row.applicationId.isSome) = true then none
  else
    let kept := (row.attributionStatus = .matched ∨ row.attributionStatus = .manual) ∧
      row.applicationId.isSome = true
    let row' := { row with
      category := category, confidence := .high, classificationSource := some .human,
      classifierVersion := some humanVersion }
    some (⟨category, .high, .human, humanVersion, [], []⟩,
      some (match if kept then row.attributions.getLast? else none with
        | some current => current
        | none => (row'.attribute_ env look (row'.renormalize env)).1))

end Reading

end Signal

namespace Inbox

/-- How an operation reads its signal, when it keeps the signal's events. -/
def reading (env : SignalEnv) (out : Outside) (o : SignalOp) (s : Inbox) (row : Signal) :
    Option Reading :=
  let look := s.lookups out.index
  match o with
  | .process => row.processReading env look out.ai
  | .reprocess => if row.status.reprocessable then row.processReading env look out.ai else none
  | .link a actor => row.linkReading env s.known out.ai a actor
  | .confirmClassification category _ => row.confirmReading env look category
  | _ => none

/-- A signal with an active automatic event is read in the category and for the application it
has, and what follows is said by a person or was recorded already. -/
def ReadsAlike (env : SignalEnv) (s : Inbox) : InboxOp → Prop
  | .on i o out => ∀ row k c r, s.signals.get i = some row → row.Automated k →
    s.reading env out o row = some (c, r) → c.category = row.category ∧
      ∀ r', r = some r' → r'.applicationId = row.applicationId ∧
        ∀ f, row.apply_ s.known c r' = .file f →
          f.key.origin = .human ∨ (row.events.get f.key).isSome = true
  | _ => True

end Inbox

/-! ### What a reading leads to -/

/-- What a draft makes of a signal that is read, or is not read with its events. -/
inductive Draft.From (known : ApplicationId → Bool) (row : Signal) (d : Draft) :
    Option Reading → Prop
  | retracted (quiet : ∀ k, ¬ d.row.Automated k)
      (adds : ∀ f, d.consequence = .file f → f.supersedes = none) : From known row d none
  | left (same : d.row = row) (human : ∀ f, d.consequence = .file f → f.key.origin = .human) :
      From known row d none
  | skipped {c : Classification} (events : d.row.events = row.events)
      (category : d.row.category = c.category) (application : d.row.applicationId = row.applicationId)
      (files : ∀ f, d.consequence ≠ .file f) : From known row d (some (c, none))
  | applied {c : Classification} {r : AttributionResult} (events : d.row.events = row.events)
      (category : d.row.category = c.category) (application : d.row.applicationId = r.applicationId)
      (consequence : d.consequence = row.apply_ known c r) : From known row d (some (c, some r))

namespace Signal
variable {env : SignalEnv} {look : Lookups} {known : ApplicationId → Bool} {ai : Option AIReply}
  {row : Signal} {d : Draft}

theorem reopen_fields (row : Signal) : row.reopen.events = row.events ∧
    row.reopen.category = row.category ∧ row.reopen.applicationId = row.applicationId := by
  rcases reopen_same row with same | same <;> rw [same] <;> exact ⟨rfl, rfl, rfl⟩

/-- A signal whose events were retracted has no automatic one. -/
theorem quiet_of_retract (row : Signal) {row' : Signal}
    (retracted : ∃ reason, row'.events = (row.retract reason).events) (k : EventKey) :
    ¬ row'.Automated k := by
  obtain ⟨reason, events⟩ := retracted
  rintro ⟨-, e, found, active⟩
  rw [events] at found
  rw [retract_active found] at active
  contradiction

theorem process_from (placed : row.Placed) :
    (row.process env look known ai).From known row (row.processReading env look ai) := by
  unfold process processAs processReading
  split
  · exact .left rfl (by rintro f ⟨⟩)
  · dsimp only
    split
    · exact .skipped classify_history.events classify_category classify_applicationId
        (by rintro f ⟨⟩)
    · have read : (row.classify env.unicode ai (row.renormalize env)).2.Placed := by
        simpa [Placed] using placed
      refine .applied (attribute_history.events.trans classify_history.events) ?_
        (attribute_applicationId read) ?_
      · exact attribute_category.trans classify_category
      · exact apply_congr (attribute_history.payload.trans classify_history.payload) _ _

theorem link_from {a : ApplicationId} {actor : String} (placed : row.Placed)
    (drafted : row.link env known ai a actor = .ok d) :
    d.From known row (row.linkReading env known ai a actor) := by
  simp only [link] at drafted
  split at drafted
  · contradiction
  rename_i unmerged
  split at drafted
  · contradiction
  rename_i here
  cases Except.ok.inj drafted
  by_cases moved : (row.applicationId.isSome && decide (row.applicationId ≠ some a)) = true
  · have unread : row.linkReading env known ai a actor = none := if_pos (.inr (.inr moved))
    rw [unread]
    refine .retracted (quiet_of_retract row ⟨s!"relinked to {a} by {actor}", ?_⟩) fun f filed =>
      (files_of_apply filed).supersedes
    simp only [if_pos moved, (reopen_fields _).1, classify_history.events, store_history.events]
  · have read : row.linkReading env known ai a actor =
        some (((row.store (humanLink a actor)).classify env.unicode ai
          ((row.store (humanLink a actor)).renormalize env)).1, some (humanLink a actor)) := by
      simp only [linkReading, unmerged, here, moved]
      rfl
    rw [read]
    simp only [if_neg moved]
    refine .applied ?_ ?_ ?_ ?_
    · rw [(reopen_fields _).1, classify_history.events, store_history.events]
    · rw [(reopen_fields _).2.1, classify_category]
    · rw [(reopen_fields _).2.2, classify_applicationId, store_applicationId placed]
    · exact apply_congr (classify_history.payload.trans store_history.payload) _ _

theorem confirm_from {category : SignalCategory} {actor : String} (placed : row.Placed)
    (drafted : row.confirmClassification env look known category actor = .ok d) :
    d.From known row (row.confirmReading env look category) := by
  simp only [confirmClassification] at drafted
  split at drafted
  · contradiction
  rename_i unmerged
  cases Except.ok.inj drafted
  by_cases changed : ((decide (row.category ≠ category) ||
      decide (row.classificationSource ≠ some .human)) && row.applicationId.isSome) = true
  · have unread : row.confirmReading env look category = none := if_pos (.inr changed)
    rw [unread]
    refine .retracted (quiet_of_retract row
      ⟨s!"classification changed to {category.value} by {actor}", ?_⟩) fun f filed =>
        (files_of_apply filed).supersedes
    simp only [if_pos changed, (reopen_fields _).1]
    split
    · rfl
    · exact attribute_history.events
  · have unread : ¬ (row.status = .merged ∨ ((decide (row.category ≠ category) ||
        decide (row.classificationSource ≠ some .human)) && row.applicationId.isSome) = true) :=
      fun either => either.elim unmerged changed
    simp only [confirmReading, if_neg unread, if_neg changed]
    generalize held : (if (row.attributionStatus = .matched ∨ row.attributionStatus = .manual) ∧
      row.applicationId.isSome = true then row.attributions.getLast? else none) = last
    cases last with
    | some current =>
      have last : row.attributions.getLast? = some current := by
        split at held
        · exact held
        · contradiction
      refine .applied (reopen_fields _).1 (reopen_fields _).2.1 ?_ (apply_congr rfl _ _)
      rw [(reopen_fields _).2.2]
      change row.applicationId = current.applicationId
      rw [placed, last]
      rfl
    | none =>
      refine .applied ?_ ?_ ?_ ?_
      · exact (reopen_fields _).1.trans attribute_history.events
      · exact (reopen_fields _).2.1.trans attribute_category
      · exact (reopen_fields _).2.2.trans (attribute_applicationId placed)
      · exact apply_congr attribute_history.payload _ _

end Signal

namespace Draft
variable {row : Signal} {d : Draft} {known : ApplicationId → Bool} {reading : Option Reading}

/-- Drafted from a signal that stands, a draft is steady exactly when the signal is read alike. -/
theorem steady_iff (standing : row.Standing) (drafted : d.From known row reading) :
    d.Steady ↔ ∀ k c r, row.Automated k → reading = some (c, r) → c.category = row.category ∧
      ∀ r', r = some r' → r'.applicationId = row.applicationId ∧
        ∀ f, row.apply_ known c r' = .file f →
          f.key.origin = .human ∨ (row.events.get f.key).isSome = true := by
  -- the automatic events a reading keeps are those of the row
  have automated (events : d.row.events = row.events) (k : EventKey) :
      d.row.Automated k ↔ row.Automated k := by simp only [Signal.Automated, events]
  have kept (events : d.row.events = row.events) (application : d.row.applicationId = row.applicationId)
      (category : ∀ k, row.Automated k → d.row.category = row.category) : d.row.Standing := by
    by_cases some_ : ∃ k, row.Automated k
    · obtain ⟨k, here⟩ := some_
      exact standing.shrink application (category k here) fun _ _ _ found _ => events ▸ found
    · exact Signal.standing_of_quiet fun k here => some_ ⟨k, (automated events k).mp here⟩
  cases drafted with
  | retracted quiet adds =>
    refine ⟨fun _ k c r _ read => by contradiction, fun _ => ?_⟩
    exact ⟨Signal.standing_of_quiet quiet, fun _ _ _ _ => quiet⟩
  | left same human =>
    refine ⟨fun _ k c r _ read => by contradiction, fun _ => ?_⟩
    exact ⟨same ▸ standing, fun f filed origin => absurd (human f filed) origin⟩
  | @skipped c events category application files =>
    constructor
    · rintro steady k _ _ ⟨origin, e, found, active⟩ ⟨⟩
      refine ⟨?_, by rintro _ ⟨⟩⟩
      rw [← category, ← (steady.standing.current k e origin (events ▸ found) active).2]
      exact (standing.current k e origin found active).2
    · intro alike
      refine ⟨kept events application fun k here => ?_, fun f filed => absurd filed (files f)⟩
      exact category.trans (alike k c none here rfl).1
  | @applied c r events category application consequence =>
    constructor
    · rintro steady k _ _ here ⟨⟩
      obtain ⟨origin, e, found, active⟩ := here
      obtain ⟨there, told⟩ := steady.standing.current k e origin (events ▸ found) active
      obtain ⟨there', told'⟩ := standing.current k e origin found active
      refine ⟨category.symm.trans (told.symm.trans told'), ?_⟩
      rintro _ ⟨⟩
      refine ⟨application.symm.trans (there.trans there'.symm), fun f filed => ?_⟩
      by_contra adds
      simp only [not_or, Bool.not_eq_true, Option.isSome_eq_false_iff, Option.isNone_iff_eq_none]
        at adds
      refine steady.sole f (consequence.trans filed) adds.1 (events ▸ adds.2) k ?_
      exact (automated events k).mpr ⟨origin, e, found, active⟩
    · intro alike
      by_cases some_ : ∃ k, row.Automated k
      · obtain ⟨k, here⟩ := some_
        obtain ⟨told, there⟩ := alike k c (some r) here rfl
        obtain ⟨there, adds⟩ := there r rfl
        refine ⟨kept events (application.trans there) fun _ _ => category.trans told, ?_⟩
        intro f filed origin free
        rcases adds f (consequence.symm.trans filed) with human | held
        · exact absurd human origin
        · rw [← events, free] at held
          contradiction
      · have quiet (k : EventKey) : ¬ d.row.Automated k :=
          fun here => some_ ⟨k, (automated events k).mp here⟩
        exact ⟨Signal.standing_of_quiet quiet, fun _ _ _ _ => quiet⟩

end Draft

namespace Inbox
variable {env : SignalEnv} {out : Outside} {i : SignalId} {o : SignalOp} {s : Inbox} {row : Signal}
  {d : Draft}

theorem draft_from (placed : row.Placed) (drafted : s.draft env out i o row = .ok d) :
    d.From s.known row (s.reading env out o row) := by
  have quiet (row' : Signal) (retracted : ∃ reason, row'.events = (row.retract reason).events)
      (status : SignalStatus) (reason : String) :
      Draft.From s.known row ⟨row', row.touched, .settle status reason⟩ none :=
    .retracted (Signal.quiet_of_retract row retracted) (by rintro f ⟨⟩)
  cases o with
  | process =>
    cases Except.ok.inj drafted
    exact Signal.process_from placed
  | reprocess =>
    simp only [draft, Signal.reprocess] at drafted
    simp only [reading]
    split at drafted
    · rename_i open_
      cases Except.ok.inj drafted
      rw [if_pos open_]
      exact Signal.process_from placed
    · contradiction
  | link a actor => exact Signal.link_from placed drafted
  | confirmClassification category actor => exact Signal.confirm_from placed drafted
  | rejectClassification actor =>
    cases Except.ok.inj drafted
    refine quiet _ ?_ _ _
    exact ⟨"classification rejected by " ++ actor, rfl⟩
  | confirmOutcome outcome actor =>
    simp only [draft, Signal.confirmOutcome] at drafted
    split at drafted
    · contradiction
    split at drafted
    · contradiction
    · cases Except.ok.inj drafted
      exact .left rfl (by rintro f ⟨⟩; rfl)
  | ignore actor note =>
    cases Except.ok.inj drafted
    exact quiet _ ⟨"ignored by " ++ actor, rfl⟩ _ _
  | merge into actor =>
    simp only [draft, Signal.merge] at drafted
    split at drafted
    · contradiction
    split at drafted
    · contradiction
    split at drafted
    · contradiction
    · cases Except.ok.inj drafted
      refine quiet _ ?_ _ _
      exact ⟨s!"merged into {env.signalId into} by {actor}", rfl⟩

/-- What holds of every signal of a run that is read alike. -/
def Attributed (row : Signal) : Prop := row.Placed ∧ row.Standing

theorem arrives_attributed {env : SignalEnv} {row : Signal} (arrives : Arrives env row) :
    Attributed row := by
  obtain ⟨n, declared, first, ⟨_, _, _, rfl⟩, rfl | ⟨look, known, ai, e, fresh, rfl⟩⟩ := arrives
  · exact ⟨rfl, Signal.standing_of_quiet fun k ⟨_, e, found, _⟩ => by contradiction⟩
  · have sound : Draft.Sound (.ingested n declared)
        ((Signal.ingested n declared).processAs env look known ai n) := Signal.processAs_sound
    have none_ (k : EventKey) : ¬ ((Signal.ingested n declared).processAs env look known ai
        n).row.Automated k := by
      rintro ⟨-, e, found, -⟩
      rw [sound.get_none rfl] at found
      contradiction
    have steady : Draft.Steady ((Signal.ingested n declared).processAs env look known ai n) :=
      ⟨Signal.standing_of_quiet none_, fun _ _ _ _ => none_⟩
    exact ⟨sound.placed_final rfl,
      (Draft.final_standing sound rfl fresh steady).shrink rfl rfl fun _ _ _ found _ => found⟩

theorem step_attributed {op : InboxOp} (attributed : s.signals.All fun _ => Attributed)
    (alike : s.ReadsAlike env op) : (s.step env op).signals.All fun _ => Attributed := by
  refine step_all ?_ (fun _ => arrives_attributed) op ?_ attributed
  · rintro row row' kept ⟨placed, standing⟩
    refine ⟨?_, standing.kept kept⟩
    obtain ⟨_, _, _, rfl⟩ := kept
    exact placed
  · rintro i o out row d e rfl found drafted fresh ⟨placed, standing⟩
    have sound := draft_sound drafted
    refine ⟨sound.placed_final placed, Draft.final_standing sound placed fresh ?_⟩
    refine (Draft.steady_iff standing (draft_from placed drafted)).mpr fun k c r here read => ?_
    exact alike row k c r found here read

/-- An operation that reads its signal is not refused. -/
theorem draft_of_reading {reading : Reading} (read : s.reading env out o row = some reading) :
    ∃ d, s.draft env out i o row = .ok d := by
  cases o with
  | process => exact ⟨_, rfl⟩
  | reprocess =>
    simp only [Inbox.reading] at read
    split at read
    · rename_i open_
      exact ⟨_, if_pos open_⟩
    · contradiction
  | link a actor =>
    simp only [Inbox.reading, Signal.linkReading] at read
    split at read
    · contradiction
    · rename_i refused
      simp only [not_or] at refused
      exact ⟨_, by simp only [draft, Signal.link, if_neg refused.1, if_neg refused.2.1]; rfl⟩
  | confirmClassification category actor =>
    simp only [Inbox.reading, Signal.confirmReading] at read
    split at read
    · contradiction
    · rename_i refused
      simp only [not_or] at refused
      exact ⟨_, if_neg refused.1⟩
  | _ => contradiction

theorem alike_of_standing {op : InboxOp} (attributed : s.signals.All fun _ => Attributed)
    (standing : (s.step env op).signals.All fun _ => Signal.Standing) : s.ReadsAlike env op := by
  cases op with
  | on i o out =>
    intro row k c r found here read
    obtain ⟨placed, before⟩ := attributed.get found
    obtain ⟨d, drafted⟩ := draft_of_reading read
    obtain ⟨e, row', fresh, found', kept⟩ := step_drafted found drafted
    have final : (d.final e).Standing := by
      obtain ⟨_, _, _, rfl⟩ := kept
      have after := standing.get found'
      exact after.shrink rfl rfl fun _ _ _ found _ => found
    have origin := draft_from placed drafted
    refine (Draft.steady_iff before origin).mp (Draft.steady_of_final fresh ?_ final) k c r here read
    rw [read] at origin
    intro f filed
    cases origin with
    | skipped _ _ _ files => exact absurd filed (files f)
    | applied _ _ _ consequence =>
      exact (Signal.files_of_apply (consequence.symm.trans filed)).supersedes
  | _ => trivial

end Inbox

/-- In every run the active automatic events of every signal are about its current application and
classification, one at most, exactly as long as the operations that keep such an event read the
signal as it was read before. -/
theorem automatic_standing_iff (env : SignalEnv) (db : DB) (ops : List InboxOp) :
    Trace.Guarded (Inbox.step env) (fun s op => (s.step env op).signals.All fun _ => Signal.Standing)
      (.start db) ops ↔
      Trace.Guarded (Inbox.step env) (Inbox.ReadsAlike env) (.start db) ops := by
  refine Trace.guarded_iff (fun s => s.signals.All fun _ => Inbox.Attributed) ?_ ?_ ?_
  · intro op _ s attributed alike
    exact Inbox.step_attributed attributed alike
  · intro op _ s attributed
    refine ⟨Inbox.alike_of_standing attributed, fun alike => ?_⟩
    exact (Inbox.step_attributed attributed alike).mono fun _ _ here => here.2
  · intro r member
    simp [Inbox.start, Table.empty] at member

/-- A browser extension reports a submit to a company that it could not verify. -/
def unverifiedReport : SignalIngest where
  source := .extension
  sourceReference := some "report".ascii
  subject := none
  text := none
  sender := none
  externalAt := none
  observedAt := none
  payload := ⟨some "execution_result".ascii, some "UNKNOWN".ascii⟩
  hints := { AttributionHints.none with company := some "acme" }
  category := none
  process := true

/-- The index when the company has these applications. -/
def acmeIndex (attempts : List ApplicationId) : Outside :=
  { Outside.indexed attempts with
    index := { AttemptIndex.of attempts with byCompany := [("acme", attempts)] } }

/-- It is reprocessed when there is a second application to the company. -/
def reportOps : List InboxOp :=
  [.ingest unverifiedReport none (acmeIndex [0]),
    .on (.ref .extension "report".ascii) .reprocess (acmeIndex [0, 1])]

/-- The signal belongs to no application any more; its event for the first one is still active. -/
theorem reprocessed_event_left :
    (((Inbox.run .utc (.start (.submitted ["Acme", "Acme"])) reportOps).signals.get
      (.ref .extension "report".ascii)).map fun row => (row.applicationId, row.events.rows.any fun e =>
        decide (e.1.application = 0 ∧ e.1.origin ≠ .human) && e.2.active)) = some (none, true) := by
  decide +kernel

end RangeApply
