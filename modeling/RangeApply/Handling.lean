import RangeApply.Inbox

/-! What one step of the inbox does to each signal: its own signal becomes what the draft says,
the others are kept, and a new one begins as it was ingested. -/
namespace RangeApply

namespace Signal

/-- Nothing changed but how often the signal was seen, and the excerpt. -/
def Kept (row row' : Signal) : Prop :=
  ∃ count at_ excerpt, row' =
    { row with observationCount := count, lastObservedAt := at_, excerpt := excerpt }

variable {row row' row'' : Signal}

theorem Kept.refl (row : Signal) : row.Kept row := ⟨_, _, _, rfl⟩

theorem Kept.trans (first : row.Kept row') (second : row'.Kept row'') : row.Kept row'' := by
  obtain ⟨_, _, _, rfl⟩ := first
  obtain ⟨count, at_, excerpt, rfl⟩ := second
  exact ⟨count, at_, excerpt, rfl⟩

theorem kept_observe (at_ : Time) (row : Signal) : row.Kept (row.observe at_) := ⟨_, _, _, rfl⟩

theorem Kept.setStatus (kept : row.Kept row') (status : SignalStatus) (reason : String) :
    (row.setStatus status reason).Kept (row'.setStatus status reason) := by
  obtain ⟨count, at_, excerpt, rfl⟩ := kept
  exact ⟨count, at_, excerpt, rfl⟩

end Signal

/-- The event a filing adds, if it adds one. -/
structure EventFor (f : Filing) (e : OutcomeEvent) : Prop where
  category : e.category = f.category
  evidence : e.evidence = f.evidence
  active : e.active = true

namespace Draft

/-- The row at the end of the operation, when a filing adds the event `e` makes of it. -/
def final (e : Filing → OutcomeEvent) (d : Draft) : Signal :=
  match d.consequence with
  | .keep => d.row
  | .settle status reason => d.row.setStatus status reason
  | .file f => (d.row.record f (e f)).setStatus f.status f.reason

end Draft

/-- How a signal begins: stored, and perhaps processed as it was read. -/
def Arrives (env : SignalEnv) (row' : Signal) : Prop :=
  ∃ n declared row, row.Kept row' ∧ (row = Signal.ingested n declared ∨
    ∃ look known ai e, (∀ f, EventFor f (e f)) ∧
      row = ((Signal.ingested n declared).processAs env look known ai n).final e)

theorem Arrives.kept {env : SignalEnv} {row row' : Signal} (arrives : Arrives env row)
    (kept : row.Kept row') : Arrives env row' := by
  obtain ⟨n, declared, first, here, begun⟩ := arrives
  exact ⟨n, declared, first, here.trans kept, begun⟩

/-- Every signal is kept, and more may have arrived. -/
structure Grows (env : SignalEnv) (s s' : Inbox) : Prop where
  kept : ∀ j row, s.signals.get j = some row → ∃ row', s'.signals.get j = some row' ∧ row.Kept row'
  arrived : ∀ j row', s.signals.get j = none → s'.signals.get j = some row' → Arrives env row'

/-- Every signal is kept but `i`, which becomes `final`. -/
structure Turns (env : SignalEnv) (i : SignalId) (final : Signal) (s s' : Inbox) : Prop where
  own : ∃ row', s'.signals.get i = some row' ∧ final.Kept row'
  kept : ∀ j row, j ≠ i → s.signals.get j = some row →
    ∃ row', s'.signals.get j = some row' ∧ row.Kept row'
  arrived : ∀ j row', j ≠ i → s.signals.get j = none → s'.signals.get j = some row' →
    Arrives env row'

section Grows
variable {env : SignalEnv} {s s' s'' : Inbox} {i : SignalId} {row final : Signal}

theorem Grows.of_signals (same : s'.signals = s.signals) : Grows env s s' where
  kept j row found := ⟨row, same ▸ found, .refl row⟩
  arrived j row' missing found := by
    rw [same, missing] at found
    contradiction

theorem Grows.modify (f : Signal → Signal) (kept : ∀ row : Signal, row.Kept (f row))
    (same : s'.signals = s.signals.modify i f) : Grows env s s' where
  kept j row found := by
    rw [same]
    by_cases here : j = i
    · cases here
      exact ⟨f row, by rw [Table.get_modify_self, found]; rfl, kept row⟩
    · exact ⟨row, by rw [Table.get_modify_other _ _ here, found], .refl row⟩
  arrived j row' missing found := by
    rw [same] at found
    by_cases here : j = i
    · cases here
      rw [Table.get_modify_self, missing] at found
      contradiction
    · rw [Table.get_modify_other _ _ here, missing] at found
      contradiction

/-- What arrived on the way to a state in which everything has been kept since. -/
theorem Grows.since {j : SignalId} {row' : Signal} (grows : Grows env s s')
    (found : s'.signals.get j = some row')
    (arrived : ∀ row, s.signals.get j = some row → Arrives env row) : Arrives env row' := by
  cases before : s.signals.get j with
  | none => exact grows.arrived j row' before found
  | some row =>
    obtain ⟨row₂, found₂, kept⟩ := grows.kept j row before
    cases Option.some.inj (found₂.symm.trans found)
    exact (arrived row before).kept kept

theorem Grows.trans (first : Grows env s s') (second : Grows env s' s'') : Grows env s s'' where
  kept j row found := by
    obtain ⟨row', found', kept⟩ := first.kept j row found
    obtain ⟨row'', found'', kept'⟩ := second.kept j row' found'
    exact ⟨row'', found'', kept.trans kept'⟩
  arrived j row' missing found := second.since found fun row between =>
    first.arrived j row missing between

/-- A signal that is put in place becomes the row it is put as. -/
theorem Turns.put (found : s.signals.get i = some row) (same : s'.signals = s.signals.put i final) :
    Turns env i final s s' where
  own := ⟨final, by rw [same, Table.get_put_self found], .refl final⟩
  kept j row elsewhere here := ⟨row, by rw [same, Table.get_put_other _ _ elsewhere, here], .refl row⟩
  arrived j row' _ missing later := by
    rw [same, Table.get_put_none _ missing] at later
    contradiction

theorem Turns.grows (turns : Turns env i final s s') (grows : Grows env s' s'') :
    Turns env i final s s'' where
  own := by
    obtain ⟨row', found, kept⟩ := turns.own
    obtain ⟨row'', found', kept'⟩ := grows.kept i row' found
    exact ⟨row'', found', kept.trans kept'⟩
  kept j row elsewhere found := by
    obtain ⟨row', found', kept⟩ := turns.kept j row elsewhere found
    obtain ⟨row'', found'', kept'⟩ := grows.kept j row' found'
    exact ⟨row'', found'', kept.trans kept'⟩
  arrived j row' elsewhere missing found := grows.since found fun row between =>
    turns.arrived j row elsewhere missing between

theorem Turns.trans {middle : Signal} (first : Turns env i middle s s')
    (second : Turns env i final s' s'') : Turns env i final s s'' where
  own := second.own
  kept j row elsewhere found := by
    obtain ⟨row', found', kept⟩ := first.kept j row elsewhere found
    obtain ⟨row'', found'', kept'⟩ := second.kept j row' elsewhere found'
    exact ⟨row'', found'', kept.trans kept'⟩
  arrived j row'' elsewhere missing found := by
    cases between : s'.signals.get j with
    | none => exact second.arrived j row'' elsewhere between found
    | some row' =>
      obtain ⟨row₂, found₂, kept⟩ := second.kept j row' elsewhere between
      cases Option.some.inj (found₂.symm.trans found)
      exact (first.arrived j row' elsewhere missing between).kept kept

theorem Turns.setStatus (turns : Turns env i final s s') (status : SignalStatus) (reason : String) :
    Turns env i (final.setStatus status reason) s (s'.setStatus i status reason) where
  own := by
    obtain ⟨row', found, kept⟩ := turns.own
    refine ⟨row'.setStatus status reason, ?_, kept.setStatus status reason⟩
    simp only [Inbox.setStatus, Table.get_modify_self, found, Option.map_some]
  kept j row elsewhere found := by
    obtain ⟨row', found', kept⟩ := turns.kept j row elsewhere found
    refine ⟨row', ?_, kept⟩
    simp only [Inbox.setStatus]
    rw [Table.get_modify_other _ _ elsewhere, found']
  arrived j row' elsewhere missing found := by
    simp only [Inbox.setStatus] at found
    rw [Table.get_modify_other _ _ elsewhere] at found
    exact turns.arrived j row' elsewhere missing found

/-- A signal that arrives and is turned at once arrives as what it turns into. -/
theorem Grows.turns (stored : Grows env s s') (missing : s.signals.get i = none)
    (turns : Turns env i final s' s'') (arrives : Arrives env final) : Grows env s s'' where
  kept j row found := by
    obtain ⟨row', found', kept⟩ := stored.kept j row found
    have elsewhere : j ≠ i := by
      rintro rfl
      rw [missing] at found
      contradiction
    obtain ⟨row'', found'', kept'⟩ := turns.kept j row' elsewhere found'
    exact ⟨row'', found'', kept.trans kept'⟩
  arrived j row'' free found := by
    by_cases here : j = i
    · cases here
      obtain ⟨own, found', kept⟩ := turns.own
      cases Option.some.inj (found'.symm.trans found)
      exact arrives.kept kept
    · cases between : s'.signals.get j with
      | none => exact turns.arrived j row'' here between found
      | some row' =>
        obtain ⟨own, found', kept⟩ := turns.kept j row' here between
        cases Option.some.inj (found'.symm.trans found)
        exact (stored.arrived j row' free between).kept kept

end Grows

namespace Inbox

section Enact
variable {env : SignalEnv} {emit : Emission} {i : SignalId} {d : Draft} {s : Inbox} {row : Signal}

/-- An emission adds a signal, or sees one again. -/
def Emits (env : SignalEnv) (emit : Emission) : Prop := ∀ a r s, Grows env s (emit a r s)

@[simp] theorem rederive_signals (a : ApplicationId) (s : Inbox) :
    (s.rederive a).signals = s.signals := rfl

@[simp] theorem sync_signals (a : ApplicationId) (s : Inbox) : (s.sync a).signals = s.signals := by
  unfold sync
  split <;> rfl

theorem foldl_rederive_signals (as : List ApplicationId) (s : Inbox) :
    (as.foldl (fun s a => s.rederive a) s).signals = s.signals := by
  induction as generalizing s with
  | nil => rfl
  | cons a as ih => exact ih (s.rederive a)

@[simp] theorem install_signals (i : SignalId) (d : Draft) (s : Inbox) :
    (s.install i d).signals = s.signals.put i d.row :=
  foldl_rederive_signals d.touched _

theorem newEvent_for (s : Inbox) (row : Signal) (f : Filing) : EventFor f (s.newEvent row f) :=
  ⟨rfl, rfl, rfl⟩

theorem maybeVerify_grows (emits : Emits env emit) (i : SignalId) (f : Filing) (s : Inbox) :
    Grows env s (s.maybeVerify env emit i f) := by
  have stored (o : Opening) : Grows env s (s.putOpening f.key.application o) := .of_signals rfl
  unfold maybeVerify
  dsimp only
  split
  · split
    · split
      · split
        · exact (stored _).trans (emits _ _ _)
        · exact stored _
      · exact .of_signals rfl
    · exact .of_signals rfl
  · exact .of_signals rfl

theorem file_turns (emits : Emits env emit) (f : Filing) (found : s.signals.get i = some row) :
    Turns env i ((row.record f (s.newEvent row f)).setStatus f.status f.reason) s
      (s.file env emit i f) := by
  have recorded : (s.record i f).signals = s.signals.put i (row.record f (s.newEvent row f)) := by
    simp only [record, found]
  have settled : (((s.record i f).rederive f.key.application).sync f.key.application).signals =
      s.signals.put i (row.record f (s.newEvent row f)) := by
    rw [sync_signals, rederive_signals, recorded]
  exact ((Turns.put found settled).grows (maybeVerify_grows emits i f _)).setStatus _ _

theorem enact_turns (emits : Emits env emit) (found : s.signals.get i = some row) :
    ∃ e, (∀ f, EventFor f (e f)) ∧ Turns env i (d.final e) s (s.enact env emit i d) := by
  have installed : Turns env i d.row s (s.install i d) := .put found (install_signals i d s)
  have here : (s.install i d).signals.get i = some d.row := by
    rw [install_signals, Table.get_put_self found]
  refine ⟨(s.install i d).newEvent d.row, newEvent_for _ d.row, ?_⟩
  unfold enact Draft.final
  cases d.consequence with
  | keep => exact installed
  | settle status reason => exact installed.setStatus status reason
  | file f => exact installed.trans (file_turns emits f here)

end Enact

section Step
variable {env : SignalEnv} {emit : Emission} {s s' : Inbox} {j : SignalId} {row row' : Signal}

theorem insert_grows (i : SignalId) (n : NormalizedSignal) (declared : Option SignalCategory)
    (s : Inbox) : Grows env s (s.insert i (.ingested n declared)) where
  kept _ row found := ⟨row, Table.get_insertNew found, .refl row⟩
  arrived _ row' missing found := by
    obtain ⟨-, rfl⟩ := Table.get_insertNew_none missing found
    exact ⟨n, declared, _, .refl _, .inl rfl⟩

theorem ingestWith_grows (emits : Emits env emit) {index : AttemptIndex} {ai : Option AIReply}
    {request : SignalIngest} {process : Option Bool}
    (done : s.ingestWith env emit index ai request process = .ok s') : Grows env s s' := by
  unfold ingestWith at done
  dsimp only at done
  generalize NormalizedSignal.of env s.db.now request = n at done
  split at done
  · contradiction
  split at done
  · cases Except.ok.inj done
    exact .modify _ (Signal.kept_observe _) rfl
  · rename_i missing
    have stored : Grows env s (s.insert n.dedupeKey (.ingested n request.category)) :=
      insert_grows _ n _ s
    split at done
    · cases Except.ok.inj done
      have here : (s.insert n.dedupeKey (.ingested n request.category)).signals.get n.dedupeKey =
          some (.ingested n request.category) := Table.get_insertNew_self missing
      obtain ⟨e, fresh, turns⟩ := enact_turns emits here
      exact stored.turns missing turns ⟨n, _, _, .refl _, .inr ⟨_, _, _, e, fresh, rfl⟩⟩
    · cases Except.ok.inj done
      exact stored

theorem emits_none : Emits env fun _ _ s => s := fun _ _ _ => .of_signals rfl

theorem emitExecution_emits (index : AttemptIndex) : Emits env (emitExecution env index) := by
  intro a r s
  unfold emitExecution
  split
  · exact .of_signals rfl
  · split
    · rename_i ingested
      exact ingestWith_grows emits_none ingested
    · exact .of_signals rfl

/-- What a step makes of a signal: it is kept, or the step is an operation on it. -/
inductive Becomes (env : SignalEnv) (s : Inbox) (op : InboxOp) (j : SignalId) (row row' : Signal) :
    Prop
  | kept (same : row.Kept row')
  | drafted (o : SignalOp) (out : Outside) (d : Draft) (e : Filing → OutcomeEvent)
      (on : op = .on j o out) (drafted : s.draft env out j o row = .ok d)
      (fresh : ∀ f, EventFor f (e f)) (final : (d.final e).Kept row')

theorem observeTarget_grows (o : SignalOp) (row : Signal) (s : Inbox) :
    Grows env s (s.observeTarget o row) := by
  unfold observeTarget
  split
  · exact .modify (fun t => t.observe (max t.lastObservedAt row.lastObservedAt))
      (fun t => Signal.kept_observe _ t) rfl
  · exact .of_signals rfl

theorem purge_grows (olderThanDays : Nat) (s : Inbox) : Grows env s (s.purge olderThanDays) where
  kept j row found := by
    refine ⟨_, by rw [purge, Table.get_mapRows, found]; rfl, ?_⟩
    dsimp only
    split
    · exact ⟨_, _, _, rfl⟩
    · exact .refl row
  arrived j row' missing found := by
    rw [purge, Table.get_mapRows, missing] at found
    contradiction

theorem perform_turns {out : Outside} {o : SignalOp}
    (done : s.perform env out j o = .ok s') :
    ∃ row d e, s.signals.get j = some row ∧ s.draft env out j o row = .ok d ∧
      (∀ f, EventFor f (e f)) ∧ Turns env j (d.final e) s s' := by
  unfold perform at done
  split at done
  · contradiction
  · rename_i row found
    simp only [bind_ok] at done
    obtain ⟨d, drafted, ended⟩ := done
    cases Except.ok.inj ended
    obtain ⟨e, fresh, turns⟩ := enact_turns (emitExecution_emits out.emitted) found
    exact ⟨row, d, e, found, drafted, fresh, turns.grows (observeTarget_grows o row _)⟩

/-- A step that is no operation on a signal of the inbox keeps them all. -/
theorem step_grows (op : InboxOp) (other : ∀ i o out, op ≠ .on i o out) :
    Grows env s (s.step env op) := by
  unfold step
  split
  · rename_i s' done
    cases op with
    | ingest request process out => exact ingestWith_grows (emitExecution_emits _) done
    | on i o out => exact absurd rfl (other i o out)
    | purgeExcerpts olderThanDays =>
      cases Except.ok.inj done
      exact purge_grows olderThanDays s
    | elsewhere db =>
      simp only [apply] at done
      split at done <;> cases Except.ok.inj done <;> exact .of_signals rfl
  · exact .of_signals rfl

theorem step_becomes (env : SignalEnv) (op : InboxOp) (found : s.signals.get j = some row) :
    ∃ row', (s.step env op).signals.get j = some row' ∧ Becomes env s op j row row' := by
  by_cases other : ∀ i o out, op ≠ .on i o out
  · obtain ⟨row', found', kept⟩ := (step_grows op other).kept j row found
    exact ⟨row', found', .kept kept⟩
  · simp only [not_forall, not_not] at other
    obtain ⟨i, o, out, rfl⟩ := other
    unfold step
    split
    · rename_i s' done
      obtain ⟨row₀, d, e, found₀, drafted, fresh, turns⟩ := perform_turns done
      by_cases here : j = i
      · cases here
        cases Option.some.inj (found₀.symm.trans found)
        obtain ⟨row', found', kept⟩ := turns.own
        exact ⟨row', found', .drafted o out d e rfl drafted fresh kept⟩
      · obtain ⟨row', found', kept⟩ := turns.kept j row here found
        exact ⟨row', found', .kept kept⟩
    · exact ⟨row, found, .kept (.refl row)⟩

/-- An operation that is not refused ends in what it drafts. -/
theorem step_drafted {o : SignalOp} {out : Outside} {d : Draft} (found : s.signals.get j = some row)
    (drafted : s.draft env out j o row = .ok d) :
    ∃ e row', (∀ f, EventFor f (e f)) ∧ (s.step env (.on j o out)).signals.get j = some row' ∧
      (d.final e).Kept row' := by
  have accepted : ∃ s', s.perform env out j o = .ok s' := by
    refine ⟨(s.enact env (emitExecution env out.emitted) j d).observeTarget o row, ?_⟩
    simp only [perform, found, drafted]
    rfl
  obtain ⟨s', done⟩ := accepted
  obtain ⟨row₀, d₀, e, found₀, drafted₀, fresh, turns⟩ := perform_turns done
  cases Option.some.inj (found₀.symm.trans found)
  cases Except.ok.inj (drafted₀.symm.trans drafted)
  obtain ⟨row', found', kept⟩ := turns.own
  have stepped : s.step env (.on j o out) = s' := by simp only [step, apply, done]
  exact ⟨e, row', fresh, stepped ▸ found', kept⟩

theorem step_arrives (env : SignalEnv) (op : InboxOp) (missing : s.signals.get j = none)
    (found : (s.step env op).signals.get j = some row') : Arrives env row' := by
  by_cases other : ∀ i o out, op ≠ .on i o out
  · exact (step_grows op other).arrived j row' missing found
  · simp only [not_forall, not_not] at other
    obtain ⟨i, o, out, rfl⟩ := other
    unfold step at found
    split at found
    · rename_i s' done
      obtain ⟨row₀, d, e, found₀, drafted, fresh, turns⟩ := perform_turns done
      have elsewhere : j ≠ i := by
        rintro rfl
        rw [missing] at found₀
        contradiction
      exact turns.arrived j row' elsewhere missing found
    · rw [missing] at found
      contradiction

/-- What every draft of a guarded step and every arrival satisfies, all signals of the inbox
satisfy. -/
theorem step_all {φ : Signal → Prop} (observed : ∀ row row' : Signal, row.Kept row' → φ row → φ row')
    (arrives : ∀ row, Arrives env row → φ row) (op : InboxOp)
    (drafts : ∀ i o out row d e, op = .on i o out → s.signals.get i = some row →
      s.draft env out i o row = .ok d → (∀ f, EventFor f (e f)) → φ row → φ (d.final e))
    (all : s.signals.All fun _ => φ) : (s.step env op).signals.All fun _ => φ := by
  intro r member
  have found' := Table.get_eq_some.mpr member
  cases before : s.signals.get r.1 with
  | none => exact arrives _ (step_arrives env op before found')
  | some row =>
    have here : φ row := all.get before
    obtain ⟨row', found, becomes⟩ := step_becomes env op before
    cases Option.some.inj (found.symm.trans found')
    cases becomes with
    | kept same => exact observed _ _ same here
    | drafted o out d e on drafted fresh final =>
      exact observed _ _ final (drafts _ o out row d e on before drafted fresh here)

end Step

end Inbox

end RangeApply
