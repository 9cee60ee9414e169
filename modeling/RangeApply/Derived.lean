import RangeApply.Drafts

/-! The stored outcome of an application is what its events derive to. An operation changes the
events of the applications it derives again, and of no other. -/
namespace RangeApply

namespace Inbox

section Events
variable {s s' : Inbox} {i : SignalId} {a : ApplicationId} {row row' : Signal}

theorem events_congr (same : s'.signals = s.signals) : s'.events a = s.events a := by
  simp only [events, same]

theorem events_of_mapRows {f : SignalId → Signal → Signal} (same : s'.signals = s.signals.mapRows f)
    (kept : ∀ r ∈ s.signals.rows, eventsOf r.1 (f r.1 r.2) a = eventsOf r.1 r.2 a) :
    s'.events a = s.events a := by
  simp only [events, same, Table.mapRows_rows, List.flatMap_map]
  exact List.flatMap_congr kept

theorem events_of_modify {f : Signal → Signal} (same : s'.signals = s.signals.modify i f)
    (kept : ∀ row, eventsOf i (f row) a = eventsOf i row a) : s'.events a = s.events a := by
  refine events_of_mapRows same fun r _ => ?_
  by_cases here : r.1 = i
  · simp only [here, if_true, kept]
  · simp only [if_neg here]

theorem events_of_put (found : s.signals.get i = some row)
    (same : s'.signals = s.signals.put i row') (kept : eventsOf i row' a = eventsOf i row a) :
    s'.events a = s.events a := by
  rw [Table.put, Table.modify] at same
  refine events_of_mapRows same fun r member => ?_
  by_cases here : r.1 = i
  · have own : r.2 = row :=
      Table.nodup_unique s.signals.nodup (here ▸ member) (Table.get_eq_some.mp found)
    simp only [here, if_true, kept, own]
  · simp only [if_neg here]

theorem events_of_insertNew (same : s'.signals = s.signals.insertNew i row)
    (none_ : row.events = .empty) : s'.events a = s.events a := by
  have added : eventsOf i row a = [] := by simp [eventsOf, none_, Table.empty]
  simp only [events, same, Table.insertNew]
  split
  · rfl
  · simp [added]

/-- A retraction changes the events of the applications it touches. -/
theorem eventsOf_retract (reason : String) (untouched : a ∉ row.touched) :
    eventsOf i (row.retract reason) a = eventsOf i row a := by
  simp only [eventsOf, Signal.retract, Table.mapRows_rows, List.filter_map, List.map_map]
  refine List.map_congr_left fun r member => ?_
  obtain ⟨here, about⟩ := List.mem_filter.mp member
  have dead : r.2.retracted = true := by
    by_contra alive
    refine untouched (List.mem_eraseDups.mpr (List.mem_map.mpr ⟨r, ?_, by simpa using about⟩))
    exact List.mem_filter.mpr ⟨here, by simpa using alive⟩
  simp [OutcomeEvent.retract, dead]

theorem eventsOf_modify {k : EventKey} {f : OutcomeEvent → OutcomeEvent} (other : k.application ≠ a)
    (t : Table EventKey OutcomeEvent) :
    eventsOf i { row with events := t.modify k f } a = eventsOf i { row with events := t } a := by
  simp only [eventsOf, Table.modify, Table.mapRows_rows, List.filter_map, List.map_map]
  refine List.map_congr_left fun r member => ?_
  obtain ⟨-, about⟩ := List.mem_filter.mp member
  have elsewhere : r.1 ≠ k := by
    rintro rfl
    exact other (by simpa using about)
  simp [elsewhere]

/-- Recording changes the events of the application it is about. -/
theorem eventsOf_record {f : Filing} {e : OutcomeEvent} (other : f.key.application ≠ a)
    (supersedes : ∀ old, f.supersedes = some old → old.application = f.key.application) :
    eventsOf i (row.record f e) a = eventsOf i row a := by
  have inserted : eventsOf i { row with events := row.events.insertNew f.key e } a =
      eventsOf i row a := by
    simp only [eventsOf, Table.insertNew]
    split
    · rfl
    · simp [other]
  unfold Signal.record
  split
  · rfl
  · unfold Signal.supersede
    split
    · exact inserted
    · rename_i old superseded
      split
      · exact inserted
      · rw [eventsOf_modify (by rw [supersedes old superseded]; exact other), inserted]

end Events

/-! ### What is stored -/

/-- The stored outcome of the application is the derived one, once there is an event. -/
def Current (s : Inbox) (a : ApplicationId) : Prop :=
  s.events a ≠ [] → (s.outcomes.get a).map ApplicationOutcome.derived = some (s.derived a)

section Current
variable {env : SignalEnv} {emit : Emission} {s s' : Inbox} {i : SignalId} {a b : ApplicationId}
  {row : Signal} {d : Draft} {f : Filing}

theorem Current.of_same (events : s'.events a = s.events a) (outcomes : s'.outcomes = s.outcomes)
    (current : s.Current a) : s'.Current a := by
  simpa only [Current, derived, events, outcomes] using current

theorem Current.of_signals (same : s'.signals = s.signals) (outcomes : s'.outcomes = s.outcomes)
    (current : s.Current a) : s'.Current a :=
  current.of_same (events_congr same) outcomes

theorem refreshed_derived (now : Time) (d : DerivedOutcome EventId)
    (before : Option ApplicationOutcome) : (refreshed now d before).derived = d := by
  cases before <;> rfl

theorem rederive_current (a : ApplicationId) (s : Inbox) : (s.rederive a).Current a := by
  intro _
  have stored : (s.rederive a).outcomes.get a =
      some (refreshed s.db.now (s.derived a) (s.outcomes.get a)) := Table.get_set_self _ _ _
  rw [stored, Option.map_some, refreshed_derived]
  rfl

theorem Current.rederive (current : s.Current b) : (s.rederive a).Current b := by
  by_cases here : b = a
  · subst here
    exact rederive_current b s
  · intro events
    have stored : (s.rederive a).outcomes.get b = s.outcomes.get b := Table.get_set_other _ _ here
    rw [stored]
    exact current events

theorem foldl_rederive_current {as : List ApplicationId} (current : b ∈ as ∨ s.Current b) :
    (as.foldl (fun s a => s.rederive a) s).Current b := by
  induction as generalizing s with
  | nil => exact current.resolve_left (by simp)
  | cons a as ih =>
    apply ih
    rcases current with member | current
    · rcases List.mem_cons.mp member with rfl | later
      · exact .inr (rederive_current b s)
      · exact .inl later
    · exact .inr current.rederive

/-- The stored outcomes are the derived ones. -/
def AllCurrent (s : Inbox) : Prop := ∀ a, s.Current a

def KeepsCurrent (emit : Emission) : Prop := ∀ a r s, AllCurrent s → AllCurrent (emit a r s)

theorem install_current (found : s.signals.get i = some row) (sound : d.Sound row)
    (all : s.AllCurrent) : (s.install i d).AllCurrent := by
  intro b
  refine foldl_rederive_current ?_
  by_cases touched : b ∈ d.touched
  · exact .inl touched
  · right
    refine (all b).of_same (events_of_put found rfl ?_) rfl
    rcases sound.history with ⟨same, -⟩ | ⟨⟨reason, retracted⟩, told⟩
    · simp only [eventsOf, same]
    · rw [told] at touched
      rw [← eventsOf_retract reason touched]
      simp only [eventsOf, retracted]

theorem setStatus_current (status : SignalStatus) (reason : String) (all : s.AllCurrent) :
    (s.setStatus i status reason).AllCurrent :=
  fun a => (all a).of_same (events_of_modify rfl fun _ => rfl) rfl

theorem sync_current (all : s.AllCurrent) : (s.sync a).AllCurrent := by
  intro b
  refine (all b).of_signals (sync_signals a s) ?_
  unfold sync
  split <;> rfl

theorem maybeVerify_current (keeps : KeepsCurrent emit) (all : s.AllCurrent) :
    (s.maybeVerify env emit i f).AllCurrent := by
  have stored (o : Opening) : (s.putOpening f.key.application o).AllCurrent :=
    fun b => (all b).of_signals rfl rfl
  unfold maybeVerify
  dsimp only
  split
  · split
    · split
      · split
        · exact keeps _ _ _ (stored _)
        · exact stored _
      · exact all
    · exact all
  · exact all

/-- A filing derives again the one application whose events it changes. -/
theorem file_current (keeps : KeepsCurrent emit) (found : s.signals.get i = some row)
    (supersedes : ∀ old, f.supersedes = some old → old.application = f.key.application)
    (all : s.AllCurrent) : (s.file env emit i f).AllCurrent := by
  have same : (s.record i f).signals = s.signals.put i (row.record f (s.newEvent row f)) := by
    simp only [record, found]
  have recorded : ((s.record i f).rederive f.key.application).AllCurrent := by
    intro b
    by_cases here : b = f.key.application
    · subst here
      exact rederive_current _ _
    · refine Current.rederive ((all b).of_same ?_ ?_)
      · exact events_of_put found same (eventsOf_record (Ne.symm here) supersedes)
      · simp only [record, found]
  exact setStatus_current _ _ (maybeVerify_current keeps (sync_current recorded))

theorem enact_current (keeps : KeepsCurrent emit) (found : s.signals.get i = some row)
    (sound : d.Sound row) (all : s.AllCurrent) : (s.enact env emit i d).AllCurrent := by
  have installed := install_current found sound all
  have here : (s.install i d).signals.get i = some d.row := by
    rw [install_signals, Table.get_put_self found]
  unfold enact
  cases consequence : d.consequence with
  | keep => exact installed
  | settle status reason => exact setStatus_current status reason installed
  | file f =>
    exact file_current keeps here (fun old superseded =>
      (sound.supersedes f old consequence superseded).2) installed

theorem ingestWith_current (keeps : KeepsCurrent emit) {index : AttemptIndex}
    {ai : Option AIReply} {request : SignalIngest} {process : Option Bool} (all : s.AllCurrent)
    (done : s.ingestWith env emit index ai request process = .ok s') : s'.AllCurrent := by
  unfold ingestWith at done
  dsimp only at done
  generalize NormalizedSignal.of env s.db.now request = n at done
  split at done
  · contradiction
  split at done
  · cases Except.ok.inj done
    exact fun a => (all a).of_same (events_of_modify rfl fun _ => rfl) rfl
  · rename_i missing
    have inserted : (s.insert n.dedupeKey (.ingested n request.category)).AllCurrent :=
      fun a => (all a).of_same (events_of_insertNew rfl rfl) rfl
    split at done
    · cases Except.ok.inj done
      exact enact_current keeps (Table.get_insertNew_self missing) Signal.processAs_sound inserted
    · cases Except.ok.inj done
      exact inserted

theorem emitExecution_current (index : AttemptIndex) : KeepsCurrent (emitExecution env index) := by
  intro a r s all
  unfold emitExecution
  split
  · exact all
  · split
    · rename_i ingested
      exact ingestWith_current (fun _ _ _ all => all) all ingested
    · exact all

theorem observeTarget_current (o : SignalOp) (row : Signal) (all : s.AllCurrent) :
    (s.observeTarget o row).AllCurrent := by
  intro a
  cases o with
  | merge into actor =>
    let seen (t : Signal) := t.observe (max t.lastObservedAt row.lastObservedAt)
    have kept : (s.observeTarget (.merge into actor) row).events a = s.events a :=
      events_of_modify (i := into) (f := seen) rfl fun _ => rfl
    exact (all a).of_same kept rfl
  | _ => exact all a

theorem perform_current {out : Outside} {o : SignalOp} (all : s.AllCurrent)
    (done : s.perform env out i o = .ok s') : s'.AllCurrent := by
  unfold perform at done
  split at done
  · contradiction
  · rename_i row found
    simp only [bind_ok] at done
    obtain ⟨d, drafted, ended⟩ := done
    cases Except.ok.inj ended
    have enacted : (s.enact env (emitExecution env out.emitted) i d).AllCurrent :=
      enact_current (emitExecution_current out.emitted) found (draft_sound drafted) all
    exact observeTarget_current o row enacted

theorem step_current (op : InboxOp) (all : s.AllCurrent) : (s.step env op).AllCurrent := by
  unfold step
  split
  · rename_i s' done
    cases op with
    | ingest request process out => exact ingestWith_current (emitExecution_current _) all done
    | on i o out => exact perform_current all done
    | purgeExcerpts olderThanDays =>
      cases Except.ok.inj done
      intro a
      have kept : (s.purge olderThanDays).events a = s.events a := by
        simp only [events, purge, Table.mapRows_rows, List.flatMap_map]
        refine List.flatMap_congr fun r _ => ?_
        split <;> rfl
      exact (all a).of_same kept rfl
    | elsewhere db =>
      simp only [apply] at done
      split at done <;> cases Except.ok.inj done <;> exact fun a => (all a).of_signals rfl rfl
  · exact all

end Current

end Inbox

/-- In every run the stored outcome of every application with an event is the one its events
derive to. -/
theorem stored_outcome_derived (env : SignalEnv) (db : DB) (ops : List InboxOp) (a : ApplicationId) :
    let s := Inbox.run env (.start db) ops
    s.events a ≠ [] → ∃ row, s.outcomes.get a = some row ∧ row.derived = s.derived a := by
  intro s events
  have current : s.AllCurrent :=
    Trace.run_always Inbox.AllCurrent (fun _ op => Inbox.step_current op)
      (fun a events => absurd rfl events) ops
  exact Option.map_eq_some_iff.mp (current a events)

/-- A note that is linked to one application and then to another. -/
def moveOps : List InboxOp :=
  let link (a : ApplicationId) : InboxOp :=
    .on (.ref .manual "note".ascii) (.link a "user") (.indexed [0, 1])
  [.ingest (.manual "note" .interviewInvitation) none (.indexed [0, 1]), link 0, link 1]

/-- The application it was moved away from has its outcome derived again. -/
theorem moved_outcome_derived :
    let s := Inbox.run .utc (.start (.submitted ["Acme", "Umbrella"])) moveOps
    s.events 0 ≠ [] ∧ ∃ row, s.outcomes.get 0 = some row ∧ row.derived = s.derived 0 := by
  intro s
  have moved : s.events 0 ≠ [] := by decide +kernel
  exact ⟨moved, stored_outcome_derived .utc _ moveOps 0 moved⟩

end RangeApply
