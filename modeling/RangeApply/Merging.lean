import RangeApply.Drafts
import RangeApply.Forward

/-! Merged signals. Following the merges ends at a signal that is not merged, in every inbox that
can be reached; but of the operations on one signal only some look whether it is merged. -/
namespace RangeApply

/-! ### What an operation may end in -/

namespace Signal
variable {env : SignalEnv} {look : Lookups} {known : ApplicationId → Bool} {ai : Option AIReply}
  {n : NormalizedSignal} {row : Signal} {e : Filing → OutcomeEvent}

/-- What follows from a category and an attribution is no merge. -/
theorem apply_final_unmerged (row row' : Signal) (touched : List ApplicationId)
    (c : Classification) (r : AttributionResult) :
    ((⟨row', touched, row.apply_ known c r⟩ : Draft).final e).status ≠ .merged := by
  obtain ⟨status, reason, settled, kinds⟩ | ⟨f, filed, files⟩ := apply_cases known c r row
  · simp only [Draft.final, settled, setStatus]
    rcases kinds with rfl | rfl | rfl <;> decide
  · simp only [Draft.final, filed, setStatus, files.status]
    rcases appliedStatus_cases c f.key.outcome f.evidence with review | applied
    · rw [review]
      decide
    · rw [applied]
      decide

/-- Processing leaves a merged signal as it is, and merges none. -/
theorem processAs_merged (merged : ((row.processAs env look known ai n).final e).status = .merged) :
    row.status = .merged ∧ row.processAs env look known ai n = ⟨row, [], .keep⟩ := by
  unfold processAs at merged ⊢
  split at merged
  · rename_i settled
    exact ⟨merged, by rw [if_pos settled]⟩
  · dsimp only at merged
    split at merged
    · simp only [Draft.final, setStatus] at merged
      contradiction
    · exact absurd merged (apply_final_unmerged _ _ _ _ _)

theorem arrives_unmerged {row' : Signal} (arrives : Arrives env row') : row'.status ≠ .merged := by
  obtain ⟨n, declared, row, ⟨_, _, _, rfl⟩, rfl | ⟨look, known, ai, e, -, rfl⟩⟩ := arrives
  · simp [ingested]
  · intro merged
    obtain ⟨fresh, -⟩ := processAs_merged merged
    simp [ingested] at fresh

end Signal

namespace Inbox
variable {env : SignalEnv} {out : Outside} {i : SignalId} {o : SignalOp} {s : Inbox} {row : Signal}
  {d : Draft} {e : Filing → OutcomeEvent}

/-- An operation that ends in a merged signal found it merged and left it, or merged it into a
signal that is not. -/
theorem draft_merged (drafted : s.draft env out i o row = .ok d)
    (merged : (d.final e).status = .merged) :
    (row.status = .merged ∧ d = ⟨row, [], .keep⟩) ∨
    ∃ into actor target, o = .merge into actor ∧ s.signals.get into = some target ∧ into ≠ i ∧
      target.status ≠ .merged ∧ (d.final e).mergedInto = some into := by
  cases o with
  | process =>
    cases Except.ok.inj drafted
    exact .inl (Signal.processAs_merged merged)
  | reprocess =>
    simp only [draft, Signal.reprocess] at drafted
    split at drafted
    · cases Except.ok.inj drafted
      exact .inl (Signal.processAs_merged merged)
    · contradiction
  | link a actor =>
    simp only [draft, Signal.link] at drafted
    split at drafted
    · contradiction
    split at drafted
    · contradiction
    · cases Except.ok.inj drafted
      exact absurd merged (Signal.apply_final_unmerged _ _ _ _ _)
  | confirmClassification category actor =>
    simp only [draft, Signal.confirmClassification] at drafted
    split at drafted
    · contradiction
    · cases Except.ok.inj drafted
      exact absurd merged (Signal.apply_final_unmerged _ _ _ _ _)
  | rejectClassification actor =>
    cases Except.ok.inj drafted
    contradiction
  | confirmOutcome outcome actor =>
    simp only [draft, Signal.confirmOutcome] at drafted
    split at drafted
    · contradiction
    split at drafted
    · contradiction
    · cases Except.ok.inj drafted
      contradiction
  | ignore actor note =>
    cases Except.ok.inj drafted
    contradiction
  | merge into actor =>
    simp only [draft, Signal.merge] at drafted
    split at drafted
    · contradiction
    · rename_i target found
      split at drafted
      · contradiction
      · rename_i other
        split at drafted
        · contradiction
        · rename_i unmerged
          cases Except.ok.inj drafted
          exact .inr ⟨into, actor, target, rfl, found, Ne.symm other, unmerged, rfl⟩

/-! ### Merging ends -/

/-- Where a merged signal points. -/
def mergedInto (s : Inbox) (i : SignalId) : Option SignalId :=
  (s.signals.get i).bind fun row => if row.status = .merged then row.mergedInto else none

def Unmerged (s : Inbox) (i : SignalId) : Prop :=
  ∃ row, s.signals.get i = some row ∧ row.status ≠ .merged

/-- From every signal the merges lead, in finitely many steps, to one that is not merged. -/
def MergesEnd (s : Inbox) : Prop :=
  ∀ i row, s.signals.get i = some row → Forward.Ends s.mergedInto s.Unmerged i

/-- An operation on another signal does not merge a signal. -/
theorem step_unmerged {j : SignalId} (op : InboxOp) (elsewhere : ∀ o out, op ≠ .on j o out)
    (unmerged : s.Unmerged j) : (s.step env op).Unmerged j := by
  obtain ⟨row, found, status⟩ := unmerged
  obtain ⟨row', found', becomes⟩ := step_becomes env op found
  cases becomes with
  | kept same =>
    obtain ⟨_, _, _, rfl⟩ := same
    exact ⟨_, found', status⟩
  | drafted o out d e on => exact absurd on (elsewhere o out)

/-- A signal ends up not merged, or points where it did, or at a signal that is not merged. -/
theorem step_moves (op : InboxOp) (j : SignalId) :
    (s.step env op).Unmerged j ∨
    (¬ s.Unmerged j ∧ (s.step env op).mergedInto j = s.mergedInto j) ∨
    ∃ t, (s.step env op).mergedInto j = some t ∧ (s.step env op).Unmerged t := by
  cases before : s.signals.get j with
  | none =>
    cases after : (s.step env op).signals.get j with
    | none => exact .inr (.inl ⟨by simp [Unmerged, before], by simp [mergedInto, before, after]⟩)
    | some row' => exact .inl ⟨row', after, Signal.arrives_unmerged (step_arrives env op before after)⟩
  | some row =>
    obtain ⟨row', after, becomes⟩ := step_becomes env op before
    by_cases merged : row'.status = .merged
    · right
      cases becomes with
      | kept same =>
        obtain ⟨_, _, _, rfl⟩ := same
        exact .inl ⟨by simpa [Unmerged, before] using merged, by simp [mergedInto, before, after]⟩
      | drafted o out d e on drafted _ final =>
        obtain ⟨_, _, _, rfl⟩ := final
        obtain ⟨already, rfl⟩ | ⟨into, actor, target, rfl, found, other, unmerged, points⟩ :=
          draft_merged drafted merged
        · exact .inl ⟨by simpa [Unmerged, before] using already,
            by simp [mergedInto, before, after, Draft.final]⟩
        · refine .inr ⟨into, ?_, step_unmerged op ?_ ⟨target, found, unmerged⟩⟩
          · simpa [mergedInto, after] using ⟨merged, points⟩
          · rintro o out rfl
            injection on with here
            exact other here
    · exact .inl ⟨row', after, merged⟩

theorem step_mergesEnd (op : InboxOp) (ends : s.MergesEnd) : (s.step env op).MergesEnd := by
  intro i row' after
  cases before : s.signals.get i with
  | none => exact .here ⟨row', after, Signal.arrives_unmerged (step_arrives env op before after)⟩
  | some row => exact (ends i row before).redirect (step_moves op)

/-! ### Merged signals that stay merged -/

/-- The step leaves every merged signal merged, with no active event it had not. -/
def StaysMerged (env : SignalEnv) (s : Inbox) (op : InboxOp) : Prop :=
  ∀ i row, s.signals.get i = some row → row.status = .merged →
    ∃ row', (s.step env op).signals.get i = some row' ∧ row'.status = .merged ∧
      ∀ k e', row'.events.get k = some e' → e'.active = true →
        ∃ e, row.events.get k = some e ∧ e.active = true

/-- No person rejects, ignores or confirms an outcome of a merged signal. -/
def Spares (s : Inbox) : InboxOp → Prop
  | .on i o _ => ∀ row, s.signals.get i = some row → row.status = .merged → match o with
    | .rejectClassification _ | .ignore _ _ => False
    | .confirmOutcome _ _ => ∀ a, row.applicationId = some a → s.known a = false
    | _ => True
  | _ => True

/-- A merged signal that is spared is left as it is, or merged again. -/
theorem spared_merged (spares : s.Spares (.on i o out)) (found : s.signals.get i = some row)
    (merged : row.status = .merged) (drafted : s.draft env out i o row = .ok d) :
    d = ⟨row, [], .keep⟩ ∨ ∃ into actor target, o = .merge into actor ∧
      row.merge env i into target actor = .ok d := by
  have guard := spares row found merged
  cases o with
  | process =>
    cases Except.ok.inj drafted
    exact .inl (if_pos (.inr merged))
  | reprocess => simp [draft, Signal.reprocess, merged, SignalStatus.reprocessable] at drafted
  | link a actor => simp [draft, Signal.link, merged] at drafted
  | confirmClassification category actor =>
    simp [draft, Signal.confirmClassification, merged] at drafted
  | rejectClassification actor => exact guard.elim
  | confirmOutcome outcome actor =>
    simp only [draft, Signal.confirmOutcome] at drafted
    split at drafted
    · contradiction
    · rename_i a placed
      rw [if_pos (guard a placed)] at drafted
      contradiction
  | ignore actor note => exact guard.elim
  | merge into actor => exact .inr ⟨into, actor, s.signals.get into, rfl, drafted⟩

theorem staysMerged_of_spares {op : InboxOp} (spares : s.Spares op) : StaysMerged env s op := by
  intro i row found merged
  obtain ⟨row', found', becomes⟩ := step_becomes env op found
  refine ⟨row', found', ?_⟩
  cases becomes with
  | kept same =>
    obtain ⟨_, _, _, rfl⟩ := same
    exact ⟨merged, fun k e' held active => ⟨e', held, active⟩⟩
  | drafted o out d e on drafted fresh final =>
    subst on
    obtain ⟨_, _, _, rfl⟩ := final
    obtain rfl | ⟨into, actor, target, rfl, again⟩ := spared_merged spares found merged drafted
    · exact ⟨merged, fun k e' held active => ⟨e', held, active⟩⟩
    · unfold Signal.merge at again
      split at again
      · contradiction
      split at again
      · contradiction
      split at again
      · contradiction
      · cases Except.ok.inj again
        refine ⟨rfl, fun k e' held active => ?_⟩
        rw [Signal.retract_active held] at active
        contradiction

theorem spares_of_staysMerged {op : InboxOp} (stays : StaysMerged env s op) : s.Spares op := by
  cases op with
  | on i o out =>
    intro row found merged
    -- whatever ends in another status than MERGED breaks the property
    have ended {d : Draft} (drafted : s.draft env out i o row = .ok d)
        (other : ∀ e, (d.final e).status ≠ .merged) : False := by
      obtain ⟨row', found', status, -⟩ := stays i row found merged
      obtain ⟨e, row₂, -, found₂, kept⟩ := step_drafted found drafted
      cases Option.some.inj (found₂.symm.trans found')
      obtain ⟨_, _, _, rfl⟩ := kept
      exact other e status
    cases o with
    | rejectClassification actor =>
      exact ended rfl fun _ => by simp [Draft.final, Signal.setStatus, Signal.rejectClassification]
    | ignore actor note =>
      exact ended rfl fun _ => by simp [Draft.final, Signal.setStatus, Signal.ignore]
    | confirmOutcome outcome actor =>
      intro a placed
      by_contra known
      have drafted : s.draft env out i (.confirmOutcome outcome actor) row = .ok ⟨row, [],
          .file ⟨⟨a, outcome, .human⟩, .strong, row.category, row.automatic a, none, .applied,
            s!"{outcome.value} confirmed by {actor}"⟩⟩ := by
        simp only [draft, Signal.confirmOutcome, placed, if_neg known]
      exact ended drafted fun _ => by simp [Draft.final, Signal.setStatus]
    | _ => trivial
  | _ => trivial

end Inbox

/-- In every run merging ends, and merged signals stay merged, with no active event of their own
they had not, exactly as long as no person rejects, ignores or confirms an outcome of one. -/
theorem merged_stays_iff (env : SignalEnv) (db : DB) (ops : List InboxOp) :
    (Trace.Guarded (Inbox.step env) (Inbox.StaysMerged env) (.start db) ops ∧
      (Inbox.run env (.start db) ops).MergesEnd) ↔
      Trace.Guarded (Inbox.step env) Inbox.Spares (.start db) ops := by
  have ends : (Inbox.run env (.start db) ops).MergesEnd :=
    Trace.run_always Inbox.MergesEnd (fun _ op => Inbox.step_mergesEnd op)
      (fun i row found => by simp [Inbox.start, Table.empty, Table.get] at found) ops
  have same : Trace.Guarded (Inbox.step env) (Inbox.StaysMerged env) (.start db) ops ↔
      Trace.Guarded (Inbox.step env) Inbox.Spares (.start db) ops :=
    Trace.guarded_congr (fun _ => True) (fun _ _ _ => trivial)
      (fun _ _ _ => ⟨Inbox.spares_of_staysMerged, Inbox.staysMerged_of_spares⟩) trivial ops
  exact ⟨fun stays => same.mp stays.1, fun spares => ⟨same.mpr spares, ends⟩⟩

/-- A person takes one of two notes about an application for a duplicate, and then confirms its
outcome all the same. -/
def duplicateOps : List InboxOp :=
  let note (name : String) : SignalId := .ref .manual name.ascii
  [.ingest (.manual "first" .rejection) none (.indexed [0]),
    .ingest (.manual "second" .rejection) none (.indexed [0]),
    .on (note "first") (.link 0 "user") (.indexed [0]),
    .on (note "first") (.merge (note "second") "user") (.indexed [0]),
    .on (note "first") (.confirmOutcome .interviewRequested "user") (.indexed [0])]

/-- The merged signal is APPLIED at the end, and has an active event. -/
theorem confirmed_merged_leaves :
    let s := Inbox.run .utc (.start (.submitted ["Acme"])) (duplicateOps.take 4)
    let s' := Inbox.run .utc (.start (.submitted ["Acme"])) duplicateOps
    let first : SignalId := .ref .manual "first".ascii
    (s.signals.get first).map Signal.status = some .merged ∧
      (s.signals.get first).map (·.events.rows.any (·.2.active)) = some false ∧
      (s'.signals.get first).map Signal.status = some .applied ∧
      (s'.signals.get first).map (·.events.rows.any (·.2.active)) = some true := by
  decide +kernel

end RangeApply
