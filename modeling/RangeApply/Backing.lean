import RangeApply.Drafts

/-! The event behind an APPLIED signal. Events are filed under a key that outlives them, so a
second recording may find the event of the first retracted. -/
namespace RangeApply

namespace Signal

/-- An event for the application is neither retracted nor superseded. -/
def Supports (row : Signal) (a : ApplicationId) : Prop :=
  ∃ k e, row.events.get k = some e ∧ k.application = a ∧ e.active = true

/-- An APPLIED signal has an active event for its application. -/
def Backed (row : Signal) : Prop :=
  row.status = .applied → ∃ a, row.applicationId = some a ∧ row.Supports a

/-- What holds of every signal of a run. -/
def Settled (row : Signal) : Prop := row.Placed ∧ row.Backed

variable {row row' : Signal} {d : Draft} {e : Filing → OutcomeEvent}

theorem Settled.kept (kept : row.Kept row') (settled : row.Settled) : row'.Settled := by
  obtain ⟨_, _, _, rfl⟩ := kept
  exact settled

/-- What a draft files as APPLIED has an active event when it is recorded. -/
def Refiled (d : Draft) : Prop :=
  ∀ f, d.consequence = .file f → f.status = .applied →
    (d.row.events.get f.key).isSome = true → d.row.Supports f.key.application

theorem settled_final (sound : d.Sound row) (settled : row.Settled) (fresh : ∀ f, EventFor f (e f))
    (anew : Refiled d) : (d.final e).Settled := by
  refine ⟨sound.placed_final settled.1, ?_⟩
  unfold Draft.final
  cases consequence : d.consequence with
  | keep =>
    rw [sound.keeps consequence]
    exact settled.2
  | settle status reason =>
    intro applied
    exact absurd applied (sound.settles status reason consequence)
  | file f =>
    intro applied
    refine ⟨f.key.application, ?_, ?_⟩
    · simpa [setStatus] using sound.application settled.1 f consequence
    · cases held : d.row.events.get f.key with
      | none => exact ⟨f.key, e f, record_new held, rfl, (fresh f).active⟩
      | some old =>
        have kept : (d.row.events.get f.key).isSome = true := by rw [held]; rfl
        have same : (d.row.record f (e f)).events = d.row.events := by rw [record_held kept]
        obtain ⟨k, e', found, about, active⟩ := anew f consequence applied kept
        refine ⟨k, e', ?_, about, active⟩
        simpa [setStatus, same] using found

theorem refiled_of_backed (sound : d.Sound row) (settled : row.Settled)
    (backed : (d.final e).Backed) : Refiled d := by
  intro f consequence applied held
  unfold Draft.final at backed
  simp only [consequence] at backed
  obtain ⟨a, about, supports⟩ := backed applied
  have here := sound.application settled.1 f consequence
  simp only [setStatus, record_applicationId, here, Option.some.injEq] at about
  subst about
  simpa [Supports, setStatus, record_held held] using supports

theorem arrives_settled {env : SignalEnv} {row : Signal} (arrives : Arrives env row) :
    row.Settled := by
  obtain ⟨n, declared, first, kept, begun⟩ := arrives
  refine Settled.kept kept ?_
  have ingested : (Signal.ingested n declared).Settled :=
    ⟨rfl, fun applied => by simp [Signal.ingested] at applied⟩
  rcases begun with rfl | ⟨look, known, ai, e, fresh, rfl⟩
  · exact ingested
  · have sound : Draft.Sound (.ingested n declared)
        ((Signal.ingested n declared).processAs env look known ai n) := processAs_sound
    refine settled_final sound ingested fresh fun f _ _ held => ?_
    rw [sound.get_none rfl] at held
    contradiction

end Signal

namespace Inbox
variable {env : SignalEnv} {s : Inbox}

/-- Every APPLIED signal has an active event for its application. -/
def Backed (s : Inbox) : Prop := s.signals.All fun _ => Signal.Backed

/-- Where an operation records an event as APPLIED under a key that an event has already, some
event of the signal for that application is still active. -/
def FilesAnew (env : SignalEnv) (s : Inbox) : InboxOp → Prop
  | .on i o out => ∀ row d, s.signals.get i = some row → s.draft env out i o row = .ok d →
    Signal.Refiled d
  | _ => True

theorem step_settled {op : InboxOp} (settled : s.signals.All fun _ => Signal.Settled)
    (anew : s.FilesAnew env op) : (s.step env op).signals.All fun _ => Signal.Settled := by
  refine step_all (fun _ _ => Signal.Settled.kept) (fun _ => Signal.arrives_settled) op ?_ settled
  rintro i o out row d e rfl found drafted fresh here
  exact Signal.settled_final (draft_sound drafted) here fresh (anew row d found drafted)

theorem filesAnew_of_backed {op : InboxOp} (settled : s.signals.All fun _ => Signal.Settled)
    (backed : (s.step env op).Backed) : s.FilesAnew env op := by
  cases op with
  | on i o out =>
    intro row d found drafted
    obtain ⟨e, row', -, found', kept⟩ := step_drafted found drafted
    have final : (d.final e).Backed := by
      obtain ⟨_, _, _, rfl⟩ := kept
      have held := backed.get found'
      exact held
    exact Signal.refiled_of_backed (draft_sound drafted) (settled.get found) final
  | _ => trivial

end Inbox

/-- In every run every APPLIED signal has an active event for its application, exactly as long as
no event is recorded as APPLIED under the key of a dead one, with no other to stand for it. -/
theorem applied_backed_iff (env : SignalEnv) (db : DB) (ops : List InboxOp) :
    Trace.Guarded (Inbox.step env) (fun s op => (s.step env op).Backed) (.start db) ops ↔
      Trace.Guarded (Inbox.step env) (Inbox.FilesAnew env) (.start db) ops := by
  refine Trace.guarded_iff (fun s => s.signals.All fun _ => Signal.Settled) ?_ ?_ ?_
  · intro op _ s settled anew
    exact Inbox.step_settled settled anew
  · intro op _ s settled
    refine ⟨Inbox.filesAnew_of_backed settled, fun anew => ?_⟩
    exact (Inbox.step_settled settled anew).mono fun _ _ here => here.2
  · intro r member
    simp [Inbox.start, Table.empty] at member

/-- A person links a note to an application, then to another one, and then back. -/
def relinkOps : List InboxOp :=
  let link (a : ApplicationId) : InboxOp :=
    .on (.ref .manual "note".ascii) (.link a "user") (.indexed [0, 1])
  [.ingest (.manual "note" .interviewInvitation) none (.indexed [0, 1]), link 0, link 1, link 0]

/-- The event of the first link is found retracted: the signal is APPLIED without one. -/
theorem relinked_unbacked :
    let s := Inbox.run .utc (.start (.submitted ["Acme", "Umbrella"])) relinkOps
    let note := s.signals.get (.ref .manual "note".ascii)
    note.map Signal.status = some .applied ∧ note.bind Signal.applicationId = some 0 ∧
      note.map (·.events.rows.any (·.2.active)) = some false := by
  decide +kernel

end RangeApply
