import RangeApply.Queue
import RangeApply.Versions

/-! Which versions of a package are alive over a run of preparations and reviews. Only the newest
version of an opportunity may be; what keeps it so is that a version is built upon the newest that
is stored, and that nothing revives one that was superseded or invalidated. -/
namespace RangeApply

structure PreparationState where
  tables : PreparationTables
  nextId : PreparationId

/-- What may happen to the packages of a tenant. Between two calls of the service the opportunities,
the Career Brain and the policy may have changed in any way. -/
inductive VersionOp
  | world (targets : OpportunityId → Option Target)
  | prepare (ctx : PreparationContext) (now : Time) (co : OpportunityId) (options : PrepareOptions)
  | prepareMany (ctx : PreparationContext) (now : Time) (options : PrepareOptions) (every : Nat)
      (items : List BatchItem)
  | answerQuestion (now : Time) (id : PreparationId) (position : Nat) (text : Text)
  | approve (now : Time) (id : PreparationId)
  | reject (id : PreparationId)
  | invalidate (id : PreparationId)

namespace PreparationState

/-- A call that raises leaves nothing behind. -/
def after (s : PreparationState) (result : Res PreparationTables) : PreparationState :=
  { s with tables := match result with
    | .ok tables => tables
    | .error _ => s.tables }

def apply (env : ComposerEnv) (s : PreparationState) : VersionOp → PreparationState
  | .world targets => { s with tables := { s.tables with targets } }
  | .prepare ctx now co options =>
    ⟨s.tables.afterPrepare (s.tables.prepare env ctx now s.nextId co options), s.nextId + 1⟩
  | .prepareMany ctx now options every items =>
    ⟨(prepareMany env ctx now options every s.tables s.nextId items).1,
      (prepareAll env ctx now options every s.tables s.nextId items).nextId⟩
  | .answerQuestion now id position text => s.after (s.tables.answerQuestion now id position text)
  | .approve now id => s.after (s.tables.approve now id)
  | .reject id => s.after (s.tables.reject id)
  | .invalidate id => s.after (s.tables.invalidate id)

def run (env : ComposerEnv) (s : PreparationState) (ops : List VersionOp) : PreparationState :=
  ops.foldl (apply env) s

def start (targets : OpportunityId → Option Target) : PreparationState := ⟨⟨[], targets⟩, 0⟩

end PreparationState

/-! ### What holds of the versions -/

/-- An answer that a READY package may carry. -/
def PreparationAnswer.Settled (a : PreparationAnswer) : Prop :=
  a.required = true → a.status = .answered

/-- Ids are given once, a live version is the newest of its opportunity, and a READY one leaves no
required question unanswered. -/
structure Sound (nextId : PreparationId) (db : PreparationTables) : Prop where
  given : ∀ r ∈ db.rows, r.id < nextId
  distinct : (db.rows.map (·.id)).Nodup
  newest : ∀ r ∈ db.rows, r.status.live = true → ∀ q ∈ db.rows, q.co = r.co → q.id ≠ r.id →
    q.version < r.version
  settled : ∀ r ∈ db.rows, r.status = .ready → ∀ a ∈ r.answers, a.Settled

/-- Every row is still there, and one that was dead is dead. -/
def Follows (a b : PreparationTables) : Prop :=
  ∀ r ∈ a.rows, ∃ q ∈ b.rows, q.id = r.id ∧ (r.status.live = false → q.status.live = false)

theorem Follows.refl (a : PreparationTables) : Follows a a := fun r member => ⟨r, member, rfl, id⟩

theorem Follows.trans {a b c : PreparationTables} (ab : Follows a b) (bc : Follows b c) :
    Follows a c := by
  intro r member
  obtain ⟨q, inside, same, dead⟩ := ab r member
  obtain ⟨p, later, same', dead'⟩ := bc q inside
  exact ⟨p, later, same'.trans same, fun gone => dead' (dead gone)⟩

namespace Sound
variable {nextId : PreparationId} {db : PreparationTables}

theorem oneLive (sound : Sound nextId db) {r q : PreparationRow} (hr : r ∈ db.rows)
    (hq : q ∈ db.rows) (same : q.co = r.co) (liveR : r.status.live = true)
    (liveQ : q.status.live = true) : q.id = r.id := by
  by_contra differs
  have below := sound.newest r hr liveR q hq same differs
  have above := sound.newest q hq liveQ r hr same.symm (Ne.symm differs)
  omega

theorem unique (sound : Sound nextId db) {r q : PreparationRow} (hr : r ∈ db.rows)
    (hq : q ∈ db.rows) (same : q.id = r.id) : q = r :=
  List.inj_on_of_nodup_map sound.distinct hq hr same

theorem row? (sound : Sound nextId db) {r : PreparationRow} (member : r ∈ db.rows) :
    db.row? r.id = some r := by
  cases found : db.row? r.id with
  | none =>
    have absent := List.find?_eq_none.mp found r member
    simp at absent
  | some q =>
    have same : q.id = r.id := by simpa using List.find?_some found
    rw [sound.unique member (List.mem_of_find?_eq_some found) same]

end Sound

/-! ### Rows written in place -/

/-- What a write in place leaves of a row. -/
structure KeepsVersion (r q : PreparationRow) : Prop where
  id : q.id = r.id
  co : q.co = r.co
  version : q.version = r.version

theorem KeepsVersion.refl (r : PreparationRow) : KeepsVersion r r := ⟨rfl, rfl, rfl⟩

/-- A write that revives nothing and makes nothing READY that leaves a required question. -/
structure Harmless (r q : PreparationRow) : Prop extends KeepsVersion r q where
  dead : r.status.live = false → q.status.live = false
  settled : q.status = .ready → ∀ a ∈ q.answers, a.Settled

namespace PreparationTables
variable {db : PreparationTables} {id : PreparationId} {f : PreparationRow → PreparationRow}

theorem mem_updateRow {q : PreparationRow} (member : q ∈ (db.updateRow id f).rows) :
    ∃ r ∈ db.rows, (r.id = id ∧ q = f r) ∨ (r.id ≠ id ∧ q = r) := by
  obtain ⟨r, inside, rfl⟩ := List.mem_map.mp member
  refine ⟨r, inside, ?_⟩
  split
  · exact .inl ⟨‹_›, rfl⟩
  · exact .inr ⟨‹_›, rfl⟩

theorem rows_moveTarget {now : Time} {co : OpportunityId} {status : PreparationStatus}
    {db' : PreparationTables} (moved : db.moveTarget now co status = .ok db') :
    db'.rows = db.rows := by
  unfold moveTarget at moved
  split at moved
  · cases moved
    rfl
  · obtain ⟨_, -, stored⟩ := bind_ok.mp moved
    cases stored
    rfl

end PreparationTables

section Updated
variable {nextId : PreparationId} {db : PreparationTables} {id : PreparationId}
  {f : PreparationRow → PreparationRow}

/-- A row after the write, with what it was. -/
theorem harmless_updateRow (sound : Sound nextId db)
    (harmless : ∀ r ∈ db.rows, r.id = id → Harmless r (f r)) {q : PreparationRow}
    (member : q ∈ (db.updateRow id f).rows) : ∃ r ∈ db.rows, Harmless r q := by
  obtain ⟨r, inside, ⟨here, rfl⟩ | ⟨-, rfl⟩⟩ := PreparationTables.mem_updateRow member
  · exact ⟨r, inside, harmless r inside here⟩
  · exact ⟨q, inside, .refl q, fun dead => dead, sound.settled q inside⟩

theorem ids_updateRow (keeps : ∀ r ∈ db.rows, r.id = id → (f r).id = r.id) :
    (db.updateRow id f).rows.map (·.id) = db.rows.map (·.id) := by
  simp only [PreparationTables.updateRow, List.map_map]
  apply List.map_congr_left
  intro r member
  dsimp only [Function.comp]
  split
  · exact keeps r member ‹_›
  · rfl

theorem Sound.updateRow (sound : Sound nextId db)
    (harmless : ∀ r ∈ db.rows, r.id = id → Harmless r (f r)) :
    Sound nextId (db.updateRow id f) := by
  constructor
  · intro q member
    obtain ⟨r, inside, was⟩ := harmless_updateRow sound harmless member
    exact was.id ▸ sound.given r inside
  · rw [ids_updateRow fun r member here => (harmless r member here).id]
    exact sound.distinct
  · intro r' hr live q' hq same differs
    obtain ⟨r, insideR, wasR⟩ := harmless_updateRow sound harmless hr
    obtain ⟨q, insideQ, wasQ⟩ := harmless_updateRow sound harmless hq
    have alive : r.status.live = true := by
      by_contra dead
      rw [wasR.dead (by simpa using dead)] at live
      cases live
    rw [wasR.co, wasQ.co] at same
    rw [wasR.id, wasQ.id] at differs
    rw [wasR.version, wasQ.version]
    exact sound.newest r insideR alive q insideQ same differs
  · intro q member ready
    obtain ⟨r, -, was⟩ := harmless_updateRow sound harmless member
    exact was.settled ready

theorem Follows.updateRow (harmless : ∀ r ∈ db.rows, r.id = id → Harmless r (f r)) :
    Follows db (db.updateRow id f) := by
  intro r member
  refine ⟨if r.id = id then f r else r, List.mem_map_of_mem member, ?_⟩
  split
  · exact ⟨(harmless r member ‹_›).id, (harmless r member ‹_›).dead⟩
  · exact ⟨rfl, fun dead => dead⟩

end Updated

theorem Sound.of_rows {nextId : PreparationId} {db db' : PreparationTables}
    (same : db'.rows = db.rows) (sound : Sound nextId db) : Sound nextId db' := by
  obtain ⟨given, distinct, newest, settled⟩ := sound
  rw [← same] at given distinct newest settled
  exact ⟨given, distinct, newest, settled⟩

theorem Follows.of_rows {a db db' : PreparationTables} (same : db'.rows = db.rows)
    (follows : Follows a db) : Follows a db' := by
  intro r member
  obtain ⟨q, inside, rest⟩ := follows r member
  exact ⟨q, same ▸ inside, rest⟩

theorem Sound.later {nextId later : PreparationId} {db : PreparationTables}
    (sound : Sound nextId db) (le : nextId ≤ later) : Sound later db :=
  ⟨fun r member => lt_of_lt_of_le (sound.given r member) le, sound.distinct, sound.newest,
    sound.settled⟩

/-! ### The next version -/

/-- The row that the next version is built upon: the newest that is stored, if there is any. -/
def Newest (db : PreparationTables) (co : OpportunityId) : Option PreparationRow → Prop
  | none => ∀ r ∈ db.rows, r.co ≠ co
  | some p => p ∈ db.rows ∧ p.co = co ∧ ∀ r ∈ db.rows, r.co = co → r.version ≤ p.version

theorem latest_newest (db : PreparationTables) (co : OpportunityId) :
    Newest db co (db.latest co) := by
  have member {r : PreparationRow} : r ∈ db.versionsOf co ↔ r ∈ db.rows ∧ r.co = co := by
    simp [PreparationTables.versionsOf, List.mem_insertionSort]
  unfold PreparationTables.latest
  cases last : (db.versionsOf co).getLast? with
  | none =>
    intro r inside same
    have stored := member.mpr ⟨inside, same⟩
    rw [List.getLast?_eq_none_iff.mp last] at stored
    cases stored
  | some p =>
    obtain ⟨before, split⟩ := List.getLast?_eq_some_iff.mp last
    have here := member.mp (split ▸ List.mem_concat_self)
    refine ⟨here.1, here.2, fun r inside same => ?_⟩
    have sorted := List.pairwise_insertionSort (fun r s : PreparationRow => r.version ≤ s.version)
      (db.rows.filter (·.co = co))
    change (db.versionsOf co).Pairwise _ at sorted
    rw [split, List.pairwise_append] at sorted
    have stored := member.mpr ⟨inside, same⟩
    rw [split, List.mem_append, List.mem_singleton] at stored
    rcases stored with earlier | rfl
    · exact sorted.2.2 r earlier p (List.mem_singleton_self p)
    · exact le_rfl

theorem supersede_harmless {r : PreparationRow}
    (settled : r.status = .ready → ∀ a ∈ r.answers, a.Settled) : Harmless r r.supersede := by
  unfold PreparationRow.supersede
  split
  · exact ⟨⟨rfl, rfl, rfl⟩, fun _ => rfl, fun ready => by cases ready⟩
  · exact ⟨.refl r, fun dead => dead, settled⟩

@[simp] theorem supersede_live (r : PreparationRow) : r.supersede.status.live = false := by
  unfold PreparationRow.supersede
  split
  · rfl
  · exact Bool.eq_false_iff.mpr ‹_›

section Persist
variable {nextId : PreparationId} {db db' : PreparationTables} {previous : Option PreparationRow}
  {row : PreparationRow}

/-- The tables once the previous version is superseded. -/
def superseded (db : PreparationTables) : Option PreparationRow → PreparationTables
  | none => db
  | some p => db.updateRow p.id PreparationRow.supersede

theorem superseded_sound (sound : Sound nextId db) (previous : Option PreparationRow) :
    Sound nextId (superseded db previous) := by
  cases previous with
  | none => exact sound
  | some p => exact sound.updateRow fun r member _ => supersede_harmless (sound.settled r member)

theorem superseded_follows (sound : Sound nextId db) (previous : Option PreparationRow) :
    Follows db (superseded db previous) := by
  cases previous with
  | none => exact .refl db
  | some p => exact .updateRow fun r member _ => supersede_harmless (sound.settled r member)

/-- With the newest version superseded, none of the opportunity is left alive. -/
theorem superseded_dead (sound : Sound nextId db) {co : OpportunityId}
    (newest : Newest db co previous) {q : PreparationRow}
    (member : q ∈ (superseded db previous).rows) (same : q.co = co) : q.status.live = false := by
  cases previous with
  | none => exact absurd same (newest q member)
  | some p =>
    obtain ⟨stored, here, below⟩ := newest
    obtain ⟨r, inside, ⟨-, rfl⟩ | ⟨differs, rfl⟩⟩ := PreparationTables.mem_updateRow member
    · exact supersede_live r
    · by_contra alive
      have above := sound.newest q inside (by simpa using alive) p stored (here.trans same.symm)
        (Ne.symm differs)
      have := below q inside same
      omega

theorem superseded_below (sound : Sound nextId db) {co : OpportunityId}
    (newest : Newest db co previous) {q : PreparationRow}
    (member : q ∈ (superseded db previous).rows) (same : q.co = co) :
    q.version < (previous.map (·.version + 1)).getD 1 := by
  cases previous with
  | none => exact absurd same (newest q member)
  | some p =>
    obtain ⟨r, inside, was⟩ := harmless_updateRow sound
      (fun r member _ => supersede_harmless (sound.settled r member)) member
    have := newest.2.2 r inside (was.co ▸ same)
    simp only [Option.map_some, Option.getD_some, was.version]
    omega

theorem persist_rows {now : Time} (stored : persist now db previous row = .ok db') :
    db'.rows = (superseded db previous).rows ++ [row] := by
  unfold persist at stored
  rw [PreparationTables.rows_moveTarget stored]
  cases previous <;> rfl

/-- A version built upon the newest one is the only live one. -/
theorem persist_sound {now : Time} (sound : Sound nextId db) (newest : Newest db row.co previous)
    (fresh : row.id = nextId) (next : row.version = (previous.map (·.version + 1)).getD 1)
    (settled : row.status = .ready → ∀ a ∈ row.answers, a.Settled)
    (stored : persist now db previous row = .ok db') : Sound (nextId + 1) db' := by
  have before := superseded_sound sound previous
  have rows := persist_rows stored
  have member {q : PreparationRow} : q ∈ db'.rows ↔ q ∈ (superseded db previous).rows ∨ q = row := by
    rw [rows, List.mem_append, List.mem_singleton]
  constructor
  · intro q inside
    rcases member.mp inside with old | rfl
    · exact Nat.lt_succ_of_lt (before.given q old)
    · exact fresh ▸ Nat.lt_succ_self _
  · rw [rows, List.map_append, List.nodup_append]
    refine ⟨before.distinct, List.nodup_singleton _, ?_⟩
    rintro id old _ new rfl
    obtain ⟨q, inside, same⟩ := List.mem_map.mp old
    have late : id = row.id := List.mem_singleton.mp new
    have given := before.given q inside
    rw [show q.id = nextId from same.trans (late.trans fresh)] at given
    exact lt_irrefl _ given
  · intro r hr live q hq same differs
    rcases member.mp hr with oldR | rfl
    · rcases member.mp hq with oldQ | rfl
      · exact before.newest r oldR live q oldQ same differs
      · rw [superseded_dead sound newest oldR same.symm] at live
        cases live
    · rcases member.mp hq with oldQ | rfl
      · rw [next]
        exact superseded_below sound newest oldQ same
      · exact absurd rfl differs
  · intro q inside ready
    rcases member.mp inside with old | rfl
    · exact before.settled q old ready
    · exact settled ready

theorem persist_follows {now : Time} (sound : Sound nextId db)
    (stored : persist now db previous row = .ok db') : Follows db db' := by
  intro r member
  obtain ⟨q, inside, rest⟩ := superseded_follows sound previous r member
  exact ⟨q, persist_rows stored ▸ List.mem_append_left _ inside, rest⟩

end Persist

/-! ### One target -/

/-- A package that is READY when it is built has every required question answered. -/
theorem packageStatus_ready {validation : ValidationStatus} {lossy : Bool}
    {answers : List PreparationAnswer} (ready : packageStatus validation lossy answers = .ready) :
    ∀ a ∈ answers, a.Settled := by
  unfold packageStatus at ready
  split at ready
  · cases ready
  · split at ready
    · cases ready
    · rename_i asked
      split at ready
      · cases ready
      · rename_i reviewed
        intro a member required
        simp only [List.any_eq_true, not_exists, not_and, Bool.or_eq_true, not_or] at asked reviewed
        have unasked := asked a member
        have unreviewed := reviewed.2 a member
        cases status : a.status with
        | answered => rfl
        | needsUserInput => simp [PreparationAnswer.asksUser, status, required] at unasked
        | needsReview => simp [PreparationAnswer.asksReview, status] at unreviewed

section Target
variable {env : ComposerEnv} {ctx : PreparationContext} {now : Time} {nextId : PreparationId}
  {db : PreparationTables} {co : OpportunityId} {t : Target} {previous : Option PreparationRow}
  {options : PrepareOptions}

theorem build_settled (level : TailoringLevel) (questions : List Text)
    (ready : (build env ctx t level questions).status = .ready) :
    ∀ a ∈ (build env ctx t level questions).answers, a.Settled := by
  rw [build_status] at ready
  exact packageStatus_ready ready

theorem nextVersion_settled {id : PreparationId} {inputs : Inputs} {built : Build}
    (settled : built.status = .ready → ∀ a ∈ built.answers, a.Settled) :
    (nextVersion id co previous inputs built).status = .ready →
      ∀ a ∈ (nextVersion id co previous inputs built).answers, a.Settled :=
  settled

/-- What `prepareTarget` stores, when it stores anything. -/
theorem prepareTarget_created {id : PreparationId} {row : PreparationRow} {db' : PreparationTables}
    (made : prepareTarget env ctx now db id co t previous options = .ok (.created row db')) :
    persist now db previous row = .ok db' ∧ row.id = id ∧ row.co = co ∧
      row.version = (previous.map (·.version + 1)).getD 1 ∧
      (row.status = .ready → ∀ a ∈ row.answers, a.Settled) := by
  unfold prepareTarget at made
  dsimp only at made
  split at made
  · cases made
  · split at made
    · cases made
    · obtain ⟨stored, persisted, same⟩ := bind_ok.mp made
      cases same
      exact ⟨persisted, rfl, rfl, rfl, nextVersion_settled (build_settled _ _)⟩

theorem created_sound {row : PreparationRow} {db' : PreparationTables} (sound : Sound nextId db)
    (newest : Newest db co previous)
    (made : prepareTarget env ctx now db nextId co t previous options = .ok (.created row db')) :
    Sound (nextId + 1) db' ∧ Follows db db' := by
  obtain ⟨persisted, fresh, here, next, settled⟩ := prepareTarget_created made
  exact ⟨persist_sound sound (here ▸ newest) fresh next settled persisted,
    persist_follows sound persisted⟩

theorem prepare_sound (sound : Sound nextId db) :
    let db' := db.afterPrepare (db.prepare env ctx now nextId co options)
    Sound (nextId + 1) db' ∧ Follows db db' := by
  dsimp only
  have idle : Sound (nextId + 1) db ∧ Follows db db := ⟨sound.later (Nat.le_succ _), .refl db⟩
  cases made : db.prepare env ctx now nextId co options with
  | error e => exact idle
  | ok result =>
    cases result with
    | blocked message => exact idle
    | reused row => exact idle
    | created row db' =>
      unfold PreparationTables.prepare at made
      split at made
      · cases made
      · exact created_sound sound (latest_newest db co) made

end Target

/-! ### Many targets -/

/-- Every version that is stored is at most the one in memory. -/
def Remembers (latest : OpportunityId → Option PreparationRow) (db : PreparationTables) : Prop :=
  ∀ q ∈ db.rows, ∃ p, latest q.co = some p ∧ q.version ≤ p.version

/-- The row in memory is a version of its opportunity, and the stored row of its id is the same
version. -/
def InMemory (latest : OpportunityId → Option PreparationRow) (nextId : PreparationId)
    (db : PreparationTables) : Prop :=
  ∀ co p, latest co = some p → p.co = co ∧ p.id < nextId ∧
    ∀ q ∈ db.rows, q.id = p.id → KeepsVersion p q

/-- The tables of a pass that began with some tables, whether it commits or rolls back. -/
structure PassTables (begun : PreparationTables) (latest : OpportunityId → Option PreparationRow)
    (nextId : PreparationId) (db : PreparationTables) : Prop where
  sound : Sound nextId db
  follows : Follows begun db
  remembers : Remembers latest db
  inMemory : InMemory latest nextId db

structure PassSound (begun : PreparationTables) (s : PreparationPass) : Prop where
  stored : PassTables begun s.latest s.nextId s.tables.stored
  working : PassTables begun s.latest s.nextId s.tables.working

section Pass
variable {begun : PreparationTables} {s : PreparationPass}

theorem PassTables.begin {nextId : PreparationId} {db : PreparationTables}
    (sound : Sound nextId db) : PassTables db db.latest nextId db := by
  constructor
  · exact sound
  · exact .refl db
  · intro q member
    have newest := latest_newest db q.co
    cases found : db.latest q.co with
    | none =>
      rw [found] at newest
      exact absurd rfl (newest q member)
    | some p =>
      rw [found] at newest
      exact ⟨p, rfl, newest.2.2 q member rfl⟩
  · intro co p found
    have newest := latest_newest db co
    rw [found] at newest
    refine ⟨newest.2.1, sound.given p newest.1, fun q member same => ?_⟩
    rw [sound.unique newest.1 member same]
    exact .refl p

/-- The version in memory is the newest stored one, unless it was rolled back. -/
theorem PassSound.newest (sound : PassSound begun s) {co : OpportunityId}
    (kept : ∀ p, s.latest co = some p → (s.tables.working.row? p.id).isSome = true) :
    Newest s.tables.working co (s.previous co) := by
  unfold PreparationPass.previous
  cases found : s.latest co with
  | none =>
    intro q member same
    obtain ⟨p, inMemory, -⟩ := sound.working.remembers q member
    rw [same, found] at inMemory
    cases inMemory
  | some p =>
    obtain ⟨q, stored⟩ := Option.isSome_iff_exists.mp (kept p found)
    have member := List.mem_of_find?_eq_some stored
    have same : q.id = p.id := by simpa using List.find?_some stored
    obtain ⟨here, -, version⟩ := sound.working.inMemory co p found
    have was := version q member same
    simp only [Option.map_some, stored, Option.getD_some]
    refine ⟨member, was.co.trans here, fun r inside sameCo => ?_⟩
    obtain ⟨p', inMemory, below⟩ := sound.working.remembers r inside
    rw [sameCo, found] at inMemory
    cases inMemory
    exact was.version ▸ below

theorem PassSound.previous_version (sound : PassSound begun s) {co : OpportunityId}
    {p : PreparationRow} (found : s.latest co = some p) :
    ∃ q, s.previous co = some q ∧ q.version = p.version := by
  unfold PreparationPass.previous
  cases stored : s.tables.working.row? p.id with
  | none => exact ⟨p, by simp [found, stored], rfl⟩
  | some q =>
    have member := List.mem_of_find?_eq_some stored
    have same : q.id = p.id := by simpa using List.find?_some stored
    have was := (sound.working.inMemory co p found).2.2 q member same
    exact ⟨q, by simp [found, stored], was.version⟩

/-- A new version of the next id is put in memory. -/
theorem PassTables.advance {latest : OpportunityId → Option PreparationRow}
    {nextId : PreparationId} {e d : PreparationTables} {row : PreparationRow}
    (old : PassTables begun latest nextId e) (fresh : row.id = nextId)
    (above : ∀ p, latest row.co = some p → p.version ≤ row.version)
    (rows : ∀ q ∈ d.rows, q = row ∨ ∃ r ∈ e.rows, KeepsVersion r q)
    (sound : Sound (nextId + 1) d) (follows : Follows begun d) :
    PassTables begun (fun i => if i = row.co then some row else latest i) (nextId + 1) d := by
  refine ⟨sound, follows, ?_, ?_⟩
  · intro q member
    by_cases here : q.co = row.co
    · refine ⟨row, if_pos here, ?_⟩
      rcases rows q member with rfl | ⟨r, inside, was⟩
      · exact le_rfl
      · obtain ⟨p, found, below⟩ := old.remembers r inside
        rw [← was.co, here] at found
        exact was.version ▸ below.trans (above p found)
    · rcases rows q member with rfl | ⟨r, inside, was⟩
      · exact absurd rfl here
      · obtain ⟨p, found, below⟩ := old.remembers r inside
        exact ⟨p, (if_neg here).trans (was.co ▸ found), was.version ▸ below⟩
  · intro co p found
    dsimp only at found
    split at found
    · cases found
      refine ⟨Eq.symm ‹_›, fresh ▸ Nat.lt_succ_self _, fun q member same => ?_⟩
      rcases rows q member with rfl | ⟨r, inside, was⟩
      · exact .refl _
      · have given := old.sound.given r inside
        rw [← was.id, same, fresh] at given
        exact absurd given (lt_irrefl _)
    · obtain ⟨here, given, version⟩ := old.inMemory co p found
      refine ⟨here, Nat.lt_succ_of_lt given, fun q member same => ?_⟩
      rcases rows q member with rfl | ⟨r, inside, was⟩
      · rw [← same, fresh] at given
        exact absurd given (lt_irrefl _)
      · have kept := version r inside (was.id ▸ same)
        exact ⟨same, was.co.trans kept.co, was.version.trans kept.version⟩

theorem persisted_rows {now : Time} {nextId : PreparationId} {db db' : PreparationTables}
    {previous : Option PreparationRow} {row : PreparationRow} (sound : Sound nextId db)
    (stored : persist now db previous row = .ok db') :
    ∀ q ∈ db'.rows, q = row ∨ ∃ r ∈ db.rows, KeepsVersion r q := by
  intro q member
  rw [persist_rows stored, List.mem_append, List.mem_singleton] at member
  rcases member with old | new
  · cases previous with
    | none => exact .inr ⟨q, old, .refl q⟩
    | some p =>
      obtain ⟨r, inside, was⟩ := harmless_updateRow sound
        (fun r member _ => supersede_harmless (sound.settled r member)) old
      exact .inr ⟨r, inside, was.toKeepsVersion⟩
  · exact .inl new

variable {env : ComposerEnv} {ctx : PreparationContext} {now : Time} {options : PrepareOptions}
  {every : Nat}

theorem PassSound.rolledBack (sound : PassSound begun s) (report : PrepareManyReport) :
    PassSound begun { s with tables := s.tables.rollback, report := report } :=
  ⟨sound.stored, sound.stored⟩

theorem PassSound.reported (sound : PassSound begun s) (report : PrepareManyReport) :
    PassSound begun { s with report := report } :=
  ⟨sound.stored, sound.working⟩

theorem PassSound.created (sound : PassSound begun s) {co : OpportunityId} {t : Target}
    {row : PreparationRow} {db : PreparationTables}
    (kept : ∀ p, s.latest co = some p → (s.tables.working.row? p.id).isSome = true)
    (made : prepareTarget env ctx now s.tables.working s.nextId co t (s.previous co) options =
      .ok (.created row db)) : PassSound begun (s.settle every co (.created row db)) := by
  obtain ⟨persisted, fresh, here, next, -⟩ := prepareTarget_created made
  obtain ⟨soundDb, followsDb⟩ := created_sound sound.working.sound (sound.newest kept) made
  have above : ∀ p, s.latest row.co = some p → p.version ≤ row.version := by
    intro p found
    obtain ⟨q, previous, same⟩ := sound.previous_version (here ▸ found)
    rw [next, previous]
    simp only [Option.map_some, Option.getD_some]
    omega
  subst here
  have new := sound.working.advance fresh above
    (persisted_rows sound.working.sound persisted) soundDb (sound.working.follows.trans followsDb)
  have old := sound.stored.advance fresh above (fun q member => .inr ⟨q, member, .refl q⟩)
    (sound.stored.sound.later (Nat.le_succ _)) sound.stored.follows
  refine ⟨?_, ?_⟩
  · change PassTables begun _ _ (s.tables.save every db).stored
    unfold Batch.save
    split
    · exact new
    · exact old
  · change PassTables begun _ _ (s.tables.save every db).working
    rw [Batch.save_working]
    exact new

/-- No opportunity has its turn when its version in memory was rolled back. -/
def Unreverted (env : ComposerEnv) (ctx : PreparationContext) (now : Time) (options : PrepareOptions)
    (every : Nat) : PreparationPass → List BatchItem → Prop
  | _, [] => True
  | s, item :: items =>
    (∀ p, s.latest item.co = some p → (s.tables.working.row? p.id).isSome = true) ∧
      Unreverted env ctx now options every (prepareItem env ctx now options every s item) items

theorem turn_created {item : BatchItem} {row : PreparationRow} {db : PreparationTables}
    (turn : s.turn env ctx now options item = some (.ok (.created row db))) :
    ∃ t, prepareTarget env ctx now s.tables.working s.nextId item.co t (s.previous item.co)
      options = .ok (.created row db) := by
  unfold PreparationPass.turn at turn
  obtain ⟨t, -, handled⟩ := Option.map_eq_some_iff.mp turn
  refine ⟨t, ?_⟩
  split at handled
  · cases handled
  · cases made : prepareTarget env ctx now s.tables.working s.nextId item.co t (s.previous item.co)
        options with
    | error e => simp [made, Except.mapError] at handled
    | ok result => simpa [made, Except.mapError] using handled

theorem prepareItem_sound (sound : PassSound begun s) (item : BatchItem)
    (kept : ∀ p, s.latest item.co = some p → (s.tables.working.row? p.id).isSome = true) :
    PassSound begun (prepareItem env ctx now options every s item) := by
  unfold prepareItem
  split
  · exact sound
  · exact sound.rolledBack _
  · rename_i result turn
    cases result with
    | blocked message => exact sound.reported _
    | reused row => exact sound.reported _
    | created row db =>
      obtain ⟨t, made⟩ := turn_created turn
      exact sound.created kept made

theorem prepareAll_sound (sound : PassSound begun s) (items : List BatchItem)
    (kept : Unreverted env ctx now options every s items) :
    PassSound begun (items.foldl (prepareItem env ctx now options every) s) := by
  induction items generalizing s with
  | nil => exact sound
  | cons item items ih => exact ih (prepareItem_sound sound item kept.1) kept.2

end Pass

/-! ### Reviews -/

section Review
variable {now : Time} {nextId : PreparationId} {db db' : PreparationTables} {id : PreparationId}

theorem require_ok {row : PreparationRow} (found : db.require id = .ok row) :
    row ∈ db.rows ∧ row.id = id ∧ db.row? id = some row := by
  unfold PreparationTables.require at found
  split at found
  · cases found
  · rename_i r stored
    cases found
    exact ⟨List.mem_of_find?_eq_some stored, by simpa using List.find?_some stored, stored⟩

/-- A write of one row that does no harm, and perhaps a move of its opportunity. -/
theorem written_sound (sound : Sound nextId db) {f : PreparationRow → PreparationRow}
    (harmless : ∀ r ∈ db.rows, r.id = id → Harmless r (f r))
    (rows : db'.rows = (db.updateRow id f).rows) : Sound nextId db' ∧ Follows db db' :=
  ⟨(sound.updateRow harmless).of_rows rows, (Follows.updateRow harmless).of_rows rows⟩

theorem approve_sound (sound : Sound nextId db)
    (careful : ∀ row, db.row? id = some row → row.status = .needsReview →
      ∀ a ∈ row.answers, a.required = true → a.asksReview = true →
        (a.answer.bind Text.orNone).isSome = true)
    (done : db.approve now id = .ok db') : Sound nextId db' ∧ Follows db db' := by
  unfold PreparationTables.approve at done
  obtain ⟨row, found, done⟩ := bind_ok.mp done
  obtain ⟨member, here, stored⟩ := require_ok found
  split at done
  · cases done
  · rename_i open_
    split at done
    · cases done
    · rename_i unasked
      apply written_sound sound _ (PreparationTables.rows_moveTarget done)
      intro r inside same
      have same : r = row := sound.unique member inside (same.trans here.symm)
      subst same
      rw [not_and_or, not_not, not_not] at open_
      constructor
      · exact ⟨rfl, rfl, rfl⟩
      · intro dead
        rcases open_ with status | status <;> rw [status] at dead <;> cases dead
      · intro _ a answered required
        obtain ⟨b, given, rfl⟩ := List.mem_map.mp answered
        have unasked : b.asksUser = false := by
          simpa using fun asked => unasked (List.any_eq_true.mpr ⟨b, given, asked⟩)
        split
        · rfl
        · rename_i unanswered
          split at required
          · exact absurd ‹_› unanswered
          · rcases open_ with review | ready
            · cases status : b.status with
              | answered => rfl
              | needsUserInput => simp [PreparationAnswer.asksUser, status, required] at unasked
              | needsReview =>
                have asks : b.asksReview = true := by simp [PreparationAnswer.asksReview, status]
                exact absurd ⟨asks, careful r stored review b given required asks⟩ unanswered
            · exact sound.settled r member ready b given required

theorem reject_sound (sound : Sound nextId db)
    (careful : ∀ row, db.row? id = some row → row.status.live = true)
    (done : db.reject id = .ok db') : Sound nextId db' ∧ Follows db db' := by
  unfold PreparationTables.reject at done
  obtain ⟨row, found, same⟩ := bind_ok.mp done
  obtain ⟨member, here, stored⟩ := require_ok found
  cases same
  apply written_sound sound _ rfl
  intro r inside same
  have same : r = row := sound.unique member inside (same.trans here.symm)
  subst same
  exact ⟨⟨rfl, rfl, rfl⟩, fun dead => absurd (careful r stored) (by simp [dead]),
    fun ready => by cases ready⟩

theorem invalidate_sound (sound : Sound nextId db) (done : db.invalidate id = .ok db') :
    Sound nextId db' ∧ Follows db db' := by
  unfold PreparationTables.invalidate at done
  obtain ⟨row, -, same⟩ := bind_ok.mp done
  cases same
  apply written_sound sound _ rfl
  intro r _ _
  exact ⟨⟨rfl, rfl, rfl⟩, fun _ => rfl, fun ready => by cases ready⟩

/-- READY is computed only where nothing required is left. -/
theorem answeredStatus_ready {row : PreparationRow} (ready : row.answeredStatus = .ready) :
    ∀ a ∈ row.answers, a.Settled := by
  unfold PreparationRow.answeredStatus at ready
  split at ready
  · cases ready
  · split at ready
    · cases ready
    · rename_i asked reviewed
      intro a member required
      simp only [List.any_eq_true, not_exists, not_and, not_or] at asked reviewed
      have unasked := asked a member
      have unreviewed := reviewed.1 a member
      cases status : a.status with
      | answered => rfl
      | needsUserInput => simp [PreparationAnswer.asksUser, status, required] at unasked
      | needsReview => simp [PreparationAnswer.asksReview, status] at unreviewed

theorem answered_settled {row : PreparationRow} (settled : ∀ a ∈ row.answers, a.Settled)
    (position : Nat) (text : Text) : ∀ a ∈ (row.answered position text).answers, a.Settled := by
  intro a member
  obtain ⟨b, given, rfl⟩ := List.mem_map.mp member
  split
  · exact fun _ => rfl
  · exact settled b given

theorem answerQuestion_sound (sound : Sound nextId db) {position : Nat} {text : Text}
    (done : db.answerQuestion now id position text = .ok db') :
    Sound nextId db' ∧ Follows db db' := by
  unfold PreparationTables.answerQuestion at done
  obtain ⟨row, found, done⟩ := bind_ok.mp done
  obtain ⟨member, here, -⟩ := require_ok found
  split at done
  · cases done
  · split at done
    · cases done
    · dsimp only at done
      have kept : Harmless row (row.answered position (Text.strip text)) :=
        ⟨⟨rfl, rfl, rfl⟩, fun dead => dead, fun ready =>
          answered_settled (sound.settled row member ready) _ _⟩
      have written {q : PreparationRow} (harmless : Harmless row q)
          (rows : db'.rows = (db.updateRow id fun _ => q).rows) :
          Sound nextId db' ∧ Follows db db' := by
        apply written_sound sound _ rows
        intro r inside same
        rw [sound.unique member inside (same.trans here.symm)]
        exact harmless
      split at done
      · cases done
        exact written kept rfl
      · rename_i open_
        split at done
        · cases done
          exact written kept rfl
        · apply written _ (PreparationTables.rows_moveTarget done)
          refine ⟨⟨rfl, rfl, rfl⟩, fun dead => ?_, answeredStatus_ready⟩
          change row.status.live = false at dead
          rw [not_and_or, not_not, not_not] at open_
          change row.status = _ ∨ row.status = _ at open_
          rcases open_ with status | status <;> rw [status] at dead <;> cases dead

end Review

/-! ### Runs -/

/-- What each step of a run is asked: no version that is superseded or invalidated is rejected, a
version is approved once its required questions have answers, and no call of `prepare_many` goes on
with a version that it has rolled back. -/
def Careful (env : ComposerEnv) (s : PreparationState) : VersionOp → Prop
  | .prepareMany ctx now options every items =>
    Unreverted env ctx now options every (startPass s.tables s.nextId items) items
  | .approve _ id => ∀ row, s.tables.row? id = some row → row.status = .needsReview →
    ∀ a ∈ row.answers, a.required = true → a.asksReview = true →
      (a.answer.bind Text.orNone).isSome = true
  | .reject id => ∀ row, s.tables.row? id = some row → row.status.live = true
  | _ => True

def CarefulRun (env : ComposerEnv) : PreparationState → List VersionOp → Prop
  | _, [] => True
  | s, op :: ops => Careful env s op ∧ CarefulRun env (s.apply env op) ops

def PreparationState.Sound (s : PreparationState) : Prop := RangeApply.Sound s.nextId s.tables

section Run
variable {env : ComposerEnv} {s : PreparationState}

theorem after_sound (sound : s.Sound) {result : Res PreparationTables}
    (kept : ∀ db', result = .ok db' → RangeApply.Sound s.nextId db' ∧ Follows s.tables db') :
    (s.after result).Sound ∧ Follows s.tables (s.after result).tables := by
  cases result with
  | error e => exact ⟨sound, .refl _⟩
  | ok db' => exact kept db' rfl

theorem apply_sound (sound : s.Sound) (op : VersionOp) (careful : Careful env s op) :
    (s.apply env op).Sound ∧ Follows s.tables (s.apply env op).tables := by
  cases op with
  | world targets =>
    have same : { s.tables with targets }.rows = s.tables.rows := rfl
    exact ⟨RangeApply.Sound.of_rows same sound, Follows.of_rows same (.refl s.tables)⟩
  | prepare ctx now co options => exact prepare_sound sound
  | prepareMany ctx now options every items =>
    have begun := PassTables.begin sound
    have done := (prepareAll_sound (s := startPass s.tables s.nextId items) ⟨begun, begun⟩ items
      careful).working
    exact ⟨done.sound, done.follows⟩
  | answerQuestion now id position text =>
    exact after_sound sound fun _ done => answerQuestion_sound sound done
  | approve now id => exact after_sound sound fun _ done => approve_sound sound careful done
  | reject id => exact after_sound sound fun _ done => reject_sound sound careful done
  | invalidate id => exact after_sound sound fun _ done => invalidate_sound sound done

theorem run_sound (sound : s.Sound) (ops : List VersionOp) (careful : CarefulRun env s ops) :
    (s.run env ops).Sound ∧ Follows s.tables (s.run env ops).tables := by
  induction ops generalizing s with
  | nil => exact ⟨sound, .refl _⟩
  | cons op ops ih =>
    obtain ⟨kept, follows⟩ := apply_sound sound op careful.1
    obtain ⟨last, later⟩ := ih kept careful.2
    exact ⟨last, follows.trans later⟩

theorem carefulRun_append {before after : List VersionOp}
    (careful : CarefulRun env s (before ++ after)) :
    CarefulRun env s before ∧ CarefulRun env (s.run env before) after := by
  induction before generalizing s with
  | nil => exact ⟨trivial, careful⟩
  | cons op before ih =>
    obtain ⟨first, rest⟩ := careful
    obtain ⟨head, tail⟩ := ih rest
    exact ⟨⟨first, head⟩, tail⟩

theorem start_sound (targets : OpportunityId → Option Target) :
    (PreparationState.start targets).Sound := by
  constructor <;> simp [PreparationState.start]

end Run

/-- Over every careful run: one live version of each opportunity at most, no version READY again
once it was superseded, and nothing required unanswered in a READY one. -/
theorem live_versions (env : ComposerEnv) (targets : OpportunityId → Option Target)
    (before after : List VersionOp)
    (careful : CarefulRun env (.start targets) (before ++ after)) :
    let earlier := (PreparationState.start targets).run env before
    let later := (PreparationState.start targets).run env (before ++ after)
    (∀ r ∈ later.tables.rows, ∀ q ∈ later.tables.rows, q.co = r.co → r.status.live = true →
        q.status.live = true → q = r) ∧
      (∀ r ∈ earlier.tables.rows, r.status = .superseded →
        ∀ q ∈ later.tables.rows, q.id = r.id → q.status ≠ .ready) ∧
      ∀ r ∈ later.tables.rows, r.status = .ready → ∀ a ∈ r.answers, a.Settled := by
  obtain ⟨first, second⟩ := carefulRun_append careful
  obtain ⟨sound, -⟩ := run_sound (start_sound targets) before first
  obtain ⟨final, follows⟩ := run_sound sound after second
  have last : (PreparationState.start targets).run env (before ++ after) =
      ((PreparationState.start targets).run env before).run env after := List.foldl_append ..
  simp only [last]
  refine ⟨fun r hr q hq same liveR liveQ => ?_, fun r hr gone q hq same ready => ?_, final.settled⟩
  · exact final.unique hr hq (final.oneLive hr hq same liveR liveQ)
  · obtain ⟨p, inside, here, dead⟩ := follows r hr
    rw [final.unique inside hq (same.trans here.symm)] at ready
    have := dead (by rw [gone]; rfl)
    rw [ready] at this
    cases this

/-! A version that came back. -/

/-- A Career Brain of which nothing is known yet. -/
def bareSnapshot : BrainSnapshot where
  nodes := []
  relationships := []
  profile := none
  keys_nodup := List.nodup_nil
  removedKeys := []
  attributesText := fun _ => []
  bank := []
  candidateName := []
  metricValue := fun _ => []
  variants := []
  nodeVersion := fun _ => 0
  profileVersion := 0
  answerVersion := fun _ => 0

def bareEnv : ComposerEnv := ⟨.ascii, fun _ _ _ _ => 0⟩

def bareContext : PreparationContext := ⟨bareSnapshot, ⟨.initial, []⟩, "stub"⟩

def bareTarget : Target where
  co := .strong .queued
  opportunityTitle := "Engineer".ascii
  opportunityCompany := "Acme".ascii
  job := none
  matchId := none
  assessments := []

def oneTarget : OpportunityId → Option Target := fun i => if i = 0 then some bareTarget else none

/-- Prepare again, without a question. -/
def forced : PrepareOptions := ⟨some .l0, some [], true⟩

def twoVersions : List VersionOp := [.prepare bareContext 0 0 forced, .prepare bareContext 0 0 forced]

theorem second_approved :
    let earlier := (PreparationState.start oneTarget).run bareEnv twoVersions
    let later := (PreparationState.start oneTarget).run bareEnv (twoVersions ++ [.approve 0 1])
    (∀ r ∈ later.tables.rows, ∀ q ∈ later.tables.rows, q.co = r.co → r.status.live = true →
        q.status.live = true → q = r) ∧
      (∀ r ∈ earlier.tables.rows, r.status = .superseded →
        ∀ q ∈ later.tables.rows, q.id = r.id → q.status ≠ .ready) ∧
      ∀ r ∈ later.tables.rows, r.status = .ready → ∀ a ∈ r.answers, a.Settled := by
  apply live_versions bareEnv oneTarget twoVersions [.approve 0 1]
  refine ⟨trivial, trivial, ?_, trivial⟩
  intro row found _ a member
  have silent : ((((PreparationState.start oneTarget).run bareEnv twoVersions).tables.row? 1).map
      fun r => r.answers.length) = some 0 := by decide +kernel
  change ((PreparationState.start oneTarget).run bareEnv twoVersions).tables.row? 1 = _ at found
  rw [found, Option.map_some, Option.some.injEq, List.length_eq_zero_iff] at silent
  rw [silent] at member
  cases member

/-- The superseded first version is rejected and approved: it is READY beside the second. -/
theorem first_revived :
    let earlier := (PreparationState.start oneTarget).run bareEnv twoVersions
    let later := (PreparationState.start oneTarget).run bareEnv
      (twoVersions ++ [.reject 0, .approve 0 0])
    (earlier.tables.rows.map fun r => (r.id, r.co, r.status)) =
        [(0, 0, .superseded), (1, 0, .needsReview)] ∧
      (later.tables.rows.map fun r => (r.id, r.co, r.status)) =
        [(0, 0, .ready), (1, 0, .needsReview)] := by
  decide +kernel

end RangeApply
