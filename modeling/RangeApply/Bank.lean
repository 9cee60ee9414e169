import RangeApply.Nodes
import RangeApply.Trace

/-! The answer bank as it is written: entries are created, edited, approved and deleted, one row
to an entry. Beside it stands what a person has approved. -/
namespace RangeApply.Bank
open Evidence (Graph)

/-! ### The rows -/

/-- A row of `answer_bank_entries` with its version. -/
structure AnswerBankEntryRow extends AnswerBankEntry where
  version : Nat
  approvedAt : Option Time
  deriving DecidableEq

structure AnswerBankEntryCreate where
  category : String
  question : Text
  answer : Text
  evidenceKeys : List String
  status : AnswerStatus

/-- A field that is omitted and one that is null are treated alike. -/
structure AnswerBankEntryUpdate where
  category : Option String
  question : Option Text
  answer : Option Text
  evidenceKeys : Option (List String)
  status : Option AnswerStatus

/-! The bounds of the fields. -/

def validCategory (category : String) : Bool := 1 ≤ category.length && category.length ≤ 64

def validQuestion (question : Text) : Bool := 1 ≤ question.length && question.length ≤ 512

def AnswerBankEntryCreate.valid (d : AnswerBankEntryCreate) : Bool :=
  validCategory d.category && validQuestion d.question && d.answer ≠ []

def AnswerBankEntryUpdate.valid (d : AnswerBankEntryUpdate) : Bool :=
  d.category.all validCategory && d.question.all validQuestion && d.answer ≠ some []

/-! ### The writes -/

section Write
variable (u : Unicode) (evidence : Graph) (now : Time)

/-- `_check_answer_evidence`: all the keys are of active nodes. -/
def checkAnswerEvidence (keys : List String) : Bool :=
  keys.all fun key => (evidence.nodes.get key.toList).any fun node => !node.removed

/-- `create_answer` under a new id: nothing when the data is refused or the question is answered. -/
def createAnswer (rows : Table String AnswerBankEntryRow) (id : String)
    (d : AnswerBankEntryCreate) : Option (Table String AnswerBankEntryRow) :=
  let key := normalizeQuestion u d.question
  if !d.valid then none
  else if key = [] then none
  else if rows.rows.any fun r => r.2.questionKey u = key then none
  else if !checkAnswerEvidence evidence d.evidenceKeys then none
  else if (rows.get id).isSome then none
  else some (rows.set id
    { id := id
      category := d.category
      question := d.question
      answer := d.answer
      evidenceKeys := d.evidenceKeys
      status := d.status
      version := 1
      approvedAt := if d.status = .approved then some now else none })

namespace AnswerBankEntryUpdate
variable (d : AnswerBankEntryUpdate)

/-- The update is taken: no other entry answers the question, and the evidence is there. -/
def accepted (rows : Table String AnswerBankEntryRow) (id : String) : Bool :=
  d.valid &&
  (d.question.all fun question => !rows.rows.any fun r =>
    r.1 ≠ id && r.2.questionKey u = normalizeQuestion u question) &&
  d.evidenceKeys.all (checkAnswerEvidence evidence)

def contentChanged (row : AnswerBankEntryRow) : Bool := d.answer.any (· ≠ row.answer)

/-- The row with the changes, its version aside. -/
def row (row : AnswerBankEntryRow) : AnswerBankEntryRow :=
  let edited := { row with
    question := d.question.getD row.question
    category := d.category.getD row.category
    evidenceKeys := d.evidenceKeys.getD row.evidenceKeys
    answer := d.answer.getD row.answer }
  match d.status with
  | some status => { edited with
      approvedAt := if status = .approved ∧ row.status ≠ .approved then some now else row.approvedAt
      status := status }
  | none =>
    -- an edited answer is no longer the approved text
    if d.contentChanged row ∧ row.status = .approved then
      { edited with status := .draft, approvedAt := none }
    else edited

end AnswerBankEntryUpdate

/-- `update_answer`: nothing when the id is unknown or the data is refused. -/
def updateAnswer (rows : Table String AnswerBankEntryRow) (id : String)
    (d : AnswerBankEntryUpdate) : Option (Table String AnswerBankEntryRow) :=
  (rows.get id).bind fun row =>
    if !d.accepted u evidence rows id then none
    else
      let after := d.row now row
      some (rows.set id (if after = row then row else { after with version := row.version + 1 }))

def approveAnswer (rows : Table String AnswerBankEntryRow) (id : String) :
    Option (Table String AnswerBankEntryRow) :=
  updateAnswer u evidence now rows id ⟨none, none, none, none, some .approved⟩

def deleteAnswer (rows : Table String AnswerBankEntryRow) (id : String) :
    Option (Table String AnswerBankEntryRow) :=
  (rows.get id).map fun _ => rows.erase id

end Write

/-! ### Requests, and what was approved -/

inductive Request
  | create (id : String) (d : AnswerBankEntryCreate)
  | update (id : String) (d : AnswerBankEntryUpdate)
  | approve (id : String)
  | delete (id : String)

/-- A request at some time, over the evidence of that time. -/
structure Call where
  evidence : Graph
  now : Time
  request : Request

/-- The entries, and for each the texts that were before the person who approved it last. -/
structure Desk where
  rows : Table String AnswerBankEntryRow
  approved : String → Option (Text × Text)

namespace Desk

def empty : Desk := ⟨.empty, fun _ => none⟩

/-- An entry that is approved holds the texts that a person approved. -/
def Covered (desk : Desk) : Prop :=
  ∀ id row, desk.rows.get id = some row → row.status = .approved →
    desk.approved id = some (row.question, row.answer)

end Desk

section Serve
variable (u : Unicode)

def perform (rows : Table String AnswerBankEntryRow) (call : Call) :
    Option (Table String AnswerBankEntryRow) :=
  match call.request with
  | .create id d => createAnswer u call.evidence call.now rows id d
  | .update id d => updateAnswer u call.evidence call.now rows id d
  | .approve id => approveAnswer u call.evidence call.now rows id
  | .delete id => deleteAnswer rows id

/-- The entry whose texts the request approves, as they are stored after it. -/
def Request.approves : Request → Option String
  | .create id d => if d.status = .approved then some id else none
  | .update id d => if d.status = some .approved then some id else none
  | .approve id => some id
  | .delete _ => none

/-- A request that fails writes nothing and approves nothing. -/
def serve (desk : Desk) (call : Call) : Desk :=
  match perform u desk.rows call with
  | none => desk
  | some rows => ⟨rows, fun id =>
      if call.request.approves = some id then
        (rows.get id).map fun row => (row.question, row.answer)
      else desk.approved id⟩

/-- The request changes the question of an approved entry, and neither its answer nor its status. -/
def Slips (desk : Desk) (call : Call) : Prop :=
  ∃ id d row question, call.request = .update id d ∧ desk.rows.get id = some row ∧
    d.accepted u call.evidence desk.rows id ∧ row.status = .approved ∧ d.status = none ∧
    d.contentChanged row = false ∧ d.question = some question ∧ question ≠ row.question

end Serve

/-! ### One request -/

section Requests
variable {u : Unicode} {evidence : Graph} {now : Time} {desk : Desk} {call : Call}
  {rows : Table String AnswerBankEntryRow} {id : String} {d : AnswerBankEntryUpdate}
  {row : AnswerBankEntryRow}

/-- An update that leaves an entry approved approves it, keeps its texts, or slips. -/
theorem row_approved (approved : (d.row now row).status = .approved) :
    d.status = some .approved ∨ row.status = .approved ∧ (d.row now row).answer = row.answer ∧
      d.status = none ∧ d.contentChanged row = false := by
  unfold AnswerBankEntryUpdate.row at *
  cases status : d.status with
  | some status' =>
    rw [status] at approved
    exact .inl (congrArg some approved)
  | none =>
    rw [status] at approved
    dsimp only at approved ⊢
    split at approved
    · cases approved
    · rename_i kept
      have unchanged : d.contentChanged row = false :=
        Bool.eq_false_iff.mpr fun changed => kept ⟨changed, approved⟩
      refine .inr ⟨approved, ?_, rfl, unchanged⟩
      rw [if_neg kept]
      unfold AnswerBankEntryUpdate.contentChanged at unchanged
      cases answer : d.answer with
      | none => rfl
      | some text =>
        rw [answer] at unchanged
        simpa using unchanged

theorem row_question : (d.row now row).question = d.question.getD row.question := by
  unfold AnswerBankEntryUpdate.row
  cases d.status with
  | some status => rfl
  | none =>
    dsimp only
    split
    · rfl
    · rfl

theorem updateAnswer_spec (done : updateAnswer u evidence now desk.rows id d = some rows) :
    ∃ row after, desk.rows.get id = some row ∧ d.accepted u evidence desk.rows id ∧
      rows = desk.rows.set id after ∧ after.status = (d.row now row).status ∧
      after.question = (d.row now row).question ∧ after.answer = (d.row now row).answer := by
  obtain ⟨row, found, done⟩ := Option.bind_eq_some_iff.mp done
  split at done
  · cases done
  · rename_i accepted
    cases done
    refine ⟨row, _, found, by simpa using accepted, rfl, ?_⟩
    split
    · rename_i same
      rw [same]
      exact ⟨rfl, rfl, rfl⟩
    · exact ⟨rfl, rfl, rfl⟩

/-- The ledger after a request that approves `approves`. -/
def Desk.ledger (desk : Desk) (rows : Table String AnswerBankEntryRow) (approves : Option String)
    (id : String) : Option (Text × Text) :=
  if approves = some id then (rows.get id).map fun row => (row.question, row.answer)
  else desk.approved id

theorem approves_own {p : Prop} [Decidable p] (id : String) :
    (if p then some id else none) = none ∨ (if p then some id else none) = some id := by
  split
  · exact .inr rfl
  · exact .inl rfl

/-- When one row is written, all depends on that row. -/
theorem covered_set_iff (covered : desk.Covered) {after : AnswerBankEntryRow}
    {approves : Option String} (own : approves = none ∨ approves = some id) :
    Desk.Covered ⟨desk.rows.set id after, desk.ledger (desk.rows.set id after) approves⟩ ↔
      (after.status = .approved → approves = some id ∨
        desk.approved id = some (after.question, after.answer)) := by
  unfold Desk.Covered Desk.ledger
  dsimp only
  constructor
  · intro all approved
    have here := all id after (Table.get_set_self _ _ _) approved
    split at here
    · rename_i told
      exact .inl told
    · exact .inr here
  · intro here id' row found approved
    by_cases same : id' = id
    · subst same
      rw [Table.get_set_self] at found
      cases found
      split
      · rw [Table.get_set_self]
        rfl
      · rename_i untold
        exact (here approved).resolve_left untold
    · have silent : approves ≠ some id' := by
        rintro told
        rcases own with none_ | some_
        · rw [none_] at told
          cases told
        · rw [some_, Option.some.injEq] at told
          exact same told.symm
      rw [if_neg silent]
      rw [Table.get_set_other _ _ same] at found
      exact covered id' row found approved

theorem create_covered (covered : desk.Covered) {d : AnswerBankEntryCreate}
    (done : createAnswer u evidence now desk.rows id d = some rows) :
    Desk.Covered ⟨rows, desk.ledger rows (if d.status = .approved then some id else none)⟩ := by
  obtain ⟨after, rfl, status⟩ : ∃ after, rows = desk.rows.set id after ∧ after.status = d.status := by
    unfold createAnswer at done
    dsimp only at done
    split at done
    · cases done
    · split at done
      · cases done
      · split at done
        · cases done
        · split at done
          · cases done
          · split at done
            · cases done
            · cases done
              exact ⟨_, rfl, rfl⟩
  refine (covered_set_iff covered (approves_own id)).mpr fun approved => .inl (if_pos ?_)
  rw [← status, approved]

/-- An update keeps the entries covered unless it slips. -/
theorem update_covered_iff (covered : desk.Covered) (found : desk.rows.get id = some row)
    (done : updateAnswer u evidence now desk.rows id d = some rows) :
    Desk.Covered ⟨rows, desk.ledger rows (if d.status = some .approved then some id else none)⟩ ↔
      ¬ (row.status = .approved ∧ d.status = none ∧ d.contentChanged row = false ∧
        ∃ question, d.question = some question ∧ question ≠ row.question) := by
  obtain ⟨row', after, found', -, rfl, status, question, answer⟩ := updateAnswer_spec done
  cases found.symm.trans found'
  rw [covered_set_iff covered (approves_own id), status, question, answer, row_question]
  constructor
  · rintro kept ⟨approved, unset, unchanged, question', changed, differs⟩
    have still : (d.row now row).status = .approved := by
      simp [AnswerBankEntryUpdate.row, unset, unchanged, approved]
    rcases kept still with told | stored
    · rw [unset] at told
      cases told
    · rw [covered id row found approved, changed, Option.some.injEq, Prod.mk.injEq] at stored
      exact differs stored.1.symm
  · intro kept approved
    rcases row_approved approved with told | ⟨before, same, unset, unchanged⟩
    · exact .inl (if_pos told)
    · refine .inr ?_
      rw [covered id row found before, same]
      cases changed : d.question with
      | none => rfl
      | some question' =>
        by_cases differs : question' = row.question
        · rw [differs]
          rfl
        · exact absurd ⟨before, unset, unchanged, question', changed, differs⟩ kept

theorem delete_covered (covered : desk.Covered) (done : deleteAnswer desk.rows id = some rows) :
    Desk.Covered ⟨rows, desk.ledger rows none⟩ := by
  obtain ⟨row, -, rfl⟩ := Option.map_eq_some_iff.mp done
  intro id' row' found approved
  exact covered id' row' (Table.get_erase.mp found).2 approved

theorem updateAnswer_accepted (now : Time) (found : desk.rows.get id = some row)
    (accepted : d.accepted u evidence desk.rows id) :
    ∃ rows, updateAnswer u evidence now desk.rows id d = some rows := by
  unfold updateAnswer
  rw [found, Option.bind_some, accepted]
  exact ⟨_, rfl⟩

theorem serve_eq : serve u desk call = match perform u desk.rows call with
    | none => desk
    | some rows => ⟨rows, desk.ledger rows call.request.approves⟩ := rfl

/-- A request keeps the entries covered exactly when it does not slip. -/
theorem serve_covered_iff (covered : desk.Covered) :
    (serve u desk call).Covered ↔ ¬ Slips u desk call := by
  have sound {rows} (done : perform u desk.rows call = some rows)
      (other : ∀ id d, call.request ≠ .update id d)
      (kept : Desk.Covered ⟨rows, desk.ledger rows call.request.approves⟩) :
      (serve u desk call).Covered ↔ ¬ Slips u desk call := by
    rw [serve_eq, done]
    refine iff_of_true kept ?_
    rintro ⟨id, d, row, question, update, -⟩
    exact other id d update
  cases done : perform u desk.rows call with
  | none =>
    rw [serve_eq, done]
    refine iff_of_true covered ?_
    rintro ⟨id, d, row, question, update, found, accepted, -⟩
    obtain ⟨rows, written⟩ := updateAnswer_accepted call.now found accepted
    unfold perform at done
    rw [update] at done
    cases done.symm.trans written
  | some rows =>
    cases request : call.request with
    | create id d =>
      have written := done
      unfold perform at written
      rw [request] at written
      refine sound done (by rw [request]; nofun) ?_
      rw [request]
      exact create_covered covered written
    | approve id =>
      have written := done
      unfold perform at written
      rw [request] at written
      refine sound done (by rw [request]; nofun) ?_
      rw [request]
      obtain ⟨row, after, found, -⟩ := updateAnswer_spec written
      exact (update_covered_iff covered found written).mpr fun slip => nomatch slip.2.1
    | delete id =>
      have written := done
      unfold perform at written
      rw [request] at written
      refine sound done (by rw [request]; nofun) ?_
      rw [request]
      exact delete_covered covered written
    | update id d =>
      have written := done
      unfold perform at written
      rw [request] at written
      obtain ⟨row, after, found, accepted, -⟩ := updateAnswer_spec written
      rw [serve_eq, done, request]
      refine (update_covered_iff covered found written).trans (not_congr ?_)
      constructor
      · rintro ⟨approved, unset, unchanged, question, changed, differs⟩
        exact ⟨id, d, row, question, request, found, accepted, approved, unset, unchanged, changed,
          differs⟩
      · rintro ⟨id', d', row', question, update, found', -, approved, unset, unchanged, changed,
          differs⟩
        rw [request] at update
        cases update
        cases found.symm.trans found'
        exact ⟨approved, unset, unchanged, question, changed, differs⟩

end Requests

/-! ### Runs -/

theorem empty_covered : Desk.empty.Covered := by
  intro id row found
  cases found

/-- In every state of a run the approved entries hold the texts that were approved, exactly when no
request of the run changes the question of an approved entry and nothing else that matters. -/
theorem approved_texts_iff (u : Unicode) (calls : List Call) :
    Trace.Always (serve u) Desk.Covered Desk.empty calls ↔
      Trace.Guarded (serve u) (fun desk call => ¬ Slips u desk call) Desk.empty calls :=
  Trace.always_iff_guarded (fun _ _ => serve_covered_iff) empty_covered

/-- An approved answer on the notice period becomes one on the salary. -/
def requestioned : List Call :=
  [⟨.empty, 0, .create "a" ⟨"logistics", "Notice period?".ascii, "30".ascii, [], .approved⟩⟩,
    ⟨.empty, 1, .update "a" ⟨none, some "Expected salary?".ascii, none, none, none⟩⟩]

theorem requestioned_uncovered :
    ¬ ∀ (u : Unicode) (calls : List Call), (Trace.run (serve u) Desk.empty calls).Covered := by
  intro law
  have stored : ((Trace.run (serve .ascii) Desk.empty requestioned).rows.get "a").map (fun row =>
      (row.status, row.question)) = some (.approved, "Expected salary?".ascii) := by
    decide +kernel
  have told : (Trace.run (serve .ascii) Desk.empty requestioned).approved "a" =
      some ("Notice period?".ascii, "30".ascii) := by
    decide +kernel
  obtain ⟨row, found, read⟩ := Option.map_eq_some_iff.mp stored
  obtain ⟨status, question⟩ := Prod.mk.inj read
  have covered := law .ascii requestioned "a" row found status
  rw [told, question, Option.some.injEq, Prod.mk.injEq] at covered
  exact absurd covered.1 (by decide)

end RangeApply.Bank
