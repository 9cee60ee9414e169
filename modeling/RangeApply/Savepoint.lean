import Mathlib.Data.List.Basic

/-! Transactions with nested savepoints over any kind of data. -/

/-- The data as it stands, as it stood at each open savepoint, innermost first, and as it was
last committed. -/
structure Savepoints (α : Type*) where
  now : α
  marks : List α
  committed : α

namespace Savepoints
variable {α β : Type*}

/-- Open a savepoint; leave the innermost one well, or by rolling back to it. Outside every
savepoint the last two are the commit and the rollback of the transaction. -/
inductive Move
  | mark
  | keep
  | undo
  deriving DecidableEq, Repr

/-- Nothing is open and everything is committed. -/
def clean (a : α) : Savepoints α := ⟨a, [], a⟩

def move (s : Savepoints α) : Move → Savepoints α
  | .mark => { s with marks := s.now :: s.marks }
  | .keep =>
    match s.marks with
    | [] => { s with committed := s.now }
    | _ :: rest => { s with marks := rest }
  | .undo =>
    match s.marks with
    | [] => { s with now := s.committed }
    | a :: rest => ⟨a, rest, s.committed⟩

def write (s : Savepoints α) (a : α) : Savepoints α := { s with now := a }

/-- Two histories of data that correspond wherever they can return to. -/
structure Related (R : α → β → Prop) (s : Savepoints α) (t : Savepoints β) : Prop where
  now : R s.now t.now
  marks : List.Forall₂ R s.marks t.marks
  committed : R s.committed t.committed

namespace Related
variable {R : α → β → Prop} {s : Savepoints α} {t : Savepoints β}

theorem clean {a : α} {b : β} (related : R a b) :
    Related R (Savepoints.clean a) (Savepoints.clean b) :=
  ⟨related, .nil, related⟩

theorem write {a : α} {b : β} (related : Related R s t) (written : R a b) :
    Related R (s.write a) (t.write b) :=
  ⟨written, related.marks, related.committed⟩

theorem move (related : Related R s t) (m : Move) : Related R (s.move m) (t.move m) := by
  obtain ⟨now, marks, committed⟩ := s
  obtain ⟨now', marks', committed'⟩ := t
  obtain ⟨hn, hm, hc⟩ := related
  cases m with
  | mark => exact ⟨hn, .cons hn hm, hc⟩
  | keep =>
    cases hm with
    | nil => exact ⟨hn, .nil, hn⟩
    | cons first rest => exact ⟨hn, rest, hc⟩
  | undo =>
    cases hm with
    | nil => exact ⟨hc, .nil, hc⟩
    | cons first rest => exact ⟨first, rest, hc⟩

end Related

end Savepoints
