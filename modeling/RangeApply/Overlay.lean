import Mathlib.Data.List.Basic
import Mathlib.Data.List.Induction

/-! A record that its source refreshes until somebody writes over it: what it holds after a history
of showings and edits, in terms of the history alone. -/
namespace Overlay

/-- What an event is to the record. -/
inductive Mark (α β : Type*)
  | shown (a : α)
  | said (b : β)
  | passes

/-- How the record was first shown, how it was last refreshed, and the last thing said of it. -/
structure Cell (α β : Type*) where
  first : α
  last : α
  word : Option β

variable {α β : Type*}

namespace Mark

def shown? : Mark α β → Option α
  | shown a => some a
  | _ => none

def said? : Mark α β → Option β
  | said b => some b
  | _ => none

end Mark

/-- Nothing is said of a record before it is there, and no refresh undoes what was said. -/
def step : Option (Cell α β) → Mark α β → Option (Cell α β)
  | none, .shown a => some ⟨a, a, none⟩
  | some ⟨first, _, none⟩, .shown a => some ⟨first, a, none⟩
  | some ⟨first, last, _⟩, .said b => some ⟨first, last, some b⟩
  | cell, _ => cell

def run (marks : List (Mark α β)) : Option (Cell α β) := marks.foldl step none

theorem run_concat (marks : List (Mark α β)) (mark : Mark α β) :
    run (marks ++ [mark]) = step (run marks) mark := List.foldl_concat ..

@[simp] theorem step_passes (cell : Option (Cell α β)) : step cell .passes = cell := by
  cases cell with
  | none => rfl
  | some cell =>
    obtain ⟨first, last, word⟩ := cell
    cases word <;> rfl

/-- The history of a record from its first showing on. -/
def opened (marks : List (Mark α β)) : List (Mark α β) := marks.dropWhile (·.shown?.isNone)

/-- The part of it before anything is said. -/
def untouched (marks : List (Mark α β)) : List (Mark α β) :=
  (opened marks).takeWhile (·.said?.isNone)

def shows (marks : List (Mark α β)) : List α := marks.filterMap (·.shown?)

/-- What was said of the record while it was there. -/
def words (marks : List (Mark α β)) : List β := (opened marks).filterMap (·.said?)

theorem foldl_word (first last : α) (word : β) (marks : List (Mark α β)) :
    marks.foldl step (some ⟨first, last, some word⟩) =
      some ⟨first, last, some (((marks.filterMap (·.said?)).getLast?).getD word)⟩ := by
  induction marks generalizing word with
  | nil => rfl
  | cons mark marks ih =>
    cases mark with
    | shown a => exact ih word
    | said b =>
      refine (ih b).trans ?_
      simp [Mark.said?, List.getLast?_cons]
    | passes => exact ih word

theorem foldl_shown (first last : α) (marks : List (Mark α β)) :
    marks.foldl step (some ⟨first, last, none⟩) =
      some ⟨first, ((shows (marks.takeWhile (·.said?.isNone))).getLast?).getD last,
        (marks.filterMap (·.said?)).getLast?⟩ := by
  induction marks generalizing last with
  | nil => rfl
  | cons mark marks ih =>
    cases mark with
    | shown a =>
      refine (ih a).trans ?_
      simp [shows, Mark.said?, Mark.shown?, List.getLast?_cons]
    | said b =>
      refine (foldl_word first last b marks).trans ?_
      simp [shows, Mark.said?, List.getLast?_cons]
    | passes => exact ih last

/-- The record is as it was first shown and last refreshed before the first word, under the last
one. -/
theorem run_eq (marks : List (Mark α β)) :
    run marks = (shows marks).head?.map fun first =>
      ⟨first, ((shows (untouched marks)).getLast?).getD first, (words marks).getLast?⟩ := by
  induction marks with
  | nil => rfl
  | cons mark marks ih =>
    cases mark with
    | shown a =>
      refine (foldl_shown a a marks).trans ?_
      simp [shows, untouched, opened, words, Mark.said?, Mark.shown?, List.getLast?_cons]
    | said b => exact ih
    | passes => exact ih

theorem words_of_shows {marks : List (Mark α β)} (unseen : shows marks = []) :
    words marks = [] := by
  induction marks with
  | nil => rfl
  | cons mark marks ih =>
    cases mark with
    | shown a => cases unseen
    | said b => exact ih unseen
    | passes => exact ih unseen

/-- The record right after a showing. -/
theorem run_shown (marks : List (Mark α β)) (a : α) :
    run (marks ++ [.shown a]) =
      let first := (shows marks).head?.getD a
      match (words marks).getLast? with
      | none => some ⟨first, a, none⟩
      | some word => some ⟨first, (shows (untouched marks)).getLast?.getD first, some word⟩ := by
  rw [run_concat, run_eq]
  cases seen : (shows marks).head? with
  | none =>
    rw [words_of_shows (List.head?_eq_none_iff.mp seen)]
    rfl
  | some first => cases (words marks).getLast? <;> rfl

/-- Until something is said, the record is what it was last shown to be. -/
theorem run_last (marks : List (Mark α β)) (a : α) (later : List (Mark α β))
    (unshown : ∀ mark ∈ later, mark.shown? = none) :
    ∃ first last word, run (marks ++ .shown a :: later) = some ⟨first, last, word⟩ ∧
      (word = none → last = a) := by
  induction later using List.reverseRecOn with
  | nil =>
    rw [run_shown]
    cases (words marks).getLast? with
    | none => exact ⟨_, _, _, rfl, fun _ => rfl⟩
    | some word => exact ⟨_, _, _, rfl, nofun⟩
  | append_singleton later mark ih =>
    obtain ⟨first, last, word, at_, fresh⟩ := ih fun m member =>
      unshown m (List.mem_append_left _ member)
    rw [← List.cons_append, ← List.append_assoc, run_concat, at_]
    cases mark with
    | shown b => cases unshown (.shown b) (by simp)
    | said b => exact ⟨first, last, some b, by cases word <;> rfl, nofun⟩
    | passes => exact ⟨first, last, word, step_passes _, fresh⟩

/-- What holds of every showing holds of the first and the last. -/
theorem run_all {p : α → Prop} {marks : List (Mark α β)} (all : ∀ a ∈ shows marks, p a)
    {cell : Cell α β} (at_ : run marks = some cell) : p cell.first ∧ p cell.last := by
  rw [run_eq] at at_
  obtain ⟨first, here, rfl⟩ := Option.map_eq_some_iff.mp at_
  have one := all first (List.mem_of_mem_head? here)
  refine ⟨one, ?_⟩
  cases final : (shows (untouched marks)).getLast? with
  | none => exact one
  | some last =>
    have among : untouched marks ⊆ marks :=
      ((List.takeWhile_prefix _).sublist.trans (List.dropWhile_suffix _).sublist).subset
    obtain ⟨mark, member, is⟩ := List.mem_filterMap.mp (List.mem_of_getLast? final)
    exact all last (List.mem_filterMap.mpr ⟨mark, among member, is⟩)

end Overlay
