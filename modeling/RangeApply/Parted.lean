import Mathlib.Data.List.Basic

/-! Texts joined by a separator. Some symbols may not stand at the edges of a part; the parts can be
told from the whole exactly when every separator within a part stands beside such a symbol. -/
/-! ### Letters and digits -/

theorem Char.isAlpha_iff {c : Char} : c.isAlpha = true ↔
    65 ≤ c.toNat ∧ c.toNat ≤ 90 ∨ 97 ≤ c.toNat ∧ c.toNat ≤ 122 := by
  change (decide (c.val ≥ 'A'.val ∧ c.val ≤ 'Z'.val) ||
    (decide (c.val ≥ 'a'.val) && decide (c.val ≤ 'z'.val))) = true ↔ _
  simp only [Bool.or_eq_true, Bool.and_eq_true, decide_eq_true_eq, ge_iff_le,
    UInt32.le_iff_toNat_le]
  rfl

theorem Char.isAlphanum_iff {c : Char} : c.isAlphanum = true ↔
    48 ≤ c.toNat ∧ c.toNat ≤ 57 ∨ 65 ≤ c.toNat ∧ c.toNat ≤ 90 ∨
      97 ≤ c.toNat ∧ c.toNat ≤ 122 := by
  change (c.isAlpha || c.isDigit) = true ↔ _
  rw [Bool.or_eq_true, Char.isAlpha_iff, Char.isDigit_iff_toNat, or_comm]
  rfl

namespace Parted

section Split
variable {α : Type*} {sep : α} {a b x y : List α}

/-- Two ways to part one text at a separator are the same, or one of them is within the other. -/
theorem split_cases (same : a ++ sep :: x = b ++ sep :: y) :
    (a = b ∧ x = y) ∨ (∃ v, a = b ++ sep :: v ∧ y = v ++ sep :: x) ∨
      ∃ v, b = a ++ sep :: v ∧ x = v ++ sep :: y := by
  rcases List.append_eq_append_iff.mp same with ⟨v, longer, rest⟩ | ⟨v, longer, rest⟩
  · cases v with
    | nil =>
      obtain ⟨-, tails⟩ := List.cons.inj rest
      exact .inl ⟨by rw [longer, List.append_nil], tails⟩
    | cons e v =>
      obtain ⟨rfl, tails⟩ := List.cons.inj rest
      exact .inr (.inr ⟨v, longer, tails⟩)
  · cases v with
    | nil =>
      obtain ⟨-, tails⟩ := List.cons.inj rest
      exact .inl ⟨by rw [longer, List.append_nil], tails.symm⟩
    | cons e v =>
      obtain ⟨rfl, tails⟩ := List.cons.inj rest
      exact .inr (.inl ⟨v, longer, tails⟩)

/-- A symbol of joined parts is one of the separator or of a part. -/
theorem mem_of_mem_intercalate {sep : List α} {c : α} {parts : List (List α)}
    (member : c ∈ sep.intercalate parts) : c ∈ sep ∨ ∃ part ∈ parts, c ∈ part := by
  induction parts with
  | nil => simp at member
  | cons part parts ih =>
    cases parts with
    | nil => exact .inr ⟨part, List.mem_singleton_self _, by simpa using member⟩
    | cons next rest =>
      rw [List.intercalate_cons_cons, List.append_assoc, List.mem_append, List.mem_append] at member
      rcases member with here | between | later
      · exact .inr ⟨part, List.mem_cons_self, here⟩
      · exact .inl between
      · refine (ih later).imp_right ?_
        rintro ⟨part', member', found⟩
        exact ⟨part', List.mem_cons_of_mem _ member', found⟩

end Split

section Edges
variable {α : Type*} (edge : α → Prop) (sep : α)

/-- What may not stand at an edge does not. -/
structure Trimmed (t : List α) : Prop where
  head : ∀ e ∈ t.head?, ¬edge e
  last : ∀ e ∈ t.getLast?, ¬edge e

/-- Every separator in the text stands beside a symbol that no part may have at its edge. -/
def Tight (t : List α) : Prop :=
  ∀ u v, t = u ++ sep :: v → (∃ e ∈ u.getLast?, edge e) ∨ ∃ e ∈ v.head?, edge e

variable {edge sep} {t u v a b c a' b' c' : List α}

theorem tight_of_not_mem (clear : sep ∉ t) : Tight edge sep t := by
  intro u v split
  rw [split] at clear
  exact absurd (List.mem_append_right _ List.mem_cons_self) clear

/-- With no such symbols, a tight text has no separator. -/
theorem tight_iff_not_mem : Tight (fun _ => False) sep t ↔ sep ∉ t := by
  refine ⟨fun tight member => ?_, tight_of_not_mem⟩
  obtain ⟨u, v, split⟩ := List.append_of_mem member
  rcases tight u v split with ⟨-, -, none_⟩ | ⟨-, -, none_⟩
  · exact none_
  · exact none_

theorem Tight.blocks (tight : Tight edge sep t) (split : t = u ++ sep :: v)
    (last : ∀ e ∈ u.getLast?, ¬edge e) (head : ∀ e ∈ v.head?, ¬edge e) : False := by
  rcases tight u v split with ⟨e, here, bad⟩ | ⟨e, here, bad⟩
  · exact last e here bad
  · exact head e here bad

variable (inner : ¬edge sep)
include inner

theorem head_joined (front : ∀ e ∈ a.head?, ¬edge e) : ∀ e ∈ (a ++ sep :: b).head?, ¬edge e := by
  intro e here
  cases a with
  | nil =>
    cases here
    exact inner
  | cons x a => exact front e here

theorem last_joined (back : ∀ e ∈ b.getLast?, ¬edge e) :
    ∀ e ∈ (a ++ sep :: b).getLast?, ¬edge e := by
  intro e here
  cases b with
  | nil =>
    rw [List.getLast?_concat] at here
    cases here
    exact inner
  | cons x b =>
    rw [List.getLast?_append_of_ne_nil _ (by simp), List.getLast?_cons_cons] at here
    exact back e here

theorem Trimmed.join (left : Trimmed edge a) (right : Trimmed edge b) :
    Trimmed edge (a ++ sep :: b) :=
  ⟨head_joined inner left.head, last_joined inner right.last⟩

omit inner in
theorem head_left {r : List α} (front : ∀ e ∈ (a ++ r).head?, ¬edge e) : ∀ e ∈ a.head?, ¬edge e := by
  intro e here
  cases a with
  | nil => cases here
  | cons x a => exact front e here

omit inner in
theorem last_right {r : List α} (back : ∀ e ∈ (r ++ sep :: a).getLast?, ¬edge e) :
    ∀ e ∈ a.getLast?, ¬edge e := by
  intro e here
  cases a with
  | nil => cases here
  | cons x a =>
    refine back e ?_
    rwa [List.getLast?_append_of_ne_nil _ (List.cons_ne_nil sep _), List.getLast?_cons_cons]

/-- Three tight parts are told from the whole. -/
theorem parts_of_tight (tight : Tight edge sep a ∧ Tight edge sep b ∧ Tight edge sep c)
    (first : Trimmed edge a') (second : Trimmed edge b') (third : Trimmed edge c')
    (same : a ++ sep :: (b ++ sep :: c) = a' ++ sep :: (b' ++ sep :: c')) :
    a' = a ∧ b' = b ∧ c' = c := by
  obtain ⟨tightA, tightB, tightC⟩ := tight
  have head : ∀ e ∈ (b' ++ sep :: c').head?, ¬edge e := head_joined inner second.head
  rcases split_cases same with ⟨rfl, rest⟩ | ⟨v, within, rest⟩ | ⟨v, beyond, rest⟩
  · rcases split_cases rest with ⟨rfl, rfl⟩ | ⟨w, within, last⟩ | ⟨w, beyond, last⟩
    · exact ⟨rfl, rfl, rfl⟩
    · have third : ∀ e ∈ (w ++ sep :: c).head?, ¬edge e := last ▸ third.head
      exact (tightB.blocks within second.last (head_left third)).elim
    · have second : ∀ e ∈ (b ++ sep :: w).getLast?, ¬edge e := beyond ▸ second.last
      have second : ∀ e ∈ w.getLast?, ¬edge e := last_right second
      exact (tightC.blocks last second third.head).elim
  · have head : ∀ e ∈ (v ++ sep :: (b ++ sep :: c)).head?, ¬edge e := rest ▸ head
    exact (tightA.blocks within first.last (head_left head)).elim
  · -- the first of the other parts goes on over a separator
    have first : ∀ e ∈ (a ++ sep :: v).getLast?, ¬edge e := beyond ▸ first.last
    have first : ∀ e ∈ v.getLast?, ¬edge e := last_right first
    rcases split_cases rest with ⟨rfl, last⟩ | ⟨w, within, last⟩ | ⟨w, beyond, last⟩
    · exact (tightC.blocks last second.last third.head).elim
    · have head : ∀ e ∈ (w ++ sep :: c).head?, ¬edge e := last ▸ head
      exact (tightB.blocks within first (head_left head)).elim
    · have first : ∀ e ∈ (b ++ sep :: w).getLast?, ¬edge e := beyond ▸ first
      have first : ∀ e ∈ w.getLast?, ¬edge e := last_right first
      exact (tightC.blocks last first head).elim

/-- A separator within a part that stands beside no such symbol parts the whole in another way. -/
theorem parts_iff (first : Trimmed edge a) (second : Trimmed edge b) (third : Trimmed edge c) :
    (∀ a' b' c', Trimmed edge a' → Trimmed edge b' → Trimmed edge c' →
      a ++ sep :: (b ++ sep :: c) = a' ++ sep :: (b' ++ sep :: c') → a' = a ∧ b' = b ∧ c' = c) ↔
    Tight edge sep a ∧ Tight edge sep b ∧ Tight edge sep c := by
  constructor
  · intro unique
    refine ⟨fun u v split => ?_, fun u v split => ?_, fun u v split => ?_⟩
    · by_contra free
      push Not at free
      subst split
      have left : Trimmed edge u := ⟨head_left first.head, free.1⟩
      have right : Trimmed edge v := ⟨free.2, last_right first.last⟩
      have same := (unique u (v ++ sep :: b) c left (right.join inner second) third (by simp)).1
      simpa using congrArg List.length same
    · by_contra free
      push Not at free
      subst split
      have left : Trimmed edge u := ⟨head_left second.head, free.1⟩
      have right : Trimmed edge v := ⟨free.2, last_right second.last⟩
      have same := (unique (a ++ sep :: u) v c (first.join inner left) right third (by simp)).1
      simpa using congrArg List.length same
    · by_contra free
      push Not at free
      subst split
      have left : Trimmed edge u := ⟨head_left third.head, free.1⟩
      have right : Trimmed edge v := ⟨free.2, last_right third.last⟩
      have same := (unique (a ++ sep :: b) u v (first.join inner second) left right (by simp)).1
      simpa using congrArg List.length same
  · intro tight a' b' c' first second third same
    exact parts_of_tight inner tight first second third same

end Edges

end Parted
