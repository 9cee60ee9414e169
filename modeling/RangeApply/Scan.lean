import Mathlib.Data.List.Basic

/-! The matches that are found in a text one after the other, from left to right, by what a reader
finds at each place: a value, and how many characters it takes. -/

/-- Given the character before a place and the text from there on. -/
abbrev Reader (α : Type*) := Option Char → List Char → Option (α × ℕ)

/-- The character before what follows the text. -/
def lastOr (prev : Option Char) : List Char → Option Char
  | [] => prev
  | c :: text => lastOr (some c) text

namespace Reader
variable {α : Type*} (reader : Reader α)

/-- The matches from a place on, after some characters that the last match took. -/
def scan : Option Char → ℕ → List Char → List α
  | _, _, [] => []
  | _, k + 1, c :: rest => scan (some c) k rest
  | prev, 0, c :: rest =>
    match reader prev (c :: rest) with
    | some (a, n) => a :: scan (some c) (n - 1) rest
    | none => scan (some c) 0 rest

theorem scan_nil {prev : Option Char} {k : ℕ} : reader.scan prev k [] = [] := by
  cases k <;> rfl

/-- What is read at the places of a text is the same before `more`, and does not reach into it. -/
def Local (prev : Option Char) (text more : List Char) : Prop :=
  ∀ done rest, text = done ++ rest → rest ≠ [] →
    reader (lastOr prev done) (rest ++ more) = reader (lastOr prev done) rest ∧
    ∀ a n, reader (lastOr prev done) rest = some (a, n) → n ≤ rest.length

variable {reader} {prev prev' : Option Char} {text more : List Char} {c : Char} {k n : ℕ} {a : α}

theorem scan_hit (hit : reader prev (c :: text) = some (a, n)) :
    reader.scan prev 0 (c :: text) = a :: reader.scan (some c) (n - 1) text := by
  conv_lhs => unfold scan
  rw [hit]

theorem scan_miss (miss : reader prev (c :: text) = none) :
    reader.scan prev 0 (c :: text) = reader.scan (some c) 0 text := by
  conv_lhs => unfold scan
  rw [miss]

theorem Local.tail (here : reader.Local prev (c :: text) more) :
    reader.Local (some c) text more := by
  intro done rest split some_
  exact here (c :: done) rest (congrArg (List.cons c) split) some_

/-- The matches of a text and then those of what follows it. -/
theorem scan_append (here : reader.Local prev text more) (within : k ≤ text.length) :
    reader.scan prev k (text ++ more) =
      reader.scan prev k text ++ reader.scan (lastOr prev text) 0 more := by
  induction text generalizing prev k with
  | nil =>
    rw [Nat.le_zero.mp within]
    rfl
  | cons c text ih =>
    cases k with
    | succ k => exact ih here.tail (Nat.le_of_succ_le_succ within)
    | zero =>
      have first := here [] (c :: text) rfl (List.cons_ne_nil _ _)
      have same : reader prev (c :: (text ++ more)) = reader prev (c :: text) := first.1
      have reach (a : α) (n : ℕ) (found : reader prev (c :: text) = some (a, n)) :
          n ≤ text.length + 1 := first.2 a n found
      cases found : reader prev (c :: text) with
      | none =>
        rw [List.cons_append, scan_miss (same.trans found), scan_miss found]
        exact ih here.tail (Nat.zero_le _)
      | some m =>
        have length : m.2 ≤ text.length + 1 := reach m.1 m.2 found
        rw [List.cons_append, scan_hit (same.trans found), scan_hit found, List.cons_append]
        exact congrArg (List.cons m.1) (ih here.tail (by omega))

/-- Only what is read at the first place may depend on the character before it. -/
theorem scan_prev (same : reader prev text = reader prev' text) :
    reader.scan prev 0 text = reader.scan prev' 0 text := by
  cases text with
  | nil => rfl
  | cons c text =>
    cases found : reader prev (c :: text) with
    | none => rw [scan_miss found, scan_miss (same.symm.trans found)]
    | some m => rw [scan_hit found, scan_hit (same.symm.trans found)]

/-- The characters that a match took are passed over. -/
theorem scan_taken {taken : List Char} (all : taken.length = k) :
    reader.scan prev k (taken ++ text) = reader.scan (lastOr prev taken) 0 text := by
  subst all
  induction taken generalizing prev with
  | nil => rfl
  | cons c taken ih => exact ih

/-! ### Words -/

section Words
variable (before after : Char → Bool) (words : List (List Char))

/-- The word stands at the beginning, and what follows does not go on with it. -/
def stands (after : Char → Bool) (word rest : List Char) : Bool :=
  word.isPrefixOf rest && !(rest.drop word.length).head?.any after

/-- The first word of the list that stands at a place, if the character before allows one. -/
def word : Reader (List Char) := fun prev rest =>
  if prev.any before then none
  else (words.find? fun w => stands after w rest).map fun w => (w, w.length)

variable {before after words} {rest w : List Char}

theorem word_found {n : ℕ} (found : word before after words prev rest = some (w, n)) :
    w ∈ words ∧ n = w.length ∧ w <+: rest := by
  unfold word at found
  split at found
  · cases found
  · obtain ⟨v, first, same⟩ := Option.map_eq_some_iff.mp found
    cases same
    have here := List.find?_some first
    unfold stands at here
    rw [Bool.and_eq_true, List.isPrefixOf_iff_prefix] at here
    exact ⟨List.mem_of_find?_eq_some first, rfl, here.1⟩

/-- Before a character that ends words a shorter word stands as it does at the end. -/
theorem stands_append (ends : more.head?.any after = false) (short : w.length ≤ rest.length) :
    stands after w (rest ++ more) = stands after w rest := by
  have lead : w.isPrefixOf (rest ++ more) = w.isPrefixOf rest := by
    rw [Bool.eq_iff_iff, List.isPrefixOf_iff_prefix, List.isPrefixOf_iff_prefix]
    constructor
    · exact fun lead => List.prefix_of_prefix_length_le lead (List.prefix_append _ _) short
    · exact fun lead => lead.trans (List.prefix_append _ _)
  unfold stands
  rw [lead, List.drop_append_of_le_length short]
  cases rest.drop w.length with
  | nil =>
    rw [List.nil_append, ends]
    rfl
  | cons c tail => rfl

theorem stands_of_long (long : rest.length < w.length) : stands after w rest = false := by
  unfold stands
  rw [Bool.and_eq_false_iff]
  refine .inl (Bool.eq_false_iff.mpr fun lead => ?_)
  have length := (List.isPrefixOf_iff_prefix.mp lead).length_le
  omega

theorem find_congr {p q : α → Bool} {l : List α} (same : ∀ x ∈ l, p x = q x) :
    l.find? p = l.find? q := by
  induction l with
  | nil => rfl
  | cons x l ih =>
    rw [List.find?_cons, List.find?_cons, same x List.mem_cons_self,
      ih fun y member => same y (List.mem_cons_of_mem x member)]

/-- No word of the list begins at the place and ends in what follows. -/
def Apart (before after : Char → Bool) (words : List (List Char)) (prev : Option Char)
    (rest more : List Char) : Prop :=
  prev.any before = false → ∀ w ∈ words, rest.length < w.length → stands after w (rest ++ more) = false

theorem word_append (ends : more.head?.any after = false)
    (apart : Apart before after words prev rest more) :
    word before after words prev (rest ++ more) = word before after words prev rest := by
  unfold word
  split
  · rfl
  · rename_i free
    rw [find_congr fun w member => ?_]
    by_cases short : w.length ≤ rest.length
    · exact stands_append ends short
    · rw [stands_of_long (Nat.lt_of_not_le short)]
      exact apart (Bool.eq_false_iff.mpr free) w member (Nat.lt_of_not_le short)

/-- Words without the character that follows cannot reach over it. -/
theorem apart_of_free (free : ∀ w ∈ words, c ∉ w) : Apart before after words prev rest (c :: more) := by
  intro _ w member long
  refine Bool.eq_false_iff.mpr fun here => free w member ?_
  unfold stands at here
  rw [Bool.and_eq_true, List.isPrefixOf_iff_prefix] at here
  obtain ⟨tail, split⟩ := here.1
  have next : (w ++ tail)[rest.length]? = some c := by
    rw [split, List.getElem?_append_right (Nat.le_refl _), Nat.sub_self]
    rfl
  rw [List.getElem?_append_left long] at next
  exact List.mem_of_getElem? next

theorem local_word (ends : more.head?.any after = false)
    (apart : ∀ done rest, text = done ++ rest → rest ≠ [] →
      Apart before after words (lastOr prev done) rest more) :
    (word before after words).Local prev text more :=
  fun done rest split some_ =>
    ⟨word_append ends (apart done rest split some_), fun _ _ found => by
      obtain ⟨-, rfl, lead⟩ := word_found found
      exact lead.length_le⟩

/-- No word begins with the character. -/
theorem word_miss (free : ∀ w ∈ words, w.head? ≠ some c ∧ w ≠ []) :
    word before after words prev (c :: rest) = none := by
  unfold word
  split
  · rfl
  · rw [List.find?_eq_none.mpr]
    · rfl
    · intro w member here
      unfold stands at here
      rw [Bool.and_eq_true, List.isPrefixOf_iff_prefix] at here
      obtain ⟨differs, some_⟩ := free w member
      obtain ⟨x, w', rfl⟩ := List.exists_cons_of_ne_nil some_
      obtain ⟨tail, split⟩ := here.1
      rw [List.cons_append] at split
      exact differs (by rw [(List.cons.inj split).1]; rfl)

end Words

end Reader
