import Mathlib.Algebra.Order.Field.Basic
import Mathlib.Algebra.Order.Ring.Rat
import Mathlib.Tactic.Linarith
import Mathlib.Tactic.Positivity
import Mathlib.Tactic.Ring
import RangeApply.Forms
import RangeApply.Greedy

/-! The number that a numeric field is filled with, against the number that the answer states. -/
namespace RangeApply

/-- What `\d` takes: the ASCII digits among others, and none of the signs within a number. -/
structure Digits (u : Unicode) : Prop where
  ascii : ∀ c : Char, c.isDigit → u.decimal c = true
  minus : u.decimal '-' = false
  comma : u.decimal ',' = false
  point : u.decimal '.' = false

/-! ### The first number of a text -/

def digitsRe : Regex := .rep (.set .decimal) 1 none

def separator : CharSet := .union (.one '.') (.one ',')

def fractionRe : Regex := .seq (.set separator) digitsRe

theorem numberRe_regex : numberRe.regex =
    .seq (.seq (.rep (.set (.one '-')) 0 (some 1)) digitsRe) (.rep fractionRe 0 (some 1)) := rfl

section Search
variable {u : Unicode} {front sign whole part rest before : Text} {c : Cursor}
  {groups : List (Nat × List Char)} {x : Char}

theorem misses_of_clean (clean : ∀ c ∈ rest, u.decimal c = false) :
    Regex.Misses u false .decimal rest :=
  fun x head => clean x (List.mem_of_mem_head? head)

theorem misses_cons (miss : u.decimal x = false) : Regex.Misses u false .decimal (x :: rest) := by
  intro y head
  cases head
  exact miss

/-- A number at a place, as the parts of the pattern are met one after the other. -/
theorem matchAt_eq (c : Cursor) : numberRe.matchAt u c =
    ((Regex.rep (.set (.one '-')) 0 (some 1)).run u false c fun c =>
      digitsRe.run u false c fun c =>
        (Regex.rep fractionRe 0 (some 1)).run u false c some).map (Match.mk c) := by
  unfold Pattern.matchAt
  rw [numberRe_regex, Regex.run_seq, Regex.run_seq]
  rfl

/-- No number begins at a character that is no digit, unless it is a minus before one. -/
theorem matchAt_miss (miss : u.decimal x = false)
    (minus : x = '-' → Regex.Misses u false .decimal rest) :
    numberRe.matchAt u (.at_ before (x :: rest)) = none := by
  have digits (k : Cursor → Option Cursor) :
      digitsRe.run u false (.at_ before (x :: rest)) k = none :=
    Regex.run_plus_miss (misses_cons miss)
  rw [matchAt_eq, Regex.run_optional_eq, digits]
  by_cases same : x = '-'
  · subst same
    have later (k : Cursor → Option Cursor) :
        digitsRe.run u false ⟨'-' :: before, rest, []⟩ k = none :=
      Regex.run_plus_miss (minus rfl)
    unfold Cursor.at_
    rw [Regex.run_set_cons (by simp [CharSet.has]), if_pos (by simp), later]
    rfl
  · rw [Regex.run_set_miss fun y head => by cases head; simpa [CharSet.has] using same]
    rfl

/-- What stands after the whole digits: a separator with more digits, or no digit at all. -/
inductive Fraction (u : Unicode) : Text → Text → Prop
  | none_ {rest : Text} (clean : ∀ c ∈ rest, u.decimal c = false) : Fraction u [] rest
  | some_ {x d : Char} {ds rest : Text} (sep : x = '.' ∨ x = ',')
      (digits : ∀ c ∈ d :: ds, u.decimal c = true) (miss : Regex.Misses u false .decimal rest) :
      Fraction u (x :: d :: ds) rest

theorem Fraction.misses (digits : Digits u) (fraction : Fraction u part rest) :
    Regex.Misses u false .decimal (part ++ rest) := by
  cases fraction with
  | none_ clean => exact misses_of_clean clean
  | some_ sep =>
    refine misses_cons ?_
    rcases sep with rfl | rfl
    · exact digits.point
    · exact digits.comma

theorem run_fraction (fraction : Fraction u part rest) :
    (Regex.rep fractionRe 0 (some 1)).run u false ⟨before, part ++ rest, groups⟩ some =
      some ⟨part.reverse ++ before, rest, groups⟩ := by
  cases fraction with
  | some_ sep all miss =>
    refine Regex.run_optional_taken ?_
    unfold fractionRe
    rw [Regex.run_seq, List.cons_append, Regex.run_set_cons (by
      rcases sep with rfl | rfl
      · rfl
      · rfl)]
    refine (Regex.run_plus all miss (if_pos ?_)).trans ?_
    · simp only [List.length_append, List.length_cons]
      omega
    · simp
  | none_ clean =>
    refine Regex.run_optional_left fun k => ?_
    unfold fractionRe
    rw [Regex.run_seq, List.nil_append]
    cases rest with
    | nil => rfl
    | cons x rest =>
      have miss : Regex.Misses u false .decimal rest :=
        misses_of_clean fun c member => clean c (List.mem_cons_of_mem x member)
      by_cases sep : separator.has u false x = true
      · rw [Regex.run_set_cons sep]
        exact Regex.run_plus_miss miss
      · refine Regex.run_set_miss fun y head => ?_
        cases head
        simpa using sep

/-- The number at a place where one begins. -/
theorem matchAt_number (digits : Digits u) (sign_ : sign = [] ∨ sign = ['-']) {w : Char}
    (all : ∀ c ∈ w :: whole, u.decimal c = true) (fraction : Fraction u part rest) :
    numberRe.matchAt u (.at_ before (sign ++ (w :: whole) ++ part ++ rest)) =
      some ⟨.at_ before (sign ++ (w :: whole) ++ part ++ rest),
        ⟨(sign ++ (w :: whole) ++ part).reverse ++ before, rest, []⟩⟩ := by
  have number (before : Text) : (digitsRe.run u false ⟨before, w :: whole ++ (part ++ rest), []⟩
      fun c => (Regex.rep fractionRe 0 (some 1)).run u false c some) =
      some ⟨(w :: whole ++ part).reverse ++ before, rest, []⟩ := by
    refine Regex.run_plus all (fraction.misses digits) ?_
    rw [run_fraction fraction, List.reverse_append, List.append_assoc]
  rw [matchAt_eq]
  refine (Option.map_eq_some_iff).mpr ⟨_, ?_, rfl⟩
  rcases sign_ with rfl | rfl
  · have plain : w ≠ '-' := by
      rintro rfl
      have digit := all '-' List.mem_cons_self
      rw [digits.minus] at digit
      cases digit
    rw [List.nil_append, List.append_assoc, Regex.run_optional_left fun k =>
      Regex.run_set_miss fun y head => by cases head; simpa [CharSet.has] using plain]
    exact number before
  · refine Regex.run_optional_taken ?_
    unfold Cursor.at_
    rw [List.append_assoc, List.append_assoc, List.singleton_append,
      Regex.run_set_cons (by simp [CharSet.has])]
    refine (if_pos (by simp)).trans ((number _).trans ?_)
    simp

/-- The first number of a text that has none before it. -/
theorem search_number (digits : Digits u) (sign_ : sign = [] ∨ sign = ['-']) {w : Char}
    (all : ∀ c ∈ w :: whole, u.decimal c = true) (fraction : Fraction u part rest)
    (clean : ∀ c ∈ front, u.decimal c = false)
    (own : sign = [] → front.getLast? ≠ some '-') :
    ∃ m, numberRe.search u (front ++ (sign ++ (w :: whole) ++ part ++ rest)) = some m ∧
      m.text = sign ++ (w :: whole) ++ part := by
  have found : numberRe.matchAt u (.at_ front.reverse (sign ++ (w :: whole) ++ part ++ rest)) =
      some ⟨.at_ front.reverse (sign ++ (w :: whole) ++ part ++ rest),
        ⟨(sign ++ (w :: whole) ++ part).reverse ++ front.reverse, rest, []⟩⟩ :=
    matchAt_number digits sign_ all fraction
  refine ⟨⟨.at_ front.reverse (sign ++ (w :: whole) ++ part ++ rest),
    ⟨(sign ++ (w :: whole) ++ part).reverse ++ front.reverse, rest, []⟩⟩, ?_, ?_⟩
  · unfold Pattern.search
    rw [Pattern.searchFrom_skip, List.append_nil]
    · exact Pattern.searchFrom_found found
    · rintro done x more rfl
      refine matchAt_miss (clean x (by simp)) ?_
      rintro rfl
      cases more with
      | cons y more => exact misses_cons (clean y (by simp))
      | nil =>
        rcases sign_ with rfl | rfl
        · exact absurd (by simp) (own rfl)
        · exact misses_cons digits.minus
  · unfold Match.text Cursor.upTo Cursor.at_
    dsimp only
    rw [List.length_append, Nat.add_sub_cancel, List.take_left]

/-- A text without digits has no number. -/
theorem search_none (clean : ∀ c ∈ rest, u.decimal c = false) :
    numberRe.search u rest = none := by
  have skipped : numberRe.searchFrom u [] (rest ++ []) = numberRe.searchFrom u (rest.reverse ++ []) [] :=
    Pattern.searchFrom_skip fun done x more split => matchAt_miss (clean x (by rw [split]; simp)) fun _ =>
      misses_of_clean fun c member => clean c (by
        rw [split]
        simpa using .inr (.inr (by simpa using member)))
  unfold Pattern.search
  rw [List.append_nil] at skipped
  rw [skipped]
  unfold Pattern.searchFrom
  rw [matchAt_eq, Regex.run_optional_left fun k => rfl]
  rfl

end Search

/-! ### Numbers as they are written -/

/-- The value of a run of digits. -/
def digitsValue (ds : Text) : ℕ := ds.foldl (fun n c => 10 * n + (c.toNat - 48)) 0

/-- Western groups have three digits each; of Indian ones the last has three and the others two. -/
def Grouping (first : Text) (groups : List Text) : Prop :=
  (first.length ≤ 3 ∧ ∀ g ∈ groups, g.length = 3) ∨
  (first.length ≤ 2 ∧ ∃ pairs last, groups = pairs ++ [last] ∧ (∀ g ∈ pairs, g.length = 2) ∧
    last.length = 3)

/-- An integer with or without groups, and with or without a decimal part after a point. -/
structure Numeral where
  first : Text
  groups : List Text
  decimals : Text
  first_ne : first ≠ []
  digits : ∀ c ∈ first ++ groups.flatten ++ decimals, c.isDigit
  grouped : groups ≠ [] → first.head? ≠ some '0' ∧ Grouping first groups

namespace Numeral
variable (n : Numeral)

def spelled : Text :=
  n.first ++ n.groups.flatMap (',' :: ·) ++ if n.decimals = [] then [] else '.' :: n.decimals

def value : ℚ :=
  digitsValue (n.first ++ n.groups.flatten) + digitsValue n.decimals / 10 ^ n.decimals.length

end Numeral

/-- An answer that states one number. A hyphen after a word joins the number to it; any other before
the digits is a sign. -/
structure Stated (u : Unicode) where
  before : Text
  negative : Bool
  numeral : Numeral
  after : Text
  clean : ∀ c ∈ before ++ after, u.decimal c = false
  signed : negative → ∀ x ∈ before.getLast?, CharSet.word.has u false x = false
  joined : negative = false → before.getLast? = some '-' →
    ∃ x ∈ before.dropLast.getLast?, CharSet.word.has u false x = true

namespace Stated
variable {u : Unicode} (s : Stated u)

def text : Text := s.before ++ (if s.negative then ['-'] else []) ++ s.numeral.spelled ++ s.after

def value : ℚ := if s.negative then -s.numeral.value else s.numeral.value

/-- A hyphen joins the number to the word before it. -/
def Joined : Prop := s.negative = false ∧ s.before.getLast? = some '-'

end Stated

/-- The number that a text denotes in plain notation: a sign, digits, and digits after a point. -/
def unsignedReading (text : Text) : Option ℚ :=
  let whole := text.takeWhile Char.isDigit
  if whole = [] then none
  else match text.dropWhile Char.isDigit with
    | [] => some (digitsValue whole : ℚ)
    | '.' :: decimals =>
      if decimals ≠ [] ∧ decimals.all Char.isDigit then
        some ((digitsValue whole : ℚ) + digitsValue decimals / 10 ^ decimals.length)
      else none
    | _ => none

def reading : Text → Option ℚ
  | '-' :: text => (unsignedReading text).map (- ·)
  | text => unsignedReading text

/-! ### Values of digits -/

theorem digitsValue_append (ds es : Text) :
    digitsValue (ds ++ es) = digitsValue ds * 10 ^ es.length + digitsValue es := by
  have all (es : Text) (n : ℕ) : es.foldl (fun n c => 10 * n + (c.toNat - 48)) n =
      n * 10 ^ es.length + digitsValue es := by
    unfold digitsValue
    induction es generalizing n with
    | nil => simp
    | cons c es ih =>
      rw [List.foldl_cons, List.foldl_cons, ih, ih (10 * 0 + _), List.length_cons, pow_succ]
      ring
  rw [digitsValue, List.foldl_append]
  exact all es _

theorem digit_bounds {c : Char} (digit : c.isDigit) : 48 ≤ c.toNat ∧ c.toNat ≤ 57 := by
  simpa [Char.isDigit, UInt32.le_iff_toNat_le] using digit

theorem digitsValue_lt {ds : Text} (digits : ∀ c ∈ ds, c.isDigit) :
    digitsValue ds < 10 ^ ds.length := by
  induction ds using List.reverseRecOn with
  | nil => simp [digitsValue]
  | append_singleton ds c ih =>
    have before := ih fun d member => digits d (List.mem_append_left _ member)
    have last := digit_bounds (digits c (by simp))
    have one : digitsValue [c] = c.toNat - 48 := by simp [digitsValue]
    rw [digitsValue_append, one, List.length_append, List.length_singleton, pow_one, pow_succ]
    omega

theorem digitsValue_pos {ds : Text} (digits : ∀ c ∈ ds, c.isDigit) (some_ : ds ≠ [])
    (lead : ds.head? ≠ some '0') : 0 < digitsValue ds := by
  cases ds with
  | nil => exact absurd rfl some_
  | cons c ds =>
    have split := digitsValue_append [c] ds
    have one : digitsValue [c] = c.toNat - 48 := by simp [digitsValue]
    have bounds := digit_bounds (digits c List.mem_cons_self)
    have differs : c.toNat ≠ 48 := by
      intro zero
      exact lead (congrArg some (Char.ext (UInt32.toNat_inj.mp zero)))
    have positive : 0 < (c.toNat - 48) * 10 ^ ds.length := by
      have power : 0 < 10 ^ ds.length := Nat.pos_of_ne_zero (by simp)
      exact Nat.mul_pos (by omega) power
    rw [List.singleton_append, one] at split
    omega

/-! ### What the field is filled with -/

theorem unsignedReading_digits {whole decimals : Text} (some_ : whole ≠ [])
    (digits : ∀ c ∈ whole, c.isDigit) (more : ∀ c ∈ decimals, c.isDigit) :
    unsignedReading (whole ++ if decimals = [] then [] else '.' :: decimals) =
      some ((digitsValue whole : ℚ) + digitsValue decimals / 10 ^ decimals.length) := by
  have stop (rest : Text) : List.takeWhile Char.isDigit (whole ++ '.' :: rest) = whole ∧
      List.dropWhile Char.isDigit (whole ++ '.' :: rest) = '.' :: rest := by
    constructor
    · rw [List.takeWhile_append_of_pos digits]
      simp [Char.isDigit]
    · rw [List.dropWhile_append_of_pos digits]
      simp [Char.isDigit]
  unfold unsignedReading
  by_cases empty : decimals = []
  · subst empty
    have all : List.takeWhile Char.isDigit whole = whole := List.takeWhile_eq_self_iff.mpr digits
    have none_ : List.dropWhile Char.isDigit whole = [] := List.dropWhile_eq_nil_iff.mpr digits
    simp [all, none_, some_, digitsValue]
  · simp only [if_neg empty, stop decimals, if_neg some_]
    rw [if_pos ⟨empty, by simpa using more⟩]

namespace Numeral
variable (n : Numeral)

/-- The digits that are read after the point: those of the second group, if there is one. -/
def readDecimals : Text := n.groups.headD n.decimals

def readPart : Text :=
  match n.groups with
  | g :: _ => ',' :: g
  | [] => if n.decimals = [] then [] else '.' :: n.decimals

/-- What is not read. -/
def unread : Text :=
  match n.groups with
  | _ :: groups =>
    groups.flatMap (',' :: ·) ++ if n.decimals = [] then [] else '.' :: n.decimals
  | [] => []

theorem spelled_eq : n.spelled = n.first ++ n.readPart ++ n.unread := by
  unfold spelled readPart unread
  cases n.groups with
  | nil => simp
  | cons g groups => simp

theorem first_digits : ∀ c ∈ n.first, c.isDigit :=
  fun c member => n.digits c (List.mem_append_left _ (List.mem_append_left _ member))

theorem group_digits {g : Text} (member : g ∈ n.groups) : ∀ c ∈ g, c.isDigit := fun c here =>
  n.digits c (List.mem_append_left _ (List.mem_append_right _
    (List.mem_flatten.mpr ⟨g, member, here⟩)))

theorem decimals_digits : ∀ c ∈ n.decimals, c.isDigit :=
  fun c member => n.digits c (List.mem_append_right _ member)

theorem readDecimals_digits : ∀ c ∈ n.readDecimals, c.isDigit := by
  unfold readDecimals
  cases groups : n.groups with
  | nil => exact n.decimals_digits
  | cons g rest => exact n.group_digits (by rw [groups]; exact List.mem_cons_self)

theorem group_ne {g : Text} (member : g ∈ n.groups) : g ≠ [] := by
  obtain ⟨-, west | indian⟩ := n.grouped (List.ne_nil_of_mem member)
  · intro empty
    have length := west.2 g member
    rw [empty] at length
    cases length
  · obtain ⟨-, pairs, last, split, two, three⟩ := indian
    rw [split] at member
    rintro rfl
    rcases List.mem_append.mp member with pair | end_
    · cases two _ pair
    · rw [← List.mem_singleton.mp end_] at three
      cases three

theorem fraction {u : Unicode} (digits : Digits u) {after : Text}
    (clean : ∀ c ∈ after, u.decimal c = false) : Fraction u n.readPart (n.unread ++ after) := by
  have decimal {ds : Text} (all : ∀ c ∈ ds, c.isDigit) : ∀ c ∈ ds, u.decimal c = true :=
    fun c member => digits.ascii c (all c member)
  unfold readPart unread
  cases groups : n.groups with
  | nil =>
    cases decimals : n.decimals with
    | nil => exact .none_ clean
    | cons d ds =>
      refine .some_ (.inl rfl) (decimal ?_) (misses_of_clean clean)
      rw [← decimals]
      exact n.decimals_digits
  | cons g more =>
    have here : g ∈ n.groups := by
      rw [groups]
      exact List.mem_cons_self
    obtain ⟨d, ds, rfl⟩ := List.exists_cons_of_ne_nil (n.group_ne here)
    refine .some_ (.inr rfl) (decimal (n.group_digits here)) ?_
    cases more with
    | cons g' more => exact misses_cons digits.comma
    | nil =>
      dsimp only
      split
      · exact misses_of_clean clean
      · exact misses_cons digits.point

/-- What is read of the number, in the notation of the field. -/
def read : Text := n.first ++ if n.readDecimals = [] then [] else '.' :: n.readDecimals

theorem pointed : (n.first ++ n.readPart).map (fun c => if c = ',' then '.' else c) = n.read := by
  have plain {ds : Text} (all : ∀ c ∈ ds, c.isDigit) :
      ds.map (fun c => if c = ',' then '.' else c) = ds := by
    refine (List.map_congr_left fun c member => if_neg ?_).trans (List.map_id ds)
    rintro rfl
    exact absurd (all ',' member) (by decide)
  unfold readPart read readDecimals
  rw [List.map_append, plain n.first_digits]
  cases groups : n.groups with
  | nil =>
    by_cases empty : n.decimals = []
    · simp [empty]
    · simp [empty, plain n.decimals_digits]
  | cons g more =>
    have here : g ∈ n.groups := by
      rw [groups]
      exact List.mem_cons_self
    simp [n.group_ne here, plain (n.group_digits here)]

/-- The value that is read. -/
def readValue : ℚ := digitsValue n.first + digitsValue n.readDecimals / 10 ^ n.readDecimals.length

theorem reading_read : unsignedReading n.read = some n.readValue :=
  unsignedReading_digits n.first_ne n.first_digits n.readDecimals_digits

theorem readValue_nonneg : 0 ≤ n.readValue := by
  unfold readValue
  positivity

theorem value_nonneg : 0 ≤ n.value := by
  unfold value
  positivity

/-- The whole number is read only of a number without groups. -/
theorem readValue_eq_iff : n.readValue = n.value ↔ n.groups = [] := by
  constructor
  · intro same
    by_contra grouped
    obtain ⟨lead, -⟩ := n.grouped grouped
    have positive := digitsValue_pos n.first_digits n.first_ne lead
    obtain ⟨g, member⟩ := List.exists_mem_of_ne_nil _ grouped
    have some_ : n.groups.flatten ≠ [] := fun none_ =>
      n.group_ne member (List.flatten_eq_nil_iff.mp none_ g member)
    -- the groups make the number ten times what the first one says, at least
    have more : 10 * digitsValue n.first ≤ digitsValue (n.first ++ n.groups.flatten) := by
      rw [digitsValue_append]
      have power : 10 ^ 1 ≤ 10 ^ n.groups.flatten.length :=
        Nat.pow_le_pow_right (by decide) (List.length_pos_iff.mpr some_)
      nlinarith
    have fraction : (digitsValue n.readDecimals : ℚ) / 10 ^ n.readDecimals.length < 1 := by
      rw [div_lt_one (by positivity)]
      exact_mod_cast digitsValue_lt n.readDecimals_digits
    have rest : (0 : ℚ) ≤ digitsValue n.decimals / 10 ^ n.decimals.length := by positivity
    have more' : (10 : ℚ) * digitsValue n.first ≤ digitsValue (n.first ++ n.groups.flatten) := by
      exact_mod_cast more
    have one : (1 : ℚ) ≤ digitsValue n.first := by exact_mod_cast positive
    unfold readValue value at same
    linarith
  · intro plain
    unfold readValue value readDecimals
    rw [plain]
    simp

end Numeral

namespace Stated
variable {u : Unicode} (s : Stated u)

instance : Decidable s.Joined := inferInstanceAs (Decidable (_ ∧ _))

/-- The hyphen that is taken for a sign. -/
def sign : Text := if s.negative ∨ s.Joined then ['-'] else []

def front : Text := if s.Joined then s.before.dropLast else s.before

theorem text_eq : s.text =
    s.front ++ (s.sign ++ s.numeral.first ++ s.numeral.readPart ++ (s.numeral.unread ++ s.after)) := by
  have parts : s.before ++ (if s.negative then ['-'] else []) = s.front ++ s.sign := by
    unfold front sign
    by_cases joined : s.Joined
    · have last := List.dropLast_append_getLast? '-' joined.2
      simp [joined, joined.1, last]
    · simp [joined]
  unfold text
  rw [parts, s.numeral.spelled_eq]
  simp only [List.append_assoc]

theorem sign_cases : s.sign = [] ∨ s.sign = ['-'] := by
  unfold sign
  split
  · exact .inr rfl
  · exact .inl rfl

theorem front_clean : ∀ c ∈ s.front, u.decimal c = false := by
  intro c member
  refine s.clean c (List.mem_append_left _ ?_)
  unfold front at member
  split at member
  · exact List.mem_of_mem_dropLast member
  · exact member

theorem front_own (unsigned : s.sign = []) : s.front.getLast? ≠ some '-' := by
  unfold sign at unsigned
  split at unsigned
  · cases unsigned
  · rename_i plain
    obtain ⟨positive, apart⟩ := not_or.mp plain
    unfold front
    rw [if_neg apart]
    exact fun hyphen => apart ⟨by simpa using positive, hyphen⟩

/-- What the field is filled with. -/
theorem search_eq (digits : Digits u) : ∃ m, numberRe.search u s.text = some m ∧
    m.text.map (fun c => if c = ',' then '.' else c) = s.sign ++ s.numeral.read := by
  obtain ⟨w, whole, first⟩ := List.exists_cons_of_ne_nil s.numeral.first_ne
  have all : ∀ c ∈ w :: whole, u.decimal c = true := by
    rw [← first]
    exact fun c member => digits.ascii c (s.numeral.first_digits c member)
  have after : ∀ c ∈ s.after, u.decimal c = false :=
    fun c member => s.clean c (List.mem_append_right _ member)
  obtain ⟨m, found, text⟩ := search_number digits s.sign_cases all
    (s.numeral.fraction digits after) s.front_clean s.front_own
  rw [← first] at found text
  refine ⟨m, by rw [s.text_eq, found], ?_⟩
  rw [text, List.append_assoc, List.map_append, s.numeral.pointed]
  rcases s.sign_cases with none_ | minus
  · rw [none_]
    rfl
  · rw [minus]
    rfl

theorem reading_eq : reading (s.sign ++ s.numeral.read) =
    some (if s.negative ∨ s.Joined then -s.numeral.readValue else s.numeral.readValue) := by
  have read := s.numeral.reading_read
  unfold sign
  split
  · unfold reading
    simp [read]
  · obtain ⟨w, whole, first⟩ := List.exists_cons_of_ne_nil s.numeral.first_ne
    have plain : w ≠ '-' := by
      rintro rfl
      have digit := s.numeral.first_digits '-' (by rw [first]; exact List.mem_cons_self)
      cases digit
    rw [List.nil_append, ← read]
    unfold reading
    split
    · rename_i rest split_
      unfold Numeral.read at split_
      rw [first] at split_
      cases split_
      exact absurd rfl plain
    · rfl

theorem read_eq_iff : (if s.negative ∨ s.Joined then -s.numeral.readValue
    else s.numeral.readValue) = s.value ↔ s.numeral.groups = [] ∧ (s.Joined → s.value = 0) := by
  have read := s.numeral.readValue_nonneg
  have stated := s.numeral.value_nonneg
  rw [← s.numeral.readValue_eq_iff]
  unfold value
  by_cases negative : s.negative
  · have apart : ¬ s.Joined := fun joined => by
      rw [joined.1] at negative
      cases negative
    simp [negative, apart]
  · by_cases joined : s.Joined
    · simp only [negative, joined, or_true, if_true, forall_const]
      simp only [Bool.false_eq_true, if_false]
      constructor
      · intro same
        exact ⟨by linarith, by linarith⟩
      · rintro ⟨same, zero⟩
        linarith
    · simp [negative, joined]

end Stated

/-! ### The numeric field -/

/-- A numeric field is filled with the number that the answer states exactly when the number is
written without groups, and without a hyphen before it that is no sign, unless it is zero. A text
without a number is left to the candidate. -/
theorem numeric_fill_iff (env : FormEnv) (digits : Digits env.unicode) (field : FormField)
    (numeric : field.fieldType = .numeric) (base : FieldAnswer) (origin : Origin) :
    (∀ s : Stated env.unicode,
      (typed env field base s.text origin).status = .answered ∧
        (typed env field base s.text origin).answer.bind reading = some s.value ↔
      s.numeral.groups = [] ∧ (s.Joined → s.value = 0)) ∧
    ∀ text, (∀ c ∈ text, env.unicode.decimal c = false) →
      (typed env field base text origin).status =
        if base.required then .needsUserInput else .skipped := by
  constructor
  · intro s
    obtain ⟨m, found, text⟩ := s.search_eq digits
    unfold typed
    simp only [numeric, found, text, Option.bind_some, s.reading_eq, Option.some.injEq, true_and]
    exact s.read_eq_iff
  · intro text clean
    unfold typed
    simp only [numeric, search_none clean]
    rfl

/-! A salary in Indian groups. -/

def salaryField : FormField := ⟨none, "Expected salary".ascii, .numeric, true, []⟩

def salaryBase : FieldAnswer := baseAnswer salaryField "expected salary".ascii .other

def fromBank : Origin := ⟨.answerBank, [], "approved answer", none⟩

def twelveLakh : Stated .ascii where
  before := "INR ".ascii
  negative := false
  numeral :=
    { first := "12".ascii
      groups := ["00".ascii, "000".ascii]
      decimals := []
      first_ne := by decide
      digits := List.all_eq_true.mp (by decide)
      grouped := fun _ => ⟨by decide, .inr ⟨by decide, ["00".ascii], "000".ascii, rfl, by decide,
        by decide⟩⟩ }
  after := " a year".ascii
  clean c member := by
    have none_ : ("INR ".ascii ++ " a year".ascii).all (fun c => !c.isDigit) = true := by decide
    have plain : (!c.isDigit) = true := List.all_eq_true.mp none_ c member
    exact (Bool.not_eq_true' c.isDigit).mp plain
  signed := by decide
  joined := by decide

theorem ascii_digits : Digits .ascii := ⟨fun _ digit => digit, rfl, rfl, rfl⟩

theorem numeric_fill_iff_salary :
    Digits Unicode.ascii ∧ ((typed ⟨.ascii, fun _ _ => none⟩ salaryField salaryBase
        twelveLakh.text fromBank).status = .answered ∧
      (typed ⟨.ascii, fun _ _ => none⟩ salaryField salaryBase twelveLakh.text fromBank).answer.bind
        reading = some twelveLakh.value ↔
      twelveLakh.numeral.groups = [] ∧ (twelveLakh.Joined → twelveLakh.value = 0)) :=
  ⟨ascii_digits, (numeric_fill_iff ⟨.ascii, fun _ _ => none⟩ ascii_digits salaryField rfl salaryBase
    fromBank).1 twelveLakh⟩

/-- Twelve lakh are filled in as twelve. -/
theorem twelve_lakh_misread :
    ¬ ∀ (env : FormEnv) (field : FormField) (base : FieldAnswer) (origin : Origin)
      (s : Stated env.unicode), Digits env.unicode → field.fieldType = .numeric →
      (typed env field base s.text origin).answer.bind reading = some s.value := by
  intro law
  have filled := law ⟨.ascii, fun _ _ => none⟩ salaryField salaryBase fromBank twelveLakh
    ascii_digits rfl
  exact absurd filled (by decide +kernel)

end RangeApply
