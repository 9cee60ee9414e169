import Mathlib.Algebra.Group.Nat.Defs
import RangeApply.Message

/-! Diagnostics made safe to keep: values under keys that look like credentials are replaced, at
every depth the function descends to itself. What it turns into text instead, it turns whole. -/
namespace RangeApply.Diagnostics

/-! ### Values -/

/-- A decoded JSON value. A float is taken as its spelling. -/
inductive Data
  | null
  | bool (b : Bool)
  | int (n : Int)
  | float (spelling : Text)
  | str (t : Text)
  | list (items : List Data)
  | dict (fields : List (Text × Data))

abbrev Fields := List (Text × Data)

namespace Data

theorem induct {P : Data → Prop} (null : P null) (bool : ∀ b, P (bool b)) (int : ∀ n, P (int n))
    (float : ∀ spelling, P (float spelling)) (str : ∀ t, P (str t))
    (list : ∀ items, (∀ v ∈ items, P v) → P (list items))
    (dict : ∀ fields : Fields, (∀ f ∈ fields, P f.2) → P (dict fields)) (v : Data) : P v := by
  apply Data.rec (motive_1 := P) (motive_2 := fun items => ∀ v ∈ items, P v)
    (motive_3 := fun fields => ∀ f ∈ fields, P f.2) (motive_4 := fun f => P f.2)
    null bool int float str list dict
  · simp
  · exact fun _ _ first rest => List.forall_mem_cons.mpr ⟨first, rest⟩
  · simp
  · exact fun _ _ first rest => List.forall_mem_cons.mpr ⟨first, rest⟩
  · exact fun _ _ value => value

/-! ### Python's texts of values -/

def hexDigit (n : Nat) : Char := if n < 10 then Char.ofNat (48 + n) else Char.ofNat (87 + n)

/-- The lowest `width` hexadecimal digits. -/
def hex (width n : Nat) : Text := ((List.range width).reverse).map fun i => hexDigit (n / 16 ^ i % 16)

/-- One character as `repr` of a text spells it. -/
def spell (printable : Char → Bool) (quote c : Char) : Text :=
  if c = quote ∨ c = '\\' then ['\\', c]
  else if c = '\n' then ['\\', 'n']
  else if c = '\r' then ['\\', 'r']
  else if c = '\t' then ['\\', 't']
  else if c.toNat < 0x20 ∨ c.toNat = 0x7F then ['\\', 'x'] ++ hex 2 c.toNat
  else if c.toNat < 0x7F ∨ printable c = true then [c]
  else if c.toNat ≤ 0xFF then ['\\', 'x'] ++ hex 2 c.toNat
  else if c.toNat ≤ 0xFFFF then ['\\', 'u'] ++ hex 4 c.toNat
  else ['\\', 'U'] ++ hex 8 c.toNat

def quoted (printable : Char → Bool) (t : Text) : Text :=
  let quote := if '\'' ∈ t ∧ '"' ∉ t then '"' else '\''
  [quote] ++ t.flatMap (spell printable quote) ++ [quote]

/-- `str` of an integer raises ValueError beyond this many digits. -/
def maxStrDigits : Nat := 4300

def intText (n : Int) : Option Text :=
  if n.natAbs < 10 ^ maxStrDigits then some (toString n).toList else none

variable (printable : Char → Bool)

mutual

/-- `repr(value)`. -/
def repr : Data → Option Text
  | null => some "None".ascii
  | bool b => some (if b then "True".ascii else "False".ascii)
  | int n => intText n
  | float spelling => some spelling
  | str t => some (quoted printable t)
  | list items => do
    let parts ← reprItems items
    return ['['] ++ ", ".ascii.intercalate parts ++ [']']
  | dict fields => do
    let parts ← reprFields fields
    return [Char.ofNat 0x7B] ++ ", ".ascii.intercalate parts ++ [Char.ofNat 0x7D]

def reprItems : List Data → Option (List Text)
  | [] => some []
  | v :: rest => do
    let part ← repr v
    return part :: (← reprItems rest)

def reprFields : List (Text × Data) → Option (List Text)
  | [] => some []
  | (key, v) :: rest => do
    let part ← repr v
    return (quoted printable key ++ ": ".ascii ++ part) :: (← reprFields rest)

end

/-- `str(value)`. -/
def text : Data → Option Text
  | str t => some t
  | v => v.repr printable

end Data

/-! ### The function -/

def sensitiveKey : Pattern :=
  .of true false ("(password|passwd|secret|token|cookie|session|authorization|api[_-]?key|bearer|" ++
    "credential|otp|mfa[_-]?code)").ascii

def redacted : Data := .str "[redacted]".ascii

section Sanitize
variable (u : Unicode) (printable : Char → Bool)

/-- An item of a list: dictionaries are sanitised, the others are turned into text. -/
def sanitizeItem (below : Fields → Option Fields) : Data → Option Data
  | .dict fields => do return .dict (← below fields)
  | v => do return .str ((← v.text printable).take 200)

def sanitizeField (below : Fields → Option Fields) (f : Text × Data) : Option (Text × Data) :=
  if sensitiveKey.found u f.1 then some (f.1, redacted)
  else match f.2 with
    | .dict fields => do return (f.1, .dict (← below fields))
    | .list items => do
      return (f.1, .list (← (items.take 20).mapM (sanitizeItem printable below)))
    | .str t => some (f.1, .str (t.take 500))
    | v => some (f.1, v)

/-- `left` is 4 less the depth. There is no result when `str` of an integer raises. -/
def sanitizeAt : Nat → Fields → Option Fields
  | 0, _ => some []
  | left + 1, data => data.mapM (sanitizeField u printable (sanitizeAt left))

def sanitizeDiagnostics (data : Option Fields) : Option Fields :=
  sanitizeAt u printable 4 (data.getD [])

end Sanitize

/-! ### Secrets -/

namespace Data

section Cover
variable (u : Unicode) (w : Data)

mutual

/-- The value with everything under a sensitive key, at any depth, replaced. -/
def cover : Data → Data
  | list items => list (coverItems items)
  | dict fields => dict (coverFields fields)
  | v => v

def coverItems : List Data → List Data
  | [] => []
  | v :: rest => cover v :: coverItems rest

def coverFields : List (Text × Data) → List (Text × Data)
  | [] => []
  | (key, v) :: rest =>
    (key, if sensitiveKey.found u key then w else cover v) :: coverFields rest

end

def coverField (f : Text × Data) : Text × Data :=
  (f.1, if sensitiveKey.found u f.1 then w else cover u w f.2)

@[simp] theorem coverItems_eq (items : List Data) :
    coverItems u w items = items.map (cover u w) := by
  induction items with
  | nil => rfl
  | cons v rest ih => rw [coverItems, ih, List.map_cons]

@[simp] theorem coverFields_eq (fields : Fields) :
    coverFields u w fields = fields.map (coverField u w) := by
  induction fields with
  | nil => rfl
  | cons f rest ih => rw [coverFields, ih, List.map_cons, coverField]

end Cover

/-- Some dictionary in the value has a sensitive key. -/
inductive Secret (u : Unicode) : Data → Prop
  | key {f : Text × Data} {fields : Fields} (member : f ∈ fields)
    (found : sensitiveKey.found u f.1 = true) : Secret u (dict fields)
  | field {f : Text × Data} {fields : Fields} (member : f ∈ fields) (secret : Secret u f.2) :
    Secret u (dict fields)
  | item {v : Data} {items : List Data} (member : v ∈ items) (secret : Secret u v) :
    Secret u (list items)

/-- Some integer in the value is too long for `str`. -/
inductive Long : Data → Prop
  | int {n : Int} (long : 10 ^ maxStrDigits ≤ n.natAbs) : Long (int n)
  | field {f : Text × Data} {fields : Fields} (member : f ∈ fields) (long : Long f.2) :
    Long (dict fields)
  | item {v : Data} {items : List Data} (member : v ∈ items) (long : Long v) : Long (list items)

section Laws
variable {u : Unicode} {w w' : Data}

theorem cover_cover (v : Data) : cover u w (cover u w' v) = cover u w v := by
  induction v using Data.induct with
  | list items ih =>
    simp only [cover, coverItems_eq, List.map_map]
    exact congrArg list (List.map_congr_left ih)
  | dict fields ih =>
    simp only [cover, coverFields_eq, List.map_map]
    refine congrArg dict (List.map_congr_left fun f member => ?_)
    by_cases hidden : sensitiveKey.found u f.1 = true <;> simp [coverField, hidden, ih f member]
  | _ => rfl

/-- What is under sensitive keys does not matter to whether there are such keys. -/
theorem secret_cover (v : Data) : Secret u (cover u w v) ↔ Secret u v := by
  induction v using Data.induct with
  | list items ih =>
    rw [cover, coverItems_eq]
    constructor
    · intro secret
      cases secret with
      | item member secret =>
        obtain ⟨v, listed, rfl⟩ := List.mem_map.mp member
        exact .item listed ((ih v listed).mp secret)
    · intro secret
      cases secret with
      | @item v _ member secret =>
        exact .item (List.mem_map_of_mem member) ((ih v member).mpr secret)
  | dict fields ih =>
    rw [cover, coverFields_eq]
    constructor
    · intro secret
      cases secret with
      | key member found =>
        obtain ⟨f, listed, rfl⟩ := List.mem_map.mp member
        exact .key listed found
      | field member secret =>
        obtain ⟨f, listed, rfl⟩ := List.mem_map.mp member
        by_cases hidden : sensitiveKey.found u f.1 = true
        · exact .key listed hidden
        · rw [coverField, if_neg hidden] at secret
          exact .field listed ((ih f listed).mp secret)
    · intro secret
      cases secret with
      | key member found => exact .key (List.mem_map_of_mem member) found
      | @field f _ member secret =>
        by_cases hidden : sensitiveKey.found u f.1 = true
        · exact .key (List.mem_map_of_mem member) hidden
        · refine .field (List.mem_map_of_mem member) ?_
          rw [coverField, if_neg hidden]
          exact (ih f member).mpr secret
  | _ => rfl

theorem cover_of_open {v : Data} (unhidden : ¬Secret u v) : cover u w v = v := by
  induction v using Data.induct with
  | list items ih =>
    have same : ∀ v ∈ items, cover u w v = id v := fun v member =>
      ih v member fun secret => unhidden (.item member secret)
    rw [cover, coverItems_eq, List.map_congr_left same, List.map_id]
  | dict fields ih =>
    have same : ∀ f ∈ fields, coverField u w f = id f := by
      intro f member
      rw [coverField, if_neg fun found => unhidden (.key member found),
        ih f member fun secret => unhidden (.field member secret)]
      rfl
    rw [cover, coverFields_eq, List.map_congr_left same, List.map_id]
  | _ => rfl

theorem long_cover (long : Long w) {v : Data} (secret : Secret u v) : Long (cover u w v) := by
  induction secret with
  | @key f fields member found =>
    rw [cover, coverFields_eq]
    refine .field (List.mem_map_of_mem member) ?_
    rw [coverField, if_pos found]
    exact long
  | @field f fields member secret ih =>
    rw [cover, coverFields_eq]
    refine .field (List.mem_map_of_mem member) ?_
    unfold coverField
    split
    · exact long
    · exact ih
  | item member secret ih =>
    rw [cover, coverItems_eq]
    exact .item (List.mem_map_of_mem member) ih

end Laws

/-! ### Texts -/

section Texts
variable {printable : Char → Bool}

theorem isSome_mapM {α β : Type} {f : α → Option β} {l : List α} :
    (l.mapM f).isSome = true ↔ ∀ a ∈ l, (f a).isSome = true := by
  induction l with
  | nil => simp
  | cons a l ih =>
    rw [List.mapM_cons, List.forall_mem_cons, ← ih]
    cases f a <;> cases l.mapM f <;> simp

theorem mapM_congr {α β : Type} {f g : α → Option β} {l : List α} (same : ∀ a ∈ l, f a = g a) :
    l.mapM f = l.mapM g := by
  induction l with
  | nil => rfl
  | cons a l ih =>
    obtain ⟨here, rest⟩ := List.forall_mem_cons.mp same
    rw [List.mapM_cons, List.mapM_cons, here, ih rest]

theorem mem_of_mapM {α β : Type} {f : α → Option β} {l : List α} {out : List β}
    (ran : l.mapM f = some out) {b : β} (member : b ∈ out) : ∃ a ∈ l, f a = some b := by
  induction l generalizing out with
  | nil =>
    cases ran
    cases member
  | cons a l ih =>
    rw [List.mapM_cons] at ran
    obtain ⟨first, here, ran⟩ := Option.bind_eq_some_iff.mp ran
    obtain ⟨rest, later, ran⟩ := Option.bind_eq_some_iff.mp ran
    cases ran
    rcases List.mem_cons.mp member with rfl | member
    · exact ⟨a, List.mem_cons_self, here⟩
    · obtain ⟨a', listed, found⟩ := ih later member
      exact ⟨a', List.mem_cons_of_mem a listed, found⟩

theorem reprItems_eq (items : List Data) :
    reprItems printable items = items.mapM (repr printable) := by
  induction items with
  | nil => rfl
  | cons v rest ih => rw [reprItems, ih, List.mapM_cons]

theorem reprFields_eq (fields : Fields) : reprFields printable fields = fields.mapM fun f => do
    return quoted printable f.1 ++ ": ".ascii ++ (← repr printable f.2) := by
  induction fields with
  | nil => rfl
  | cons f rest ih =>
    rw [reprFields, ih, List.mapM_cons]
    cases repr printable f.2 <;> rfl

/-- Only long integers have no text. -/
theorem isSome_repr (v : Data) : (repr printable v).isSome = true ↔ ¬Long v := by
  induction v using Data.induct with
  | int n =>
    have long : Long (int n) ↔ 10 ^ maxStrDigits ≤ n.natAbs :=
      ⟨fun long => by cases long; assumption, .int⟩
    rw [long, Nat.not_le, repr, intText]
    split <;> simp [*]
  | list items ih =>
    have long : Long (list items) ↔ ∃ v ∈ items, Long v :=
      ⟨fun long => by cases long with | item member long => exact ⟨_, member, long⟩,
        fun ⟨_, member, long⟩ => .item member long⟩
    have parts : (repr printable (list items)).isSome = (reprItems printable items).isSome := by
      rw [repr]
      cases reprItems printable items <;> rfl
    rw [parts, reprItems_eq, isSome_mapM, long]
    simp only [not_exists, not_and]
    exact forall₂_congr ih
  | dict fields ih =>
    have long : Long (dict fields) ↔ ∃ f ∈ fields, Long f.2 :=
      ⟨fun long => by cases long with | field member long => exact ⟨_, member, long⟩,
        fun ⟨_, member, long⟩ => .field member long⟩
    have parts : (repr printable (dict fields)).isSome = (reprFields printable fields).isSome := by
      rw [repr]
      cases reprFields printable fields <;> rfl
    rw [parts, reprFields_eq, isSome_mapM, long]
    simp only [not_exists, not_and]
    refine forall₂_congr fun f member => ?_
    rw [← ih f member]
    cases repr printable f.2 <;> simp
  | _ =>
    refine iff_of_true rfl ?_
    rintro ⟨⟩

theorem isSome_text (v : Data) : (v.text printable).isSome = true ↔ ¬Long v := by
  cases v with
  | str t =>
    refine iff_of_true rfl ?_
    rintro ⟨⟩
  | _ => exact isSome_repr _

end Texts

end Data

/-! ### What is turned into text -/

section Printed
variable (u : Unicode)

/-- The value is an item of a list, and is turned into text as a whole. -/
inductive Printed : Nat → Fields → Data → Prop
  | item {left : Nat} {data : Fields} {key : Text} {items : List Data} {v : Data}
    (field : (key, .list items) ∈ data) (unhidden : ¬sensitiveKey.found u key = true)
    (among : v ∈ items.take 20) (whole : ∀ fields, v ≠ .dict fields) : Printed (left + 1) data v
  | listed {left : Nat} {data fields : Fields} {key : Text} {items : List Data} {v : Data}
    (field : (key, .list items) ∈ data) (unhidden : ¬sensitiveKey.found u key = true)
    (among : .dict fields ∈ items.take 20) (below : Printed left fields v) :
    Printed (left + 1) data v
  | nested {left : Nat} {data fields : Fields} {key : Text} {v : Data}
    (field : (key, .dict fields) ∈ data) (unhidden : ¬sensitiveKey.found u key = true)
    (below : Printed left fields v) : Printed (left + 1) data v

/-- The dictionary with everything under a sensitive key replaced. -/
def covered (w : Data) (data : Fields) : Fields := data.map (Data.coverField u w)

end Printed

namespace Data
variable {u : Unicode} {w : Data}

theorem cover_list (items : List Data) : cover u w (list items) = list (items.map (cover u w)) := by
  rw [cover, coverItems_eq]

theorem cover_dict (fields : Fields) : cover u w (dict fields) = dict (covered u w fields) := by
  rw [cover, coverFields_eq, covered]

theorem cover_eq_list {v : Data} {items : List Data} (covers : cover u w v = list items) :
    ∃ items', v = list items' ∧ items = items'.map (cover u w) := by
  cases v with
  | list items' =>
    rw [cover_list] at covers
    exact ⟨items', rfl, (list.inj covers).symm⟩
  | _ => cases covers

theorem cover_eq_dict {v : Data} {fields : Fields} (covers : cover u w v = dict fields) :
    ∃ fields', v = dict fields' ∧ fields = covered u w fields' := by
  cases v with
  | dict fields' =>
    rw [cover_dict] at covers
    exact ⟨fields', rfl, (dict.inj covers).symm⟩
  | _ => cases covers

theorem mem_covered {data : Fields} {key : Text} {v : Data}
    (unhidden : ¬sensitiveKey.found u key = true) :
    (key, v) ∈ covered u w data ↔ ∃ v', (key, v') ∈ data ∧ cover u w v' = v := by
  constructor
  · intro member
    obtain ⟨f, listed, covers⟩ := List.mem_map.mp member
    obtain ⟨rfl, value⟩ := Prod.mk.inj covers
    rw [if_neg unhidden] at value
    exact ⟨f.2, listed, value⟩
  · rintro ⟨v', listed, rfl⟩
    refine List.mem_map.mpr ⟨(key, v'), listed, ?_⟩
    rw [coverField, if_neg unhidden]

end Data

section Covered
variable {u : Unicode} {printable : Char → Bool} {w : Data}
open Data

theorem Printed.covered {left : Nat} {data : Fields} {v : Data} (printed : Printed u left data v) :
    Printed u left (covered u w data) (cover u w v) := by
  induction printed with
  | item field unhidden among whole =>
    refine .item ((mem_covered unhidden).mpr ⟨_, field, cover_list _⟩) unhidden ?_ ?_
    · rw [← List.map_take]
      exact List.mem_map_of_mem among
    · intro fields covers
      obtain ⟨fields', rfl, -⟩ := cover_eq_dict covers
      exact whole fields' rfl
  | listed field unhidden among below ih =>
    refine .listed ((mem_covered unhidden).mpr ⟨_, field, cover_list _⟩) unhidden ?_ ih
    rw [← List.map_take, ← cover_dict]
    exact List.mem_map_of_mem among
  | nested field unhidden below ih =>
    exact .nested ((mem_covered unhidden).mpr ⟨_, field, cover_dict _⟩) unhidden ih

theorem Printed.uncovered {left : Nat} {data : Fields} {v : Data}
    (printed : Printed u left (Diagnostics.covered u w data) v) :
    ∃ v', Printed u left data v' ∧ cover u w v' = v := by
  induction left generalizing data with
  | zero => cases printed
  | succ left ih =>
    cases printed with
    | item field unhidden among whole =>
      obtain ⟨v', field', covers⟩ := (mem_covered unhidden).mp field
      obtain ⟨items, rfl, rfl⟩ := cover_eq_list covers
      rw [← List.map_take] at among
      obtain ⟨item, among', rfl⟩ := List.mem_map.mp among
      refine ⟨item, .item field' unhidden among' ?_, rfl⟩
      rintro fields rfl
      exact whole _ (cover_dict fields)
    | listed field unhidden among below =>
      obtain ⟨v', field', covers⟩ := (mem_covered unhidden).mp field
      obtain ⟨items, rfl, rfl⟩ := cover_eq_list covers
      rw [← List.map_take] at among
      obtain ⟨item, among', isDict⟩ := List.mem_map.mp among
      obtain ⟨fields, rfl, rfl⟩ := cover_eq_dict isDict
      obtain ⟨v', below', covers⟩ := ih below
      exact ⟨v', .listed field' unhidden among' below', covers⟩
    | nested field unhidden below =>
      obtain ⟨v', field', covers⟩ := (mem_covered unhidden).mp field
      obtain ⟨fields, rfl, rfl⟩ := cover_eq_dict covers
      obtain ⟨v', below', covers⟩ := ih below
      exact ⟨v', .nested field' unhidden below', covers⟩

/-! ### When there is a result, and what it depends on -/

variable {below : Fields → Option Fields}

theorem isSome_field_list {key : Text} (unhidden : ¬sensitiveKey.found u key = true)
    (items : List Data) :
    (sanitizeField u printable below (key, .list items)).isSome = true ↔
      ∀ v ∈ items.take 20, (sanitizeItem printable below v).isSome = true := by
  rw [sanitizeField, if_neg unhidden, ← isSome_mapM]
  dsimp only
  cases (items.take 20).mapM (sanitizeItem printable below) <;> simp

theorem isSome_field_dict {key : Text} (unhidden : ¬sensitiveKey.found u key = true)
    (fields : Fields) :
    (sanitizeField u printable below (key, .dict fields)).isSome = true ↔
      (below fields).isSome = true := by
  rw [sanitizeField, if_neg unhidden]
  dsimp only
  cases below fields <;> simp

theorem isSome_item_dict (fields : Fields) :
    (sanitizeItem printable below (.dict fields)).isSome = true ↔ (below fields).isSome = true := by
  rw [sanitizeItem]
  cases below fields <;> simp

theorem sanitizeItem_whole {v : Data} (whole : ∀ fields, v ≠ .dict fields) :
    sanitizeItem printable below v = (v.text printable).map fun t => .str (t.take 200) := by
  unfold sanitizeItem
  split
  · exact absurd rfl (whole _)
  · generalize Data.text printable _ = text
    cases text <;> rfl

theorem isSome_sanitizeAt (left : Nat) (data : Fields) :
    (sanitizeAt u printable left data).isSome = true ↔ ∀ v, Printed u left data v → ¬Long v := by
  induction left generalizing data with
  | zero =>
    refine iff_of_true rfl ?_
    rintro v ⟨⟩
  | succ left ih =>
    rw [sanitizeAt, isSome_mapM]
    constructor
    · intro all v printed
      cases printed with
      | item field unhidden among whole =>
        have item := (isSome_field_list unhidden _).mp (all _ field) v among
        rw [sanitizeItem_whole whole, Option.isSome_map] at item
        exact (isSome_text v).mp item
      | listed field unhidden among below =>
        have item := (isSome_field_list unhidden _).mp (all _ field) _ among
        exact (ih _).mp ((isSome_item_dict _).mp item) v below
      | nested field unhidden below =>
        exact (ih _).mp ((isSome_field_dict unhidden _).mp (all _ field)) v below
    · rintro clear ⟨key, value⟩ field
      by_cases hidden : sensitiveKey.found u key = true
      · rw [sanitizeField, if_pos hidden]
        rfl
      cases value with
      | dict fields =>
        exact (isSome_field_dict hidden _).mpr
          ((ih _).mpr fun v below => clear v (.nested field hidden below))
      | list items =>
        refine (isSome_field_list hidden _).mpr fun v among => ?_
        by_cases dictionary : ∃ fields, v = .dict fields
        · obtain ⟨fields, rfl⟩ := dictionary
          exact (isSome_item_dict _).mpr
            ((ih _).mpr fun v below => clear v (.listed field hidden among below))
        · have whole := not_exists.mp dictionary
          rw [sanitizeItem_whole whole, Option.isSome_map]
          exact (isSome_text v).mpr (clear v (.item field hidden among whole))
      | _ =>
        rw [sanitizeField, if_neg hidden]
        rfl

theorem sanitizeItem_covered {below : Fields → Option Fields} {v : Data}
    (same : ∀ fields, v = .dict fields → below (Diagnostics.covered u w fields) = below fields)
    (unhidden : (∀ fields, v ≠ .dict fields) → ¬Secret u v) :
    sanitizeItem printable below (cover u w v) = sanitizeItem printable below v := by
  by_cases dictionary : ∃ fields, v = .dict fields
  · obtain ⟨fields, rfl⟩ := dictionary
    rw [cover_dict, sanitizeItem, sanitizeItem, same fields rfl]
  · rw [cover_of_open (unhidden (not_exists.mp dictionary))]

/-- As long as nothing with a sensitive key is turned into text, what is under such keys does not
matter. -/
theorem sanitizeAt_covered (left : Nat) (data : Fields)
    (unhidden : ∀ v, Printed u left data v → ¬Secret u v) :
    sanitizeAt u printable left (Diagnostics.covered u w data) =
      sanitizeAt u printable left data := by
  induction left generalizing data with
  | zero => rfl
  | succ left ih =>
    rw [sanitizeAt, sanitizeAt, Diagnostics.covered, List.mapM_map]
    refine mapM_congr fun f field => ?_
    obtain ⟨key, value⟩ := f
    by_cases hidden : sensitiveKey.found u key = true
    · simp only [Function.comp_apply, sanitizeField, coverField, hidden, if_true]
    rw [Function.comp_apply, coverField, if_neg hidden, sanitizeField, sanitizeField, if_neg hidden,
      if_neg hidden]
    cases value with
    | dict fields =>
      dsimp only
      rw [cover_dict]
      dsimp only
      rw [ih fields fun v below => unhidden v (.nested field hidden below)]
    | list items =>
      dsimp only
      rw [cover_list]
      dsimp only
      rw [← List.map_take, List.mapM_map]
      have items : ∀ v ∈ items.take 20, (sanitizeItem printable (sanitizeAt u printable left) ∘
          cover u w) v = sanitizeItem printable (sanitizeAt u printable left) v := by
        intro v among
        refine sanitizeItem_covered ?_ fun whole => unhidden v (.item field hidden among whole)
        rintro fields rfl
        exact ih fields fun v below => unhidden v (.listed field hidden among below)
      rw [mapM_congr items]
    | _ => rfl

end Covered

/-! ### The result -/

section Result
variable {u : Unicode} {printable : Char → Bool}
open Data

theorem covered_of_forall {fields : Fields} {w : Data}
    (each : ∀ f ∈ fields, coverField u w f = f) : covered u w fields = fields := by
  rw [covered, List.map_congr_left (g := id) each, List.map_id]

theorem redacted_item {below : Fields → Option Fields} {v v' : Data}
    (clean : ∀ {fields out}, below fields = some out → covered u redacted out = out)
    (ran : sanitizeItem printable below v = some v') : cover u redacted v' = v' := by
  by_cases dictionary : ∃ fields, v = .dict fields
  · obtain ⟨fields, rfl⟩ := dictionary
    rw [sanitizeItem] at ran
    obtain ⟨out, inner, ran⟩ := Option.bind_eq_some_iff.mp ran
    cases ran
    rw [cover_dict, clean inner]
  · rw [sanitizeItem_whole (not_exists.mp dictionary)] at ran
    obtain ⟨t, -, rfl⟩ := Option.map_eq_some_iff.mp ran
    rfl

theorem redacted_field {below : Fields → Option Fields} {f f' : Text × Data}
    (clean : ∀ {fields out}, below fields = some out → covered u redacted out = out)
    (ran : sanitizeField u printable below f = some f') : coverField u redacted f' = f' := by
  obtain ⟨key, value⟩ := f
  by_cases hidden : sensitiveKey.found u key = true
  · rw [sanitizeField, if_pos hidden] at ran
    cases ran
    rw [coverField, if_pos hidden]
  rw [sanitizeField, if_neg hidden] at ran
  have kept : f'.1 = key ∧ cover u redacted f'.2 = f'.2 := by
    cases value with
    | dict fields =>
      obtain ⟨out, inner, ran⟩ := Option.bind_eq_some_iff.mp ran
      cases ran
      exact ⟨rfl, by rw [cover_dict, clean inner]⟩
    | list items =>
      obtain ⟨out, inner, ran⟩ := Option.bind_eq_some_iff.mp ran
      cases ran
      have each : ∀ v ∈ out, cover u redacted v = v := by
        intro v member
        obtain ⟨_, -, item⟩ := mem_of_mapM inner member
        exact redacted_item clean item
      exact ⟨rfl, by rw [cover_list, List.map_congr_left (g := id) each, List.map_id]⟩
    | _ =>
      cases ran
      exact ⟨rfl, rfl⟩
  rw [coverField, kept.1, if_neg hidden, kept.2, ← kept.1]

/-- Under every sensitive key of a result stands the same text. -/
theorem redacted_sanitizeAt {left : Nat} {data clean : Fields}
    (ran : sanitizeAt u printable left data = some clean) : covered u redacted clean = clean := by
  induction left generalizing data clean with
  | zero =>
    cases ran
    rfl
  | succ left ih =>
    refine covered_of_forall fun f' member => ?_
    obtain ⟨f, -, field⟩ := mem_of_mapM ran member
    exact redacted_field ih field

variable (u printable)

/-- There is a result, its values under sensitive keys are all replaced, and whatever else had been
under the sensitive keys of the input it would be the same. -/
def Sanitised (data : Option Fields) : Prop :=
  ∃ clean, sanitizeDiagnostics u printable data = some clean ∧ covered u redacted clean = clean ∧
    ∀ data', data'.map (covered u .null) = data.map (covered u .null) →
      sanitizeDiagnostics u printable data' = some clean

variable {u printable}

theorem covered_covered (w w' : Data) (data : Fields) :
    covered u w (covered u w' data) = covered u w data := by
  unfold covered
  rw [List.map_map]
  refine List.map_congr_left fun f _ => ?_
  by_cases hidden : sensitiveKey.found u f.1 = true <;> simp [coverField, hidden, cover_cover]

theorem long_huge : Long (.int (10 ^ maxStrDigits)) := .int (by simp [Int.natAbs_pow])

/-- Diagnostics are sanitised exactly when no list item that is turned into text holds a sensitive
key, or an integer without a text. -/
theorem sanitised_iff (u : Unicode) (printable : Char → Bool) (data : Option Fields) :
    Sanitised u printable data ↔ ∀ v, Printed u 4 (data.getD []) v → ¬Secret u v ∧ ¬Long v := by
  cases data with
  | none =>
    refine iff_of_true ⟨[], rfl, rfl, ?_⟩ ?_
    · intro data' same
      rw [Option.map_eq_none_iff.mp same]
      rfl
    · intro v printed
      cases printed <;> contradiction
  | some data =>
    constructor
    · rintro ⟨clean, ran, -, same⟩ v printed
      have result {data' : Fields} (ran : sanitizeAt u printable 4 data' = some clean) :
          ∀ v, Printed u 4 data' v → ¬Long v :=
        (isSome_sanitizeAt 4 data').mp (by rw [ran]; rfl)
      refine ⟨fun secret => ?_, result ran v printed⟩
      -- with a long integer under its sensitive keys the value has no text
      have other := same (some (covered u (.int (10 ^ maxStrDigits)) data))
        (congrArg some (covered_covered _ _ data))
      exact result other _ printed.covered (long_cover long_huge secret)
    · intro clear
      have isSome : (sanitizeAt u printable 4 data).isSome = true :=
        (isSome_sanitizeAt 4 data).mpr fun v printed => (clear v printed).2
      obtain ⟨clean, ran⟩ := Option.isSome_iff_exists.mp isSome
      refine ⟨clean, ran, redacted_sanitizeAt ran, fun data' same => ?_⟩
      obtain ⟨data', rfl, masks⟩ := Option.map_eq_some_iff.mp same
      have unhidden : ∀ v, Printed u 4 data' v → ¬Secret u v := by
        intro v printed secret
        have masked := printed.covered (w := .null)
        rw [masks] at masked
        obtain ⟨v', printed', covers⟩ := masked.uncovered
        have secret' : Secret u v' := by
          rw [← secret_cover (w := .null), covers, secret_cover]
          exact secret
        exact (clear v' printed').1 secret'
      have agrees : sanitizeAt u printable 4 (covered u .null data') =
          sanitizeAt u printable 4 data' := sanitizeAt_covered 4 data' unhidden
      rw [masks, sanitizeAt_covered 4 data fun v printed => (clear v printed).1] at agrees
      exact agrees.symm.trans ran

/-- A failed step whose log has one list too many. -/
def leaky (password : String) : Option Fields :=
  some [("log".ascii, .list [.list [.dict [("password".ascii, .str password.ascii)]]])]

def spelled (data : Option Fields) : Option Text := data.bind fun fields =>
  (Data.dict fields).repr fun _ => true

theorem leaky_prints : ¬Sanitised .ascii (fun _ => true) (leaky "hunter2") := by
  rintro ⟨clean, ran, -, same⟩
  have found : sensitiveKey.found .ascii "password".ascii = true := by decide +kernel
  have log : ¬sensitiveKey.found .ascii "log".ascii = true := by decide +kernel
  have masks (password : String) : (leaky password).map (covered .ascii .null) =
      some [("log".ascii, .list [.list [.dict [("password".ascii, .null)]]])] := by
    simp [leaky, covered, coverField, cover_list, cover_dict, found, log]
  have other := same (leaky "") (by rw [masks, masks])
  have texts := congrArg spelled (ran.trans other.symm)
  revert texts
  decide +kernel

end Result

end RangeApply.Diagnostics
