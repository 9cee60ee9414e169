import RangeApply.Message
import RangeApply.Policy

/-! Company names under one key: which names the key keeps apart. -/
namespace RangeApply

/-! ### Names -/

/-- What the environment takes from the character database: the ASCII characters of the
decomposition, which leaves ASCII texts alone. No letter beyond ASCII that is left after it is the
capital of an ASCII letter. -/
structure Decomposes (env : Env) (u : Unicode) (nfkd : Text → Text) : Prop where
  fold : ∀ name, env.asciiFold name =
    String.ofList ((nfkd name.toList).filter fun c => decide (c.toNat < 128))
  plain : ∀ t, (∀ c ∈ t, c.toNat < 128) → nfkd t = t
  alnum : ∀ c, c.toNat < 128 → u.alnum c = c.isAlphanum
  lower : ∀ c, c.toNat < 128 → u.lower [c] = [c.toLower]
  beyond : ∀ t, ∀ c ∈ nfkd t, u.alnum c = true → 128 ≤ c.toNat → ∃ d ∈ u.lower [c], 128 ≤ d.toNat

section Names
variable (u : Unicode) (nfkd : Text → Text)

/-- ASCII punctuation and white space. -/
def breaks (c : Char) : Bool := decide (c.toNat < 128) && !u.alnum c

/-- The letters and digits of a word, of whatever script. -/
def spelled (word : Text) : Text := (word.filter u.alnum).flatMap fun c => u.lower [c]

/-- What is left of a name without regard to case, diacritics, punctuation, white space and legal
suffixes. -/
def letters (name : String) : Text :=
  (((((nfkd name.toList).splitOnP (breaks u)).map (spelled u)).filter fun w =>
    String.ofList w ∉ companySuffixes)).flatten

def AlikeNames (a b : String) : Prop := letters u nfkd a = letters u nfkd b

/-- Every letter and digit of the name, once decomposed, is an ASCII one. -/
def LatinName (name : String) : Prop := ∀ c ∈ nfkd name.toList, u.alnum c = true → c.toNat < 128

end Names

section Key
variable {env : Env} {u : Unicode} {nfkd : Text → Text}

theorem filter_intercalate {parts : List Text} (clean : ∀ part ∈ parts, ' ' ∉ part) :
    ([' '].intercalate parts).filter (· ≠ ' ') = parts.flatten := by
  have whole {part : Text} (free : ' ' ∉ part) : part.filter (· ≠ ' ') = part :=
    List.filter_eq_self.mpr fun c member => decide_eq_true fun space => free (space ▸ member)
  induction parts with
  | nil => rfl
  | cons part parts ih =>
    obtain ⟨free, rest⟩ := List.forall_mem_cons.mp clean
    cases parts with
    | nil => simpa using whole free
    | cons next parts =>
      rw [List.intercalate_cons_cons, List.filter_append, List.filter_append, ih rest, whole free]
      simp

/-- The letters and digits of a key, without the spaces. -/
theorem key_letters (env : Env) (name : String) :
    (companyKey env name).toList.filter (· ≠ ' ') =
      ((words (env.asciiFold name).toList).filter fun w =>
        String.ofList w ∉ companySuffixes).flatten := by
  have parts : (((words (env.asciiFold name).toList).map String.ofList).filter fun w =>
      w ∉ companySuffixes).map String.toList =
        (words (env.asciiFold name).toList).filter fun w => String.ofList w ∉ companySuffixes := by
    rw [List.filter_map, List.map_map]
    exact List.map_id'' (fun _ => String.toList_ofList) _
  have clean : ∀ part ∈ (words (env.asciiFold name).toList).filter fun w =>
      String.ofList w ∉ companySuffixes, ' ' ∉ part := fun part member space =>
    absurd (words_alnum (List.mem_filter.mp member).1 ' ' space) (by decide)
  rw [companyKey, String.toList_intercalate, parts]
  exact filter_intercalate clean

theorem spelled_latin (dec : Decomposes env u nfkd) {d : Text}
    (latin : ∀ c ∈ d, u.alnum c = true → c.toNat < 128) :
    (d.splitOnP (breaks u)).map (spelled u) =
      ((d.filter fun c => decide (c.toNat < 128)).splitOnP fun c => !c.isAlphanum).map
        (List.map Char.toLower) := by
  induction d with
  | nil => rfl
  | cons c d ih =>
    obtain ⟨here, rest⟩ := List.forall_mem_cons.mp latin
    have ih := ih rest
    obtain ⟨piece, pieces, split⟩ := List.exists_cons_of_ne_nil (List.splitOnP_ne_nil (breaks u) d)
    obtain ⟨word, more, ascii⟩ := List.exists_cons_of_ne_nil (List.splitOnP_ne_nil
      (fun c : Char => !c.isAlphanum) (d.filter fun c : Char => decide (c.toNat < 128)))
    rw [List.splitOnP_cons_eq_if_modifyHead, List.filter_cons]
    by_cases plain : c.toNat < 128
    · rw [if_pos (decide_eq_true plain), List.splitOnP_cons_eq_if_modifyHead]
      have known := dec.alnum c plain
      cases alnum : c.isAlphanum with
      | true =>
        rw [split, ascii, List.map_cons, List.map_cons] at ih
        obtain ⟨first, others⟩ := List.cons.inj ih
        have letter : spelled u (c :: piece) = c.toLower :: spelled u piece := by
          simp [spelled, known, alnum, dec.lower c plain]
        simp [breaks, known, alnum, split, ascii, letter, first, others]
      | false => simp [breaks, plain, known, alnum, ih, spelled]
    · -- a mark or a sign that the ASCII text does not have
      have mark : u.alnum c = false := Bool.eq_false_iff.mpr fun alnum => plain (here alnum)
      have silent : spelled u (c :: piece) = spelled u piece := by simp [spelled, mark]
      rw [if_neg (by simp [breaks, plain]), if_neg (by simpa using plain), ← ih]
      simp [split, silent]

/-- The key of a name with ASCII letters only keeps all that tells names apart. -/
theorem letters_latin (dec : Decomposes env u nfkd) {name : String}
    (latin : LatinName u nfkd name) :
    letters u nfkd name = (companyKey env name).toList.filter (· ≠ ' ') := by
  rw [key_letters, letters, spelled_latin dec latin, words_eq, dec.fold, String.toList_ofList,
    List.filter_comm]
  exact (List.flatten_filter_ne_nil).symm

theorem mem_splitOnP {α : Type} {p : α → Bool} {text : List α} {c : α} (member : c ∈ text)
    (kept : p c = false) : ∃ piece ∈ text.splitOnP p, c ∈ piece := by
  induction text with
  | nil => cases member
  | cons d text ih =>
    obtain ⟨first, rest, parts⟩ := List.exists_cons_of_ne_nil (List.splitOnP_ne_nil p text)
    rw [List.splitOnP_cons_eq_if_modifyHead]
    rcases List.mem_cons.mp member with rfl | later
    · exact ⟨c :: first, by simp [kept, parts], List.mem_cons_self⟩
    · obtain ⟨piece, listed, found⟩ := ih later
      split
      · exact ⟨piece, List.mem_cons_of_mem _ listed, found⟩
      · rw [parts] at listed ⊢
        rcases List.mem_cons.mp listed with rfl | others
        · exact ⟨d :: piece, List.mem_cons_self, List.mem_cons_of_mem d found⟩
        · exact ⟨piece, List.mem_cons_of_mem _ others, found⟩

theorem suffix_ascii {w : Text} (suffix : String.ofList w ∈ companySuffixes) :
    ∀ c ∈ w, c.toNat < 128 := by
  have all : companySuffixes.all (fun s => s.toList.all fun c => decide (c.toNat < 128)) = true := by
    decide
  have chars := List.all_eq_true.mp all _ suffix
  rw [String.toList_ofList] at chars
  exact fun c member => of_decide_eq_true (List.all_eq_true.mp chars c member)

/-- A letter beyond ASCII tells a name apart from every name of ASCII letters. -/
theorem letters_beyond (dec : Decomposes env u nfkd) {name : String} {c : Char}
    (member : c ∈ nfkd name.toList) (alnum : u.alnum c = true) (beyond : ¬c.toNat < 128) :
    ∃ d ∈ letters u nfkd name, ¬d.toNat < 128 := by
  obtain ⟨d, lower, far⟩ := dec.beyond _ c member alnum (Nat.le_of_not_lt beyond)
  obtain ⟨piece, split, found⟩ := mem_splitOnP (p := breaks u) member (by simp [breaks, beyond])
  have heard : d ∈ spelled u piece :=
    List.mem_flatMap.mpr ⟨c, List.mem_filter.mpr ⟨found, alnum⟩, lower⟩
  refine ⟨d, List.mem_flatten.mpr ⟨spelled u piece, List.mem_filter.mpr ⟨?_, ?_⟩, heard⟩,
    Nat.not_lt.mpr far⟩
  · exact List.mem_map_of_mem split
  · exact decide_eq_true fun suffix => absurd (suffix_ascii suffix d heard) (Nat.not_lt.mpr far)

theorem isAlphanum_ascii {c : Char} (alnum : c.isAlphanum = true) : c.toNat < 128 := by
  have bounds := Char.isAlphanum_iff.mp alnum
  omega

theorem letters_ascii (dec : Decomposes env u nfkd) {name : String}
    (latin : LatinName u nfkd name) : ∀ c ∈ letters u nfkd name, c.toNat < 128 := by
  intro c member
  rw [letters_latin dec latin] at member
  rcases companyKey_chars (List.mem_filter.mp member).1 with rfl | alnum
  · decide
  · exact isAlphanum_ascii alnum

theorem asciiFold_latin (dec : Decomposes env u nfkd) (name : String) :
    LatinName u nfkd (env.asciiFold name) := by
  rw [dec.fold]
  have ascii : ∀ c ∈ (nfkd name.toList).filter (fun c => decide (c.toNat < 128)), c.toNat < 128 :=
    fun c member => of_decide_eq_true (List.mem_filter.mp member).2
  intro c member alnum
  rw [String.toList_ofList, dec.plain _ ascii] at member
  exact ascii c member

/-- A name and its ASCII spelling have one key. -/
theorem companyKey_asciiFold (dec : Decomposes env u nfkd) (name : String) :
    companyKey env (env.asciiFold name) = companyKey env name := by
  have ascii : ∀ c ∈ (nfkd name.toList).filter (fun c => decide (c.toNat < 128)), c.toNat < 128 :=
    fun c member => of_decide_eq_true (List.mem_filter.mp member).2
  have again : env.asciiFold (env.asciiFold name) = env.asciiFold name := by
    rw [dec.fold (env.asciiFold name), dec.fold name, String.toList_ofList, dec.plain _ ascii,
      List.filter_filter]
    simp
  unfold companyKey
  rw [again]

/-- The keys of a class of names that has the ASCII spelling of each tell them apart exactly when
no name in it has a letter or a digit beyond ASCII. -/
theorem separated_iff (dec : Decomposes env u nfkd) (p : String → Prop)
    (spelling : ∀ name, p name → p (env.asciiFold name)) :
    (∀ a b, p a → p b → companyKey env a = companyKey env b → AlikeNames u nfkd a b) ↔
      ∀ name, p name → LatinName u nfkd name := by
  constructor
  · intro separated name known c member alnum
    by_contra beyond
    obtain ⟨d, found, far⟩ := letters_beyond dec member alnum beyond
    have alike := separated name (env.asciiFold name) known (spelling name known)
      (companyKey_asciiFold dec name).symm
    rw [AlikeNames] at alike
    rw [alike] at found
    exact far (letters_ascii dec (asciiFold_latin dec name) d found)
  · intro latin a b knownA knownB same
    unfold AlikeNames
    rw [letters_latin dec (latin a knownA), letters_latin dec (latin b knownB), same]

/-- Letters and digits of ASCII, and the Chinese characters, which have no case and no
decomposition. -/
def han : Unicode where
  alnum c := c.isAlphanum || decide (0x4E00 ≤ c.toNat) && decide (c.toNat ≤ 0x9FFF)
  decimal := Char.isDigit
  lower := List.map Char.toLower

def Env.han : Env :=
  { Env.utc with asciiFold := fun name => String.ofList (name.toList.filter fun c => decide (c.toNat < 128)) }

theorem han_decomposes : Decomposes Env.han han id where
  fold _ := rfl
  plain _ _ := rfl
  alnum c plain := by
    have below : ¬0x4E00 ≤ c.toNat := by omega
    simp [han, below]
  lower _ _ := rfl
  beyond t c _ _ far := by
    refine ⟨c.toLower, List.mem_singleton_self _, ?_⟩
    rw [Char.toNat_toLower]
    split <;> omega

theorem latin_of_ascii {name : String}
    (ascii : (name.toList.all fun c => decide (c.toNat < 128)) = true) : LatinName han id name :=
  fun c member _ => of_decide_eq_true (List.all_eq_true.mp ascii c member)

theorem separated_acme : AlikeNames han id "ACME, Inc." "acme inc" :=
  (separated_iff han_decomposes (LatinName han id)
    fun name _ => asciiFold_latin han_decomposes name).mpr (fun _ known => known) "ACME, Inc."
      "acme inc" (latin_of_ascii (by decide)) (latin_of_ascii (by decide)) (by decide +kernel)

/-- Two companies with Chinese names have the empty key, and one on the block list blocks the
other. -/
theorem han_collides :
    companyKey .han "百度" = companyKey .han "腾讯" ∧ ¬AlikeNames han id "百度" "腾讯" ∧
      { ApplicationPolicy.initial with blockedCompanies := ["百度"] }.blocks .han "腾讯" = true := by
  refine ⟨?_, ?_, ?_⟩
  · decide +kernel
  · unfold AlikeNames
    decide +kernel
  · decide +kernel

end Key

end RangeApply
