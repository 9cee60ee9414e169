import RangeApply.Gazetteer

/-! One more location string: which countries stay recognised. -/
namespace RangeApply

namespace Text

/-! ### Words of a text, with single spaces between them -/

theorem rdropWhile_cons {α : Type*} {p : α → Bool} {c : α} {s : List α} :
    (c :: s).rdropWhile p = if s.rdropWhile p = [] ∧ p c then [] else c :: s.rdropWhile p := by
  induction s using List.reverseRecOn with
  | nil =>
    rw [show [c] = [] ++ [c] from rfl, List.rdropWhile_concat, List.rdropWhile_nil]
    by_cases drop : p c = true <;> simp [drop]
  | append_singleton s x ih =>
    rw [← List.cons_append, List.rdropWhile_concat, List.rdropWhile_concat, ih]
    by_cases drop : p x = true <;> simp [drop]

/-- Without the space at the beginning. -/
def unled : Text → Text
  | ' ' :: more => more
  | more => more

theorem unled_of_kept {c : Char} {t : Text} (keep : c.isBlank = false) :
    unled (c :: t) = c :: t := by
  unfold unled
  split
  · rename_i same
    cases same
    cases keep
  · rfl

section Spaced
variable {c : Char} {rest a b t : Text}

theorem spaced_blank (blank : c.isBlank = true) : spaced (c :: rest) = ' ' :: unled (spaced rest) := by
  have joined (t : Text) : (match t with | ' ' :: more => ' ' :: more | more => ' ' :: more) =
      ' ' :: unled t := by
    unfold unled
    split <;> rfl
  rw [spaced, if_pos blank]
  exact joined (spaced rest)

theorem spaced_kept (keep : c.isBlank = false) : spaced (c :: rest) = c :: spaced rest := by
  rw [spaced, if_neg (by simp [keep])]

theorem dropWhile_spaced (t : Text) : (spaced t).dropWhile Char.isBlank = unled (spaced t) := by
  induction t with
  | nil => rfl
  | cons c rest ih =>
    cases blank : c.isBlank with
    | true =>
      rw [spaced_blank blank, ← ih]
      exact List.dropWhile_idempotent _ _
    | false =>
      rw [spaced_kept blank, unled_of_kept blank]
      simp [blank]

/-- The words, and the space that leads them in if there is one. -/
def led (t : Text) : Text := (spaced t).rdropWhile Char.isBlank

theorem strip_spaced (t : Text) : strip (spaced t) = (unled (spaced t)).rdropWhile Char.isBlank := by
  rw [← dropWhile_spaced]
  rfl

theorem strip_blank (blank : c.isBlank = true) : strip (spaced (c :: rest)) = strip (spaced rest) := by
  rw [strip_spaced, strip_spaced, spaced_blank blank]
  rfl

theorem strip_kept (keep : c.isBlank = false) : strip (spaced (c :: rest)) = c :: led rest := by
  rw [strip_spaced, spaced_kept keep, unled_of_kept keep, rdropWhile_cons, if_neg (by simp [keep])]
  rfl

theorem led_kept (keep : c.isBlank = false) : led (c :: rest) = c :: led rest := by
  unfold led
  rw [spaced_kept keep, rdropWhile_cons, if_neg (by simp [keep])]

theorem led_blank (blank : c.isBlank = true) :
    led (c :: rest) = if strip (spaced rest) = [] then [] else ' ' :: strip (spaced rest) := by
  unfold led
  rw [spaced_blank blank, rdropWhile_cons, ← strip_spaced]
  simp [show Char.isBlank ' ' = true from rfl]

/-- Two texts of words as one. -/
def glue (a b : Text) : Text := if a = [] then b else if b = [] then a else a ++ ' ' :: b

theorem glue_append (blank : c.isBlank = true) :
    strip (spaced (a ++ c :: b)) = glue (strip (spaced a)) (strip (spaced b)) ∧
      led (a ++ c :: b) =
        if strip (spaced b) = [] then led a else led a ++ ' ' :: strip (spaced b) := by
  induction a with
  | nil => exact ⟨strip_blank blank, led_blank blank⟩
  | cons x a ih =>
    rw [List.cons_append]
    cases space : x.isBlank with
    | true =>
      rw [strip_blank space, strip_blank space, led_blank space, led_blank space, ih.1]
      refine ⟨rfl, ?_⟩
      unfold glue
      split <;> split <;> simp_all
    | false =>
      rw [strip_kept space, strip_kept space, led_kept space, led_kept space, ih.2]
      unfold glue
      split <;> simp

theorem strip_glue (blank : c.isBlank = true) :
    strip (spaced (a ++ c :: b)) = glue (strip (spaced a)) (strip (spaced b)) :=
  (glue_append blank).1

/-- Neither does a text of words begin with a blank. -/
theorem head_strip : (strip (spaced t)).head?.any Char.isBlank = false := by
  induction t with
  | nil => rfl
  | cons c rest ih =>
    cases blank : c.isBlank with
    | true => rwa [strip_blank blank]
    | false =>
      rw [strip_kept blank]
      simp [blank]

end Spaced

end Text

namespace Geography

/-- What leaving out the characters beyond ASCII keeps: the ASCII texts, and the place where two
texts are joined. -/
structure Ascii (ascii : Text → Text) : Prop where
  plain : ∀ t : Text, (∀ c ∈ t, c.toNat < 128) → ascii t = t
  join : ∀ a b : Text, ascii (a ++ " ; ".ascii ++ b) = ascii a ++ " ; ".ascii ++ ascii b

/-! ### Texts, one after the other -/

section Join
variable {ascii : Text → Text} {front back : List (Option Text)}

theorem kept_append : kept (front ++ back) = kept front ++ kept back := List.filterMap_append

theorem joined_append {by_ : String} {a b : List Text} (some_ : a ≠ []) (more : b ≠ []) :
    joined by_ (a ++ b) = joined by_ a ++ by_.ascii ++ joined by_ b := by
  unfold joined
  induction a with
  | nil => exact (some_ rfl).elim
  | cons x a ih =>
    cases a with
    | nil =>
      obtain ⟨y, b, rfl⟩ := List.exists_cons_of_ne_nil more
      simp
    | cons y a =>
      rw [List.cons_append, List.cons_append, List.intercalate_cons_cons, ← List.cons_append,
        ih (List.cons_ne_nil y a), List.intercalate_cons_cons]
      simp

theorem rawText_append : rawText (front ++ back) =
    if kept front = [] then rawText back
    else if kept back = [] then rawText front
    else rawText front ++ (' ' :: ';' :: ' ' :: rawText back) := by
  unfold rawText
  rw [kept_append]
  split
  · rename_i none_
    rw [none_, List.nil_append]
  · split
    · rename_i none_
      rw [none_, List.append_nil]
    · rename_i first second
      rw [joined_append first second, List.append_assoc]
      rfl

theorem fold_nil (plain : Ascii ascii) : fold ascii [] = [] := by
  unfold fold
  rw [plain.plain [] nofun]
  rfl

theorem fold_join (plain : Ascii ascii) (a b : Text) :
    fold ascii (a ++ ' ' :: ';' :: ' ' :: b) = Text.glue (fold ascii a) (fold ascii b) := by
  have split : a ++ ' ' :: ';' :: ' ' :: b = a ++ " ; ".ascii ++ b := by
    rw [List.append_assoc]
    rfl
  have space : Char.isBlank ' ' = true := rfl
  have folded : ascii (a ++ ' ' :: ';' :: ' ' :: b) = ascii a ++ (" ; ".ascii ++ ascii b) := by
    rw [split, plain.join, List.append_assoc]
  unfold fold
  simp only [folded, List.map_append]
  exact (Text.strip_glue space).trans
    (congrArg _ ((Text.strip_blank space).trans (Text.strip_blank space)))

theorem fold_append (plain : Ascii ascii) : fold ascii (rawText (front ++ back)) =
    Text.glue (fold ascii (rawText front)) (fold ascii (rawText back)) := by
  have nothing {texts : List (Option Text)} (none_ : kept texts = []) :
      fold ascii (rawText texts) = [] := by
    unfold rawText
    rw [none_]
    exact fold_nil plain
  rw [rawText_append]
  split
  · rename_i none_
    rw [nothing none_]
    rfl
  · split
    · rename_i none_
      rw [nothing none_]
      unfold Text.glue
      split
      · assumption
      · rfl
    · exact fold_join plain _ _

end Join

/-! ### What is read in texts joined -/

section Read
variable {ascii : Text → Text} {front back : List (Option Text)} {prev : Option Char}
  {before after : Char → Bool} {words : List Text} {a b : Text}

/-- A word neither begins with the character nor goes on over it. -/
theorem scan_glue (space : before ' ' = false ∧ after ' ' = false)
    (lead : ∀ w ∈ words, w.head? ≠ some ' ' ∧ w ≠ [])
    (apart : ∀ done rest, a = done ++ rest → rest ≠ [] →
      Reader.Apart before after words (lastOr none done) rest (' ' :: b)) :
    (Reader.word before after words).scan none 0 (Text.glue a b) =
      (Reader.word before after words).scan none 0 a ++
        (Reader.word before after words).scan none 0 b := by
  unfold Text.glue
  split
  · rename_i none_
    rw [none_, Reader.scan_nil, List.nil_append]
  · split
    · rename_i none_
      rw [none_, Reader.scan_nil, List.append_nil]
    · have ends : (' ' :: b).head?.any after = false := space.2
      rw [Reader.scan_append (Reader.local_word ends apart) (Nat.zero_le _),
        Reader.scan_miss (Reader.word_miss lead)]
      refine congrArg _ (Reader.scan_prev ?_)
      unfold Reader.word
      rw [Option.any_some, space.1, Option.any_none]

/-- No name of the gazetteer begins in the one text and ends in the other. -/
def Unbroken (ascii : Text → Text) (front back : List (Option Text)) : Prop :=
  let a := fold ascii (rawText front)
  ∀ k < a.length, Reader.Apart lowerAlnum lowerAlnum (aliasWords ascii) (lastOr none (a.take k))
    (a.drop k) (' ' :: fold ascii (rawText back))

theorem Unbroken.apart (unbroken : Unbroken ascii front back) {done rest : Text}
    (split : fold ascii (rawText front) = done ++ rest) (some_ : rest ≠ []) :
    Reader.Apart lowerAlnum lowerAlnum (aliasWords ascii) (lastOr none done) rest
      (' ' :: fold ascii (rawText back)) := by
  have short : done.length < (fold ascii (rawText front)).length := by
    rw [split, List.length_append]
    have long := List.length_pos_iff.mpr some_
    omega
  have here := unbroken done.length short
  rwa [split, List.take_left, List.drop_left] at here

theorem aliases_ascii (plain : Ascii ascii) : aliases ascii = aliases id := by
  have all : (subregions.all fun p => p.1.ascii.all fun c => decide (c.toNat < 128)) = true := by
    decide +kernel
  simp only [List.all_eq_true, decide_eq_true_eq] at all
  have regions : subregions.map (fun p => (fold ascii p.1.ascii, Named.subregion p.1 p.2)) =
      subregions.map fun p => (fold id p.1.ascii, Named.subregion p.1 p.2) := by
    refine List.map_congr_left fun p member => ?_
    unfold fold
    rw [plain.plain _ (all p member)]
    rfl
  unfold aliases
  rw [regions]

/-- Every word of the gazetteer begins with a character of its own. -/
theorem aliasWords_lead (plain : Ascii ascii) :
    ∀ w ∈ aliasWords ascii, w.head? ≠ some ' ' ∧ w ≠ [] := by
  have all : ∀ w ∈ (aliases id).map Prod.fst, w.head? ≠ some ' ' ∧ w ≠ [] := by decide +kernel
  intro w member
  unfold aliasWords at member
  rw [aliases_ascii plain] at member
  obtain ⟨n, -, here⟩ := List.mem_flatMap.mp member
  exact all w (List.mem_of_mem_filter here)

theorem namedIn_append (plain : Ascii ascii) (unbroken : Unbroken ascii front back) :
    namedIn ascii (rawText (front ++ back)) =
      namedIn ascii (rawText front) ++ namedIn ascii (rawText back) := by
  unfold namedIn
  rw [fold_append plain, ← List.filterMap_append]
  exact congrArg _ (scan_glue ⟨rfl, rfl⟩ (aliasWords_lead plain) fun done rest split some_ =>
    unbroken.apart split some_)

theorem demonymsIn_append (plain : Ascii ascii) :
    demonymsIn ascii (rawText (front ++ back)) =
      demonymsIn ascii (rawText front) ++ demonymsIn ascii (rawText back) := by
  have free : ∀ w ∈ demonyms.map fun p => p.1.ascii, ' ' ∉ w ∧ w.head? ≠ some ' ' ∧ w ≠ [] := by
    decide +kernel
  unfold demonymsIn
  rw [fold_append plain, ← List.filterMap_append]
  exact congrArg _ (scan_glue ⟨rfl, rfl⟩ (fun w member => (free w member).2) fun done rest _ _ =>
    Reader.apart_of_free fun w member => (free w member).1)

theorem codesIn_join (a b : Text) :
    codesIn (a ++ ' ' :: ';' :: ' ' :: b) = codesIn a ++ codesIn b := by
  have free : ∀ w ∈ codeWords, ' ' ∉ w ∧ (w.head? ≠ some ' ' ∧ w.head? ≠ some ';') ∧ w ≠ [] := by
    decide +kernel
  have space : ∀ w ∈ codeWords, w.head? ≠ some ' ' ∧ w ≠ [] :=
    fun w member => ⟨(free w member).2.1.1, (free w member).2.2⟩
  have semicolon : ∀ w ∈ codeWords, w.head? ≠ some ';' ∧ w ≠ [] :=
    fun w member => ⟨(free w member).2.1.2, (free w member).2.2⟩
  have apart (done rest : Text) : Reader.Apart (fun c => letter c || c == '.') letter codeWords
      (lastOr none done) rest (' ' :: ';' :: ' ' :: b) :=
    Reader.apart_of_free fun w member => (free w member).1
  unfold codesIn codeReader
  rw [Reader.scan_append (Reader.local_word (by rfl) fun done rest _ _ => apart done rest)
    (Nat.zero_le _), Reader.scan_miss (Reader.word_miss space),
    Reader.scan_miss (Reader.word_miss semicolon), Reader.scan_miss (Reader.word_miss space)]
  exact congrArg _ (Reader.scan_prev rfl)

theorem codesIn_append : codesIn (rawText (front ++ back)) =
    codesIn (rawText front) ++ codesIn (rawText back) := by
  have nothing {texts : List (Option Text)} (none_ : kept texts = []) :
      codesIn (rawText texts) = [] := by
    unfold rawText
    rw [none_]
    rfl
  rw [rawText_append]
  split
  · rename_i none_
    rw [nothing none_, List.nil_append]
  · split
    · rename_i none_
      rw [nothing none_, List.append_nil]
    · exact codesIn_join _ _

end Read

/-! ### State codes -/

section StateCodes
variable {a b t rest more : Text} {front middle back : List (Option Text)} {prev : Option Char}
  {c code : Text}

theorem leadIn_cons (c : Char) (rest : Text) : leadIn (c :: rest) =
    if c = ',' ∨ c = '(' then some rest
    else if c.isBlank ∧ rest.head? = some '-' then some rest.tail else none := rfl

theorem leadIn_append (some_ : rest ≠ []) :
    leadIn (rest ++ ' ' :: more) = (leadIn rest).map (· ++ ' ' :: more) := by
  obtain ⟨c, rest, rfl⟩ := List.exists_cons_of_ne_nil some_
  rw [List.cons_append, leadIn_cons, leadIn_cons]
  by_cases first : c = ',' ∨ c = '('
  · rw [if_pos first, if_pos first]
    rfl
  · rw [if_neg first, if_neg first]
    cases rest with
    | nil => simp
    | cons d rest =>
      rw [List.cons_append, List.head?_cons, List.head?_cons]
      split <;> rfl

/-- Nothing leads in at a letter, at a hyphen, or at a blank before anything but a hyphen. -/
theorem leadIn_none {c : Char} (other : c ≠ ',' ∧ c ≠ '(')
    (blank : c.isBlank = true → rest.head? ≠ some '-') : leadIn (c :: rest) = none := by
  rw [leadIn_cons, if_neg fun same => same.elim other.1 other.2,
    if_neg fun both => blank both.1 both.2]

theorem stateCodes_free : ∀ w ∈ stateCodeWords,
    ' ' ∉ w ∧ (w.head? ≠ some ';' ∧ w ≠ []) ∧ w.all letter ∧ w.length = 2 := by
  decide +kernel

/-- What is read after the blanks is the same before another string. -/
theorem stateCode_word (t : Text) :
    Reader.word (fun _ => false) letter stateCodeWords none
        ((t ++ ' ' :: ';' :: more).dropWhile Char.isBlank) =
      Reader.word (fun _ => false) letter stateCodeWords none (t.dropWhile Char.isBlank) := by
  by_cases all : t.dropWhile Char.isBlank = []
  · have blanks : ∀ c ∈ t, c.isBlank = true := List.dropWhile_eq_nil_iff.mp all
    rw [all, List.dropWhile_append_of_pos blanks]
    exact Reader.word_miss fun w member => (stateCodes_free w member).2.1
  · rw [List.dropWhile_append, if_neg (by simpa using all)]
    exact Reader.word_append rfl (Reader.apart_of_free fun w member => (stateCodes_free w member).1)

theorem stateCodeReader_eq (t : Text) : stateCodeReader prev t = (leadIn t).bind fun rest =>
    (Reader.word (fun _ => false) letter stateCodeWords none (rest.dropWhile Char.isBlank)).map
      fun p => (p.1, t.length - (rest.dropWhile Char.isBlank).length + p.2) := by
  unfold stateCodeReader
  cases leadIn t with
  | none => rfl
  | some rest =>
    cases found : Reader.word (fun _ => false) letter stateCodeWords none
        (rest.dropWhile Char.isBlank) with
    | none => simp [found]
    | some p => simp [found]

theorem leadIn_length (lead : leadIn t = some rest) : rest.length ≤ t.length := by
  cases t with
  | nil => cases lead
  | cons c t =>
    rw [leadIn_cons] at lead
    split at lead
    · cases lead
      simp
    · split at lead
      · cases lead
        simp
        omega
      · cases lead

theorem stateCode_local : stateCodeReader.Local prev a (' ' :: ';' :: ' ' :: b) := by
  intro done rest split some_
  rw [stateCodeReader_eq, stateCodeReader_eq, leadIn_append some_]
  cases lead : leadIn rest with
  | none => exact ⟨rfl, nofun⟩
  | some tail =>
    rw [Option.map_some, Option.bind_some, Option.bind_some, stateCode_word]
    cases found : Reader.word (fun _ => false) letter stateCodeWords none
        (tail.dropWhile Char.isBlank) with
    | none => exact ⟨rfl, nofun⟩
    | some p =>
      obtain ⟨member, length, here⟩ := Reader.word_found (w := p.1) (n := p.2) found
      have rest_ : tail.dropWhile Char.isBlank ≠ [] := by
        intro none_
        rw [none_] at here
        exact (stateCodes_free _ member).2.1.2 (List.prefix_nil.mp here)
      have dropped := @List.dropWhile_append _ Char.isBlank tail (' ' :: ';' :: ' ' :: b)
      have short : (tail.dropWhile Char.isBlank).length ≤ tail.length :=
        (List.dropWhile_suffix _).length_le
      have within := leadIn_length lead
      have reach := here.length_le
      rw [if_neg (by simpa using rest_)] at dropped
      rw [dropped]
      constructor
      · simp only [Option.map_some, List.length_append]
        congr 2
        omega
      · intro code n same
        cases same
        omega

/-! #### A code that was read is read again after a blank -/

theorem scan_any (prev : Option Char) (t : Text) :
    stateCodeReader.scan prev 0 t = stateCodeReader.scan none 0 t := Reader.scan_prev rfl

theorem scan_blanks {blanks : Text} (all : ∀ c ∈ blanks, c.isBlank = true)
    (next : rest.head? ≠ some '-') :
    stateCodeReader.scan prev 0 (blanks ++ rest) = stateCodeReader.scan none 0 rest := by
  induction blanks generalizing prev with
  | nil => exact scan_any _ _
  | cons c blanks ih =>
    have miss : leadIn (c :: (blanks ++ rest)) = none := by
      have blank := all c List.mem_cons_self
      refine leadIn_none ⟨?_, ?_⟩ fun _ => ?_
      · rintro rfl
        cases blank
      · rintro rfl
        cases blank
      · cases blanks with
        | nil => exact next
        | cons d blanks =>
          have blank := all d (List.mem_cons_of_mem c List.mem_cons_self)
          intro same
          cases same
          cases blank
    rw [List.cons_append, Reader.scan_miss (by rw [stateCodeReader_eq, miss]; rfl)]
    exact ih fun d member => all d (List.mem_cons_of_mem c member)

theorem letter_mark {c : Char} (is : letter c = true) : c ≠ ',' ∧ c ≠ '(' ∧ c.isBlank = false := by
  have range : 65 ≤ c.toNat ∧ c.toNat ≤ 122 := by
    unfold letter lowerLetter at is
    simp only [Bool.or_eq_true, Bool.and_eq_true, decide_eq_true_eq, Char.le_def,
      UInt32.le_iff_toNat_le] at is
    have a : 'a'.val.toNat = 97 ∧ 'z'.val.toNat = 122 ∧ 'A'.val.toNat = 65 ∧ 'Z'.val.toNat = 90 :=
      ⟨rfl, rfl, rfl, rfl⟩
    unfold Char.toNat
    omega
  refine ⟨?_, ?_, ?_⟩
  · rintro rfl
    cases is
  · rintro rfl
    cases is
  · unfold Char.isBlank
    simp
    omega

theorem scan_letters {word : Text} (all : word.all letter) :
    stateCodeReader.scan prev 0 (word ++ rest) = stateCodeReader.scan none 0 rest := by
  induction word generalizing prev with
  | nil => exact scan_any _ _
  | cons c word ih =>
    rw [List.all_cons, Bool.and_eq_true] at all
    obtain ⟨comma, open_, blank⟩ := letter_mark all.1
    have miss : leadIn (c :: (word ++ rest)) = none :=
      leadIn_none ⟨comma, open_⟩ fun same => by rw [blank] at same; cases same
    rw [List.cons_append, Reader.scan_miss (by rw [stateCodeReader_eq, miss]; rfl)]
    exact ih all.2

/-- Nothing else is read inside a code that a hyphen leads in. -/
theorem scan_code {blanks w : Text} (all : ∀ c ∈ blanks, c.isBlank = true)
    (member : w ∈ stateCodeWords) :
    stateCodeReader.scan prev 0 ('-' :: (blanks ++ w) ++ more) =
      stateCodeReader.scan none 0 more := by
  obtain ⟨-, ⟨-, some_⟩, letters, -⟩ := stateCodes_free w member
  have next : (w ++ more).head? ≠ some '-' := by
    obtain ⟨c, w, rfl⟩ := List.exists_cons_of_ne_nil some_
    rw [List.all_cons, Bool.and_eq_true] at letters
    rintro ⟨⟩
    cases letters.1
  have miss : leadIn ('-' :: (blanks ++ w ++ more)) = none :=
    leadIn_none ⟨by decide, by decide⟩ fun blank => by cases blank
  rw [List.cons_append, Reader.scan_miss (by rw [stateCodeReader_eq, miss]; rfl), List.append_assoc,
    scan_blanks all next, scan_letters letters]

theorem hyphen_read {code : Text} {n : ℕ} (read : stateCodeReader prev (' ' :: b) = some (code, n)) :
    ∃ blanks w more, b = '-' :: (blanks ++ w) ++ more ∧ (∀ c ∈ blanks, c.isBlank = true) ∧
      w ∈ stateCodeWords ∧ ('-' :: (blanks ++ w)).length = n - 1 := by
  rw [stateCodeReader_eq, leadIn_cons, if_neg (by decide)] at read
  split at read
  swap
  · cases read
  rename_i hyphen
  obtain ⟨b, rfl⟩ : ∃ rest, b = '-' :: rest := by
    cases b with
    | nil => cases hyphen.2
    | cons c rest =>
      rw [List.head?_cons, Option.some.injEq] at hyphen
      exact ⟨rest, by rw [hyphen.2]⟩
  obtain ⟨⟨w, k⟩, word, same⟩ := Option.map_eq_some_iff.mp read
  cases same
  obtain ⟨member, rfl, more, split⟩ := Reader.word_found word
  have parts : b = b.takeWhile Char.isBlank ++ (w ++ more) := by
    rw [split]
    exact List.takeWhile_append_dropWhile.symm
  refine ⟨b.takeWhile Char.isBlank, w, more, ?_, fun c => List.mem_takeWhile_imp, member, ?_⟩
  · rw [List.cons_append, List.append_assoc, ← parts]
  · have lengths := congrArg List.length parts
    have rest_ := congrArg List.length split
    simp only [List.tail_cons, List.length_append, List.length_cons] at lengths rest_ ⊢
    omega

theorem stateCodesIn_blank {code : Text} (found : code ∈ stateCodesIn b) :
    code ∈ stateCodesIn (' ' :: b) := by
  unfold stateCodesIn at found ⊢
  cases read : stateCodeReader none (' ' :: b) with
  | none =>
    rwa [Reader.scan_miss read, scan_any]
  | some p =>
    obtain ⟨code', n⟩ := p
    obtain ⟨blanks, w, more, rfl, all, member, length⟩ := hyphen_read read
    rw [scan_code all member] at found
    rw [Reader.scan_hit read, Reader.scan_taken length, scan_any]
    exact List.mem_cons_of_mem code' found

theorem stateCodesIn_join (a b : Text) : stateCodesIn (a ++ ' ' :: ';' :: ' ' :: b) =
    stateCodesIn a ++ stateCodesIn (' ' :: b) := by
  have space : leadIn (' ' :: ';' :: ' ' :: b) = none :=
    leadIn_none ⟨by decide, by decide⟩ fun _ => nofun
  have semicolon : leadIn (';' :: ' ' :: b) = none :=
    leadIn_none ⟨by decide, by decide⟩ fun blank => by cases blank
  unfold stateCodesIn
  rw [Reader.scan_append stateCode_local (Nat.zero_le _),
    Reader.scan_miss (by rw [stateCodeReader_eq, space]; rfl),
    Reader.scan_miss (by rw [stateCodeReader_eq, semicolon]; rfl), scan_any (some ';')]

theorem stateCodesIn_nothing {texts : List (Option Text)} (none_ : kept texts = []) :
    stateCodesIn (rawText texts) = [] := by
  unfold rawText
  rw [none_]
  rfl

/-- The codes of the strings before stay. -/
theorem stateCodesIn_front {code : Text} (found : code ∈ stateCodesIn (rawText front)) :
    code ∈ stateCodesIn (rawText (front ++ back)) := by
  rw [rawText_append]
  split
  · rename_i none_
    rw [stateCodesIn_nothing none_] at found
    cases found
  · split
    · exact found
    · rw [stateCodesIn_join]
      exact List.mem_append_left _ found

/-- So do those of the strings after. -/
theorem stateCodesIn_back {code : Text} (found : code ∈ stateCodesIn (rawText back)) :
    code ∈ stateCodesIn (rawText (front ++ back)) := by
  rw [rawText_append]
  split
  · exact found
  · split
    · rename_i none_
      rw [stateCodesIn_nothing none_] at found
      cases found
    · rw [stateCodesIn_join]
      exact List.mem_append_right _ (stateCodesIn_blank found)

theorem stateCodesIn_insert {code : Text} (found : code ∈ stateCodesIn (rawText (front ++ back))) :
    code ∈ stateCodesIn (rawText (front ++ (middle ++ back))) := by
  rw [rawText_append] at found
  split at found
  · exact stateCodesIn_back (stateCodesIn_back found)
  · rename_i first
    split at found
    · exact stateCodesIn_front found
    · rename_i last
      have first_ : kept (front ++ middle) ≠ [] := by
        rw [kept_append]
        exact List.append_ne_nil_of_left_ne_nil first _
      rw [stateCodesIn_join, List.mem_append] at found
      rcases found with found | found
      · exact stateCodesIn_front found
      · rw [← List.append_assoc, rawText_append, if_neg first_, if_neg last, stateCodesIn_join]
        exact List.mem_append_right _ found

end StateCodes

/-! ### One more string -/

section Monotone
variable {ascii : Text → Text} {front back : List (Option Text)} {text : Option Text}

theorem namedCountries_append (plain : Ascii ascii) (unbroken : Unbroken ascii front back)
    (c : String) : c ∈ namedCountries ascii (rawText (front ++ back)) ↔
      c ∈ namedCountries ascii (rawText front) ∨ c ∈ namedCountries ascii (rawText back) := by
  unfold namedCountries
  rw [namedIn_append plain unbroken, codesIn_append, List.filterMap_append, List.filterMap_append]
  simp only [List.mem_append]
  tauto

/-- The country was read from state codes only, and each of them is read otherwise now. -/
def Reread (ascii : Text → Text) (before after : List (Option Text)) (country : String) : Prop :=
  country = unitedStates ∧ unitedStates ∉ namedCountries ascii (rawText before) ∧
    ∀ code ∈ stateCodesIn (rawText before),
      readOtherwise (namedCountries ascii (rawText after)) code = true

theorem mem_countries {texts : List (Option Text)} {remote readDemonyms : Bool} {c : String} :
    c ∈ (parsePlaces ascii texts remote readDemonyms).countries ↔
      c ∈ namedCountries ascii (rawText texts) ∨
      (c = unitedStates ∧ ∃ code ∈ stateCodesIn (rawText texts),
        readOtherwise (namedCountries ascii (rawText texts)) code = false) ∨
      (readDemonyms ∧ c ∈ demonymsIn ascii (rawText texts)) := by
  unfold parsePlaces
  simp only [List.mem_append, List.mem_map, List.mem_filter, Bool.not_eq_true', or_assoc]
  refine or_congr_right (or_congr ?_ ?_)
  · constructor
    · rintro ⟨code, found, rfl⟩
      exact ⟨rfl, code, found⟩
    · rintro ⟨rfl, code, found⟩
      exact ⟨code, found, rfl⟩
  · cases readDemonyms <;> simp

/-- Leaving out what is beyond ASCII, for texts without compositions. -/
def asciiOnly : Text → Text := List.filter fun c => c.toNat < 128

theorem asciiOnly_ascii : Ascii asciiOnly where
  plain t all := List.filter_eq_self.mpr fun c member => decide_eq_true (all c member)
  join a b := by
    unfold asciiOnly
    rw [List.filter_append, List.filter_append]
    rfl

instance {before after : Char → Bool} {words : List Text} {prev : Option Char} {rest more : Text} :
    Decidable (Reader.Apart before after words prev rest more) :=
  inferInstanceAs (Decidable (_ → _))

instance : Decidable (Unbroken ascii front back) := inferInstanceAs (Decidable (∀ k < _, _))

end Monotone

end Geography

end RangeApply
