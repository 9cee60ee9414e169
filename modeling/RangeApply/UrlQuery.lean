import Mathlib.Data.List.SplitBy
import RangeApply.Parted

/-! Query strings: percent encoding with `+` for the space, the pairs of a query, and that encoded
pairs are read back. What becomes of bytes that are no UTF-8 is left open. -/
namespace UrlQuery

/-! ### Texts and bytes -/

def utf8 (t : List Char) : List UInt8 := t.flatMap String.utf8EncodeChar

section Decode
variable (salvage : List UInt8 → List Char)

/-- `bytes.decode('utf-8', 'replace')`. -/
def decode (bytes : List UInt8) : List Char :=
  match String.fromUTF8? bytes.toByteArray with
  | some s => s.toList
  | none => salvage bytes

theorem decode_utf8 (t : List Char) : decode salvage (utf8 t) = t := by
  have valid : (utf8 t).toByteArray.IsValidUTF8 := ByteArray.isValidUTF8_utf8Encode (l := t)
  have whole : String.fromUTF8? (utf8 t).toByteArray = some (String.ofList t) := by
    rw [String.fromUTF8?, dif_pos valid]
    rfl
  rw [decode, whole]
  exact String.toList_ofList

end Decode

/-! ### Percent encoding -/

/-- Bytes that stand for themselves: letters, digits and `_.-~`. -/
def safe (b : UInt8) : Bool :=
  (48 ≤ b && b ≤ 57) || (65 ≤ b && b ≤ 90) || (97 ≤ b && b ≤ 122) || b == 95 || b == 46 ||
    b == 45 || b == 126

def hexDigit (n : Nat) : Char := Char.ofNat (if n < 10 then 48 + n else 55 + n)

def quoteByte (b : UInt8) : List Char :=
  if b = 32 then ['+']
  else if safe b then [Char.ofNat b.toNat]
  else ['%', hexDigit (b.toNat / 16), hexDigit (b.toNat % 16)]

/-- `quote_plus`. -/
def quotePlus (t : List Char) : List Char := (utf8 t).flatMap quoteByte

def hexValue (c : Char) : Option Nat :=
  let n := c.toNat
  if 48 ≤ n ∧ n ≤ 57 then some (n - 48)
  else if 65 ≤ n ∧ n ≤ 70 then some (n - 55)
  else if 97 ≤ n ∧ n ≤ 102 then some (n - 87)
  else none

/-- The byte that the text begins with in hexadecimal. -/
def escaped : List Char → Option UInt8
  | x :: y :: _ => do return UInt8.ofNat (16 * (← hexValue x) + (← hexValue y))
  | _ => none

/-- The bytes of an ASCII text; `skip` characters are part of an escape that has been read. -/
def bytesFrom : Nat → List Char → List UInt8
  | _, [] => []
  | skip + 1, _ :: rest => bytesFrom skip rest
  | 0, c :: rest =>
    match if c = '%' then escaped rest else none with
    | some b => b :: bytesFrom 2 rest
    | none => UInt8.ofNat c.toNat :: bytesFrom 0 rest

/-- `unquote_to_bytes`: a percent sign without two hexadecimal digits stays. -/
def unquoteToBytes (t : List Char) : List UInt8 := bytesFrom 0 t

def isAscii (c : Char) : Bool := decide (c.toNat < 128)

section Unquote
variable (salvage : List UInt8 → List Char)

/-- `unquote`: run by run of ASCII characters. -/
def unquote (t : List Char) : List Char :=
  (t.splitBy fun a b => isAscii a == isAscii b).flatMap fun run =>
    if run.all isAscii then decode salvage (unquoteToBytes run) else run

def plusToSpace (t : List Char) : List Char := t.map fun c => if c = '+' then ' ' else c

/-- `unquote_plus`. -/
def unquotePlus (t : List Char) : List Char := unquote salvage (plusToSpace t)

/-! ### Pairs -/

/-- `parse_qsl(text, keep_blank_values=True)`. -/
def parseQsl (t : List Char) : List (List Char × List Char) :=
  ((t.splitOn '&').filter (· ≠ [])).map fun field =>
    (unquotePlus salvage (field.takeWhile (· ≠ '=')),
      unquotePlus salvage ((field.dropWhile (· ≠ '=')).drop 1))

end Unquote

def encodePair (p : List Char × List Char) : List Char := quotePlus p.1 ++ '=' :: quotePlus p.2

/-- `urlencode`. -/
def urlencode (pairs : List (List Char × List Char)) : List Char :=
  ['&'].intercalate (pairs.map encodePair)

/-! ### What is written -/

/-- Characters that encoded names and values are made of. -/
def Written (c : Char) : Prop :=
  c.isAlphanum = true ∨ c = '_' ∨ c = '.' ∨ c = '-' ∨ c = '~' ∨ c = '%' ∨ c = '+'

instance : DecidablePred Written := fun _ => inferInstanceAs (Decidable (_ ∨ _))

theorem written_quoteByte (b : UInt8) : ∀ c ∈ quoteByte b, Written c := by
  have all : ∀ n < 256, (quoteByte (UInt8.ofNat n)).all (fun c => decide (Written c)) = true := by
    decide +kernel
  have here := all b.toNat b.toNat_lt
  rw [UInt8.ofNat_toNat] at here
  exact fun c member => of_decide_eq_true (List.all_eq_true.mp here c member)

theorem written_quotePlus {t : List Char} : ∀ c ∈ quotePlus t, Written c := by
  intro c member
  obtain ⟨b, -, found⟩ := List.mem_flatMap.mp member
  exact written_quoteByte b c found

theorem Written.ascii {c : Char} (written : Written c) : isAscii c = true := by
  rcases written with alnum | rfl | rfl | rfl | rfl | rfl | rfl
  · have bounds := Char.isAlphanum_iff.mp alnum
    exact decide_eq_true (by omega)
  all_goals decide

/-! ### What is read back -/

theorem read_hexDigit : ∀ i < 16, hexValue (hexDigit i) = some i ∧ hexDigit i ≠ '+' := by decide

theorem read_safe (b : UInt8) (plain : safe b = true) : Char.ofNat b.toNat ≠ '+' ∧
    Char.ofNat b.toNat ≠ '%' ∧ UInt8.ofNat (Char.ofNat b.toNat).toNat = b := by
  have all : ∀ n < 256, safe (UInt8.ofNat n) = true → Char.ofNat n ≠ '+' ∧ Char.ofNat n ≠ '%' ∧
      UInt8.ofNat (Char.ofNat n).toNat = UInt8.ofNat n := by decide +kernel
  have here := all b.toNat b.toNat_lt
  rw [UInt8.ofNat_toNat] at here
  exact here plain

/-- A byte is read back from its encoding, whatever follows it. -/
theorem bytesFrom_quoteByte (b : UInt8) (rest : List Char) :
    bytesFrom 0 (plusToSpace (quoteByte b) ++ rest) = b :: bytesFrom 0 rest := by
  unfold quoteByte
  split
  · rename_i space
    subst space
    rfl
  split
  · rename_i plain
    obtain ⟨plus, percent, same⟩ := read_safe b plain
    simp only [plusToSpace, List.map_cons, List.map_nil, if_neg plus, List.cons_append,
      List.nil_append, bytesFrom, if_neg percent, same]
  · have bound := b.toNat_lt
    obtain ⟨high, plus⟩ := read_hexDigit (b.toNat / 16) (by omega)
    obtain ⟨low, plus'⟩ := read_hexDigit (b.toNat % 16) (by omega)
    have value : 16 * (b.toNat / 16) + b.toNat % 16 = b.toNat := by omega
    have here : escaped (hexDigit (b.toNat / 16) :: hexDigit (b.toNat % 16) :: rest) = some b := by
      rw [escaped, high, low]
      change some (UInt8.ofNat (16 * (b.toNat / 16) + b.toNat % 16)) = some b
      rw [value, UInt8.ofNat_toNat]
    have percent : '%' ≠ '+' := by decide
    simp only [plusToSpace, List.map_cons, List.map_nil, if_neg plus, if_neg plus', if_neg percent,
      List.cons_append, List.nil_append, bytesFrom, if_true, here]

theorem bytesFrom_quoted (bytes : List UInt8) :
    bytesFrom 0 (plusToSpace (bytes.flatMap quoteByte)) = bytes := by
  induction bytes with
  | nil => rfl
  | cons b bytes ih =>
    rw [List.flatMap_cons, plusToSpace, List.map_append]
    exact (bytesFrom_quoteByte b _).trans (congrArg (b :: ·) ih)

section Unquote
variable {salvage : List UInt8 → List Char}

/-- An ASCII text is one run. -/
theorem unquote_ascii {t : List Char} (ascii : ∀ c ∈ t, isAscii c = true) :
    unquote salvage t = decode salvage (unquoteToBytes t) := by
  cases t with
  | nil => exact (decode_utf8 salvage []).symm
  | cons c t =>
    have chain : (c :: t).IsChain fun a b => (isAscii a == isAscii b) = true :=
      List.Pairwise.isChain (List.pairwise_of_forall_mem_list fun a listed b listed' => by
        rw [ascii a listed, ascii b listed']
        rfl)
    rw [unquote, List.splitBy_of_isChain (List.cons_ne_nil c t) chain]
    simp only [List.flatMap_cons, List.flatMap_nil, List.append_nil]
    rw [if_pos (List.all_eq_true.mpr ascii)]

theorem unquotePlus_quotePlus (t : List Char) : unquotePlus salvage (quotePlus t) = t := by
  have ascii : ∀ c ∈ plusToSpace (quotePlus t), isAscii c = true := by
    intro c member
    obtain ⟨d, listed, rfl⟩ := List.mem_map.mp member
    split
    · rfl
    · exact (written_quotePlus d listed).ascii
  rw [unquotePlus, unquote_ascii ascii, unquoteToBytes, quotePlus, bytesFrom_quoted, decode_utf8]

theorem read_pair (p : List Char × List Char) :
    (unquotePlus salvage ((encodePair p).takeWhile (· ≠ '=')),
      unquotePlus salvage (((encodePair p).dropWhile (· ≠ '=')).drop 1)) = p := by
  have clear : ∀ c ∈ quotePlus p.1, decide (c ≠ '=') = true := by
    intro c member
    refine decide_eq_true ?_
    rintro rfl
    exact absurd (written_quotePlus _ member) (by decide)
  rw [encodePair, List.takeWhile_append_of_pos clear, List.dropWhile_append_of_pos clear]
  simp [unquotePlus_quotePlus]

/-- Encoded pairs are read back. -/
theorem parseQsl_urlencode (pairs : List (List Char × List Char)) :
    parseQsl salvage (urlencode pairs) = pairs := by
  cases pairs with
  | nil => rfl
  | cons p pairs =>
    have clear : ∀ field ∈ (p :: pairs).map encodePair, '&' ∉ field := by
      intro field member
      obtain ⟨q, -, rfl⟩ := List.mem_map.mp member
      intro amp
      rcases List.mem_append.mp amp with name | value
      · exact absurd (written_quotePlus _ name) (by decide)
      · rcases List.mem_cons.mp value with equals | value
        · exact absurd equals (by decide)
        · exact absurd (written_quotePlus _ value) (by decide)
    have full : ∀ field ∈ (p :: pairs).map encodePair, decide (field ≠ []) = true := by
      intro field member
      obtain ⟨q, -, rfl⟩ := List.mem_map.mp member
      exact decide_eq_true (by simp [encodePair])
    rw [parseQsl, urlencode, List.splitOn_intercalate '&' clear (by simp),
      List.filter_eq_self.mpr full, List.map_map]
    exact (List.map_congr_left fun q _ => read_pair q).trans (List.map_id _)

end Unquote

/-- The characters of an encoded query. -/
theorem written_urlencode {pairs : List (List Char × List Char)} :
    ∀ c ∈ urlencode pairs, Written c ∨ c = '=' ∨ c = '&' := by
  intro c member
  rcases Parted.mem_of_mem_intercalate member with amp | ⟨field, listed, found⟩
  · exact .inr (.inr (List.mem_singleton.mp amp))
  · obtain ⟨p, -, rfl⟩ := List.mem_map.mp listed
    rcases List.mem_append.mp found with name | value
    · exact .inl (written_quotePlus c name)
    · rcases List.mem_cons.mp value with rfl | value
      · exact .inr (.inl rfl)
      · exact .inl (written_quotePlus c value)

end UrlQuery
