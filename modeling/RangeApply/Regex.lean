import Mathlib.Data.List.Basic

/-! Regular expressions matched by backtracking: the leftmost match, the first alternative that
lets the rest match, and as much repetition as that allows. A pattern is read from its usual
notation. What counts as a letter or a digit beyond ASCII is the character database's to say. -/

/-- What a program takes from the Unicode character database. -/
structure Unicode where
  alnum : Char → Bool
  decimal : Char → Bool
  lower : List Char → List Char

def Unicode.ascii : Unicode := ⟨Char.isAlphanum, Char.isDigit, List.map Char.toLower⟩

/-- The characters of an ASCII text, byte by byte. -/
def String.ascii (s : String) : List Char := s.toUTF8.data.toList.map fun b => Char.ofNat b.toNat

/-- `str.isspace` of one character. -/
def Char.isBlank (c : Char) : Bool :=
  let n := c.toNat
  (9 ≤ n && n ≤ 13) || (28 ≤ n && n ≤ 32) || n == 0x85 || n == 0xA0 || n == 0x1680 ||
    (0x2000 ≤ n && n ≤ 0x200A) || n == 0x2028 || n == 0x2029 || n == 0x202F || n == 0x205F ||
    n == 0x3000

/-- Case folding against ASCII letters: four letters beyond ASCII fold onto them. -/
def Char.foldCase (c : Char) : Char :=
  if c.toNat = 0x130 ∨ c.toNat = 0x131 then 'i'
  else if c.toNat = 0x17F then 's'
  else if c.toNat = 0x212A then 'k'
  else c.toLower

theorem Char.toNat_toLower (c : Char) :
    c.toLower.toNat = if 65 ≤ c.toNat ∧ c.toNat ≤ 90 then c.toNat + 32 else c.toNat := by
  have upper : (c.val ≥ 'A'.val ∧ c.val ≤ 'Z'.val) ↔ 65 ≤ c.toNat ∧ c.toNat ≤ 90 := by
    simp only [ge_iff_le, UInt32.le_iff_toNat_le]
    rfl
  unfold Char.toLower
  split
  · rename_i here
    have bounds := upper.mp here
    have below : c.val.toNat ≤ 90 := bounds.2
    rw [if_pos bounds]
    change (c.val + 32).toNat = c.val.toNat + 32
    rw [UInt32.toNat_add]
    exact Nat.mod_eq_of_lt (by change c.val.toNat + 32 < _; omega)
  · rename_i here
    rw [if_neg (mt upper.mpr here)]

theorem Char.isBlank_toLower (c : Char) : c.toLower.isBlank = c.isBlank := by
  unfold Char.isBlank
  rw [Char.toNat_toLower]
  split
  · rename_i bounds
    obtain ⟨low, high⟩ := bounds
    rw [Bool.eq_iff_iff]
    simp
    omega
  · rfl

theorem Char.toLower_toLower (c : Char) : c.toLower.toLower = c.toLower := by
  refine Char.ext (UInt32.toNat_inj.mp ?_)
  change c.toLower.toLower.toNat = c.toLower.toNat
  rw [Char.toNat_toLower c.toLower, Char.toNat_toLower c]
  by_cases here : 65 ≤ c.toNat ∧ c.toNat ≤ 90
  · rw [if_pos here, if_neg (by omega)]
  · rw [if_neg here, if_neg here]

/-- Lower case text stays as it is. -/
theorem Unicode.lower_ascii_idem (t : List Char) :
    Unicode.ascii.lower (Unicode.ascii.lower t) = Unicode.ascii.lower t := by
  simp [Unicode.ascii, Char.toLower_toLower]

/-- What the lower case of a text is made of stays as it is, wherever it stands. -/
structure Unicode.Lowers (u : Unicode) : Prop where
  steady : ∀ t, (∀ c ∈ t, u.lower [c] = [c]) → u.lower t = t
  lowered : ∀ t, ∀ c ∈ u.lower t, u.lower [c] = [c]

theorem Unicode.lowers_ascii : Unicode.ascii.Lowers where
  steady t low := by
    refine (List.map_congr_left fun c member => ?_).trans (List.map_id t)
    exact (List.cons.inj (low c member)).1
  lowered t c member := by
    obtain ⟨b, -, rfl⟩ := List.mem_map.mp member
    exact congrArg (fun c => [c]) (Char.toLower_toLower b)

inductive CharSet
  | one (c : Char)
  | range (first last : Char)
  | any
  | word
  | blank
  | decimal
  | union (a b : CharSet)
  | except (a : CharSet)

namespace CharSet

def has (u : Unicode) (fold : Bool) (c : Char) : CharSet → Bool
  | one d => if fold then c.foldCase == d.foldCase else c == d
  | range first last =>
    if fold then
      let lower := c.foldCase
      (first ≤ lower && lower ≤ last) || (first ≤ lower.toUpper && lower.toUpper ≤ last)
    else first ≤ c && c ≤ last
  | any => true
  | word => u.alnum c || c == '_'
  | blank => c.isBlank
  | decimal => u.decimal c
  | union a b => a.has u fold c || b.has u fold c
  | except a => !a.has u fold c

end CharSet

inductive Regex
  | empty
  | set (s : CharSet)
  | seq (a b : Regex)
  | alt (a b : Regex)
  /-- At least `least` times and at most `most` times. -/
  | rep (r : Regex) (least : Nat) (most : Option Nat)
  | group (n : Nat) (r : Regex)
  | boundary
  | start
  | stop
  | notAhead (r : Regex)
  | notBehind (s : CharSet)

/-- A place in a text: what lies before it, last character first, what lies ahead, and the groups
matched on the way there, last one first. -/
structure Cursor where
  before : List Char
  rest : List Char
  groups : List (Nat × List Char)

namespace Cursor

def at_ (before rest : List Char) : Cursor := ⟨before, rest, []⟩

/-- A word ends or begins here. -/
def boundary (u : Unicode) (c : Cursor) : Bool :=
  let word (l : List Char) := match l with
    | [] => false
    | x :: _ => CharSet.word.has u false x
  word c.before != word c.rest

/-- The text from here to a later place. -/
def upTo (c later : Cursor) : List Char := c.rest.take (c.rest.length - later.rest.length)

end Cursor

/-- A matcher goes on with the rest of the pattern from every place where its own part may end,
in order of preference, until that succeeds. -/
abbrev Matcher := Cursor → (Cursor → Option Cursor) → Option Cursor

namespace Matcher

def times (m : Matcher) : Nat → Matcher
  | 0, c, k => k c
  | n + 1, c, k => m c fun c' => times m n c' k

/-- As often as possible, `n` times at most; a repetition consumes something. -/
def greedy (m : Matcher) : Nat → Matcher
  | 0, c, k => k c
  | n + 1, c, k =>
    match m c fun c' => if c'.rest.length < c.rest.length then greedy m n c' k else none with
    | some found => some found
    | none => k c

end Matcher

namespace Regex

def run (u : Unicode) (fold : Bool) : Regex → Matcher
  | empty, c, k => k c
  | set s, c, k =>
    match c.rest with
    | [] => none
    | x :: rest => if s.has u fold x then k { c with before := x :: c.before, rest := rest } else none
  | seq a b, c, k => a.run u fold c fun c' => b.run u fold c' k
  | alt a b, c, k =>
    match a.run u fold c k with
    | some found => some found
    | none => b.run u fold c k
  | rep r least most, c, k =>
    (r.run u fold).times least c fun c' =>
      (r.run u fold).greedy (match most with
        | some n => n - least
        | none => c'.rest.length) c' k
  | group n r, c, k =>
    r.run u fold c fun c' => k { c' with groups := (n, c.upTo c') :: c'.groups }
  | boundary, c, k => if c.boundary u then k c else none
  | start, c, k => if c.before = [] then k c else none
  | stop, c, k => if c.rest = [] ∨ c.rest = ['\n'] then k c else none
  | notAhead r, c, k =>
    match r.run u fold c some with
    | some _ => none
    | none => k c
  | notBehind s, c, k =>
    match c.before with
    | [] => k c
    | x :: _ => if s.has u fold x then none else k c

end Regex

structure Pattern where
  regex : Regex
  ignoreCase : Bool

/-- A match, from the place where it starts to the place where it stops. -/
structure Match where
  first : Cursor
  last : Cursor

namespace Match

def text (m : Match) : List Char := m.first.upTo m.last

/-- The text of a group, empty when the group took no part. -/
def group (m : Match) (n : Nat) : List Char := (m.last.groups.lookup n).getD []

end Match

namespace Pattern
variable (u : Unicode) (p : Pattern)

def matchAt (c : Cursor) : Option Match :=
  (p.regex.run u p.ignoreCase c some).map (Match.mk c)

/-- The leftmost match from here on. -/
def searchFrom (before : List Char) : List Char → Option Match
  | [] => p.matchAt u (.at_ before [])
  | x :: rest =>
    match p.matchAt u (.at_ before (x :: rest)) with
    | some found => some found
    | none => searchFrom (x :: before) rest

/-- `pattern.search(text)`. -/
def search (text : List Char) : Option Match := p.searchFrom u [] text

/-- `pattern.match(text)`: a match at the beginning. -/
def matchStart (text : List Char) : Option Match := p.matchAt u (.at_ [] text)

/-- `pattern.fullmatch(text)` finds one. -/
def fullMatch (text : List Char) : Bool :=
  (p.regex.run u p.ignoreCase (.at_ [] text) fun c =>
    if c.rest = [] then some c else none).isSome

def found (text : List Char) : Bool := (p.search u text).isSome

/-- The matches one after the other; `n` bounds their number. -/
def matchesFrom : Nat → List Char → List Char → List Match
  | 0, _, _ => []
  | n + 1, before, rest =>
    match p.searchFrom u before rest with
    | none => []
    | some m =>
      if m.last.rest.length < m.first.rest.length then
        m :: matchesFrom n m.last.before m.last.rest
      else match m.last.rest with
        | [] => [m]
        | x :: rest => m :: matchesFrom n (x :: m.last.before) rest

/-- `pattern.finditer(text)`. -/
def all (text : List Char) : List Match := p.matchesFrom u (text.length + 1) [] text

/-- The text with every match replaced. -/
def replaced (by_ : List Char) (text : List Char) : List Match → List Char
  | [] => text
  | m :: ms =>
    text.take (text.length - m.first.rest.length) ++ by_ ++ replaced by_ m.last.rest ms

/-- `pattern.sub(by, text)`. -/
def sub (by_ text : List Char) : List Char := replaced by_ text (p.all u text)

theorem sub_of_unfound {text : List Char} (by_ : List Char) (unfound : p.found u text = false) :
    p.sub u by_ text = text := by
  have none_ : p.searchFrom u [] text = none := by
    simpa [found, search] using unfound
  simp [sub, all, matchesFrom, none_, replaced]

end Pattern

/-! ### Reading a pattern -/

namespace Pattern

inductive Opening
  | plain | capture (n : Nat) | notAhead | notBehind

inductive Token
  | set (s : CharSet)
  | opens (o : Opening)
  | closes
  | bar
  | repeats (least : Nat) (most : Option Nat)
  | boundary
  | start
  | stop

/-- What a backslash and a letter stand for. -/
def escape : Char → Token
  | 'b' => .boundary
  | 'w' => .set .word
  | 's' => .set .blank
  | 'S' => .set (.except .blank)
  | 'd' => .set .decimal
  | 'n' => .set (.one '\n')
  | 't' => .set (.one '\t')
  | 'r' => .set (.one '\r')
  | 'f' => .set (.one (Char.ofNat 12))
  | 'v' => .set (.one (Char.ofNat 11))
  | c => .set (.one c)

def escapedSet (c : Char) : CharSet :=
  match escape c with
  | .set s => s
  | _ => .one c

/-- The members of a class in brackets, up to the closing one. -/
def members : Nat → List Char → List CharSet → Option (List CharSet × List Char)
  | 0, _, _ => none
  | _, [], _ => none
  | _, ']' :: rest, acc => some (acc, rest)
  | n + 1, '\\' :: c :: rest, acc => members n rest (escapedSet c :: acc)
  | n + 1, a :: '-' :: b :: rest, acc =>
    if b = ']' then members n ('-' :: b :: rest) (.one a :: acc)
    else members n rest (.range a b :: acc)
  | n + 1, a :: rest, acc => members n rest (.one a :: acc)

def unionOf : List CharSet → CharSet
  | [] => .except .any
  | [s] => s
  | s :: more => .union (unionOf more) s

/-- A class, after its opening bracket. -/
def readClass (n : Nat) (text : List Char) : Option (CharSet × List Char) :=
  match text with
  | '^' :: rest => (members n rest []).map fun r => (.except (unionOf r.1), r.2)
  | _ => (members n text []).map fun r => (unionOf r.1, r.2)

def readNat (text : List Char) : Nat × List Char :=
  let digits := text.takeWhile Char.isDigit
  (digits.foldl (fun n c => 10 * n + (c.toNat - 48)) 0, text.dropWhile Char.isDigit)

/-- The bounds of a repetition, after the opening brace. -/
def readBounds (text : List Char) : Option (Token × List Char) :=
  let least := readNat text
  match least.2 with
  | '\x7d' :: rest => some (.repeats least.1 (some least.1), rest)
  | ',' :: '\x7d' :: rest => some (.repeats least.1 none, rest)
  | ',' :: more =>
    let most := readNat more
    match most.2 with
    | '\x7d' :: rest => some (.repeats least.1 (some most.1), rest)
    | _ => none
  | _ => none

/-- What an opening parenthesis begins, when `groups` have been opened before. -/
def readOpening (groups : Nat) : List Char → Opening × Nat × List Char
  | '?' :: ':' :: rest => (.plain, groups, rest)
  | '?' :: '!' :: rest => (.notAhead, groups, rest)
  | '?' :: '<' :: '!' :: rest => (.notBehind, groups, rest)
  | '?' :: 'P' :: '<' :: rest =>
    (.capture (groups + 1), groups + 1, (rest.dropWhile (· ≠ '>')).drop 1)
  | rest => (.capture (groups + 1), groups + 1, rest)

def tokens (dotAll : Bool) : Nat → Nat → List Char → Option (List Token)
  | _, _, [] => some []
  | 0, _, _ => none
  | n + 1, groups, c :: rest =>
    match c with
    | '\\' => match rest with
      | [] => none
      | d :: rest => (tokens dotAll n groups rest).map (escape d :: ·)
    | '[' => do
      let (s, rest) ← readClass n rest
      (tokens dotAll n groups rest).map (.set s :: ·)
    | '(' =>
      let (o, groups, rest) := readOpening groups rest
      (tokens dotAll n groups rest).map (.opens o :: ·)
    | ')' => (tokens dotAll n groups rest).map (.closes :: ·)
    | '|' => (tokens dotAll n groups rest).map (.bar :: ·)
    | '?' => (tokens dotAll n groups rest).map (.repeats 0 (some 1) :: ·)
    | '*' => (tokens dotAll n groups rest).map (.repeats 0 none :: ·)
    | '+' => (tokens dotAll n groups rest).map (.repeats 1 none :: ·)
    | '\x7b' => do
      let (t, rest) ← readBounds rest
      (tokens dotAll n groups rest).map (t :: ·)
    | '^' => (tokens dotAll n groups rest).map (.start :: ·)
    | '$' => (tokens dotAll n groups rest).map (.stop :: ·)
    | '.' =>
      let dot := if dotAll then CharSet.any else .except (.one '\n')
      (tokens dotAll n groups rest).map (.set dot :: ·)
    | c => (tokens dotAll n groups rest).map (.set (.one c) :: ·)

/-- An open parenthesis: what it began, the alternatives read so far, and the pieces of the one
being read, last first. -/
structure Frame where
  opening : Opening
  branches : List Regex
  pieces : List Regex

namespace Frame

def branch : List Regex → Regex
  | [] => .empty
  | [r] => r
  | r :: more => .seq (branch more) r

def regex (f : Frame) : Regex :=
  f.branches.foldl (fun later b => .alt b later) (branch f.pieces)

def push (r : Regex) (f : Frame) : Frame := { f with pieces := r :: f.pieces }

/-- The parenthesis closes; only one character can be looked back at. -/
def close (f : Frame) : Option Regex :=
  match f.opening, f.regex with
  | .plain, r => some r
  | .capture n, r => some (.group n r)
  | .notAhead, r => some (.notAhead r)
  | .notBehind, .set s => some (.notBehind s)
  | .notBehind, _ => none

end Frame

def assemble : List Token → Frame → List Frame → Option Regex
  | [], f, [] => some f.regex
  | [], _, _ :: _ => none
  | .set s :: ts, f, fs => assemble ts (f.push (.set s)) fs
  | .opens o :: ts, f, fs => assemble ts ⟨o, [], []⟩ (f :: fs)
  | .closes :: ts, f, fs =>
    match fs, f.close with
    | g :: fs, some r => assemble ts (g.push r) fs
    | _, _ => none
  | .bar :: ts, f, fs => assemble ts ⟨f.opening, Frame.branch f.pieces :: f.branches, []⟩ fs
  | .repeats least most :: ts, f, fs =>
    match f.pieces with
    | [] => none
    | r :: pieces => assemble ts { f with pieces := .rep r least most :: pieces } fs
  | .boundary :: ts, f, fs => assemble ts (f.push .boundary) fs
  | .start :: ts, f, fs => assemble ts (f.push .start) fs
  | .stop :: ts, f, fs => assemble ts (f.push .stop) fs

/-- The regular expression a notation stands for, if it stands for one. -/
def read (dotAll : Bool) (text : List Char) : Option Regex := do
  let ts ← tokens dotAll (text.length + 1) 0 text
  assemble ts ⟨.plain, [], []⟩ []

/-- A pattern that matches nothing stands in for a notation that cannot be read. -/
def of (ignoreCase dotAll : Bool) (text : List Char) : Pattern :=
  ⟨(read dotAll text).getD (.set (.except .any)), ignoreCase⟩

end Pattern
