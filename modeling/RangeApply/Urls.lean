import RangeApply.Message
import RangeApply.Sorting
import RangeApply.UrlQuery

/-! The canonical form of a URL, and on which URLs it is one: when the form is computed without an
error and is its own form. -/
namespace RangeApply.Urls

open UrlQuery

/-! ### Reading a URL -/

/-- What reading a URL takes from elsewhere: lower case, what `errors='replace'` makes of bytes that
are no UTF-8, the netlocs whose brackets hold an address that `urlsplit` accepts, and the characters
that NFKC turns into text with one of `/?#@:`. -/
structure Platform where
  unicode : Unicode
  salvage : List UInt8 → Text
  brackets : Text → Bool
  expands : Char → Bool

/-- `SplitResult`, without the fragment. -/
structure Parts where
  scheme : Text
  netloc : Text
  path : Text
  query : Text
  deriving DecidableEq

def partBefore (c : Char) (t : Text) : Text := t.takeWhile (· ≠ c)

def partAfter (c : Char) (t : Text) : Text := (t.dropWhile (· ≠ c)).drop 1

def schemeChar (c : Char) : Bool := c.isAlphanum || c == '+' || c == '-' || c == '.'

def delimiter (c : Char) : Bool := c == '/' || c == '?' || c == '#'

def lineSign (c : Char) : Bool := c == '\t' || c == '\r' || c == '\n'

/-- Leading control characters and blanks go, and so do tabs and line ends wherever they stand. -/
def cleaned (t : Text) : Text := (t.dropWhile fun c => decide (c.toNat ≤ 32)).filter (!lineSign ·)

/-- The scheme in lower case, and what follows its colon; no scheme without one. -/
def splitScheme (t : Text) : Text × Text :=
  let name := partBefore ':' t
  if ':' ∈ t ∧ name.head?.any Char.isAlpha ∧ name.all schemeChar then
    (name.map Char.toLower, partAfter ':' t)
  else ([], t)

/-- `_splitnetloc`, after two slashes. -/
def splitNetloc (t : Text) : Text × Text :=
  if ['/', '/'].isPrefixOf t then
    ((t.drop 2).takeWhile (!delimiter ·), (t.drop 2).dropWhile (!delimiter ·))
  else ([], t)

/-- `_hostinfo`: host and port, after the last `@`. -/
def hostInfo (netloc : Text) : Text × Text :=
  let info := netloc.rtakeWhile (· ≠ '@')
  if '[' ∈ info then
    let bracketed := partAfter '[' info
    (partBefore ']' bracketed, partAfter ':' (partAfter ']' bracketed))
  else (partBefore ':' info, partAfter ':' info)

def dropWww (host : Text) : Text := if "www.".ascii.isPrefixOf host then host.drop 4 else host

/-- The port, if one is given; nothing at all where reading it raises ValueError. -/
def readPort (t : Text) : Option (Option Nat) :=
  if t = [] then some none
  else if t.all Char.isDigit ∧ t.length ≤ 4300 ∧ Nat.ofDigitChars 10 t 0 ≤ 65535 then
    some (some (Nat.ofDigitChars 10 t 0))
  else none

def trackingParams : List Text :=
  ["utm_source", "utm_medium", "utm_campaign", "utm_term", "utm_content", "utm_id", "gh_src",
    "lever-origin", "lever-source", "ashby_jid_source", "fbclid", "gclid", "msclkid", "mc_cid",
    "mc_eid", "igshid", "ref", "referrer", "trk", "trackingid", "source", "src"].map String.ascii

def http : Text := "http".ascii

def https : Text := "https".ascii

def defaultPort (scheme : Text) : Nat := if scheme = http then 80 else 443

/-- The order of pairs of texts. -/
def pairLe (a b : Text × Text) : Bool :=
  if a.1 = b.1 then keyLe (a.2.map fun c => (c.toNat : Int)) (b.2.map fun c => (c.toNat : Int))
  else keyLe (a.1.map fun c => (c.toNat : Int)) (b.1.map fun c => (c.toNat : Int))

/-- `urlunsplit` of an absolute `http` or `https` URL without a fragment. -/
def urlunsplit (scheme netloc path query : Text) : Text :=
  let url := if path ≠ [] ∧ path.head? ≠ some '/' then '/' :: path else path
  scheme ++ "://".ascii ++ netloc ++ url ++ if query = [] then [] else '?' :: query

/-- What `urlsplit` takes a URL into, whether or not it accepts the netloc. -/
def pieces (url : Text) : Parts :=
  let (scheme, rest) := splitScheme (cleaned url)
  let (netloc, rest) := splitNetloc rest
  let rest := partBefore '#' rest
  ⟨scheme, netloc, partBefore '?' rest, partAfter '?' rest⟩

namespace Platform
variable (pf : Platform)

/-- Brackets come in both kinds and hold an address; no character expands to a delimiter. -/
def accepts (netloc : Text) : Bool :=
  decide ('[' ∈ netloc ∨ ']' ∈ netloc → '[' ∈ netloc ∧ ']' ∈ netloc ∧ pf.brackets netloc = true) &&
    !netloc.any pf.expands

/-- `urlsplit`; no parts where it raises ValueError. -/
def urlsplit (url : Text) : Option Parts :=
  if pf.accepts (pieces url).netloc then some (pieces url) else none

/-- `parts.hostname`: the zone of an IPv6 address keeps its case. -/
def hostname (netloc : Text) : Text :=
  let host := (hostInfo netloc).1
  pf.unicode.lower (partBefore '%' host) ++ host.dropWhile (· ≠ '%')

def kept (query : Text) : List (Text × Text) :=
  ((parseQsl pf.salvage query).filter fun p => pf.unicode.lower p.1 ∉ trackingParams).mergeSort pairLe

/-- The canonical form of the URL, if it has one; nothing at all where ValueError reaches the
caller. -/
def normalizeUrl (url : Option Text) : Option (Option Text) :=
  match url with
  | none => some none
  | some url =>
    if Text.strip url = [] then some none
    else
      match pf.urlsplit (Text.strip url) with
      | none => some none
      | some parts =>
        if (parts.scheme ≠ http ∧ parts.scheme ≠ https) ∨ parts.netloc = [] then some none
        else if pf.hostname parts.netloc = [] then some none
        else do
          let host := dropWww (pf.unicode.lower (pf.hostname parts.netloc))
          let port ← readPort (hostInfo parts.netloc).2
          let netloc := match port with
            | some p => if p ≠ defaultPort parts.scheme then host ++ ':' :: Nat.toDigits 10 p else host
            | none => host
          let path := parts.path.rdropWhile (· = '/')
          return some (urlunsplit parts.scheme netloc path (urlencode (pf.kept parts.query)))

end Platform

/-! ### What a URL is read as -/

/-- A URL as `normalizeUrl` takes it apart; the port is there unless it is the scheme's own. -/
structure Reading where
  scheme : Text
  host : Text
  port : Option Nat
  path : Text
  query : List (Text × Text)

def netlocOf (host : Text) : Option Nat → Text
  | some p => host ++ ':' :: Nat.toDigits 10 p
  | none => host

def Reading.netloc (r : Reading) : Text := netlocOf r.host r.port

def Reading.text (r : Reading) : Text := urlunsplit r.scheme r.netloc r.path (urlencode r.query)

namespace Platform
variable (pf : Platform)

/-- The URL names a host under `http` or `https`. -/
def Absolute (parts : Parts) : Prop :=
  (parts.scheme = http ∨ parts.scheme = https) ∧ pf.hostname parts.netloc ≠ []

def reading (parts : Parts) (port : Option Nat) : Reading where
  scheme := parts.scheme
  host := dropWww (pf.unicode.lower (pf.hostname parts.netloc))
  port := port.filter (· ≠ defaultPort parts.scheme)
  path := parts.path.rdropWhile (· = '/')
  query := pf.kept parts.query

variable {pf} {t : Text}

theorem urlsplit_inv {parts : Parts} (split_ : pf.urlsplit t = some parts) :
    pf.accepts parts.netloc = true ∧ parts = pieces t := by
  obtain ⟨accepted, same⟩ := Option.ite_none_right_eq_some.mp split_
  exact ⟨(Option.some.inj same) ▸ accepted, (Option.some.inj same).symm⟩

theorem hostname_nil (lowers : pf.unicode.Lowers) : pf.hostname [] = [] := by
  have nil : pf.unicode.lower [] = [] := lowers.steady [] (by simp)
  simp [hostname, hostInfo, partBefore, nil]

theorem normalizeUrl_absolute (lowers : pf.unicode.Lowers) {parts : Parts}
    (split_ : pf.urlsplit (Text.strip t) = some parts) (absolute : pf.Absolute parts) :
    pf.normalizeUrl (some t) = (readPort (hostInfo parts.netloc).2).map fun port =>
      some (pf.reading parts port).text := by
  obtain ⟨scheme, named⟩ := absolute
  have full : Text.strip t ≠ [] := by
    intro empty
    have nothing : parts.scheme = [] := by
      rw [(urlsplit_inv split_).2, empty]
      rfl
    rw [nothing] at scheme
    exact absurd scheme (by decide)
  have netloc : parts.netloc ≠ [] := by
    intro empty
    rw [empty] at named
    exact named (hostname_nil lowers)
  have known : ¬((parts.scheme ≠ http ∧ parts.scheme ≠ https) ∨ parts.netloc = []) := by
    rintro (⟨plain, secure⟩ | empty)
    · exact scheme.elim plain secure
    · exact netloc empty
  simp only [normalizeUrl, if_neg full, split_, if_neg known, if_neg named]
  cases readPort (hostInfo parts.netloc).2 with
  | none => rfl
  | some port =>
    refine congrArg (fun text => some (some text)) ?_
    cases port with
    | none => rfl
    | some p =>
      by_cases own : p ≠ defaultPort parts.scheme
      · simp [Reading.text, Reading.netloc, reading, Option.filter, netlocOf, own]
      · simp [Reading.text, Reading.netloc, reading, Option.filter, netlocOf, own]

theorem normalizeUrl_untrusted
    (unread : ∀ parts, pf.urlsplit (Text.strip t) = some parts → ¬pf.Absolute parts) :
    pf.normalizeUrl (some t) = some none := by
  simp only [normalizeUrl]
  split
  · rfl
  split
  · rfl
  rename_i parts split_
  split
  · rfl
  rename_i known
  split
  · rfl
  rename_i named
  refine absurd ⟨?_, named⟩ (unread parts split_)
  by_contra other
  exact known (.inl (not_or.mp other))

end Platform

/-! ### What a reading is made of -/

/-- Lower case makes no sign, and signs are expanded from signs only that have no lower case. -/
structure Platform.Lawful (pf : Platform) : Prop where
  lowers : pf.unicode.Lowers
  signs : ∀ t, ∀ c ∈ pf.unicode.lower t, isAscii c = true → c.isAlpha = false → c ∈ t
  plain : ∀ c, isAscii c = true → pf.expands c = false
  expands : ∀ t, ∀ c ∈ pf.unicode.lower t, pf.expands c = true → ∃ d ∈ t, pf.expands d = true

def hostChar (c : Char) : Bool := !delimiter c && !lineSign c && c ≠ '@'

def pathChar (c : Char) : Bool := c ≠ '?' && c ≠ '#' && !lineSign c

/-- What every reading is like. -/
structure Reading.Shaped (pf : Platform) (r : Reading) : Prop where
  scheme : r.scheme = http ∨ r.scheme = https
  host : ∀ c ∈ r.host, hostChar c = true ∧ pf.unicode.lower [c] = [c] ∧ pf.expands c = false
  brackets : ¬('[' ∈ r.host ∧ ']' ∈ r.host)
  port : ∀ p ∈ r.port, p ≤ 65535 ∧ p ≠ defaultPort r.scheme
  path : ∀ c ∈ r.path.head?, c = '/'
  pathChars : ∀ c ∈ r.path, pathChar c = true
  trimmed : r.path.rdropWhile (· = '/') = r.path
  query : pf.kept (urlencode r.query) = r.query

section Parts
variable {t : Text} {c : Char}

theorem lineSign_of_mem_cleaned (member : c ∈ cleaned t) : lineSign c = false := by
  simpa using (List.mem_filter.mp member).2

theorem mem_of_mem_partBefore {d : Char} (member : c ∈ partBefore d t) : c ∈ t ∧ c ≠ d :=
  ⟨(List.takeWhile_subset _) member, by simpa using List.mem_takeWhile_imp member⟩

theorem mem_of_mem_partAfter {d : Char} (member : c ∈ partAfter d t) : c ∈ t :=
  (List.dropWhile_subset _) (List.mem_of_mem_drop member)

theorem mem_of_mem_splitScheme (member : c ∈ (splitScheme t).2) : c ∈ t := by
  simp only [splitScheme] at member
  split at member
  · exact mem_of_mem_partAfter member
  · exact member

theorem mem_netloc_of_split (member : c ∈ (splitNetloc t).1) : c ∈ t ∧ delimiter c = false := by
  unfold splitNetloc at member
  split at member
  · refine ⟨List.mem_of_mem_drop ((List.takeWhile_subset _) member), ?_⟩
    simpa using List.mem_takeWhile_imp member
  · cases member

theorem mem_tail_of_split (member : c ∈ (splitNetloc t).2) : c ∈ t := by
  unfold splitNetloc at member
  split at member
  · exact List.mem_of_mem_drop ((List.dropWhile_subset _) member)
  · exact member

/-- What follows a netloc begins with the character that ends it. -/
theorem delimiter_tail (named : (splitNetloc t).1 ≠ []) :
    ∀ c ∈ (splitNetloc t).2.head?, delimiter c = true := by
  intro c head
  unfold splitNetloc at named head
  split at head
  · have stopped := List.head?_dropWhile_not (!delimiter ·) (t.drop 2)
    rw [head] at stopped
    simpa using stopped
  · rename_i bare
    rw [if_neg bare] at named
    exact absurd rfl named

variable {netloc : Text}

theorem mem_of_mem_hostInfo (member : c ∈ (hostInfo netloc).1) : c ∈ netloc ∧ c ≠ '@' := by
  have inner {d : Char} (found : d ∈ netloc.rtakeWhile (· ≠ '@')) : d ∈ netloc ∧ d ≠ '@' :=
    ⟨(List.rtakeWhile_suffix _ _).subset found, by simpa using List.mem_rtakeWhile_imp found⟩
  simp only [hostInfo] at member
  split at member
  · exact inner (mem_of_mem_partAfter (mem_of_mem_partBefore member).1)
  · exact inner (mem_of_mem_partBefore member).1

theorem hostInfo_brackets : ¬('[' ∈ (hostInfo netloc).1 ∧ ']' ∈ (hostInfo netloc).1) := by
  rintro ⟨opening, closing⟩
  simp only [hostInfo] at opening closing
  split at opening
  · rename_i bracketed
    rw [if_pos bracketed] at closing
    exact (mem_of_mem_partBefore closing).2 rfl
  · rename_i bare
    exact bare (mem_of_mem_partBefore opening).1

theorem mem_of_mem_dropWww (member : c ∈ dropWww t) : c ∈ t := by
  unfold dropWww at member
  split at member
  · exact List.mem_of_mem_drop member
  · exact member

theorem ascii_of_not_hostChar (sign : hostChar c = false) :
    isAscii c = true ∧ c.isAlpha = false := by
  have cases : c = '/' ∨ c = '?' ∨ c = '#' ∨ c = '\t' ∨ c = '\r' ∨ c = '\n' ∨ c = '@' := by
    by_contra other
    simp only [not_or] at other
    simp [hostChar, delimiter, lineSign, other] at sign
  rcases cases with rfl | rfl | rfl | rfl | rfl | rfl | rfl <;> decide

end Parts

namespace Platform.Lawful
variable {pf : Platform} {netloc : Text} {c : Char}

/-- A sign in the host was there before lower case. -/
theorem sign (lawful : pf.Lawful) (member : c ∈ pf.unicode.lower (pf.hostname netloc))
    (ascii : isAscii c = true) (sign : c.isAlpha = false) : c ∈ (hostInfo netloc).1 := by
  rcases List.mem_append.mp (lawful.signs _ c member ascii sign) with address | zone
  · exact (mem_of_mem_partBefore (lawful.signs _ c address ascii sign)).1
  · exact (List.dropWhile_subset _) zone

theorem expanded (lawful : pf.Lawful) (member : c ∈ pf.unicode.lower (pf.hostname netloc))
    (expands : pf.expands c = true) : ∃ d ∈ netloc, pf.expands d = true := by
  obtain ⟨d, found, expands⟩ := lawful.expands _ c member expands
  rcases List.mem_append.mp found with address | zone
  · obtain ⟨e, found, expands⟩ := lawful.expands _ d address expands
    exact ⟨e, (mem_of_mem_hostInfo (mem_of_mem_partBefore found).1).1, expands⟩
  · exact ⟨d, (mem_of_mem_hostInfo ((List.dropWhile_subset _) zone)).1, expands⟩

end Platform.Lawful

theorem pairLe_total (a b : Text × Text) : (pairLe a b || pairLe b a) = true := by
  rw [Bool.or_eq_true]
  unfold pairLe
  by_cases same : a.1 = b.1
  · rw [if_pos same, if_pos same.symm]
    exact keyLe_total _ _
  · rw [if_neg same, if_neg (Ne.symm same)]
    exact keyLe_total _ _

theorem codes_injective : Function.Injective fun t : Text => t.map fun c => (c.toNat : Int) := by
  refine List.map_injective_iff.mpr fun c d same => ?_
  exact Char.ext (UInt32.toNat_inj.mp (Int.ofNat_inj.mp same))

theorem pairLe_trans (a b c : Text × Text) (left : pairLe a b = true)
    (right : pairLe b c = true) : pairLe a c = true := by
  unfold pairLe at *
  by_cases ab : a.1 = b.1
  · rw [if_pos ab] at left
    rw [ab]
    split at right
    · rw [if_pos ‹_›]
      exact keyLe_trans left right
    · rw [if_neg ‹_›]
      exact right
  · rw [if_neg ab] at left
    by_cases bc : b.1 = c.1
    · rwa [← bc, if_neg ab]
    · rw [if_neg bc] at right
      have ac : a.1 ≠ c.1 := by
        intro ac
        rw [← ac] at right
        exact ab (codes_injective (keyLe_antisymm left right))
      rw [if_neg ac]
      exact keyLe_trans left right

namespace Platform
variable {pf : Platform} {t : Text}

/-- The pairs that are kept are kept once more, in their order. -/
theorem kept_urlencode (query : Text) : pf.kept (urlencode (pf.kept query)) = pf.kept query := by
  have untracked : ∀ p ∈ pf.kept query,
      decide (pf.unicode.lower p.1 ∉ trackingParams) = true := by
    intro p member
    exact (List.mem_filter.mp (List.mem_mergeSort.mp member)).2
  have sorted : (pf.kept query).Pairwise fun a b => pairLe a b = true :=
    List.pairwise_mergeSort pairLe_trans pairLe_total _
  rw [kept, parseQsl_urlencode, List.filter_eq_self.mpr untracked]
  exact List.mergeSort_of_pairwise sorted

theorem netloc_chars {parts : Parts} (split_ : pf.urlsplit t = some parts) {c : Char}
    (member : c ∈ parts.netloc) :
    delimiter c = false ∧ lineSign c = false ∧ pf.expands c = false := by
  obtain ⟨accepted, same⟩ := urlsplit_inv split_
  have whole : pf.expands c = false := by
    have none_ := (Bool.and_eq_true_iff.mp accepted).2
    rw [Bool.not_eq_true', List.any_eq_false] at none_
    exact Bool.eq_false_iff.mpr (none_ c member)
  rw [same] at member
  obtain ⟨found, clear⟩ := mem_netloc_of_split member
  exact ⟨clear, lineSign_of_mem_cleaned (mem_of_mem_splitScheme found), whole⟩

theorem path_chars {parts : Parts} (split_ : pf.urlsplit t = some parts) {c : Char}
    (member : c ∈ parts.path) : pathChar c = true := by
  rw [(urlsplit_inv split_).2] at member
  obtain ⟨member, question⟩ := mem_of_mem_partBefore member
  obtain ⟨member, hash⟩ := mem_of_mem_partBefore member
  have clear := lineSign_of_mem_cleaned (mem_of_mem_splitScheme (mem_tail_of_split member))
  simp [pathChar, question, hash, clear]

theorem head_path {parts : Parts} (split_ : pf.urlsplit t = some parts)
    (named : parts.netloc ≠ []) : ∀ c ∈ parts.path.head?, c = '/' := by
  intro c head
  rw [(urlsplit_inv split_).2] at named head
  simp only [pieces, partBefore, List.head?_takeWhile, Option.mem_filter_iff,
    decide_eq_true_eq] at head
  obtain ⟨⟨head, hash⟩, question⟩ := head
  have ends := delimiter_tail named c head
  simpa [delimiter, hash, question] using ends

theorem shaped_reading (lawful : pf.Lawful) {parts : Parts} {port : Option Nat}
    (split_ : pf.urlsplit t = some parts) (absolute : pf.Absolute parts)
    (read : readPort (hostInfo parts.netloc).2 = some port) :
    (pf.reading parts port).Shaped pf where
  scheme := absolute.1
  host := by
    intro c member
    have lower := mem_of_mem_dropWww member
    refine ⟨?_, lawful.lowers.lowered _ c lower, ?_⟩
    · by_contra sign
      rw [Bool.not_eq_true] at sign
      obtain ⟨ascii, alpha⟩ := ascii_of_not_hostChar sign
      obtain ⟨found, separator⟩ := mem_of_mem_hostInfo (lawful.sign lower ascii alpha)
      obtain ⟨clear, printed, -⟩ := netloc_chars split_ found
      simp [hostChar, clear, printed, separator] at sign
    · by_contra expands
      rw [Bool.not_eq_false] at expands
      obtain ⟨d, found, expands⟩ := lawful.expanded lower expands
      rw [(netloc_chars split_ found).2.2] at expands
      cases expands
  brackets := by
    rintro ⟨opening, closing⟩
    have found {c : Char} (member : c ∈ (pf.reading parts port).host) :=
      lawful.sign (mem_of_mem_dropWww member)
    exact hostInfo_brackets
      ⟨found opening (by decide) (by decide), found closing (by decide) (by decide)⟩
  port := by
    intro p member
    obtain ⟨member, other⟩ := Option.mem_filter_iff.mp member
    cases member
    refine ⟨?_, of_decide_eq_true other⟩
    unfold readPort at read
    split at read
    · cases read
    split at read
    · rename_i valid
      cases read
      exact valid.2.2
    · cases read
  path := by
    intro c head
    have named : parts.netloc ≠ [] := by
      intro empty
      refine absolute.2 ?_
      rw [empty]
      exact hostname_nil lawful.lowers
    obtain ⟨rest, same⟩ := List.rdropWhile_prefix (· = '/') parts.path
    refine head_path split_ named c ?_
    rw [← same, List.head?_append, show List.head? (parts.path.rdropWhile _) = some c from head]
    rfl
  pathChars := fun c member =>
    path_chars split_ ((List.rdropWhile_prefix (· = '/') parts.path).subset member)
  trimmed := List.rdropWhile_idempotent _ _
  query := kept_urlencode parts.query

end Platform

end RangeApply.Urls
