import RangeApply.Urls

/-! The canonical form of a URL read again: what it is split into, and when it is its own canonical
form. -/
namespace RangeApply.Urls

open UrlQuery

/-! ### Splitting what was joined -/

section Split
variable {t rest : Text} {c d : Char}

theorem partBefore_clear (clear : d ∉ t) : partBefore d t = t :=
  List.takeWhile_eq_self_iff.mpr fun _ member =>
    decide_eq_true (ne_of_mem_of_not_mem member clear)

theorem partAfter_clear (clear : d ∉ t) : partAfter d t = [] := by
  have all : ∀ c ∈ t, decide (c ≠ d) = true := fun c member =>
    decide_eq_true (ne_of_mem_of_not_mem member clear)
  rw [partAfter, List.dropWhile_eq_nil_iff.mpr all, List.drop_nil]

theorem partBefore_joined (clear : d ∉ t) : partBefore d (t ++ d :: rest) = t := by
  have all : ∀ c ∈ t, decide (c ≠ d) = true := fun c member =>
    decide_eq_true (ne_of_mem_of_not_mem member clear)
  rw [partBefore, List.takeWhile_append_of_pos all]
  simp

theorem partAfter_joined (clear : d ∉ t) : partAfter d (t ++ d :: rest) = rest := by
  have all : ∀ c ∈ t, decide (c ≠ d) = true := fun c member =>
    decide_eq_true (ne_of_mem_of_not_mem member clear)
  rw [partAfter, List.dropWhile_append_of_pos all]
  simp

theorem splitScheme_absolute {scheme : Text} (known : scheme = http ∨ scheme = https) :
    splitScheme (scheme ++ ':' :: rest) = (scheme, rest) := by
  have plain : ':' ∉ scheme ∧ scheme.head?.any Char.isAlpha = true ∧
      scheme.all schemeChar = true ∧ scheme.map Char.toLower = scheme := by
    rcases known with rfl | rfl <;> decide
  obtain ⟨clear, letter, valid, low⟩ := plain
  rw [splitScheme, partBefore_joined clear, partAfter_joined clear, low]
  exact if_pos ⟨by simp, letter, valid⟩

theorem splitNetloc_joined {netloc : Text} (clear : ∀ c ∈ netloc, delimiter c = false)
    (ends : ∀ c ∈ rest.head?, delimiter c = true) :
    splitNetloc ('/' :: '/' :: (netloc ++ rest)) = (netloc, rest) := by
  have inside : ∀ c ∈ netloc, (!delimiter c) = true := fun c member => by simp [clear c member]
  have stop : rest.takeWhile (!delimiter ·) = [] ∧ rest.dropWhile (!delimiter ·) = rest := by
    cases rest with
    | nil => exact ⟨rfl, rfl⟩
    | cons c rest => simp [ends c rfl]
  rw [splitNetloc, if_pos (by simp [List.isPrefixOf])]
  change ((netloc ++ rest).takeWhile _, (netloc ++ rest).dropWhile _) = _
  rw [List.takeWhile_append_of_pos inside, List.dropWhile_append_of_pos inside, stop.1, stop.2,
    List.append_nil]

end Split

/-- What follows the netloc of a URL. -/
def tailOf (path query : Text) : Text := path ++ if query = [] then [] else '?' :: query

section Joined
variable {scheme netloc path query : Text}

theorem urlunsplit_eq (head : ∀ c ∈ path.head?, c = '/') :
    urlunsplit scheme netloc path query =
      scheme ++ ':' :: '/' :: '/' :: (netloc ++ tailOf path query) := by
  have rooted : ¬(path ≠ [] ∧ path.head? ≠ some '/') := by
    rintro ⟨full, other⟩
    obtain ⟨c, rest, rfl⟩ := List.exists_cons_of_ne_nil full
    exact other (congrArg some (head c rfl))
  simp only [urlunsplit, if_neg rooted, tailOf, List.append_assoc]
  rfl

theorem delimiter_tailOf (head : ∀ c ∈ path.head?, c = '/') :
    ∀ c ∈ (tailOf path query).head?, delimiter c = true := by
  intro c member
  cases path with
  | nil =>
    by_cases empty : query = []
    · rw [tailOf, if_pos empty] at member
      cases member
    · rw [tailOf, if_neg empty] at member
      cases member
      rfl
  | cons d path =>
    cases member
    rw [head c rfl]
    rfl

theorem cleaned_eq {t : Text} (head : ∀ c ∈ t.head?, 32 < c.toNat)
    (printed : ∀ c ∈ t, lineSign c = false) : cleaned t = t := by
  have front : t.dropWhile (fun c => decide (c.toNat ≤ 32)) = t := by
    cases t with
    | nil => rfl
    | cons c t =>
      have low : ¬c.toNat ≤ 32 := by simpa using head c rfl
      exact List.dropWhile_cons_of_neg (by simpa using low)
  rw [cleaned, front, List.filter_eq_self]
  exact fun c member => by simp [printed c member]

theorem head_urlunsplit (known : scheme = http ∨ scheme = https) :
    (urlunsplit scheme netloc path query).head? = some 'h' := by
  rcases known with rfl | rfl <;> rfl

/-- Parts that keep out of each other's way once they are joined. -/
structure Clean (netloc path query : Text) : Prop where
  netloc : ∀ c ∈ netloc, delimiter c = false ∧ lineSign c = false
  head : ∀ c ∈ path.head?, c = '/'
  path : ∀ c ∈ path, pathChar c = true
  query : ∀ c ∈ query, c ≠ '#' ∧ lineSign c = false

namespace Clean

theorem of_path (clean : Clean netloc path query) :
    '?' ∉ path ∧ '#' ∉ path ∧ ∀ c ∈ path, lineSign c = false := by
  refine ⟨fun member => absurd (clean.path _ member) (by decide),
    fun member => absurd (clean.path _ member) (by decide), fun c member => ?_⟩
  have char := clean.path c member
  simp only [pathChar, Bool.and_eq_true, Bool.not_eq_true'] at char
  exact char.2

theorem tail (clean : Clean netloc path query) :
    ∀ c ∈ tailOf path query, c ≠ '#' ∧ lineSign c = false := by
  intro c member
  rcases List.mem_append.mp member with member | member
  · exact ⟨ne_of_mem_of_not_mem member clean.of_path.2.1, clean.of_path.2.2 c member⟩
  · split at member
    · cases member
    · rcases List.mem_cons.mp member with rfl | member
      · decide
      · exact clean.query c member

theorem printed (clean : Clean netloc path query) (known : scheme = http ∨ scheme = https) :
    ∀ c ∈ urlunsplit scheme netloc path query, lineSign c = false := by
  have front : scheme.all (!lineSign ·) = true := by rcases known with rfl | rfl <;> decide
  rw [urlunsplit_eq clean.head]
  intro c member
  rcases List.mem_append.mp member with member | member
  · simpa using List.all_eq_true.mp front c member
  simp only [List.mem_cons, List.mem_append] at member
  rcases member with rfl | rfl | rfl | member | member
  any_goals rfl
  · exact (clean.netloc c member).2
  · exact (clean.tail c member).2

/-- Clean parts are found again. -/
theorem pieces_urlunsplit (clean : Clean netloc path query)
    (known : scheme = http ∨ scheme = https) :
    pieces (urlunsplit scheme netloc path query) = ⟨scheme, netloc, path, query⟩ := by
  have same : cleaned (urlunsplit scheme netloc path query) =
      urlunsplit scheme netloc path query := by
    refine cleaned_eq (fun c head => ?_) (clean.printed known)
    rw [head_urlunsplit known] at head
    cases head
    decide
  have parts : partBefore '?' (tailOf path query) = path ∧
      partAfter '?' (tailOf path query) = query := by
    have question := clean.of_path.1
    by_cases empty : query = []
    · rw [tailOf, if_pos empty, List.append_nil, empty]
      exact ⟨partBefore_clear question, partAfter_clear question⟩
    · rw [tailOf, if_neg empty]
      exact ⟨partBefore_joined question, partAfter_joined question⟩
  have hashless : '#' ∉ tailOf path query := fun member => (clean.tail _ member).1 rfl
  rw [pieces, same, urlunsplit_eq clean.head, splitScheme_absolute known]
  simp only [splitNetloc_joined (fun c member => (clean.netloc c member).1)
    (delimiter_tailOf clean.head), partBefore_clear hashless, parts]

end Clean

end Joined

/-! ### Hosts and ports -/

/-- Letters and digits have no part in the syntax of a URL. -/
theorem plain_of_alnum {c : Char} (alnum : c.isAlphanum = true) : c.isBlank = false ∧
    delimiter c = false ∧ lineSign c = false ∧ c ≠ ':' ∧ c ≠ '@' ∧ c ≠ '[' ∧ c ≠ ']' := by
  have sign {d : Char} (other : d.isAlphanum = false) : c ≠ d := by
    rintro rfl
    rw [other] at alnum
    cases alnum
  refine ⟨?_, ?_, ?_, sign (by decide), sign (by decide), sign (by decide), sign (by decide)⟩
  · have bounds := Char.isAlphanum_iff.mp alnum
    simp [Char.isBlank]
    omega
  · simp [delimiter, sign]
  · simp [lineSign, sign]

theorem alnum_of_mem_digits {c : Char} {p : Nat} (member : c ∈ Nat.toDigits 10 p) :
    c.isAlphanum = true := by
  have digit : c.isDigit = true := Nat.isDigit_of_mem_toDigits (by decide) (by decide) member
  simp [Char.isAlphanum, digit]

theorem plain_of_written {c : Char} (written : Written c) :
    c.isBlank = false ∧ lineSign c = false ∧ c ≠ '#' := by
  rcases written with alnum | rfl | rfl | rfl | rfl | rfl | rfl
  · obtain ⟨blank, -, printed, -⟩ := plain_of_alnum alnum
    refine ⟨blank, printed, ?_⟩
    rintro rfl
    exact absurd alnum (by decide)
  all_goals decide

section Host
variable {host t rest : Text} {d : Char}

theorem mem_netlocOf {port : Option Nat} {c : Char} (member : c ∈ netlocOf host port) :
    c ∈ host ∨ c = ':' ∨ c.isAlphanum = true := by
  cases port with
  | none => exact .inl member
  | some p =>
    rcases List.mem_append.mp member with member | member
    · exact .inl member
    · rcases List.mem_cons.mp member with rfl | member
      · exact .inr (.inl rfl)
      · exact .inr (.inr (alnum_of_mem_digits member))

theorem not_mem_netlocOf {port : Option Nat} {c : Char} (alnum : c.isAlphanum = false)
    (colon : c ≠ ':') (out : c ∉ host) : c ∉ netlocOf host port := by
  intro member
  rcases mem_netlocOf member with member | rfl | other
  · exact out member
  · exact colon rfl
  · rw [other] at alnum
    cases alnum

theorem mem_netlocOf_of_mem (port : Option Nat) {c : Char} (member : c ∈ host) :
    c ∈ netlocOf host port := by
  cases port with
  | none => exact member
  | some p => exact List.mem_append_left _ member

theorem partBefore_append : partBefore d (t ++ d :: rest) = partBefore d t := by
  induction t with
  | nil => simp [partBefore]
  | cons c t ih =>
    by_cases same : c = d
    · simp [partBefore, same]
    · simpa [partBefore, same] using ih

theorem partBefore_netlocOf (port : Option Nat) :
    partBefore ':' (netlocOf host port) = partBefore ':' host := by
  cases port with
  | none => rfl
  | some p => exact partBefore_append

def portText : Option Nat → Text
  | some p => Nat.toDigits 10 p
  | none => []

theorem partAfter_netlocOf (clear : ':' ∉ host) (port : Option Nat) :
    partAfter ':' (netlocOf host port) = portText port := by
  cases port with
  | none => exact partAfter_clear clear
  | some p => exact partAfter_joined clear

theorem readPort_portText {port : Option Nat} (bound : ∀ p ∈ port, p ≤ 65535) :
    readPort (portText port) = some port := by
  cases port with
  | none => rfl
  | some p =>
    have bound := bound p rfl
    have digits : (Nat.toDigits 10 p).all Char.isDigit = true :=
      List.all_eq_true.mpr fun c member =>
        Nat.isDigit_of_mem_toDigits (by decide) (by decide) member
    have short : (Nat.toDigits 10 p).length ≤ 5 :=
      (Nat.length_toDigits_le_iff (by decide) (by decide)).mpr (by omega)
    rw [readPort, portText, if_neg Nat.toDigits_ne_nil, Nat.ofDigitChars_ten_toDigits,
      if_pos ⟨digits, by omega, bound⟩]

theorem hostInfo_bare (bare : '[' ∉ t) (single : '@' ∉ t) :
    hostInfo t = (partBefore ':' t, partAfter ':' t) := by
  have whole : t.rtakeWhile (· ≠ '@') = t :=
    List.rtakeWhile_eq_self_iff.mpr fun c member =>
      decide_eq_true (ne_of_mem_of_not_mem member single)
  rw [hostInfo, whole]
  exact if_neg bare

theorem hostInfo_sublist : (hostInfo t).1.Sublist t := by
  have info : (t.rtakeWhile (· ≠ '@')).Sublist t := (List.rtakeWhile_suffix _ _).sublist
  simp only [hostInfo]
  split
  · refine (List.takeWhile_sublist _).trans (.trans ?_ info)
    exact (List.drop_sublist _ _).trans (List.dropWhile_sublist _)
  · exact (List.takeWhile_sublist _).trans info

theorem dropWww_eq_self : dropWww host = host ↔ "www.".ascii.isPrefixOf host = false := by
  unfold dropWww
  split
  · rename_i repeats
    have long : 4 ≤ host.length := (List.isPrefixOf_iff_prefix.mp repeats).length_le
    refine iff_of_false (fun same => ?_) (by simp [repeats])
    have lengths := congrArg List.length same
    rw [List.length_drop] at lengths
    omega
  · rename_i other
    exact iff_of_true rfl (Bool.eq_false_iff.mpr other)

theorem length_dropWww : (dropWww host).length ≤ host.length := by
  unfold dropWww
  split
  · rw [List.length_drop]
    omega
  · exact le_rfl

end Host

namespace Reading.Shaped
variable {pf : Platform} {r : Reading}

theorem clean (shaped : r.Shaped pf) : Clean r.netloc r.path (urlencode r.query) where
  netloc := by
    intro c member
    rcases mem_netlocOf member with member | rfl | alnum
    · have char := (shaped.host c member).1
      simp only [hostChar, Bool.and_eq_true, Bool.not_eq_true'] at char
      exact char.1
    · decide
    · obtain ⟨-, clear, printed, -⟩ := plain_of_alnum alnum
      exact ⟨clear, printed⟩
  head := shaped.path
  path := shaped.pathChars
  query := by
    intro c member
    rcases written_urlencode c member with written | rfl | rfl
    · exact ⟨(plain_of_written written).2.2, (plain_of_written written).2.1⟩
    · decide
    · decide

theorem pieces_text (shaped : r.Shaped pf) :
    pieces r.text = ⟨r.scheme, r.netloc, r.path, urlencode r.query⟩ :=
  shaped.clean.pieces_urlunsplit shaped.scheme

theorem partBefore_steady (shaped : r.Shaped pf) :
    ∀ c ∈ partBefore ':' r.host, pf.unicode.lower [c] = [c] :=
  fun c member => (shaped.host c (mem_of_mem_partBefore member).1).2.1

/-- Where the netloc is accepted it has no brackets. -/
theorem bare_of_accepts (shaped : r.Shaped pf) (accepted : pf.accepts r.netloc = true) :
    '[' ∉ r.host ∧ ']' ∉ r.host := by
  have both := of_decide_eq_true (Bool.and_eq_true_iff.mp accepted).1
  have inHost {c : Char} (bracket : c = '[' ∨ c = ']') (member : c ∈ r.netloc) : c ∈ r.host := by
    rcases mem_netlocOf member with member | rfl | alnum
    · exact member
    · exact absurd bracket (by decide)
    · obtain ⟨-, -, -, -, -, opening, closing⟩ := plain_of_alnum alnum
      exact absurd bracket (not_or.mpr ⟨opening, closing⟩)
  have none_ : ¬('[' ∈ r.netloc ∨ ']' ∈ r.netloc) := by
    intro some_
    obtain ⟨opening, closing, -⟩ := both some_
    exact shaped.brackets ⟨inHost (.inl rfl) opening, inHost (.inr rfl) closing⟩
  exact ⟨fun member => none_ (.inl (mem_netlocOf_of_mem _ member)),
    fun member => none_ (.inr (mem_netlocOf_of_mem _ member))⟩

theorem accepts_of_bare (shaped : r.Shaped pf) (lawful : pf.Lawful) (opening : '[' ∉ r.host)
    (closing : ']' ∉ r.host) : pf.accepts r.netloc = true := by
  have opening : '[' ∉ r.netloc := not_mem_netlocOf (by decide) (by decide) opening
  have closing : ']' ∉ r.netloc := not_mem_netlocOf (by decide) (by decide) closing
  refine Bool.and_eq_true_iff.mpr ⟨decide_eq_true fun some_ => ?_, ?_⟩
  · exact absurd some_ (not_or.mpr ⟨opening, closing⟩)
  · rw [Bool.not_eq_true', List.any_eq_false]
    intro c member
    rw [Bool.not_eq_true]
    rcases mem_netlocOf member with member | rfl | alnum
    · exact (shaped.host c member).2.2
    · exact lawful.plain _ (by decide)
    · exact lawful.plain c (Written.ascii (.inl alnum))

theorem hostInfo_netloc (shaped : r.Shaped pf) (bare : '[' ∉ r.host) :
    hostInfo r.netloc = (partBefore ':' r.host, partAfter ':' r.netloc) := by
  have single : '@' ∉ r.host := fun member =>
    absurd (shaped.host _ member).1 (by decide)
  rw [Reading.netloc, hostInfo_bare (not_mem_netlocOf (by decide) (by decide) bare)
    (not_mem_netlocOf (by decide) (by decide) single), partBefore_netlocOf]

end Reading.Shaped

/-- Text in lower case is a host as it stands. -/
theorem hostname_steady {pf : Platform} (lowers : pf.unicode.Lowers) {netloc : Text}
    (low : ∀ c ∈ (hostInfo netloc).1, pf.unicode.lower [c] = [c]) :
    pf.hostname netloc = (hostInfo netloc).1 ∧
      pf.unicode.lower (pf.hostname netloc) = (hostInfo netloc).1 := by
  have address := lowers.steady (partBefore '%' (hostInfo netloc).1) fun c member =>
    low c (mem_of_mem_partBefore member).1
  have same : pf.hostname netloc = (hostInfo netloc).1 := by
    change pf.unicode.lower (partBefore '%' _) ++ _ = _
    rw [address]
    exact List.takeWhile_append_dropWhile
  exact ⟨same, by rw [same, lowers.steady _ low]⟩

/-! ### Reading the form -/

/-- A host that stands for itself. -/
def Plain (host : Text) : Prop :=
  host ≠ [] ∧ "www.".ascii.isPrefixOf host = false ∧ ':' ∉ host ∧ '[' ∉ host ∧ ']' ∉ host

/-- The reading is what its text is read as: its host is plain, or a plain host with a port of its
own, and its text does not end in a blank. -/
structure Reading.Steady (r : Reading) : Prop where
  host : Plain r.host ∨ r.port = none ∧ ∃ name p, r.host = netlocOf name (some p) ∧ Plain name ∧
    p ≤ 65535 ∧ p ≠ defaultPort r.scheme
  edge : r.query = [] → ∀ c ∈ (r.netloc ++ r.path).getLast?, c.isBlank = false

namespace Platform
variable {pf : Platform} {t out : Text}

theorem normalizeUrl_inv (lowers : pf.unicode.Lowers)
    (ran : pf.normalizeUrl (some t) = some (some out)) :
    ∃ parts port, pf.urlsplit (Text.strip t) = some parts ∧ pf.Absolute parts ∧
      readPort (hostInfo parts.netloc).2 = some port ∧ (pf.reading parts port).text = out := by
  by_cases read : ∃ parts, pf.urlsplit (Text.strip t) = some parts ∧ pf.Absolute parts
  · obtain ⟨parts, split_, absolute⟩ := read
    rw [normalizeUrl_absolute lowers split_ absolute] at ran
    obtain ⟨port, given, same⟩ := Option.map_eq_some_iff.mp ran
    exact ⟨parts, port, split_, absolute, given, Option.some.inj same⟩
  · rw [normalizeUrl_untrusted fun parts split_ absolute => read ⟨parts, split_, absolute⟩] at ran
    cases ran

theorem kept_nil : pf.kept [] = [] := by
  have none_ : parseQsl pf.salvage [] = [] := parseQsl_urlencode []
  rw [kept, none_]
  exact List.mergeSort_nil

end Platform

namespace Reading.Shaped
variable {pf : Platform} {r : Reading}

theorem urlencode_eq_nil (shaped : r.Shaped pf) : urlencode r.query = [] ↔ r.query = [] := by
  constructor
  · intro empty
    rw [← shaped.query, empty]
    exact Platform.kept_nil
  · intro empty
    rw [empty]
    rfl

theorem text_eq (shaped : r.Shaped pf) : r.text =
    r.scheme ++ ':' :: '/' :: '/' :: (r.netloc ++ tailOf r.path (urlencode r.query)) :=
  urlunsplit_eq shaped.path

/-- Only what stands before the query can leave a blank at the end. -/
theorem strip_text (shaped : r.Shaped pf)
    (edge : r.query = [] → ∀ c ∈ (r.netloc ++ r.path).getLast?, c.isBlank = false) :
    Text.strip r.text = r.text := by
  refine Text.strip_of_edges (fun c head => ?_) (fun c last => ?_)
  · rw [Reading.text, head_urlunsplit shaped.scheme] at head
    cases head
    rfl
  rw [shaped.text_eq] at last
  by_cases empty : r.query = []
  · rw [shaped.urlencode_eq_nil.mpr empty, tailOf, if_pos rfl, List.append_nil] at last
    cases rest : r.netloc ++ r.path with
    | nil =>
      rw [rest, List.getLast?_append] at last
      cases last
      rfl
    | cons d ds =>
      refine edge empty c ?_
      rw [rest] at last ⊢
      simpa [List.getLast?_append] using last
  · have full : urlencode r.query ≠ [] := mt shaped.urlencode_eq_nil.mp empty
    have inQuery : c ∈ urlencode r.query := by
      have whole : r.scheme ++ ':' :: '/' :: '/' :: (r.netloc ++ (r.path ++ '?' ::
          urlencode r.query)) = (r.scheme ++ ':' :: '/' :: '/' :: (r.netloc ++ (r.path ++ ['?']))) ++
            urlencode r.query := by simp
      rw [tailOf, if_neg full, whole, List.getLast?_append_of_ne_nil _ full] at last
      exact List.mem_of_getLast? last
    rcases written_urlencode c inQuery with written | rfl | rfl
    · exact (plain_of_written written).1
    · rfl
    · rfl

/-- The text is read as itself but for the host and the port. -/
theorem reading_pieces (shaped : r.Shaped pf) (lawful : pf.Lawful) (bare : '[' ∉ r.host)
    (port : Option Nat) :
    pf.hostname r.netloc = partBefore ':' r.host ∧
    pf.reading ⟨r.scheme, r.netloc, r.path, urlencode r.query⟩ port =
      { r with host := dropWww (partBefore ':' r.host)
               port := port.filter (· ≠ defaultPort r.scheme) } := by
  have info := shaped.hostInfo_netloc bare
  have low : ∀ c ∈ (hostInfo r.netloc).1, pf.unicode.lower [c] = [c] := by
    rw [info]
    exact shaped.partBefore_steady
  obtain ⟨host, lower⟩ := hostname_steady lawful.lowers low
  rw [info] at host lower
  refine ⟨host, ?_⟩
  simp only [Platform.reading, lower, shaped.trimmed, shaped.query]

end Reading.Shaped

/-! ### When the form is its own form -/

section Settled
variable {pf : Platform} {r : Reading}

/-- A plain host with a port of its own, or none, is read from its netloc. -/
theorem normalizeUrl_plain (lawful : pf.Lawful) (shaped : r.Shaped pf) (steady : r.Steady)
    {name : Text} {port : Option Nat} (plain : Plain name) (same : r.netloc = netlocOf name port)
    (other : ∀ p ∈ port, p ≤ 65535 ∧ p ≠ defaultPort r.scheme) (opening : '[' ∉ r.host)
    (closing : ']' ∉ r.host) : pf.normalizeUrl (some r.text) = some (some r.text) := by
  have named : partBefore ':' r.host = name := by
    rw [← partBefore_netlocOf r.port]
    change partBefore ':' r.netloc = name
    rw [same, partBefore_netlocOf, partBefore_clear plain.2.2.1]
  obtain ⟨host, again⟩ := shaped.reading_pieces lawful opening port
  have accepted := shaped.accepts_of_bare lawful opening closing
  have split_ : pf.urlsplit (Text.strip r.text) =
      some ⟨r.scheme, r.netloc, r.path, urlencode r.query⟩ := by
    rw [shaped.strip_text steady.edge, Platform.urlsplit, shaped.pieces_text]
    exact if_pos accepted
  have absolute : pf.Absolute ⟨r.scheme, r.netloc, r.path, urlencode r.query⟩ := by
    refine ⟨shaped.scheme, ?_⟩
    rw [host, named]
    exact plain.1
  have given : readPort (hostInfo r.netloc).2 = some port := by
    rw [shaped.hostInfo_netloc opening, same, partAfter_netlocOf plain.2.2.1]
    exact readPort_portText fun p member => (other p member).1
  have kept : port.filter (· ≠ defaultPort r.scheme) = port := by
    cases port with
    | none => rfl
    | some p => exact Option.filter_some_pos (decide_eq_true (other p rfl).2)
  rw [Platform.normalizeUrl_absolute lawful.lowers split_ absolute, given, Option.map_some, again,
    named, kept, dropWww_eq_self.mpr plain.2.1]
  simp only [Reading.text, Reading.netloc, ← same]

theorem normalizeUrl_steady (lawful : pf.Lawful) (shaped : r.Shaped pf) (steady : r.Steady) :
    pf.normalizeUrl (some r.text) = some (some r.text) := by
  rcases steady.host with plain | ⟨bare, name, p, same, plain, bound, other⟩
  · exact normalizeUrl_plain lawful shaped steady plain rfl shaped.port plain.2.2.2.1 plain.2.2.2.2
  · have netloc : r.netloc = netlocOf name (some p) := by
      rw [Reading.netloc, bare]
      exact same
    have outside {c : Char} (alnum : c.isAlphanum = false) (colon : c ≠ ':') (out : c ∉ name) :
        c ∉ r.host := by
      rw [same]
      exact not_mem_netlocOf alnum colon out
    refine normalizeUrl_plain lawful shaped steady plain netloc ?_
      (outside (by decide) (by decide) plain.2.2.2.1)
      (outside (by decide) (by decide) plain.2.2.2.2)
    intro q member
    cases member
    exact ⟨bound, other⟩

/-- A netloc that the same netloc is read from has a plain host. -/
theorem plain_of_reread {port : Option Nat} (opening : '[' ∉ r.host) (closing : ']' ∉ r.host)
    (named : partBefore ':' r.host ≠ [])
    (other : ∀ p ∈ port, p ≤ 65535 ∧ p ≠ defaultPort r.scheme)
    (same : netlocOf (dropWww (partBefore ':' r.host)) port = r.netloc) :
    Plain r.host ∨ r.port = none ∧ ∃ name p, r.host = netlocOf name (some p) ∧ Plain name ∧
      p ≤ 65535 ∧ p ≠ defaultPort r.scheme := by
  have clear : ':' ∉ partBefore ':' r.host := fun member => (mem_of_mem_partBefore member).2 rfl
  have clear' : ':' ∉ dropWww (partBefore ':' r.host) := fun member =>
    clear (mem_of_mem_dropWww member)
  -- the host that is read is the part of the netloc before the colon
  have fixed : dropWww (partBefore ':' r.host) = partBefore ':' r.host := by
    have both := congrArg (partBefore ':') same
    rwa [partBefore_netlocOf, partBefore_clear clear', Reading.netloc, partBefore_netlocOf] at both
  rw [fixed] at same
  have part {c : Char} (out : c ∉ r.host) : c ∉ partBefore ':' r.host := fun member =>
    out (mem_of_mem_partBefore member).1
  have plain : Plain (partBefore ':' r.host) :=
    ⟨named, dropWww_eq_self.mp fixed, clear, part opening, part closing⟩
  have whole (colon : ':' ∉ r.host) : Plain r.host := by
    rwa [partBefore_clear colon] at plain
  have digits (p : Nat) : ':' ∉ Nat.toDigits 10 p := fun member =>
    absurd (alnum_of_mem_digits member) (by decide)
  cases written : r.port with
  | none =>
    rw [Reading.netloc, written] at same
    cases port with
    | none => exact .inl (whole (by rw [← show _ = r.host from same]; exact clear))
    | some p => exact .inr ⟨rfl, _, p, same.symm, plain, (other p rfl).1, (other p rfl).2⟩
  | some p =>
    refine .inl (whole fun colon => ?_)
    rw [Reading.netloc, written] at same
    have counts := congrArg (List.count ':') same
    have some_ : 0 < r.host.count ':' := List.count_pos_iff.mpr colon
    cases port with
    | none =>
      simp [netlocOf, List.count_eq_zero_of_not_mem clear] at counts
    | some q =>
      simp [netlocOf, List.count_eq_zero_of_not_mem clear,
        List.count_eq_zero_of_not_mem (digits _)] at counts
      omega

theorem rdropWhile_stop {p : Char → Bool} {x : Char} (stop : p x = false) (front t : Text) :
    (front ++ x :: t).rdropWhile p = front ++ x :: t.rdropWhile p := by
  have stop : ¬p x = true := by simp [stop]
  induction t using List.reverseRecOn with
  | nil => exact List.rdropWhile_concat_neg p front x stop
  | append_singleton t y ih =>
    rw [← List.cons_append, ← List.append_assoc, List.rdropWhile_concat, List.rdropWhile_concat, ih]
    split <;> simp

/-- Blanks at the end go from what follows a slash. -/
theorem strip_slash {front t : Text} (head : front.head? = some 'h') :
    Text.strip (front ++ '/' :: t) = front ++ '/' :: t.rdropWhile Char.isBlank := by
  obtain ⟨rest, rfl⟩ := List.head?_eq_some_iff.mp head
  have kept : ('h' :: rest ++ '/' :: t).dropWhile Char.isBlank = 'h' :: rest ++ '/' :: t :=
    List.dropWhile_cons_of_neg (by decide)
  rw [Text.strip, kept, rdropWhile_stop (by decide)]

/-- What is read once more without the blanks at the end. -/
theorem reread_without_blanks (lawful : pf.Lawful) (shaped : r.Shaped pf)
    (ran : pf.normalizeUrl (some r.text) = some (some r.text)) {netloc path : Text}
    (stripped : Text.strip r.text = urlunsplit r.scheme netloc path [])
    (clean : Clean netloc path []) : ∃ port, (pf.reading ⟨r.scheme, netloc, path, []⟩ port).netloc =
      r.netloc ∧ path.rdropWhile (· = '/') = r.path := by
  obtain ⟨parts, port, split_, absolute, given, same⟩ := Platform.normalizeUrl_inv lawful.lowers ran
  have second := Platform.shaped_reading lawful split_ absolute given
  obtain ⟨-, found⟩ := Platform.urlsplit_inv split_
  rw [stripped, clean.pieces_urlunsplit shaped.scheme] at found
  subst found
  have all := congrArg pieces same
  rw [second.pieces_text, shaped.pieces_text] at all
  exact ⟨port, congrArg Parts.netloc all, congrArg Parts.path all⟩

theorem last_netlocOf {host : Text} {p : Nat} :
    ∀ c ∈ (netlocOf host (some p)).getLast?, c.isBlank = false := by
  intro c last
  have whole : netlocOf host (some p) = (host ++ [':']) ++ Nat.toDigits 10 p := by simp [netlocOf]
  rw [whole, List.getLast?_append_of_ne_nil _ Nat.toDigits_ne_nil] at last
  exact (plain_of_alnum (alnum_of_mem_digits (List.mem_of_getLast? last))).1

theorem last_of_whole {t : Text} (whole : t.length ≤ (t.rdropWhile Char.isBlank).length) :
    ∀ c ∈ t.getLast?, c.isBlank = false := by
  intro c last
  have same := (List.rdropWhile_prefix Char.isBlank t).eq_of_length_le whole
  have full : t ≠ [] := by
    rintro rfl
    cases last
  rw [List.getLast?_eq_some_getLast full] at last
  cases last
  exact Bool.eq_false_iff.mpr (List.rdropWhile_eq_self_iff.mp same full)

theorem last_path (lawful : pf.Lawful) (shaped : r.Shaped pf)
    (ran : pf.normalizeUrl (some r.text) = some (some r.text)) (bare : r.query = [])
    (full : r.path ≠ []) : ∀ c ∈ r.path.getLast?, c.isBlank = false := by
  obtain ⟨d, rest, path⟩ := List.exists_cons_of_ne_nil full
  have slash : d = '/' := shaped.path d (by rw [path]; rfl)
  subst slash
  have clean := shaped.clean
  rw [path] at clean
  have kept : (r.path).rdropWhile Char.isBlank = '/' :: rest.rdropWhile Char.isBlank := by
    rw [path]
    exact rdropWhile_stop (by decide) [] rest
  have stripped : Text.strip r.text =
      urlunsplit r.scheme r.netloc ('/' :: rest.rdropWhile Char.isBlank) [] := by
    have head : (r.scheme ++ ':' :: '/' :: '/' :: r.netloc).head? = some 'h' := by
      rcases shaped.scheme with scheme | scheme <;> rw [scheme] <;> rfl
    have whole : r.text = (r.scheme ++ ':' :: '/' :: '/' :: r.netloc) ++ '/' :: rest := by
      rw [shaped.text_eq, shaped.urlencode_eq_nil.mpr bare, path]
      simp [tailOf]
    rw [whole, strip_slash head, urlunsplit_eq (by simp)]
    simp [tailOf]
  have clean' : Clean r.netloc ('/' :: rest.rdropWhile Char.isBlank) [] := by
    refine ⟨clean.netloc, clean.head, fun c member => ?_, by simp⟩
    rw [← kept] at member
    exact shaped.pathChars c ((List.rdropWhile_prefix _ _).subset member)
  obtain ⟨-, -, trimmed⟩ := reread_without_blanks lawful shaped ran stripped clean'
  refine last_of_whole ?_
  rw [kept]
  calc r.path.length = _ := congrArg List.length trimmed.symm
    _ ≤ _ := (List.rdropWhile_prefix _ _).length_le

theorem last_netloc (lawful : pf.Lawful) (shaped : r.Shaped pf)
    (ran : pf.normalizeUrl (some r.text) = some (some r.text)) (bare : r.query = [])
    (empty : r.path = []) : ∀ c ∈ r.netloc.getLast?, c.isBlank = false := by
  have stripped : Text.strip r.text =
      urlunsplit r.scheme (r.netloc.rdropWhile Char.isBlank) [] [] := by
    have head : (r.scheme ++ [':', '/']).head? = some 'h' := by
      rcases shaped.scheme with scheme | scheme <;> rw [scheme] <;> rfl
    have whole : r.text = (r.scheme ++ [':', '/']) ++ '/' :: r.netloc := by
      rw [shaped.text_eq, shaped.urlencode_eq_nil.mpr bare, empty]
      simp [tailOf]
    rw [whole, strip_slash head, urlunsplit_eq (by simp)]
    simp [tailOf]
  have clean : Clean (r.netloc.rdropWhile Char.isBlank) [] [] := by
    refine ⟨fun c member => ?_, by simp, by simp, by simp⟩
    exact shaped.clean.netloc c ((List.rdropWhile_prefix _ _).subset member)
  obtain ⟨port, same, -⟩ := reread_without_blanks lawful shaped ran stripped clean
  intro c last
  by_contra blank
  -- a port would end in a digit, so there is none, and the host comes from fewer characters
  have none_ : r.port = none := by
    refine Option.eq_none_iff_forall_ne_some.mpr fun p port => blank ?_
    rw [Reading.netloc, port] at last
    exact last_netlocOf c last
  have none' : (pf.reading ⟨r.scheme, r.netloc.rdropWhile Char.isBlank, [], []⟩ port).port =
      none := by
    refine Option.eq_none_iff_forall_ne_some.mpr fun p port => blank ?_
    rw [← same, Reading.netloc, port] at last
    exact last_netlocOf c last
  rw [Reading.netloc, none'] at same
  have low : ∀ c ∈ (hostInfo (r.netloc.rdropWhile Char.isBlank)).1,
      pf.unicode.lower [c] = [c] := by
    intro c member
    have member := (List.rdropWhile_prefix _ _).subset (mem_of_mem_hostInfo member).1
    rw [Reading.netloc, none_] at member
    exact (shaped.host c member).2.1
  refine blank (last_of_whole ?_ c last)
  calc r.netloc.length = (dropWww (pf.unicode.lower (pf.hostname _))).length :=
        congrArg List.length same.symm
    _ ≤ (hostInfo (r.netloc.rdropWhile Char.isBlank)).1.length := by
        rw [(hostname_steady lawful.lowers low).2]
        exact length_dropWww
    _ ≤ _ := hostInfo_sublist.length_le

theorem edge_of_settles (lawful : pf.Lawful) (shaped : r.Shaped pf)
    (ran : pf.normalizeUrl (some r.text) = some (some r.text)) (bare : r.query = []) :
    ∀ c ∈ (r.netloc ++ r.path).getLast?, c.isBlank = false := by
  by_cases empty : r.path = []
  · rw [empty, List.append_nil]
    exact last_netloc lawful shaped ran bare empty
  · rw [List.getLast?_append_of_ne_nil _ empty]
    exact last_path lawful shaped ran bare empty

theorem steady_of_settles (lawful : pf.Lawful) (shaped : r.Shaped pf)
    (ran : pf.normalizeUrl (some r.text) = some (some r.text)) : r.Steady := by
  have edge := edge_of_settles lawful shaped ran
  obtain ⟨parts, port, split_, absolute, given, same⟩ := Platform.normalizeUrl_inv lawful.lowers ran
  have second := Platform.shaped_reading lawful split_ absolute given
  rw [shaped.strip_text edge] at split_
  obtain ⟨accepted, found⟩ := Platform.urlsplit_inv split_
  rw [shaped.pieces_text] at found
  subst found
  obtain ⟨opening, closing⟩ := shaped.bare_of_accepts accepted
  obtain ⟨host, again⟩ := shaped.reading_pieces lawful opening port
  have named := absolute.2
  rw [again] at second same
  rw [host] at named
  have netloc := congrArg (fun t => (pieces t).netloc) same
  simp only [second.pieces_text, shaped.pieces_text] at netloc
  exact ⟨plain_of_reread opening closing named second.port netloc, edge⟩

variable (pf)

/-- The form is computed without an error and is its own form. -/
def Settles (url : Option Text) : Prop :=
  ∃ form, pf.normalizeUrl url = some form ∧ pf.normalizeUrl form = some form

/-- Wherever the URL names a host under `http` or `https`, its port is missing or a number that a
port may be, its host with one `www.` less is plain, or a literal of a plain host and a port of its
own, and what stays of it does not end in a blank. -/
def Regular (url : Option Text) : Prop :=
  ∀ t ∈ url, ∀ parts, pf.urlsplit (Text.strip t) = some parts → pf.Absolute parts →
    ∃ port, readPort (hostInfo parts.netloc).2 = some port ∧ (pf.reading parts port).Steady

variable {pf}

/-- The form of a URL is its own form exactly when the URL is regular. -/
theorem settles_iff (lawful : pf.Lawful) (url : Option Text) :
    Settles pf url ↔ Regular pf url := by
  cases url with
  | none => exact iff_of_true ⟨none, rfl, rfl⟩ (by rintro t ⟨⟩)
  | some t =>
    by_cases read : ∃ parts, pf.urlsplit (Text.strip t) = some parts ∧ pf.Absolute parts
    · obtain ⟨parts, split_, absolute⟩ := read
      have form := Platform.normalizeUrl_absolute lawful.lowers split_ absolute
      constructor
      · rintro ⟨out, ran, again⟩
        rintro _ ⟨⟩ parts' split' -
        obtain rfl := Option.some.inj (split'.symm.trans split_)
        rw [form] at ran
        obtain ⟨port, given, rfl⟩ := Option.map_eq_some_iff.mp ran
        exact ⟨port, given,
          steady_of_settles lawful (Platform.shaped_reading lawful split_ absolute given) again⟩
      · intro regular
        obtain ⟨port, given, steady⟩ := regular t rfl parts split_ absolute
        rw [given] at form
        exact ⟨_, form, normalizeUrl_steady lawful
          (Platform.shaped_reading lawful split_ absolute given) steady⟩
    · have unread : ∀ parts, pf.urlsplit (Text.strip t) = some parts → ¬pf.Absolute parts :=
        fun parts split_ absolute => read ⟨parts, split_, absolute⟩
      refine iff_of_true ⟨none, Platform.normalizeUrl_untrusted unread, rfl⟩ ?_
      rintro _ ⟨⟩ parts split_ absolute
      exact absurd absolute (unread parts split_)

end Settled

/-! ### Over ASCII -/

/-- ASCII text only; no address in brackets. -/
def Platform.ascii : Platform where
  unicode := .ascii
  salvage bytes := bytes.map fun _ => Char.ofNat 0xFFFD
  brackets _ := false
  expands _ := false

theorem Platform.lawful_ascii : Platform.ascii.Lawful where
  lowers := Unicode.lowers_ascii
  signs t c member _ sign := by
    obtain ⟨d, found, rfl⟩ := List.mem_map.mp member
    have lower := d.toNat_toLower
    by_cases upper : 65 ≤ d.toNat ∧ d.toNat ≤ 90
    · rw [if_pos upper] at lower
      rw [Char.isAlpha_iff.mpr (by omega)] at sign
      cases sign
    · rw [if_neg upper] at lower
      rwa [Char.ext (UInt32.toNat_inj.mp lower)]
  plain _ _ := rfl
  expands _ _ _ expands := absurd expands (by simp [Platform.ascii])

theorem settles_upper :
    Settles .ascii (some "HTTPS://WWW.Example.COM:443/Jobs/1/#top".ascii) := by
  refine (settles_iff Platform.lawful_ascii _).mpr ?_
  rintro _ ⟨⟩ parts split_ -
  have same : Platform.ascii.urlsplit (Text.strip "HTTPS://WWW.Example.COM:443/Jobs/1/#top".ascii) =
      some ⟨https, "WWW.Example.COM:443".ascii, "/Jobs/1/".ascii, []⟩ := by decide +kernel
  obtain rfl := Option.some.inj (split_.symm.trans same)
  refine ⟨some 443, by decide +kernel, .inl ?_, fun _ c last => ?_⟩
  · unfold Plain
    decide +kernel
  · cases last
    rfl

/-- A second `www.` is dropped the second time, and a port that is no number raises. -/
theorem www_www_moves : ¬Settles .ascii (some "http://www.www.example.com".ascii) ∧
    Platform.ascii.normalizeUrl (some "http://example.com:abc/".ascii) = none := by
  refine ⟨?_, by decide +kernel⟩
  rintro ⟨form, ran, again⟩
  have first : Platform.ascii.normalizeUrl (some "http://www.www.example.com".ascii) =
      some (some "http://www.example.com".ascii) := by decide +kernel
  have second : Platform.ascii.normalizeUrl (some "http://www.example.com".ascii) =
      some (some "http://example.com".ascii) := by decide +kernel
  obtain rfl := Option.some.inj (ran.symm.trans first)
  exact absurd (again.symm.trans second) (by decide +kernel)

end RangeApply.Urls
