import RangeApply.Attribution

/-! The SUBMIT item whose application page a browser tab is on. -/
namespace RangeApply.PageMatch

structure JobUrls where
  applicationUrl : Option Text
  sourceUrl : Option Text
  deriving DecidableEq

/-- A queue item joined with its attempt, its opportunity and the canonical job of that. -/
structure Listed (τ : Type) where
  itemTenant : τ
  attemptTenant : τ
  item : QueueItem
  opportunity : OpportunityId
  job : Option JobUrls
  deriving DecidableEq

section Match
variable {τ : Type} [DecidableEq τ] (u : Unicode)

/-- Another live worker holds the item. -/
def Listed.heldByOther (row : Listed τ) (worker : WorkerId) (now : Time) : Bool :=
  row.item.state.held && decide (row.item.claimedBy ≠ some worker) &&
    row.item.leaseExpiresAt.any fun expires => decide (now ≤ expires)

/-- The rows of the query. -/
def Listed.submits (row : Listed τ) (tenant : τ) : Bool :=
  decide (row.itemTenant = tenant) && decide (row.attemptTenant = tenant) &&
    decide (row.item.action = .submit) &&
    decide (row.item.state ∈ [QueueState.pending, .retryWait, .claimed, .processing])

def Listed.urls (row : Listed τ) : List (Option Text) :=
  match row.job with
  | some job => [job.applicationUrl, job.sourceUrl]
  | none => [none, none]

/-- `_normalize_url` of a URL that may be missing. -/
def normalized (url : Option Text) : Text := normalizeUrl u (url.getD [])

/-- One is the other with more of the path. -/
def extends_ (wanted candidate : Text) : Bool :=
  Text.startsWith (candidate ++ ['/']) wanted || Text.startsWith (wanted ++ ['/']) candidate

/-- The inner loop: the row is returned, or the best so far is kept. -/
def visit (wanted : Text) (row : Listed τ) :
    List (Option Text) → Option (Listed τ) → Except (Listed τ) (Option (Listed τ))
  | [], best => .ok best
  | url :: urls, best =>
    let candidate := normalized u url
    if candidate = [] then visit wanted row urls best
    else if wanted = candidate then .error row
    else visit wanted row urls (if extends_ wanted candidate && best.isNone then some row else best)

def scan (wanted : Text) (worker : WorkerId) (now : Time) :
    List (Listed τ) → Option (Listed τ) → Option (Listed τ)
  | [], best => best
  | row :: rows, best =>
    if row.heldByOther worker now then scan wanted worker now rows best
    else match visit u wanted row row.urls best with
      | .error found => some found
      | .ok best => scan wanted worker now rows best

/-- `match_for_url`, over the rows in the order the query gives them. -/
def matchForUrl (tenant : τ) (worker : WorkerId) (now : Time) (rows : List (Listed τ)) (url : Text) :
    Option (Listed τ) :=
  let wanted := normalizeUrl u url
  if wanted = [] then none
  else scan u wanted worker now (rows.filter (·.submits tenant)) none

/-! ### Which row is found -/

/-- A SUBMIT item of the tenant that the worker may claim. -/
def Listed.claimable (row : Listed τ) (tenant : τ) (worker : WorkerId) (now : Time) : Bool :=
  row.submits tenant && !row.heldByOther worker now

/-- A posting URL is the page. -/
def Listed.exact (wanted : Text) (row : Listed τ) : Bool :=
  row.urls.any fun url => decide (normalized u url ≠ []) && decide (wanted = normalized u url)

/-- A posting URL is above the page or below it. -/
def Listed.near (wanted : Text) (row : Listed τ) : Bool :=
  row.urls.any fun url => decide (normalized u url ≠ []) && extends_ wanted (normalized u url)

variable {u} {wanted : Text} {row : Listed τ} {worker : WorkerId} {now : Time}

/-- The best after a row: what it was, or this row, if that is near. -/
def kept (near : Bool) (row : Listed τ) (best : Option (Listed τ)) : Option (Listed τ) :=
  best.or (if near then some row else none)

omit [DecidableEq τ] in
theorem visit_eq (urls : List (Option Text)) (best : Option (Listed τ)) :
    visit u wanted row urls best =
      if urls.any fun url => decide (normalized u url ≠ []) && decide (wanted = normalized u url) then
        .error row
      else .ok (kept (urls.any fun url =>
        decide (normalized u url ≠ []) && extends_ wanted (normalized u url)) row best) := by
  induction urls generalizing best with
  | nil => cases best <;> rfl
  | cons url urls ih =>
    rw [visit]
    by_cases blank : normalized u url = []
    · rw [if_pos blank, ih]
      simp [blank]
    · rw [if_neg blank]
      by_cases same : wanted = normalized u url
      · rw [if_pos same]
        have full : wanted ≠ [] := same ▸ blank
        simp [← same, full]
      · rw [if_neg same, ih]
        cases near : extends_ wanted (normalized u url) <;> cases best <;>
          simp [kept, blank, same, near]

omit [DecidableEq τ] in
theorem visit_urls (best : Option (Listed τ)) : visit u wanted row row.urls best =
    if row.exact u wanted then .error row else .ok (kept (row.near u wanted) row best) :=
  visit_eq row.urls best

omit [DecidableEq τ] in
/-- The first free row that is exact, else the first that is near. -/
theorem scan_eq (rows : List (Listed τ)) (best : Option (Listed τ)) :
    scan u wanted worker now rows best =
      let free := rows.filter fun row => !row.heldByOther worker now
      (free.find? (·.exact u wanted)).or (best.or (free.find? (·.near u wanted))) := by
  induction rows generalizing best with
  | nil => simp [scan]
  | cons row rows ih =>
    rw [scan]
    cases held : row.heldByOther worker now with
    | true => simpa [held] using ih best
    | false =>
      rw [visit_urls]
      cases exact_ : row.exact u wanted with
      | true => simp [held, exact_]
      | false =>
        simp only [Bool.false_eq_true, if_false]
        rw [ih]
        cases near_ : row.near u wanted <;> cases best <;> simp [kept, held, exact_, near_]

/-! ### What fits a page -/

/-- The host of a normalized URL, with its port. -/
def host (t : Text) : Text := t.takeWhile (· ≠ '/')

def path (t : Text) : Text := t.dropWhile (· ≠ '/')

/-- The same host, and a path that is the page's, extends it, or is extended by it. -/
def SamePlace (wanted candidate : Text) : Prop :=
  host wanted = host candidate ∧ (path wanted = path candidate ∨
    ∃ rest, path wanted = path candidate ++ '/' :: rest ∨ path candidate = path wanted ++ '/' :: rest)

theorem host_extended (t rest : Text) : host (t ++ '/' :: rest) = host t := by
  induction t with
  | nil => rfl
  | cons c t ih =>
    by_cases slash : c = '/'
    · simp [host, slash]
    · simpa [host, slash] using ih

theorem path_extended (t rest : Text) : path (t ++ '/' :: rest) = path t ++ '/' :: rest := by
  induction t with
  | nil => rfl
  | cons c t ih =>
    by_cases slash : c = '/'
    · simp [path, slash]
    · simpa [path, slash] using ih

theorem extended_of_startsWith {lead t : Text} (starts : Text.startsWith (lead ++ ['/']) t) :
    ∃ rest, t = lead ++ '/' :: rest := by
  obtain ⟨rest, same⟩ := List.isPrefixOf_iff_prefix.mp starts
  exact ⟨rest, by rw [← same, List.append_assoc]; rfl⟩

theorem samePlace_of_extends {candidate : Text} (near : extends_ wanted candidate) :
    SamePlace wanted candidate := by
  rcases Bool.or_eq_true_iff.mp near with below | above
  · obtain ⟨rest, rfl⟩ := extended_of_startsWith below
    exact ⟨host_extended _ _, .inr ⟨rest, .inl (path_extended _ _)⟩⟩
  · obtain ⟨rest, rfl⟩ := extended_of_startsWith above
    exact ⟨(host_extended _ _).symm, .inr ⟨rest, .inr (path_extended _ _)⟩⟩

/-- The rows that fit the page best: the exact ones, or the near ones when none is exact. -/
def Best (u : Unicode) (tenant : τ) (worker : WorkerId) (now : Time) (rows : List (Listed τ))
    (url : Text) (row : Listed τ) : Prop :=
  row ∈ rows ∧ row.claimable tenant worker now ∧ normalizeUrl u url ≠ [] ∧
    (row.exact u (normalizeUrl u url) ∨ row.near u (normalizeUrl u url) ∧
      ∀ other ∈ rows, other.claimable tenant worker now → ¬ other.exact u (normalizeUrl u url))

variable {tenant : τ} {rows : List (Listed τ)} {url : Text}

theorem matchForUrl_eq (full : normalizeUrl u url ≠ []) :
    matchForUrl u tenant worker now rows url =
      ((rows.filter (·.claimable tenant worker now)).find? (·.exact u (normalizeUrl u url))).or
        ((rows.filter (·.claimable tenant worker now)).find? (·.near u (normalizeUrl u url))) := by
  have free : (rows.filter (·.submits tenant)).filter (fun row => !row.heldByOther worker now) =
      rows.filter (·.claimable tenant worker now) := by
    rw [List.filter_filter]
    exact List.filter_congr fun row _ => Bool.and_comm _ _
  rw [matchForUrl, if_neg full, scan_eq, free]
  simp only [Option.none_or]

theorem mem_claimable {row : Listed τ} : row ∈ rows.filter (·.claimable tenant worker now) ↔
    row ∈ rows ∧ row.claimable tenant worker now := List.mem_filter

/-- What is handed out fits best. -/
theorem best_of_match (found : matchForUrl u tenant worker now rows url = some row) :
    Best u tenant worker now rows url row := by
  have full : normalizeUrl u url ≠ [] := by
    intro blank
    rw [matchForUrl, if_pos blank] at found
    cases found
  rw [matchForUrl_eq full] at found
  rcases Option.or_eq_some_iff.mp found with exact_ | ⟨none_, near_⟩
  · obtain ⟨member, claimable⟩ := mem_claimable.mp (List.mem_of_find?_eq_some exact_)
    exact ⟨member, claimable, full, .inl (List.find?_some exact_)⟩
  · obtain ⟨member, claimable⟩ := mem_claimable.mp (List.mem_of_find?_eq_some near_)
    refine ⟨member, claimable, full, .inr ⟨List.find?_some near_, fun other inside free => ?_⟩⟩
    exact List.find?_eq_none.mp none_ other (mem_claimable.mpr ⟨inside, free⟩)

/-- Something is handed out when something fits. -/
theorem match_of_best (best : Best u tenant worker now rows url row) :
    ∃ found, matchForUrl u tenant worker now rows url = some found := by
  obtain ⟨member, claimable, full, fits⟩ := best
  have inside := mem_claimable.mpr ⟨member, claimable⟩
  rw [matchForUrl_eq full]
  refine Option.isSome_iff_exists.mp ?_
  rw [Option.isSome_or, Bool.or_eq_true, List.find?_isSome, List.find?_isSome]
  rcases fits with exact_ | ⟨near_, -⟩
  · exact .inl ⟨row, inside, exact_⟩
  · exact .inr ⟨row, inside, near_⟩

theorem Best.perm {rows' : List (Listed τ)} (same : rows'.Perm rows)
    (best : Best u tenant worker now rows' url row) : Best u tenant worker now rows url row := by
  obtain ⟨member, claimable, full, fits⟩ := best
  refine ⟨same.mem_iff.mp member, claimable, full, fits.imp_right fun ⟨near_, none_⟩ => ?_⟩
  exact ⟨near_, fun other inside => none_ other (same.mem_iff.mpr inside)⟩

theorem Best.samePlace (best : Best u tenant worker now rows url row) :
    ∃ posting ∈ row.urls, normalized u posting ≠ [] ∧
      SamePlace (normalizeUrl u url) (normalized u posting) := by
  obtain ⟨-, -, -, fits⟩ := best
  rcases fits with exact_ | ⟨near_, -⟩
  · obtain ⟨posting, member, same⟩ := List.any_eq_true.mp exact_
    simp only [Bool.and_eq_true, decide_eq_true_iff] at same
    exact ⟨posting, member, same.1, by rw [← same.2]; exact ⟨rfl, .inl rfl⟩⟩
  · obtain ⟨posting, member, same⟩ := List.any_eq_true.mp near_
    simp only [Bool.and_eq_true, decide_eq_true_iff] at same
    exact ⟨posting, member, same.1, samePlace_of_extends same.2⟩

end Match

/-! ### The parameters that identify a posting -/

/-- `TRACKING_PARAMS`. -/
def trackingParams : List Text := [
  "utm_source", "utm_medium", "utm_campaign", "utm_term", "utm_content", "utm_id", "gh_src",
  "lever-origin", "lever-source", "ashby_jid_source", "fbclid", "gclid", "msclkid", "mc_cid",
  "mc_eid", "igshid", "ref", "referrer", "trk", "trackingid", "source", "src"].map String.ascii

def queryOf (url : Text) : Text := ((url.takeWhile (· ≠ '#')).dropWhile (· ≠ '?')).drop 1

/-- The query of a URL as `normalize_url` keeps it, in no particular order. -/
def keptParams (u : Unicode) (unquote : Text → Text) (url : Text) : List (Text × Text) :=
  let pairs := ((queryOf url).splitOn '&').filter (· ≠ [])
  let parsed := pairs.map fun pair =>
    (unquote (pair.takeWhile (· ≠ '=')), unquote ((pair.dropWhile (· ≠ '=')).drop 1))
  parsed.filter fun p => u.lower p.1 ∉ trackingParams

section Lookup
variable {τ : Type} [DecidableEq τ]

/-- A lookup that identifies the posting of a page: it hands out the posting's own item, prefers an
exact one, depends on no order, and hands out nothing when two openings fit equally well. -/
structure Identifies (u : Unicode) (unquote : Text → Text) (tenant : τ) (worker : WorkerId)
    (now : Time) (rows : List (Listed τ)) (url : Text) : Prop where
  posting : ∀ row, matchForUrl u tenant worker now rows url = some row →
    ∃ posting ∈ row.urls, SamePlace (normalizeUrl u url) (normalized u posting) ∧
      (keptParams u unquote (posting.getD [])).Perm (keptParams u unquote url)
  preferred : ∀ row ∈ rows, row.claimable tenant worker now → row.exact u (normalizeUrl u url) →
    ∀ found, matchForUrl u tenant worker now rows url = some found →
      found.exact u (normalizeUrl u url)
  unordered : ∀ rows', rows'.Perm rows →
    matchForUrl u tenant worker now rows' url = matchForUrl u tenant worker now rows url
  undecided : ∀ a b, Best u tenant worker now rows url a → Best u tenant worker now rows url b →
    a.opportunity ≠ b.opportunity → matchForUrl u tenant worker now rows url = none

/-- The item handed out is claimable and has a posting URL at the page's place, scheme, query and
fragment apart; an exact item is preferred; something is handed out when something fits; and the
order of the rows does not matter when one row fits best. -/
theorem match_fits (u : Unicode) (tenant : τ) (worker : WorkerId) (now : Time)
    (rows : List (Listed τ)) (url : Text) :
    (∀ row, matchForUrl u tenant worker now rows url = some row →
      row ∈ rows ∧ row.claimable tenant worker now ∧
      ∃ posting ∈ row.urls, normalized u posting ≠ [] ∧
        SamePlace (normalizeUrl u url) (normalized u posting)) ∧
    (∀ row ∈ rows, row.claimable tenant worker now → normalizeUrl u url ≠ [] →
      row.exact u (normalizeUrl u url) →
      ∃ found, matchForUrl u tenant worker now rows url = some found ∧
        found.exact u (normalizeUrl u url)) ∧
    (∀ row, Best u tenant worker now rows url row →
      ∃ found, matchForUrl u tenant worker now rows url = some found ∧
        Best u tenant worker now rows url found) ∧
    ((∀ a b, Best u tenant worker now rows url a → Best u tenant worker now rows url b → a = b) →
      ∀ rows', rows'.Perm rows →
        matchForUrl u tenant worker now rows' url = matchForUrl u tenant worker now rows url) := by
  refine ⟨?_, ?_, ?_, ?_⟩
  · intro row found
    have best := best_of_match found
    exact ⟨best.1, best.2.1, best.samePlace⟩
  · intro row member claimable full exact_
    obtain ⟨found, matched⟩ := match_of_best ⟨member, claimable, full, .inl exact_⟩
    refine ⟨found, matched, ?_⟩
    rcases (best_of_match matched).2.2.2 with exact_' | ⟨-, none_⟩
    · exact exact_'
    · exact absurd exact_ (none_ row member claimable)
  · intro row best
    obtain ⟨found, matched⟩ := match_of_best best
    exact ⟨found, matched, best_of_match matched⟩
  · intro unique rows' same
    cases matched : matchForUrl u tenant worker now rows' url with
    | some row =>
      have best := (best_of_match matched).perm same
      obtain ⟨found, matched'⟩ := match_of_best best
      rw [matched', unique row found best (best_of_match matched')]
    | none =>
      cases matched' : matchForUrl u tenant worker now rows url with
      | none => rfl
      | some row =>
        obtain ⟨found, some_⟩ := match_of_best ((best_of_match matched').perm same.symm)
        rw [some_] at matched
        cases matched

/-- A pending SUBMIT item whose posting is at this URL. -/
def pendingAt (opportunity : OpportunityId) (url : String) : Listed Unit where
  itemTenant := ()
  attemptTenant := ()
  item := .fresh 0 .submit .auto 0 3
  opportunity := opportunity
  job := some ⟨some url.ascii, none⟩

/-- Two openings of one embedded board. -/
def boardRows : List (Listed Unit) :=
  [pendingAt 1 "https://boards.example/embed/job_app?gh_jid=1",
    pendingAt 2 "https://boards.example/embed/job_app?gh_jid=2"]

/-- The page of the second opening is given the item of the first. -/
theorem board_misidentified : ¬ Identifies .ascii id () "extension" 10 boardRows
    "https://boards.example/embed/job_app?gh_jid=2".ascii := by
  intro identifies
  have first : matchForUrl .ascii () "extension" 10 boardRows
      "https://boards.example/embed/job_app?gh_jid=2".ascii =
      some (pendingAt 1 "https://boards.example/embed/job_app?gh_jid=1") := by decide +kernel
  obtain ⟨posting, member, -, same⟩ := identifies.posting _ first
  have urls : posting = some "https://boards.example/embed/job_app?gh_jid=1".ascii ∨
      posting = none := by simpa [pendingAt, Listed.urls] using member
  rcases urls with rfl | rfl
  · exact absurd same (by decide +kernel)
  · exact absurd same (by decide +kernel)

end Lookup

end RangeApply.PageMatch
