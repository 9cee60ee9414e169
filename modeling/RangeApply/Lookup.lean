import RangeApply.Ranked
import RangeApply.Upkeep

/-! The one query of the deduplicator beside the identity levels asked one after the other. -/
namespace RangeApply.Postings

section Lookup
variable {μ : Type} (x : Extractors μ) (job : NormalizedJob) (s : Store)

/-- The identity levels of a row of the table, best first. -/
def identityLevels : Ranked.Levels (JobId × JobRow) MatchedBy :=
  [(.applicationUrl, fun r => sameApplicationUrl x job r.2),
    (.sourceUrl, fun r => sameSourceUrl x job r.2),
    (.canonicalKey, fun r => sameCanonicalKey job r.2),
    (.contentHash, fun r => sameContent job r.2)]

/-- The first level that some row matches, every level asked over the whole table. -/
def levelByLevel : Option MatchedBy :=
  (findBySource job s).map Prod.snd <|>
    ((identityLevels x job).deciding s.market.jobs.rows).map Prod.fst

/-- The rows that meet the query, in an order the database may return them. -/
def Returned (rows : List (JobId × JobRow)) : Prop :=
  rows.Perm (s.market.jobs.rows.filter fun r => alike x job r.2)

/-- `find_existing_job` over the rows that the query returns. -/
def findAmong (rows : List (JobId × JobRow)) : Option (JobId × MatchedBy) :=
  findBySource job s <|> findByLevel x job (rows.take 50)

/-- Whatever order the rows come in, the level that is found is the first that any row of the table
matches, and none is found only when no row matches at any. -/
def LookupAgrees : Prop :=
  ∀ rows, Returned x job s rows → (findAmong x job s rows).map Prod.snd = levelByLevel x job s

/-- The rows that match only later than the best level, when the posting itself is not known. -/
def crowding : List (JobId × JobRow) :=
  if (findBySource job s).isSome then []
  else (identityLevels x job).crowd s.market.jobs.rows

theorem findAmong_table :
    findAmong x job s (s.market.jobs.rows.filter fun r => alike x job r.2) =
      findExistingJob x job s false := rfl

variable {x job s}

theorem findByLevel_eq (rows : List (JobId × JobRow)) :
    findByLevel x job rows =
      ((identityLevels x job).find rows).map fun r => (r.1.1, r.2) := by
  unfold findByLevel Ranked.Levels.find identityLevels
  simp only [List.findSome?_cons, List.findSome?_nil]
  cases rows.find? fun r => sameApplicationUrl x job r.2 with
  | some r => rfl
  | none =>
    cases rows.find? fun r => sameSourceUrl x job r.2 with
    | some r => rfl
    | none =>
      cases rows.find? fun r => sameCanonicalKey job r.2 with
      | some r => rfl
      | none =>
        cases rows.find? fun r => sameContent job r.2 with
        | some r => rfl
        | none => rfl

theorem alike_eq : (fun r : JobId × JobRow => alike x job r.2) = (identityLevels x job).matched := by
  funext r
  simp only [alike, Ranked.Levels.matched, identityLevels, List.any_cons, List.any_nil, Bool.or_false,
    Bool.or_assoc]

theorem identityLevels_named (x : Extractors μ) (job : NormalizedJob) :
    ((identityLevels x job).map Prod.fst).Nodup := by
  unfold identityLevels
  simp

end Lookup

/-- Fifty rows of one title, and after them the row at the posting's own address. -/
def crowdedStore : Store :=
  let row (raw : RawJob Unit) : JobRow := newRow plainExtractors (plainExtractors.enriched none raw) 0
  let titled := (List.range 50).map fun n => acmePosting (toString n) "Engineer"
  let renamed : RawJob Unit :=
    { acmePosting "renamed" "Manager" with sourceUrl := "https://boards.example/acme/new" }
  (titled ++ [renamed]).foldl
    (fun s (raw : RawJob Unit) => s.putJob ⟨raw.source, raw.sourceJobId⟩ (row raw)) .empty

end RangeApply.Postings
