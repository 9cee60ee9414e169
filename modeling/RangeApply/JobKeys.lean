import RangeApply.Discovery
import RangeApply.Message
import RangeApply.Parted

/-! The keys that a posting and an opening are known by: which of them another one can have. -/
namespace RangeApply.Postings

/-! ### The identity of an opening -/

def parentheticalRe : Pattern := .of false false "\\s*[\\(\\[][^\\)\\]]*[\\)\\]]\\s*".ascii

def jobCodeRe : Pattern := .of true false
  ("\\s*[-".ascii ++ Char.ofNat 0x2013 ::
    "|#]\\s*(?:req|job|id|r)?[\\s#:]*[a-z]\x7b0,3\x7d\\d\x7b3,\x7d\\s*$".ascii)

def wsRe : Pattern := .of false false "\\s+".ascii

def remoteHints : List Text :=
  ["remote", "anywhere", "work from home", "wfh", "distributed"].map String.ascii

structure OpportunityIdentity where
  company : Text
  title : Text
  locationBucket : Text
  deriving DecidableEq

namespace OpportunityIdentity

def raw (i : OpportunityIdentity) : Text :=
  i.company ++ '|' :: (i.title ++ '|' :: i.locationBucket)

def key (sha256 : Text → String) (i : OpportunityIdentity) : OpeningKey := sha256 i.raw

end OpportunityIdentity

section Identity
variable (u : Unicode)

def normalizeTitleForIdentity (title : Text) : Text :=
  let text := parentheticalRe.sub u [' '] title
  let text := jobCodeRe.sub u [] text
  u.lower (Text.strip (wsRe.sub u [' '] text))

/-- `remote`, or the first of the parts that commas separate. -/
def locationBucket (location : Option Text) (remoteType : Text) : Text :=
  let text := u.lower (Text.strip (location.getD []))
  if remoteType.map Char.toUpper = "REMOTE".ascii ∨ remoteHints.any fun h => Text.occurs h text then
    "remote".ascii
  else if text = [] then []
  else
    let first := parentheticalRe.sub u [' '] (text.takeWhile (· ≠ ','))
    Text.strip (wsRe.sub u [' '] first)

def identityForJob (job : JobRow) : OpportunityIdentity where
  company := wsRe.sub u [' '] (u.lower (Text.strip job.company.toList))
  title := normalizeTitleForIdentity u
    (if job.content.title = "" then job.originalTitle else job.content.title).toList
  locationBucket := locationBucket u (job.content.location.map String.toList)
    job.content.remoteType.toList

end Identity

/-! ### The components of a canonical key -/

/-- The text functions of the extractors are those of the character database. -/
structure Extractors.Plain {μ : Type} (x : Extractors μ) (u : Unicode) : Prop where
  lower : ∀ s, x.lower s = String.ofList (u.lower s.toList)
  strip : ∀ s, x.strip s = String.ofList (Text.strip s.toList)
  lowers : u.Lowers
  bar : u.lower ['|'] = ['|']
  /-- SHA-256 is taken to be collision-free. -/
  digest : Function.Injective x.digest

/-- `text.lower().strip()`. -/
def normal (u : Unicode) (s : String) : Text := Text.strip (u.lower s.toList)

/-- Blanks are what no normal component has at its ends. -/
abbrev Edge (c : Char) : Prop := c.isBlank = true

section Canonical
variable {μ : Type} {x : Extractors μ} {u : Unicode}

theorem normal_trimmed (u : Unicode) (s : String) : Parted.Trimmed Edge (normal u s) where
  head c here := Bool.eq_false_iff.mp (Text.strip_head _ c here)
  last c here := Bool.eq_false_iff.mp (Text.strip_last _ c here)

/-- Every character of a normal component is in lower case. -/
theorem normal_lowered (lowers : u.Lowers) (s : String) : ∀ c ∈ normal u s, u.lower [c] = [c] := by
  intro c member
  have inner : c ∈ (u.lower s.toList).dropWhile Char.isBlank :=
    (List.rdropWhile_prefix _ _).subset member
  exact lowers.lowered _ c ((List.dropWhile_sublist _).subset inner)

/-- What is in lower case and has no blanks at its ends is normal. -/
theorem normal_ofList (lowers : u.Lowers) {t : Text} (low : ∀ c ∈ t, u.lower [c] = [c])
    (trimmed : Parted.Trimmed Edge t) : normal u (String.ofList t) = t := by
  unfold normal
  rw [String.toList_ofList, lowers.steady t low]
  exact Text.strip_of_edges (fun c here => Bool.eq_false_iff.mpr (trimmed.head c here))
    fun c here => Bool.eq_false_iff.mpr (trimmed.last c here)

theorem canonicalKey_eq (plain : x.Plain u) (company title : String) (location : Option String) :
    x.computeCanonicalKey company title location = x.digest (String.ofList
      (normal u company ++ '|' :: (normal u title ++ '|' :: normal u (location.getD "")))) := by
  have text (s : String) : x.strip (x.lower s) = String.ofList (normal u s) := by
    rw [plain.strip, plain.lower, String.toList_ofList]
    rfl
  unfold Extractors.computeCanonicalKey
  simp only [text]
  refine congrArg x.digest (String.toList_inj.mp ?_)
  simp [toString]

/-- The key tells the components of the posting from those of every other. -/
def Told (x : Extractors μ) (u : Unicode) (company title : String) (location : Option String) :
    Prop :=
  ∀ company' title' location',
    x.computeCanonicalKey company' title' location' = x.computeCanonicalKey company title location →
    normal u company' = normal u company ∧ normal u title' = normal u title ∧
      normal u (location'.getD "") = normal u (location.getD "")

/-- Every bar in the text stands beside a blank. -/
abbrev Barred (t : Text) : Prop := Parted.Tight Edge '|' t

theorem told_iff (plain : x.Plain u) (company title : String) (location : Option String) :
    Told x u company title location ↔
      Barred (normal u company) ∧ Barred (normal u title) ∧
        Barred (normal u (location.getD "")) := by
  rw [← Parted.parts_iff (by decide) (normal_trimmed u _) (normal_trimmed u _) (normal_trimmed u _)]
  constructor
  · intro told a b c first second third same
    have low : ∀ d ∈ a ++ '|' :: (b ++ '|' :: c), u.lower [d] = [d] := by
      intro d member
      rw [← same] at member
      simp only [List.mem_append, List.mem_cons] at member
      rcases member with here | rfl | here | rfl | here
      · exact normal_lowered plain.lowers company d here
      · exact plain.bar
      · exact normal_lowered plain.lowers title d here
      · exact plain.bar
      · exact normal_lowered plain.lowers (location.getD "") d here
    have inA : normal u (String.ofList a) = a :=
      normal_ofList plain.lowers (fun d member => low d (by simp [member])) first
    have inB : normal u (String.ofList b) = b :=
      normal_ofList plain.lowers (fun d member => low d (by simp [member])) second
    have inC : normal u ((some (String.ofList c)).getD "") = c :=
      normal_ofList plain.lowers (fun d member => low d (by simp [member])) third
    have alike := told (String.ofList a) (String.ofList b) (some (String.ofList c)) (by
      rw [canonicalKey_eq plain, canonicalKey_eq plain, inA, inB, inC, same])
    rwa [inA, inB, inC] at alike
  · intro unique company' title' location' same
    rw [canonicalKey_eq plain, canonicalKey_eq plain] at same
    exact unique _ _ _ (normal_trimmed u _) (normal_trimmed u _) (normal_trimmed u _)
      (String.ofList_injective (plain.digest same)).symm

/-- A key tells its components exactly when every bar within one of them stands beside a blank, which
normalisation strips at the ends; of an opening, whose components are any texts, when they have no
bar. -/
theorem keys_told_iff (plain : x.Plain u) {sha256 : Text → String}
    (injective : Function.Injective sha256) :
    (∀ company title location, Told x u company title location ↔
      Barred (normal u company) ∧ Barred (normal u title) ∧
        Barred (normal u (location.getD ""))) ∧
    ∀ i : OpportunityIdentity, (∀ i' : OpportunityIdentity, i'.key sha256 = i.key sha256 → i' = i) ↔
      '|' ∉ i.company ∧ '|' ∉ i.title ∧ '|' ∉ i.locationBucket := by
  refine ⟨told_iff plain, fun i => ?_⟩
  have free (t : Text) : Parted.Trimmed (fun _ => False) t := ⟨fun _ _ => id, fun _ _ => id⟩
  rw [← Parted.tight_iff_not_mem, ← Parted.tight_iff_not_mem, ← Parted.tight_iff_not_mem,
    ← Parted.parts_iff id (free _) (free _) (free _)]
  constructor
  · intro told a b c _ _ _ same
    have alike := told ⟨a, b, c⟩ (congrArg sha256 same.symm)
    subst alike
    exact ⟨rfl, rfl, rfl⟩
  · intro unique i' same
    obtain ⟨company, title, bucket⟩ :=
      unique _ _ _ (free _) (free _) (free _) (injective same).symm
    cases i
    cases i'
    cases company
    cases title
    cases bucket
    rfl

end Canonical

/-! ### Two openings under one key -/

def lowering : Extractors Unit :=
  { plainExtractors with
    lower := fun s => String.ofList (Unicode.ascii.lower s.toList)
    strip := fun s => String.ofList (Text.strip s.toList) }

theorem lowering_plain : lowering.Plain .ascii where
  lower _ := rfl
  strip _ := rfl
  lowers := Unicode.lowers_ascii
  bar := by decide
  digest := Function.injective_id

theorem keys_told_engineer : Told lowering .ascii "Acme" "Engineer" none := by
  have clear (s : String) (none_ : '|' ∉ normal .ascii s) : Barred (normal .ascii s) :=
    Parted.tight_of_not_mem none_
  have injective : Function.Injective String.ofList := fun _ _ => String.ofList_injective
  exact ((keys_told_iff lowering_plain injective).1 _ _ _).mpr
      ⟨clear _ (by decide +kernel), clear _ (by decide +kernel), clear _ (by decide +kernel)⟩

/-- A posting of a company under a title. -/
def titled (company title : String) : JobRow where
  canonicalKey := ""
  sourceIdentifier := none
  company := company
  originalTitle := title
  content := ⟨title, "", none, [], "", ""⟩
  contentHash := ""
  sourceUrl := ""
  applicationUrl := none
  normalizedSourceUrl := none
  normalizedApplicationUrl := none
  postedAt := none
  sourceUpdatedAt := none
  deadline := none
  firstSeenAt := 0
  lastSeenAt := 0
  closedAt := none
  status := .active

/-- An engineer at "acme|data", and a "data|engineer" at Acme. -/
theorem bar_collides :
    (¬ ∀ company title location, Told lowering .ascii company title location) ∧
    ¬ ∀ job job' : JobRow, (identityForJob .ascii job').key String.ofList =
        (identityForJob .ascii job).key String.ofList →
      identityForJob .ascii job' = identityForJob .ascii job := by
  constructor
  · intro told
    have same := (told "acme" "data|engineer" none "acme|data" "engineer" none (by decide +kernel)).1
    exact absurd same (by decide +kernel)
  · intro told
    have same := told (titled "acme" "data|engineer") (titled "acme|data" "engineer")
      (by decide +kernel)
    exact absurd same (by decide +kernel)

end RangeApply.Postings
