import Mathlib.Data.List.Sort
import Mathlib.Data.String.Basic
import RangeApply.Gazetteer

/-! Where a posting is, relative to the target of a candidate, and whether that is in policy. -/
namespace RangeApply.Geography

namespace Text

/-- `str.title` of an ASCII text. -/
def titleFrom (cased : Bool) : Text → Text
  | [] => []
  | c :: rest => (if cased then c.toLower else c.toUpper) :: titleFrom c.isAlpha rest

def title (t : Text) : Text := titleFrom false t

end Text

/-- Where a posting is. -/
inductive GeoClass
  | primary | countryRemote | countryOther | remoteUnspecified | foreignRemote | foreign | unknown
  deriving DecidableEq

inductive GeoTier
  | primary | secondary | international | unconfirmed | excluded | noTarget
  deriving DecidableEq

structure GeoTarget where
  label : Text
  country : Option String
  subregion : Option String
  metro : Option Text
  aliases : List Text

/-- The only member of a set, when it has one member. -/
def only (members : List String) : Option String :=
  match members.dedup with
  | [member] => some member
  | _ => none

section Target
variable (ascii : Text → Text)

/-- `parse_target`. -/
def parseTarget (text : Option Text) : Option GeoTarget :=
  let label := Text.strip (text.getD [])
  if label = [] then none
  else
    let places := parsePlaces ascii [some label] false false
    let country := only places.countries
    let subregion := only places.subregions
    match (only places.metros).bind fun name => metros.find? fun m => m.name = name with
    | some m =>
      some
        { label := label
          country := some m.country
          subregion := m.region.or subregion
          metro := some m.name.ascii
          aliases := m.names.map String.ascii }
    | none =>
      let first := fold ascii (label.takeWhile (· ≠ ','))
      let city : Bool := match standsFor ascii first with
        | none | some (.metro _) => true
        | _ => false
      if first ≠ [] ∧ city then
        -- a city the gazetteer does not know is matched by its own name
        some ⟨label, country, subregion, some (Text.title first), [first]⟩
      else
        let country := country.or <| subregion.bind fun name =>
          (subregions.find? fun p => p.1 = name).map Prod.snd
        some ⟨label, country, subregion, none, []⟩

def GeoTarget.zones (target : GeoTarget) : List String :=
  (target.country.bind fun name => (countries.find? fun c => c.name = name)).elim [] (·.zones)

/-- `_contains_word`. -/
def containsWord (needle haystack : Text) : Bool :=
  needle ≠ [] && (Reader.word lowerAlnum lowerAlnum [needle]).scan none 0 haystack ≠ []

/-- The text is there and not empty. -/
def stated {α : Type} [DecidableEq α] (text : Option (List α)) : Bool := text.any (· ≠ [])

/-- The name is stated, and one of those found. -/
def namedAmong (name : Option String) (found : List String) : Bool :=
  name.any fun name => name ≠ "" && found.contains name

/-- `GeographyPolicy.classify`, which reads of the policy the target alone. -/
def classify (target : Option GeoTarget) (places : Places) : GeoClass :=
  match target with
  | none => .unknown
  | some target =>
    let country := namedAmong target.country places.countries
    let city := stated target.metro
    let region := target.subregion.any (· ≠ "")
    if city && target.aliases.any fun name => containsWord name places.text then .primary
    else if namedAmong target.subregion places.subregions && (!city || places.metros = []) then
      .primary
    else if !city && !region && country then .primary
    else if country then if places.remote then .countryRemote else .countryOther
    else if places.zones.any target.zones.contains then
      if places.remote then .remoteUnspecified else .unknown
    else if places.countries ≠ [] || places.zones ≠ [] then
      if places.remote then .foreignRemote else .foreign
    else if places.remote then .remoteUnspecified else .unknown

/-! ### The policy -/

structure GeographyPolicy where
  target : Option GeoTarget
  includeCountryRemote : Bool
  includeOtherCities : Bool
  alsoConsider : List Text
  allowInternational : Bool
  includeUnconfirmed : Bool

structure GeoAssessment where
  geoClass : GeoClass
  tier : GeoTier
  inPolicy : Bool
  detail : Text
  countries : List String
  metros : List String
  remote : Bool

def sorted (members : List String) : List String := members.dedup.insertionSort (· ≤ ·)

/-- `_where`. -/
def where_ (places : Places) : Text :=
  let covered := places.metros.filterMap fun name =>
    (metros.find? fun m => m.name = name).map (·.country)
  let zone (name : String) : String := String.ofList <|
    if name.length ≤ 4 then name.toList.map Char.toUpper else Text.title name.toList
  let parts := sorted places.metros ++ sorted (places.countries.filter (· ∉ covered)) ++
    (places.zoneNames.dedup.map zone).insertionSort (· ≤ ·)
  let named := joined ", " (parts.map String.toList)
  if named = [] then "an unrecognised location".ascii else named

def anywhere : List Text := ["remote".ascii, "anywhere".ascii, "remote anywhere".ascii]

/-- The posting is where an additional location asks for it. -/
def considers (places : Places) (geo : GeoClass) (entry : Text) : Bool :=
  if fold ascii entry ∈ anywhere then decide (geo = .remoteUnspecified ∨ geo = .countryRemote)
  else (parseTarget ascii (some entry)).any fun extra =>
    decide (classify (some extra) places = .primary)

namespace GeographyPolicy
variable (p : GeographyPolicy)

def active : Bool := p.target.any fun target => target.country.isSome

/-- `_also_considered`. -/
def alsoConsidered (places : Places) (geo : GeoClass) : Option Text :=
  p.alsoConsider.find? (considers ascii places geo)

def assess (places : Places) : GeoAssessment :=
  let geo := classify p.target places
  let result (geo : GeoClass) (tier : GeoTier) (inPolicy : Bool) (detail : Text) : GeoAssessment :=
    { geoClass := geo
      tier := tier
      inPolicy := inPolicy
      detail := detail
      countries := sorted places.countries
      metros := sorted places.metros
      remote := places.remote }
  match p.target with
  | none => result .unknown .noTarget true "no geographic target is configured".ascii
  | some target =>
    match target.country with
    | none => result .unknown .noTarget true "no geographic target is configured".ascii
    | some country =>
      let country := country.toList
      let place := where_ places
      if geo = .primary then
        result geo .primary true (place ++ ": in the primary target ".ascii ++ target.label)
      else
        match (p.alsoConsidered ascii places geo).filter (· ≠ []) with
        | some extra =>
          result geo .secondary true
            (place ++ ": matches the additional location '".ascii ++ extra ++ "'".ascii)
        | none =>
          match geo with
          | .countryRemote =>
            let detail := "remote within ".ascii ++ country
            if p.includeCountryRemote then result geo .secondary true detail
            else result geo .excluded false
              (detail ++ ", which the location preference does not include".ascii)
          | .countryOther =>
            let detail := place ++ ": another location in ".ascii ++ country
            if p.includeOtherCities then result geo .secondary true detail
            else result geo .excluded false
              (detail ++ ", which the location preference does not include".ascii)
          | .foreign | .foreignRemote =>
            let mode := if geo = .foreignRemote then "remote, restricted to ".ascii else []
            if p.allowInternational then
              result geo .international true
                (mode ++ place ++ ": international, allowed by the location preference".ascii)
            else
              result geo .excluded false (mode ++ place ++ ": outside ".ascii ++ country ++
                "; international opportunities are not enabled".ascii)
          | _ =>
            let detail := if geo = .remoteUnspecified then "remote with no stated country".ascii
              else "the posting states no usable location".ascii
            let detail := detail ++ "; not confirmed to be in ".ascii ++ target.label ++
              " or ".ascii ++ country
            if p.includeUnconfirmed || p.allowInternational then
              result geo .unconfirmed true (detail ++ ", kept for review".ascii)
            else
              result geo .unconfirmed false
                (detail ++ ", and unconfirmed locations are not included".ascii)

/-- What puts a posting in policy once a target is known. -/
def Admits (places : Places) (geo : GeoClass) : Prop :=
  geo = .primary ∨ (∃ entry ∈ p.alsoConsider, considers ascii places geo entry = true) ∨
    match geo with
    | .primary => True
    | .countryRemote => p.includeCountryRemote = true
    | .countryOther => p.includeOtherCities = true
    | .foreign | .foreignRemote => p.allowInternational = true
    | .remoteUnspecified | .unknown => p.includeUnconfirmed = true ∨ p.allowInternational = true

/-- The second policy has the target of the first, and leaves out nothing that the first takes. -/
structure Widens (q : GeographyPolicy) : Prop where
  target : q.target = p.target
  countryRemote : p.includeCountryRemote = true → q.includeCountryRemote = true
  otherCities : p.includeOtherCities = true → q.includeOtherCities = true
  alsoConsider : p.alsoConsider ⊆ q.alsoConsider
  international : p.allowInternational = true → q.allowInternational = true
  unconfirmed : p.includeUnconfirmed = true → q.includeUnconfirmed = true

variable {ascii} {p} {q : GeographyPolicy} {places : Places} {geo : GeoClass}

/-- No posting is where an empty entry asks for it. -/
theorem considers_nil (empty : ascii [] = []) : considers ascii places geo [] = false := by
  have folded : fold ascii [] = [] := by
    unfold fold
    rw [empty]
    rfl
  unfold considers
  rw [folded, if_neg (by decide +kernel)]
  rfl

theorem alsoConsidered_filter (empty : ascii [] = []) :
    (p.alsoConsidered ascii places geo).filter (· ≠ []) = p.alsoConsidered ascii places geo := by
  cases found : p.alsoConsidered ascii places geo with
  | none => rfl
  | some entry =>
    have asked : considers ascii places geo entry = true := List.find?_some found
    have stated : entry ≠ [] := by
      rintro rfl
      rw [considers_nil empty] at asked
      cases asked
    simp [stated]

theorem alsoConsidered_iff : (p.alsoConsidered ascii places geo).isSome ↔
    ∃ entry ∈ p.alsoConsider, considers ascii places geo entry = true := by
  unfold alsoConsidered
  rw [List.find?_isSome]

theorem inPolicy_of_flag {a b : GeoAssessment} {flag : Bool} (inside : a.inPolicy = true)
    (outside : b.inPolicy = false) : (if flag = true then a else b).inPolicy = flag := by
  cases flag
  · exact outside
  · exact inside

theorem assess_inPolicy (empty : ascii [] = []) : (p.assess ascii places).inPolicy = true ↔
    (p.active = true → p.Admits ascii places (classify p.target places)) := by
  have asked : (p.alsoConsidered ascii places (classify p.target places)).isSome ↔
      ∃ entry ∈ p.alsoConsider, considers ascii places (classify p.target places) entry = true :=
    alsoConsidered_iff
  unfold assess active Admits
  dsimp only
  rw [alsoConsidered_filter empty, ← asked]
  cases p.target with
  | none => simp
  | some target =>
    cases known : target.country with
    | none => simp [known]
    | some country =>
      generalize classify (some target) places = geo
      simp only [Option.any_some, known, Option.isSome_some, forall_const]
      by_cases here : geo = .primary
      · simp [here]
      · rw [if_neg here]
        cases p.alsoConsidered ascii places geo with
        | some extra => simp
        | none =>
          cases geo with
          | primary => exact absurd rfl here
          | countryRemote => simp [inPolicy_of_flag]
          | countryOther => simp [inPolicy_of_flag]
          | remoteUnspecified => simp [← Bool.or_eq_true, inPolicy_of_flag]
          | foreignRemote => simp [inPolicy_of_flag]
          | foreign => simp [inPolicy_of_flag]
          | unknown => simp [← Bool.or_eq_true, inPolicy_of_flag]

theorem Widens.admits (wider : p.Widens q) (admitted : p.Admits ascii places geo) :
    q.Admits ascii places geo := by
  rcases admitted with primary | ⟨entry, listed, asked⟩ | flag
  · exact .inl primary
  · exact .inr (.inl ⟨entry, wider.alsoConsider listed, asked⟩)
  · refine .inr (.inr ?_)
    cases geo with
    | primary => trivial
    | countryRemote => exact wider.countryRemote flag
    | countryOther => exact wider.otherCities flag
    | foreign => exact wider.international flag
    | foreignRemote => exact wider.international flag
    | remoteUnspecified => exact flag.imp wider.unconfirmed wider.international
    | unknown => exact flag.imp wider.unconfirmed wider.international

/-- A policy that is widened puts no posting out of policy. -/
theorem assess_widened (empty : ascii [] = []) (wider : p.Widens q) (places : Places)
    (inPolicy : (p.assess ascii places).inPolicy = true) :
    (q.assess ascii places).inPolicy = true := by
  rw [assess_inPolicy empty] at inPolicy ⊢
  intro active
  have before : p.active = true := by
    unfold GeographyPolicy.active at active ⊢
    rwa [wider.target] at active
  rw [wider.target]
  exact wider.admits (inPolicy before)

end GeographyPolicy

end Target

/-- The country alone, and nothing beyond remote work in it. -/
def indiaOnly : GeographyPolicy where
  target := some ⟨india.ascii, some india, none, none, []⟩
  includeCountryRemote := true
  includeOtherCities := false
  alsoConsider := []
  allowInternational := false
  includeUnconfirmed := false

theorem GeographyPolicy.assess_widened_india :
    (({ indiaOnly with allowInternational := true } : GeographyPolicy).assess id
      ⟨[india], [], [], [], true, [], []⟩).inPolicy = true :=
  GeographyPolicy.assess_widened rfl ⟨rfl, id, id, List.Subset.refl _, fun _ => rfl, id⟩ _
    (by decide +kernel)

end RangeApply.Geography
