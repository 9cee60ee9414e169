import RangeApply.Target

/-! Where a stored posting is: the location strings it carries, the source's flag for remote work,
and the office names when those strings name nothing. A posting is dropped at discovery only when
no tenant could want it there. -/
namespace RangeApply.Geography

/-- What a source's metadata says of the place of a posting. An entry that is no text is missing. -/
structure Metadata where
  secondaryLocations : List (Option Text)
  allLocations : List (Option Text)
  offices : List (Option Text)
  workplaceType : Text
  isRemote : Bool

/-- Where a posting is said to be. -/
structure Whereabouts where
  location : Option Text
  locations : List Text
  metadata : Metadata

/-- Each text without the blanks around it, once. -/
def distinct (texts : List (Option Text)) : List Text :=
  texts.foldl (fun seen text =>
    match (text.map Text.strip).bind Text.orNone with
    | some text => if text ∈ seen then seen else seen ++ [text]
    | none => seen) []

/-- `job_location_texts`. -/
def jobLocationTexts (w : Whereabouts) (offices : Bool) : List Text :=
  distinct (w.location :: w.locations.map some ++ w.metadata.secondaryLocations ++
    w.metadata.allLocations ++ if offices then w.metadata.offices else [])

/-- `explicit_remote`. -/
def explicitRemote (m : Metadata) : Bool :=
  Text.occurs "REMOTE".ascii (m.workplaceType.map Char.toUpper) || m.isRemote

section Reading
variable (ascii : Text → Text)

/-- `job_places`: office names are read only when the locations name nothing. -/
def jobPlaces (w : Whereabouts) : Places :=
  let remote := explicitRemote w.metadata
  let read (offices : Bool) :=
    parsePlaces ascii ((jobLocationTexts w offices).map some) remote false
  let places := read false
  if places.recognized || places.remote then places
  else if (read true).recognized then read true else places

def GeographyPolicy.assessJob (p : GeographyPolicy) (w : Whereabouts) : GeoAssessment :=
  p.assess ascii (jobPlaces ascii w)

/-- Only a posting that is tied to other countries is dropped before ingestion. -/
def GeoAssessment.excludedAtDiscovery (a : GeoAssessment) : Bool :=
  !a.inPolicy && (a.geoClass = .foreign || a.geoClass = .foreignRemote)

/-- `DiscoveryGeography.excluded`, over the policy of every tenant that discovery works for. -/
def excluded (policies : List GeographyPolicy) (w : Whereabouts) : Option GeoAssessment :=
  match policies with
  | [] => none
  | first :: _ =>
    if policies.any fun p => !p.active then none
    else if policies.all fun p => (p.assessJob ascii w).excludedAtDiscovery then
      some (first.assessJob ascii w)
    else none

/-! ### The policy of a tenant -/

structure LocationPreference where
  primary : Option Text
  includeCountryRemote : Bool
  includeOtherCities : Bool
  preferredLocations : List Text
  allowInternational : Bool
  includeUnconfirmed : Bool

/-- `policy_from_preferences`: a primary target that names no country is matched by its own name,
in the country of the profile. -/
def policyFromPreferences (preferences : LocationPreference) (profileLocation : Option Text) :
    GeographyPolicy :=
  let primary := Text.strip (preferences.primary.getD [])
  let fallback := Text.strip (profileLocation.getD [])
  let target := parseTarget ascii (some (if primary ≠ [] then primary else fallback))
  let target := target.map fun target =>
    if primary ≠ [] ∧ target.country = none then
      match parseTarget ascii (some fallback) with
      | some home => if home.country.isSome then { target with country := home.country } else target
      | none => target
    else target
  { target := target
    includeCountryRemote := preferences.includeCountryRemote
    includeOtherCities := preferences.includeOtherCities
    alsoConsider := preferences.preferredLocations.filter fun p => Text.strip p ≠ []
    allowInternational := preferences.allowInternational
    includeUnconfirmed := preferences.includeUnconfirmed }

end Reading

end RangeApply.Geography
