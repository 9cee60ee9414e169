import RangeApply.Resolver
import RangeApply.Scan

/-! The gazetteer, and what a list of location strings names: countries, metros, states and zones
of many countries. Which countries a string names depends on the strings beside it. -/
namespace RangeApply.Geography

def india : String := "India"

def unitedStates : String := "United States"

def canada : String := "Canada"

structure Metro where
  name : String
  country : String
  region : Option String
  names : List String

structure Country where
  name : String
  zones : List String
  names : List String

def metros : List Metro := [
  ⟨"Hyderabad", india, some "Telangana", ["hyderabad", "hyderbad", "secunderabad", "cyberabad",
    "gachibowli", "hitec city", "hitech city", "madhapur", "kondapur", "nanakramguda", "kokapet",
    "manikonda", "hyderabad metropolitan area"]⟩,
  ⟨"Bengaluru", india, some "Karnataka", ["bengaluru", "bangalore", "whitefield", "electronic city",
    "koramangala", "marathahalli"]⟩,
  ⟨"Pune", india, some "Maharashtra", ["pune", "pimpri", "chinchwad", "hinjewadi", "kharadi"]⟩,
  ⟨"Mumbai", india, some "Maharashtra", ["mumbai", "bombay", "navi mumbai", "thane", "powai",
    "andheri"]⟩,
  ⟨"Delhi NCR", india, none, ["delhi", "new delhi", "delhi ncr", "gurgaon", "gurugram", "noida",
    "greater noida", "faridabad", "ghaziabad"]⟩,
  ⟨"Chennai", india, some "Tamil Nadu", ["chennai", "madras"]⟩,
  ⟨"Kolkata", india, some "West Bengal", ["kolkata", "calcutta"]⟩,
  ⟨"Ahmedabad", india, some "Gujarat", ["ahmedabad", "gandhinagar", "gift city"]⟩,
  ⟨"Kochi", india, some "Kerala", ["kochi", "cochin"]⟩,
  ⟨"Thiruvananthapuram", india, some "Kerala", ["thiruvananthapuram", "trivandrum"]⟩,
  ⟨"Coimbatore", india, some "Tamil Nadu", ["coimbatore"]⟩,
  ⟨"Jaipur", india, some "Rajasthan", ["jaipur"]⟩,
  ⟨"Chandigarh", india, none, ["chandigarh", "mohali", "panchkula"]⟩,
  ⟨"Indore", india, some "Madhya Pradesh", ["indore"]⟩,
  ⟨"Bhubaneswar", india, some "Odisha", ["bhubaneswar"]⟩,
  ⟨"Visakhapatnam", india, some "Andhra Pradesh", ["visakhapatnam", "vizag"]⟩,
  ⟨"Vijayawada", india, some "Andhra Pradesh", ["vijayawada"]⟩,
  ⟨"Warangal", india, some "Telangana", ["warangal"]⟩,
  ⟨"Mysuru", india, some "Karnataka", ["mysuru", "mysore"]⟩,
  ⟨"Mangaluru", india, some "Karnataka", ["mangaluru", "mangalore"]⟩,
  ⟨"Nagpur", india, some "Maharashtra", ["nagpur"]⟩,
  ⟨"Lucknow", india, some "Uttar Pradesh", ["lucknow"]⟩,
  ⟨"San Francisco Bay Area", unitedStates, some "California", ["san francisco",
    "south san francisco", "bay area", "palo alto", "mountain view", "menlo park", "sunnyvale",
    "san jose", "santa clara", "redwood city", "san mateo", "foster city", "oakland", "cupertino",
    "fremont", "berkeley", "burlingame", "emeryville", "milpitas"]⟩,
  ⟨"New York City", unitedStates, some "New York", ["new york city", "new york", "nyc", "brooklyn",
    "manhattan", "jersey city", "hoboken"]⟩,
  ⟨"Seattle", unitedStates, some "Washington", ["seattle", "bellevue", "redmond", "kirkland"]⟩,
  ⟨"Los Angeles", unitedStates, some "California", ["los angeles", "santa monica", "culver city",
    "irvine", "pasadena"]⟩,
  ⟨"Boston", unitedStates, some "Massachusetts", ["boston", "somerville"]⟩,
  ⟨"Chicago", unitedStates, some "Illinois", ["chicago"]⟩,
  ⟨"Austin", unitedStates, some "Texas", ["austin"]⟩,
  ⟨"Denver", unitedStates, some "Colorado", ["denver", "boulder"]⟩,
  ⟨"Atlanta", unitedStates, some "Georgia", ["atlanta"]⟩,
  ⟨"Washington DC", unitedStates, none, ["washington dc", "washington d c", "reston", "mclean"]⟩,
  ⟨"Miami", unitedStates, some "Florida", ["miami"]⟩,
  ⟨"Dallas", unitedStates, some "Texas", ["dallas", "plano"]⟩,
  ⟨"Houston", unitedStates, some "Texas", ["houston"]⟩,
  ⟨"Phoenix", unitedStates, some "Arizona", ["phoenix", "scottsdale"]⟩,
  ⟨"Salt Lake City", unitedStates, some "Utah", ["salt lake city", "lehi"]⟩,
  ⟨"Pittsburgh", unitedStates, some "Pennsylvania", ["pittsburgh"]⟩,
  ⟨"Philadelphia", unitedStates, some "Pennsylvania", ["philadelphia"]⟩,
  ⟨"Raleigh", unitedStates, some "North Carolina", ["raleigh", "durham"]⟩,
  ⟨"Nashville", unitedStates, some "Tennessee", ["nashville"]⟩,
  ⟨"Minneapolis", unitedStates, some "Minnesota", ["minneapolis"]⟩,
  ⟨"Detroit", unitedStates, some "Michigan", ["detroit", "ann arbor"]⟩,
  ⟨"San Diego", unitedStates, some "California", ["san diego"]⟩,
  ⟨"Portland", unitedStates, some "Oregon", ["portland"]⟩]

def subregionsOf : List (String × List String) := [
  (india, ["Telangana", "Andhra Pradesh", "Karnataka", "Maharashtra", "Tamil Nadu", "Kerala",
    "Gujarat", "West Bengal", "Haryana", "Uttar Pradesh", "Rajasthan", "Punjab", "Madhya Pradesh",
    "Odisha", "Goa", "Bihar", "Assam"]),
  (unitedStates, ["California", "Washington", "Texas", "Massachusetts", "Illinois", "Colorado",
    "Georgia", "Florida", "Oregon", "Utah", "Arizona", "North Carolina", "Virginia", "Pennsylvania",
    "Ohio", "Michigan", "Minnesota", "Tennessee", "New Jersey", "Maryland", "Wisconsin", "Missouri",
    "Indiana", "Connecticut", "New Mexico", "Nevada", "Kentucky", "Iowa", "Idaho", "Delaware",
    "Hawaii", "Alaska", "Alabama", "Arkansas", "Kansas", "Louisiana", "Maine", "Mississippi",
    "Montana", "Nebraska", "New Hampshire", "North Dakota", "Oklahoma", "Rhode Island",
    "South Carolina", "South Dakota", "Vermont", "West Virginia", "Wyoming",
    "District of Columbia"]),
  (canada, ["Ontario", "British Columbia", "Quebec", "Alberta"])]

/-- The states and provinces, each with its country. -/
def subregions : List (String × String) :=
  subregionsOf.flatMap fun p => p.2.map fun region => (region, p.1)

def countries : List Country := [
  ⟨india, ["asia"], ["india", "bharat"]⟩,
  ⟨unitedStates, ["north america"], ["united states", "united states of america", "usa"]⟩,
  ⟨canada, ["north america"], ["canada", "toronto", "vancouver", "montreal", "waterloo", "ottawa",
    "calgary", "edmonton"]⟩,
  ⟨"Mexico", ["latin america", "north america"], ["mexico", "mexico city", "ciudad de mexico",
    "guadalajara", "monterrey"]⟩,
  ⟨"United Kingdom", ["europe"], ["united kingdom", "england", "scotland", "wales", "great britain",
    "london", "manchester", "edinburgh", "bristol", "glasgow", "belfast", "leeds"]⟩,
  ⟨"Ireland", ["europe"], ["ireland", "dublin", "cork", "galway"]⟩,
  ⟨"Germany", ["europe"], ["germany", "deutschland", "berlin", "munich", "munchen", "hamburg",
    "frankfurt", "cologne", "stuttgart"]⟩,
  ⟨"France", ["europe"], ["france", "paris", "lyon"]⟩,
  ⟨"Netherlands", ["europe"], ["netherlands", "amsterdam", "rotterdam", "the hague", "utrecht",
    "eindhoven"]⟩,
  ⟨"Spain", ["europe"], ["spain", "madrid", "barcelona"]⟩,
  ⟨"Portugal", ["europe"], ["portugal", "lisbon", "porto"]⟩,
  ⟨"Italy", ["europe"], ["italy", "milan", "rome"]⟩,
  ⟨"Switzerland", ["europe"], ["switzerland", "zurich", "geneva", "lausanne"]⟩,
  ⟨"Sweden", ["europe"], ["sweden", "stockholm", "gothenburg"]⟩,
  ⟨"Denmark", ["europe"], ["denmark", "copenhagen"]⟩,
  ⟨"Norway", ["europe"], ["norway", "oslo"]⟩,
  ⟨"Finland", ["europe"], ["finland", "helsinki"]⟩,
  ⟨"Poland", ["europe"], ["poland", "warsaw", "krakow", "wroclaw"]⟩,
  ⟨"Czechia", ["europe"], ["czech republic", "czechia", "prague", "brno"]⟩,
  ⟨"Austria", ["europe"], ["austria", "vienna"]⟩,
  ⟨"Belgium", ["europe"], ["belgium", "brussels"]⟩,
  ⟨"Serbia", ["europe"], ["serbia", "belgrade", "novi sad"]⟩,
  ⟨"Romania", ["europe"], ["romania", "bucharest", "cluj"]⟩,
  ⟨"Ukraine", ["europe"], ["ukraine", "kyiv", "kiev", "lviv"]⟩,
  ⟨"Greece", ["europe"], ["greece", "athens"]⟩,
  ⟨"Hungary", ["europe"], ["hungary", "budapest"]⟩,
  ⟨"Estonia", ["europe"], ["estonia", "tallinn"]⟩,
  ⟨"Lithuania", ["europe"], ["lithuania", "vilnius"]⟩,
  ⟨"Turkey", ["europe", "middle east"], ["turkey", "turkiye", "istanbul"]⟩,
  ⟨"Israel", ["middle east"], ["israel", "tel aviv", "jerusalem", "haifa"]⟩,
  ⟨"United Arab Emirates", ["middle east"], ["united arab emirates", "dubai", "abu dhabi"]⟩,
  ⟨"Saudi Arabia", ["middle east"], ["saudi arabia", "riyadh"]⟩,
  ⟨"Qatar", ["middle east"], ["qatar", "doha"]⟩,
  ⟨"Egypt", ["africa", "middle east"], ["egypt", "cairo"]⟩,
  ⟨"Singapore", ["asia"], ["singapore"]⟩,
  ⟨"Japan", ["asia"], ["japan", "tokyo", "osaka"]⟩,
  ⟨"South Korea", ["asia"], ["south korea", "korea", "seoul"]⟩,
  ⟨"China", ["asia"], ["china", "beijing", "shanghai", "shenzhen", "hangzhou"]⟩,
  ⟨"Hong Kong", ["asia"], ["hong kong"]⟩,
  ⟨"Taiwan", ["asia"], ["taiwan", "taipei"]⟩,
  ⟨"Philippines", ["asia"], ["philippines", "manila", "cebu"]⟩,
  ⟨"Indonesia", ["asia"], ["indonesia", "jakarta"]⟩,
  ⟨"Malaysia", ["asia"], ["malaysia", "kuala lumpur"]⟩,
  ⟨"Vietnam", ["asia"], ["vietnam", "ho chi minh", "hanoi"]⟩,
  ⟨"Thailand", ["asia"], ["thailand", "bangkok"]⟩,
  ⟨"Pakistan", ["asia"], ["pakistan", "karachi", "lahore", "islamabad"]⟩,
  ⟨"Bangladesh", ["asia"], ["bangladesh", "dhaka"]⟩,
  ⟨"Sri Lanka", ["asia"], ["sri lanka", "colombo"]⟩,
  ⟨"Nepal", ["asia"], ["nepal", "kathmandu"]⟩,
  ⟨"Australia", ["oceania"], ["australia", "sydney", "melbourne", "brisbane", "perth", "canberra"]⟩,
  ⟨"New Zealand", ["oceania"], ["new zealand", "auckland", "wellington"]⟩,
  ⟨"Brazil", ["latin america"], ["brazil", "brasil", "sao paulo", "rio de janeiro"]⟩,
  ⟨"Argentina", ["latin america"], ["argentina", "buenos aires"]⟩,
  ⟨"Colombia", ["latin america"], ["colombia", "bogota", "medellin"]⟩,
  ⟨"Chile", ["latin america"], ["chile", "santiago"]⟩,
  ⟨"Peru", ["latin america"], ["peru", "lima"]⟩,
  ⟨"Costa Rica", ["latin america"], ["costa rica"]⟩,
  ⟨"Nigeria", ["africa"], ["nigeria", "lagos"]⟩,
  ⟨"Kenya", ["africa"], ["kenya", "nairobi"]⟩,
  ⟨"South Africa", ["africa"], ["south africa", "cape town", "johannesburg"]⟩]

def world : List String :=
  ["asia", "europe", "north america", "latin america", "middle east", "africa", "oceania"]

/-- The zones of many countries, each with the zones that it covers. -/
def zones : List (String × List String) := [
  ("north america", ["north america"]),
  ("americas", ["latin america", "north america"]),
  ("latam", ["latin america"]),
  ("latin america", ["latin america"]),
  ("south america", ["latin america"]),
  ("emea", ["africa", "europe", "middle east"]),
  ("europe", ["europe"]),
  ("european union", ["europe"]),
  ("nordics", ["europe"]),
  ("dach", ["europe"]),
  ("middle east", ["middle east"]),
  ("mena", ["africa", "middle east"]),
  ("africa", ["africa"]),
  ("apac", ["asia", "oceania"]),
  ("asia pacific", ["asia", "oceania"]),
  ("apj", ["asia", "oceania"]),
  ("asia", ["asia"]),
  ("south asia", ["asia"]),
  ("southeast asia", ["asia"]),
  ("oceania", ["oceania"]),
  ("anz", ["oceania"]),
  ("worldwide", world),
  ("global", world),
  ("anywhere", world),
  ("international", world)]

def demonyms : List (String × String) := [
  ("indian", india), ("american", unitedStates), ("british", "United Kingdom"),
  ("canadian", canada), ("german", "Germany"), ("irish", "Ireland"), ("singaporean", "Singapore"),
  ("australian", "Australia")]

def codes : List (String × String) := [
  ("IND", india), ("USA", unitedStates), ("US", unitedStates), ("U.S.", unitedStates),
  ("U.S", unitedStates), ("U.S.A.", unitedStates), ("U.S.A", unitedStates),
  ("UK", "United Kingdom"), ("U.K.", "United Kingdom"), ("U.K", "United Kingdom"),
  ("UAE", "United Arab Emirates")]

def usStateCodes : List String := [
  "AL", "AK", "AZ", "AR", "CA", "CO", "CT", "DE", "FL", "GA", "HI", "ID", "IL", "IN", "IA", "KS",
  "KY", "LA", "ME", "MD", "MA", "MI", "MN", "MS", "MO", "MT", "NE", "NV", "NH", "NJ", "NM", "NY",
  "NC", "ND", "OH", "OK", "OR", "PA", "RI", "SC", "SD", "TN", "TX", "UT", "VT", "VA", "WA", "WV",
  "WI", "WY", "DC"]

/-! ### Folding and the alias table -/

def separator (c : Char) : Bool :=
  c ∈ ['-', '_', '/', '|', '(', ')', '[', ']', '\x7b', '\x7d', '.', ';', ':', Char.ofNat 0xB7,
    Char.ofNat 0x2022]

/-- `_fold`: lower case, with separators as spaces. What a text is without its characters beyond
ASCII, after decomposition, is the character database's to tell. -/
def fold (ascii : Text → Text) (text : Text) : Text :=
  let lower := (ascii text).map Char.toLower
  Text.strip (Text.spaced (lower.map fun c => if separator c then ' ' else c))

/-- What an alias stands for. -/
inductive Named
  | metro (m : Metro)
  | subregion (name land : String)
  | country (name : String)
  | zone (name : String) (covers : List String)

/-- `_build_aliases`: of two entries with one alias the first stands. -/
def aliases (ascii : Text → Text) : List (Text × Named) :=
  (metros.flatMap fun m => m.names.map fun name => (name.ascii, .metro m)) ++
  subregions.map (fun p => (fold ascii p.1.ascii, .subregion p.1 p.2)) ++
  (countries.flatMap fun c => c.names.map fun name => (name.ascii, .country c.name)) ++
  zones.map fun p => (p.1.ascii, .zone p.1 p.2)

/-- The aliases as the pattern tries them, the longest first. -/
def aliasWords (ascii : Text → Text) : List Text :=
  let names := (aliases ascii).map Prod.fst
  let longest := (names.map List.length).foldl max 0
  (List.range (longest + 1)).reverse.flatMap fun n => names.filter fun name => name.length = n

def standsFor (ascii : Text → Text) (name : Text) : Option Named :=
  ((aliases ascii).find? fun p => p.1 = name).map Prod.snd

/-! ### What is read in a text -/

def lowerLetter (c : Char) : Bool := 'a' ≤ c && c ≤ 'z'

def letter (c : Char) : Bool := lowerLetter c || ('A' ≤ c && c ≤ 'Z')

def lowerAlnum (c : Char) : Bool := lowerLetter c || ('0' ≤ c && c ≤ '9')

/-- `_ALIAS_RE`. -/
def aliasReader (ascii : Text → Text) : Reader Text :=
  Reader.word lowerAlnum lowerAlnum (aliasWords ascii)

def codeWords : List Text :=
  ["U.S.A.", "U.S.A", "U.S.", "U.S", "USA", "US", "U.K.", "U.K", "UK", "UAE", "EU", "IND"].map
    String.ascii

/-- `_CODE_RE`. -/
def codeReader : Reader Text := Reader.word (fun c => letter c || c == '.') letter codeWords

/-- What leads a state code in: a comma, a parenthesis, or a hyphen after a blank. -/
def leadIn : Text → Option Text
  | [] => none
  | c :: rest =>
    if c = ',' ∨ c = '(' then some rest
    else if c.isBlank ∧ rest.head? = some '-' then some rest.tail
    else none

def stateCodeWords : List Text := usStateCodes.map String.ascii

/-- `_STATE_CODE_RE`. -/
def stateCodeReader : Reader Text := fun _ text => do
  let rest ← leadIn text
  let tail := rest.dropWhile Char.isBlank
  let (code, length) ← Reader.word (fun _ => false) letter stateCodeWords none tail
  return (code, text.length - tail.length + length)

/-- `_DEMONYM_RE`. -/
def demonymReader : Reader Text :=
  Reader.word lowerLetter lowerLetter (demonyms.map fun p => p.1.ascii)

/-- `_REMOTE_RE`. -/
def remoteReader : Reader Text :=
  Reader.word lowerLetter lowerLetter
    (["remote", "work from home", "wfh", "telecommute", "fully distributed", "anywhere"].map
      String.ascii)

def meaning (table : List (String × String)) (word : Text) : Option String :=
  (table.find? fun p => p.1.ascii = word).map Prod.snd

/-! ### Places -/

/-- What a list of location strings names, each set as a list of its members. -/
structure Places where
  countries : List String
  metros : List String
  subregions : List String
  zones : List String
  remote : Bool
  zoneNames : List String
  text : Text

/-- The country that a name puts the job in. -/
def Named.countryOf : Named → Option String
  | .metro m => some m.country
  | .subregion _ land => some land
  | .country land => some land
  | .zone _ _ => none

/-- The strings that are read: neither missing nor blank. -/
def kept (texts : List (Option Text)) : List Text :=
  texts.filterMap fun t => t.filter fun text => Text.strip text ≠ []

def rawText (texts : List (Option Text)) : Text := joined " ; " (kept texts)

/-- The names of the gazetteer that are found in a text. -/
def namedIn (ascii : Text → Text) (text : Text) : List Named :=
  ((aliasReader ascii).scan none 0 (fold ascii text)).filterMap (standsFor ascii)

def codesIn (text : Text) : List Text := codeReader.scan none 0 text

def stateCodesIn (text : Text) : List Text := stateCodeReader.scan none 0 text

/-- `"Hyderabad, IN"` is India and `"Toronto, CA"` is Canada, not Indiana or California. -/
def readOtherwise (named : List String) (code : Text) : Bool :=
  (code = "IN".ascii && named.contains india) || (code = "CA".ascii && named.contains canada)

/-- The countries that are named in full, by a place in them or by a code of their own. -/
def namedCountries (ascii : Text → Text) (text : Text) : List String :=
  (namedIn ascii text).filterMap Named.countryOf ++ (codesIn text).filterMap (meaning codes)

def demonymsIn (ascii : Text → Text) (text : Text) : List String :=
  (demonymReader.scan none 0 (fold ascii text)).filterMap (meaning demonyms)

/-- `parse_places`. -/
def parsePlaces (ascii : Text → Text) (texts : List (Option Text)) (remote readDemonyms : Bool) :
    Places :=
  let raw := rawText texts
  let named := namedIn ascii raw
  let europe := ((codesIn raw).filter fun code => code = "EU".ascii).map fun _ => "europe"
  let countries := namedCountries ascii raw
  let states := (stateCodesIn raw).filter fun code => !readOtherwise countries code
  let countries := countries ++ states.map fun _ => unitedStates
  { countries := countries ++ if readDemonyms then demonymsIn ascii raw else []
    metros := named.filterMap fun | .metro m => some m.name | _ => none
    subregions := named.filterMap fun
      | .metro m => m.region
      | .subregion name _ => some name
      | _ => none
    zones := (named.flatMap fun | .zone _ covers => covers | _ => []) ++ europe
    remote := remote || remoteReader.scan none 0 (fold ascii raw) ≠ []
    zoneNames := (named.filterMap fun | .zone name _ => some name | _ => none) ++ europe
    text := fold ascii raw }

def Places.recognized (p : Places) : Bool :=
  p.countries ≠ [] || p.metros ≠ [] || p.subregions ≠ [] || p.zones ≠ []

end RangeApply.Geography
