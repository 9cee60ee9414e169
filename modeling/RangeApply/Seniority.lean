import RangeApply.Occurrences
import RangeApply.Resolver

/-! The years of experience a posting asks for and the level its title names. A statement of
experience is a passage of the posting, and never the age of a company or the length of a study. -/
namespace RangeApply.Eligibility

/-- What the reading takes from the language beside the character database: the value of a decimal
digit, and a text without its HTML character references. -/
structure Language where
  unicode : Unicode
  digit : Char → Nat
  unescape : Text → Text

def Language.ascii : Language := ⟨.ascii, fun c => c.toNat - 48, id⟩

/-! ### The patterns -/

def wordNumbers : List (Text × Nat) :=
  (["one", "two", "three", "four", "five", "six", "seven", "eight", "nine", "ten", "eleven",
    "twelve", "thirteen", "fourteen", "fifteen"].zipIdx 1).map fun p => (p.1.ascii, p.2)

/-- `_N`. -/
def numberNotation : Text :=
  "(?:\\d\x7b1,2\x7d|one|two|three|four|five|six|seven|eight|nine|ten|eleven|twelve|".ascii ++
    "thirteen|fourteen|fifteen)".ascii

/-- `_YEARS`. -/
def yearsNotation : Text := "(?:years?|yrs?)(?:'|".ascii ++ '’' :: ")?".ascii

def dashes : Text := "(?:-|".ascii ++ '–' :: "|to)".ascii

/-- `_RANGE`. -/
def rangeNotation : Text :=
  "(?P<min>".ascii ++ numberNotation ++ ")\\s*(?:\\+|plus)?\\s*(?:".ascii ++ dashes ++
    "\\s*(?P<max>".ascii ++ numberNotation ++ ")\\s*\\+?)?\\s*".ascii

/-- Up to `n` repetitions of `x`, as few of them as let `y` follow. -/
def fewest (x y : Text) : Nat → Text
  | 0 => y
  | n + 1 => "(?:".ascii ++ y ++ '|' :: x ++ fewest x y n ++ ")".ascii

def insensitive (notation_ : Text) : Pattern := .of true false notation_

/-- `_STRICT`: tied to the word experience. -/
def strict : List Pattern := [
  insensitive ("\\b".ascii ++ rangeNotation ++ yearsNotation ++ "\\s+(?:of\\s+)?".ascii ++
    fewest "(?:[\\w/&.-]+\\s+)".ascii "(?:experience|exp)\\b".ascii 5),
  insensitive ("\\b(?:minimum|min\\.?|at\\s+least|atleast)\\s+(?:of\\s+)?".ascii ++
    rangeNotation ++ yearsNotation ++ "\\b".ascii),
  insensitive ("\\bexperience\\s*(?::|-|".ascii ++ '–' ::
    "|of|required:?|range:?)?\\s*(?:a\\s+)?".ascii ++
    "(?:minimum\\s+(?:of\\s+)?|min\\.?\\s+|at\\s+least\\s+)?".ascii ++
    rangeNotation ++ yearsNotation ++ "\\b".ascii)]

/-- `_LOOSE`: a band without the word. -/
def loose : List Pattern := [
  insensitive ("\\(\\s*".ascii ++ rangeNotation ++ yearsNotation ++ "\\s*\\)".ascii),
  insensitive ("\\b(?P<min>\\d\x7b1,2\x7d)\\s*(?:\\+|".ascii ++ dashes ++
    "\\s*(?P<max>\\d\x7b1,2\x7d))\\s*".ascii ++ yearsNotation ++ "\\b".ascii)]

/-- `_BEFORE_EXCLUDED`. -/
def beforeExcluded : Pattern := insensitive <| String.ascii <|
  "\\b(?:over|past|nearly|almost|more than|since|founded|in business(?: for)?|history of|" ++
    "for the (?:last|past)|next|last|within)\\s*$"

/-- `_BEFORE_HISTORY`. -/
def beforeHistory : Pattern := insensitive <| String.ascii <|
  "\\b(?:past|since|founded|in business(?: for)?|history of|for the (?:last|past)|next|last|" ++
    "within)\\s*$"

def companyAgeMinYears : Nat := 16

/-- `_AFTER_EXCLUDED`. -/
def afterExcluded : Pattern := insensitive <|
  ("^\\s*(?:ago|old|of (?:history|trust|serving|innovation|operation|growth)|in business|" ++
    "running|(?:of\\s+)?").ascii ++
  fewest "(?:[\\w-]+\\s+)".ascii ("(?:undergraduate|college|university|coursework|schooling|" ++
    "study|studies|education|degree)").ascii 2 ++ ")\\b".ascii

/-- `_EDUCATION_IN_MATCH`. -/
def educationInMatch : Pattern := insensitive <| String.ascii <|
  "\\b(?:undergraduate|college|university|coursework|schooling|study|studies|degree|" ++
    "bachelor'?s?|master'?s?|b\\.?\\s?tech|m\\.?\\s?tech|integrated|combined|collective)\\b"

/-- `_PREFERRED`. -/
def preferredRe : Pattern := insensitive <| String.ascii <|
  "\\b(?:preferred|nice to have|a plus|is a plus|bonus|desirable|an advantage|ideally|" ++
    "good to have)\\b"

/-- `_SENIOR_TITLE`. -/
def seniorTitle : Pattern := insensitive <| String.ascii <|
  "\\b(?:senior|sr|staff|principal|lead|head|director|vp|vice president|manager|architect|" ++
    "distinguished|fellow)\\b|\\b(?:iii|iv)\\b|\\b(?:level|l)\\s*[3-9]\\b|" ++
    "\\b(?:sde|swe|engineer|developer)\\s*[-_ ]?[3-5]\\b"

/-- `_JUNIOR_MARKER`. -/
def juniorMarker : Pattern := insensitive <| String.ascii <|
  "\\b(?:associate|junior|jr|graduate|intern|internship|trainee|apprentice|entry)\\b"

/-- `_ALWAYS_SENIOR`. -/
def alwaysSenior : Pattern := insensitive <| String.ascii <|
  "\\b(?:senior|sr|staff|principal|director|vp|vice president|distinguished|fellow|head of|" ++
    "iii|iv)\\b"

/-- `_MID_TITLE`. -/
def midTitle : Pattern := insensitive <| String.ascii <|
  "\\b(?:ii)\\b|\\b(?:sde|swe|engineer|developer|analyst)\\s*[-_ ]?2\\b|\\b(?:level|l)\\s*2\\b|" ++
    "\\bmid[- ]level\\b"

def tags : Pattern := .of false false "<[^>]+>".ascii

/-! ### Statements of experience -/

structure ExperienceStatement where
  years : Nat
  text : Text
  preferred : Bool
  /-- A band read without the word experience. -/
  loose : Bool

section Reading
variable (lang : Language)

/-- `int` of decimal digits. -/
def int (token : Text) : Nat := token.foldl (fun n c => 10 * n + lang.digit c) 0

/-- `_number`. -/
def number (token : Text) : Option Nat :=
  if token = [] then none
  else
    let token := lang.unicode.lower token
    if token.all lang.unicode.decimal then some (int lang token)
    else wordNumbers.lookup token

/-- `_plain`. -/
def plain (text : Text) : Text := Text.spaced (lang.unescape (tags.sub lang.unicode " ".ascii text))

/-- The statements read so far, each with the span of the text that it was read from. -/
abbrev Found := List ((Nat × Nat) × ExperienceStatement)

def spanOf (text : Text) (m : Match) : Nat × Nat :=
  (text.length - m.first.rest.length, text.length - m.last.rest.length)

/-- What a match stands in is no history of a company, no time window and no study. -/
def excluded (isLoose : Bool) (years : Nat) (m : Match) : Bool :=
  let before := (m.first.before.take 16).reverse
  afterExcluded.found lang.unicode (m.last.rest.take 30) ||
    (if isLoose then beforeExcluded.found lang.unicode before
      else beforeHistory.found lang.unicode before ||
        (beforeExcluded.found lang.unicode before && decide (companyAgeMinYears ≤ years))) ||
    educationInMatch.found lang.unicode m.text

def statementOf (isLoose : Bool) (years : Nat) (m : Match) : ExperienceStatement :=
  let context := (m.first.before.take 40).reverse ++ m.text ++ m.last.rest.take 60
  ⟨years, Text.strip m.text, preferredRe.found lang.unicode context, isLoose⟩

/-- One match: a statement unless it reads nothing, is of another kind or was read already. -/
def readMatch (text : Text) (found : Found) (hit : Bool × Match) : Found :=
  let span := spanOf text hit.2
  match number lang (hit.2.group 1) with
  | none => found
  | some years =>
    if years = 0 ∨ 30 < years ∨ found.any (fun f => span.1 < f.1.2 && f.1.1 < span.2) then found
    else if excluded lang hit.1 years hit.2 then found
    else found ++ [(span, statementOf lang hit.1 years hit.2)]

/-- The matches of all patterns, in the order in which they are looked at. -/
def hits (text : Text) : List (Bool × Match) :=
  (strict.flatMap fun p => (p.all lang.unicode text).map (false, ·)) ++
    loose.flatMap fun p => (p.all lang.unicode text).map (true, ·)

def foundIn (text : Text) : Found := (hits lang text).foldl (readMatch lang text) []

/-- `experience_statements`. -/
def experienceStatements (texts : List (Option Text)) : List ExperienceStatement :=
  texts.flatMap fun raw =>
    match raw.bind Text.orNone with
    | none => []
    | some raw => (foundIn lang (plain lang raw)).map Prod.snd

inductive Seniority
  | senior | mid
  deriving DecidableEq

/-- `title_seniority`. -/
def titleSeniority (title : Text) : Option Seniority :=
  if alwaysSenior.found lang.unicode title then some .senior
  else if seniorTitle.found lang.unicode title then
    some (if juniorMarker.found lang.unicode title then .mid else .senior)
  else if midTitle.found lang.unicode title then some .mid
  else none

inductive ExperienceLevel
  | intern | entryLevel | mid | senior | unknown
  deriving DecidableEq

/-- `extract_experience_level` of a title in lower case, where the content of the posting is
empty. -/
def titleLevel (title : Text) : ExperienceLevel :=
  let reads (pattern : String) := (Pattern.of false false pattern.ascii).found lang.unicode title
  if reads "\\b(intern|internship|co-op)\\b" then .intern
  else if reads "\\b(staff|principal|lead|director|manager)\\b" then .senior
  else if reads "\\b(senior|sr|sr\\.)\\b" then .senior
  else if reads "\\b(junior|jr|jr\\.|associate|entry|fresher|graduate)\\b" then .entryLevel
  else .unknown

end Reading

end RangeApply.Eligibility
