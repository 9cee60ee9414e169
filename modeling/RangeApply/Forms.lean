import RangeApply.Resolver

/-! The fields of an employer's form mapped to prepared answers, approved answers of the bank and
facts of the profile, or to a reason why there is none. -/
namespace RangeApply

inductive FieldType
  | text | textarea | email | phone | select | multiSelect | checkbox | radio | numeric | date
  | file | combobox | yesno | unknown
  deriving DecidableEq

structure FormOption where
  label : Text
  value : Option Text
  deriving DecidableEq

structure FormField where
  externalId : Option Text
  label : Text
  fieldType : FieldType
  required : Bool
  options : List FormOption

inductive FieldAnswerStatus
  | answered | needsUserInput | needsReview | skipped
  deriving DecidableEq

inductive FieldAnswerSource
  | preparation | answerBank | artifact | profile | user | nowhere
  deriving DecidableEq

structure FieldAnswer where
  externalId : Option Text
  label : Text
  questionKey : Text
  fieldType : FieldType
  required : Bool
  status : FieldAnswerStatus
  source : FieldAnswerSource
  category : String
  answer : Option Text
  selectedValues : List Text
  artifactType : Option String
  preparationAnswer : Option Nat
  evidenceKeys : List String
  reason : String
  deriving DecidableEq

/-- The facts that `load_profile_facts` reads off the profile. -/
inductive ProfileFact
  | firstName | lastName | name | email | phone | linkedin | github | portfolio | country
  | location | college | degree | cgpa | graduationYear | branch
  deriving DecidableEq

def ProfileFact.value : ProfileFact → String
  | firstName => "first_name" | lastName => "last_name" | name => "name" | email => "email"
  | phone => "phone" | linkedin => "linkedin" | github => "github" | portfolio => "portfolio"
  | country => "country" | location => "location" | college => "college" | degree => "degree"
  | cgpa => "cgpa" | graduationYear => "graduation_year" | branch => "branch"

structure ProfileFacts where
  facts : List (ProfileFact × Text)
  employers : List Text

def ProfileFacts.get (profile : ProfileFacts) (fact : ProfileFact) : Option Text :=
  (profile.facts.lookup fact).bind Text.orNone

/-- What a package brings to a form beside the answer bank; of an artifact, the evidence it
cites. -/
structure PreparedPackage where
  company : Text
  resume : Option (List String)
  coverLetter : Option (List String)
  answers : List PreparationAnswer
  profile : ProfileFacts

structure ExecutionPackage extends PreparedPackage where
  bank : AnswerBank

/-- The character database and `datetime.strptime`, which gives a date in ISO form. -/
structure FormEnv where
  unicode : Unicode
  strptime : String → Text → Option Text

section Options
variable (u : Unicode)

def yesWords : List Text := ["yes", "y", "true"].map String.ascii

def noWords : List Text := ["no", "n", "false"].map String.ascii

/-- `_polarity`. -/
def polarity (text : Text) : Option Bool :=
  let first := (normalizeQuestion u text).takeWhile (· ≠ ' ')
  if first ∈ yesWords then some true else if first ∈ noWords then some false else none

/-- `_degree_level`. -/
def degreeLevel (text : Text) : Option String :=
  let starts (pattern : String) := ((Pattern.of false false pattern.ascii).matchStart u text).isSome
  if starts "^(b ?tech|b ?e\\b|b ?sc?\\b|b ?a\\b|bba|bca|bachelor)" then some "bachelor"
  else if starts "^(m ?tech|m ?e\\b|m ?sc?\\b|m ?a\\b|mba|mca|master)" then some "master"
  else if starts "^(ph ?d|doctor)" then some "doctor"
  else none

def only {α : Type} : List α → Option α
  | [a] => some a
  | _ => none

/-- The one option label that a text names: by the whole label, by a yes or a no, by every part of
a place, by containment, or by the level of a degree. -/
def chooseOption (labels : List Text) (text : Text) (category : String) : Option Text :=
  let norm := normalizeQuestion u
  let wanted := norm text
  let parts := ((text.splitOn ',').map norm).filter (· ≠ [])
  let hits :=
    if 1 < parts.length then labels.filter fun l => parts.all fun p => word u p (norm l) else []
  let byPolarity := (polarity u wanted).bind fun p =>
    only (labels.filter fun l => polarity u (norm l) = some p)
  let byLevel := (degreeLevel u wanted).bind fun level =>
    only (labels.filter fun l => Text.occurs level.ascii (norm l))
  let contained := labels.filter fun l =>
    norm l ≠ [] && (Text.occurs (norm l) wanted || Text.occurs wanted (norm l))
  if wanted = [] then none
  else match (only (labels.filter (norm · = wanted))).or byPolarity with
    | some label => some label
    | none => match hits with
      | [label] => some label
      | _ :: _ :: _ => only (hits.filter fun l => norm l = joined " " parts)
      | [] =>
        (only contained).or (if category = QuestionCategory.education.value then byLevel else none)

def choiceTypes : List FieldType := [.select, .radio, .checkbox, .multiSelect, .yesno]

/-- `_value`. -/
def FormOption.chosen (o : FormOption) : Text := o.value.getD o.label

/-- `_match_options`. -/
def matchOptions (field : FormField) (text : Text) : List Text :=
  let norm := normalizeQuestion u
  match field.fieldType, field.options with
  | .multiSelect, options =>
    let wanted := norm text
    let exact := options.filter (norm ·.label = wanted)
    let contained := options.filter fun o =>
      norm o.label ≠ [] &&
        (Text.occurs (norm o.label) wanted || Text.occurs wanted (norm o.label))
    (if exact = [] then contained else exact).map FormOption.chosen
  -- One box is ticked by a yes only.
  | .checkbox, [box] => if polarity u text = some true then [box.chosen] else []
  | _, options =>
    let category := (classifyQuestion u field.label).category.value
    match chooseOption u (options.map (·.label)) text category with
    | none => []
    | some label => ((options.find? (·.label = label)).map FormOption.chosen).toList

end Options

section Typed
variable (env : FormEnv)

/-- `_ask`: the candidate's question, or a review, when the field is required. -/
def ask (base : FieldAnswer) (review : Bool) (reason : String) : FieldAnswer :=
  let status := if review then .needsReview else .needsUserInput
  { base with
    status := if base.required then status else .skipped
    reason }

def yesnoQuestionRe : Pattern := .of false false
  ("^(?:are|do|did|does|have|has|is|can|could|will|would|were|was|should|may) you\\b|" ++
    "^(?:are|is) there\\b").ascii

def numberRe : Pattern := .of false false "-?\\d+(?:[.,]\\d+)?".ascii

/-- `_parse_date`: the first format that the text has. -/
def parseDate (text : Text) : Option Text :=
  ["%Y-%m-%d", "%d/%m/%Y", "%m/%d/%Y", "%d %B %Y", "%B %d, %Y", "%Y-%m"].findSome? fun format =>
    env.strptime format (Text.strip text)

/-- Where an answer comes from. -/
structure Origin where
  source : FieldAnswerSource
  evidenceKeys : List String
  reason : String
  preparationAnswer : Option Nat

/-- `_typed`: a text fitted to the type of the field, or a question for the candidate. -/
def typed (field : FormField) (base : FieldAnswer) (text : Text) (origin : Origin) :
    FieldAnswer :=
  let common := { base with
    source := origin.source
    evidenceKeys := origin.evidenceKeys
    preparationAnswer := origin.preparationAnswer }
  let reason := origin.reason
  let filled (answer : Text) (selected : List Text) (reason : String) : FieldAnswer :=
    { common with status := .answered, answer := some answer, selectedValues := selected, reason }
  let asked := ask { common with answer := some text }
  match field.fieldType with
  | .text | .textarea | .email | .phone => filled text [] reason
  | .select | .radio | .checkbox | .multiSelect | .yesno =>
    match matchOptions env.unicode field text with
    | [] => asked false (reason ++ ", but it does not match an offered option")
    | chosen => filled text chosen (reason ++ "; matched option")
  | .combobox =>
    if field.options = [] then
      if (yesnoQuestionRe.matchStart env.unicode base.questionKey).isSome ∧
          polarity env.unicode text = none then
        asked false (reason ++ ", but a yes / no question needs a yes or a no")
      else filled text [] (reason ++ "; the matching option is chosen on the page")
    else match chooseOption env.unicode (field.options.map (·.label)) text base.category with
      | some chosen => filled text [chosen] (reason ++ "; matched option")
      | none => asked false (reason ++ ", but it does not match an offered option")
  | .numeric =>
    match numberRe.search env.unicode text with
    | some number => filled (number.text.map fun c => if c = ',' then '.' else c) [] reason
    | none => asked false (reason ++ ", but it is not a number")
  | .date =>
    match parseDate env text with
    | some parsed => filled parsed [] reason
    | none => asked false (reason ++ ", but it is not a date")
  | .file | .unknown => asked true "unsupported field type"

end Typed

/-! ### One field -/

/-- `_COUNTRY_ALIASES`. -/
def countryAliases : List (Text × List Text) :=
  [("united states", ["united states", "usa", "us", "u s", "u s a", "america"]),
    ("united kingdom", ["united kingdom", "uk", "u k", "britain", "great britain", "england"]),
    ("india", ["india"]), ("canada", ["canada"]), ("germany", ["germany"]),
    ("france", ["france"]), ("netherlands", ["netherlands"]), ("ireland", ["ireland"]),
    ("australia", ["australia"]), ("singapore", ["singapore"]), ("japan", ["japan"]),
    ("united arab emirates", ["united arab emirates", "uae", "dubai"]),
    ("europe", ["europe", "eu", "european union"])].map fun c =>
      (c.1.ascii, c.2.map String.ascii)

/-- `_canonical_country`. -/
def canonicalCountry (u : Unicode) (name : Text) : Option Text :=
  let wanted := normalizeQuestion u name
  match countryAliases.find? (wanted ∈ ·.2) with
  | some country => some country.1
  | none => Text.orNone wanted

/-- The question names a country, and not the candidate's own. -/
def namesOtherCountry (u : Unicode) (questionKey : Text) (ownCountry : Option Text) : Bool :=
  let named := countryAliases.filter fun country => country.2.any fun a => word u a questionKey
  match canonicalCountry u (ownCountry.getD []) with
  | none => false
  | some own => named ≠ [] && own ∉ named.map (·.1)

/-- `_GENERIC_WORDS`: words of a question that names nobody. -/
def genericWords : List Text :=
  ["why", "do", "does", "would", "you", "want", "like", "to", "work", "at", "for", "with", "here",
    "us", "our", "this", "the", "a", "an", "company", "role", "position", "team", "join", "are",
    "interested", "in", "be", "part", "of", "apply", "applying", "what", "makes", "excited",
    "about", "is", "it", "organisation", "organization", "job", "opportunity"].map String.ascii

/-- `_generic_question`. -/
def genericQuestion (questionKey : Text) : Bool :=
  ((questionKey.splitOnP Char.isBlank).filter (· ≠ [])).all (· ∈ genericWords)

/-- `_EXACT_ONLY`: questions that ask for different facts under one heading. -/
def exactOnly : List QuestionCategory := [.education, .conflictOfInterest]

def topicHintRe : Pattern := .of false false
  ("\\b(?:with|in|using|building) (?!total\\b|professional\\b|work\\b|overall\\b|relevant\\b|" ++
    "industry\\b|the\\b|your\\b|a\\b|an\\b)[a-z]").ascii

/-- `_shareable`: one approved answer of the category fits every question of it. -/
def shareable (u : Unicode) (category : QuestionCategory) (key : Text) : Bool :=
  if category ∈ employerSpecific ∨ category ∈ exactOnly then false
  else !(category = .experienceYears && topicHintRe.found u key)

/-- The facts that may be typed into a field, each with the labels that ask for it. -/
def identityPatterns : List (Pattern × ProfileFact) :=
  [("^(first|given|preferred( first)?) name$|^first$", .firstName),
    ("^(last|family|sur) ?name$|^last$", .lastName),
    ("^(full |your )?name$|^name \\(full\\)$", .name),
    ("e-?mail", .email), ("phone|mobile|telephone", .phone), ("linkedin", .linkedin),
    ("github", .github), ("portfolio|website|personal site", .portfolio),
    ("^country( of residence)?$|^country you (live|reside) in$|^which country", .country)].map
      fun p => (.of false false p.1.ascii, p.2)

/-- `_EDUCATION_FACTS`. -/
def educationFacts : List (Pattern × ProfileFact) :=
  [("school|university|college|institution|institute|alma mater", .college),
    (("^degree\\b|degree (type|level|name)|highest (level of )?(education|degree|qualification)|" ++
      "^qualification|^education( level)?$"), .degree),
    ("cgpa|gpa|grade|percentage|marks|aggregate", .cgpa),
    ("graduation|year of (passing|completion|graduating)|passing year|completion year",
      .graduationYear),
    ("discipline|major|branch|field of study|speciali[sz]ation|stream|course of study",
      .branch)].map fun p => (.of false false p.1.ascii, p.2)

def urlHintRe : Pattern := .of false false "\\burl\\b|\\blink\\b|\\bhttps?\\b".ascii

def linkValueRe : Pattern := .of true false "^https?://\\S+$".ascii

def secretHintRe : Pattern := .of false false "\\bpass ?(word|code|phrase)\\b".ascii

def autofillHintRe : Pattern := .of false false "\\bauto ?fill".ascii

def resumeHintRe : Pattern := .of false false "resume|r\u00e9sum\u00e9|\\bcv\\b|curriculum".toList

def coverHintRe : Pattern := .of false false "cover ?letter".ascii

section Field
variable (env : FormEnv) (field : FormField) (key : Text) (category : QuestionCategory)
variable (package : PreparedPackage)

/-- What every answer to a field says of the field. -/
def baseAnswer : FieldAnswer :=
  { externalId := field.externalId
    label := field.label
    questionKey := key
    fieldType := field.fieldType
    required := field.required
    status := .skipped
    source := .nowhere
    category := category.value
    answer := none
    selectedValues := []
    artifactType := none
    preparationAnswer := none
    evidenceKeys := []
    reason := "" }

def skip (reason : String) : FieldAnswer := { baseAnswer field key category with reason }

/-- A file is only ever a prepared artifact. -/
def fileAnswer : FieldAnswer :=
  let u := env.unicode
  let base := baseAnswer field key category
  let name := (field.externalId.getD []).map fun c => if c = '_' then ' ' else c
  let fileKey := key ++ [' '] ++ normalizeQuestion u name
  let prepared (kind : String) (evidence : List String) (reason : String) : FieldAnswer :=
    { base with
      status := .answered, source := .artifact, artifactType := some kind
      evidenceKeys := evidence, reason }
  if autofillHintRe.found u fileKey ∧ field.required = false then
    skip field key category "an autofill helper, not the application's resume upload"
  else
    match (if resumeHintRe.found u fileKey then package.resume else none),
      (if coverHintRe.found u fileKey then package.coverLetter else none) with
    | some evidence, _ => prepared "RESUME" evidence "prepared resume artifact"
    | none, some evidence => prepared "COVER_LETTER" evidence "prepared cover letter artifact"
    | none, none =>
      if coverHintRe.found u key ∧ field.required = false then
        skip field key category "cover letter disabled for this band"
      else ask base false "no prepared artifact matches this upload"

/-- A value of the profile is typed; only a country picks an option. -/
def identityAnswer : Option FieldAnswer :=
  let base := baseAnswer field key category
  let picksOption := field.fieldType ∈ choiceTypes ∨ field.fieldType = .combobox
  let asked := identityPatterns.find? fun p =>
    !(picksOption && p.2 ≠ .country) && p.1.found env.unicode key
  asked.map fun p =>
    match package.profile.get p.2 with
    | some value =>
      typed env field base value
        ⟨.profile, ["profile:" ++ p.2.value], "profile field", none⟩
    | none => ask base false ("profile has no " ++ p.2.value)

/-- `prepared.get(key)`. -/
def preparedByKey : Option PreparationAnswer :=
  package.answers.reverse.find? (·.questionKey = key)

/-- The text of a prepared answer, if it is answered. -/
def PreparationAnswer.text (answer : PreparationAnswer) : Option Text :=
  if answer.status = .answered then answer.answer.bind Text.orNone else none

def prepared (answer : PreparationAnswer) (reason : String) : Origin :=
  ⟨.preparation, answer.evidenceKeys, reason, some answer.position⟩

def banked (entry : AnswerBankEntry) (reason : String) : Origin :=
  ⟨.answerBank, entry.evidenceKeys, reason, none⟩

/-- A link is asked for: only an answer to this very question that is a link will do. -/
def linkAnswer (entry : Option AnswerBankEntry) : FieldAnswer :=
  let base := baseAnswer field key category
  let link (text : Text) : Option Text :=
    let value := Text.strip text
    if (linkValueRe.matchStart env.unicode value).isSome then some value else none
  let fromPreparation := (preparedByKey key package).bind fun answer =>
    (answer.text.bind link).map fun value =>
      typed env field base value (prepared answer "prepared link (exact question)")
  let fromBank := entry.bind fun entry =>
    (link entry.answer).map fun value =>
      typed env field base value (banked entry "approved answer bank link (exact question)")
  match fromPreparation.or fromBank with
  | some answer => answer
  | none =>
    ask base false "a link is asked for and no recorded answer to this exact question is a link"

/-- The answer to this very question: the prepared one, then that of the bank. -/
def exactAnswer (entry : Option AnswerBankEntry) : Option FieldAnswer :=
  let u := env.unicode
  let base := baseAnswer field key category
  let answer := preparedByKey key package
  let fromPreparation := answer.bind fun answer => answer.text.map fun text =>
    typed env field base text (prepared answer "prepared answer (exact question)")
  let usable :=
    if category ∈ employerSpecific ∧ genericQuestion key = true ∧
        namesCompany u key package.company = false then none
    else entry
  let fromBank := usable.map fun entry =>
    typed env field base entry.answer
      (banked entry "approved answer bank entry (exact question)")
  let waiting := (answer.filter (·.status = .needsUserInput)).map fun answer =>
    { base with
      status := .needsUserInput
      preparationAnswer := some answer.position
      reason := "needs_user_input on the preparation" }
  (fromPreparation.or fromBank).or waiting

/-- `_category_guard`. -/
def categoryGuard : Option FieldAnswer :=
  let u := env.unicode
  let base := baseAnswer field key category
  let company := normalizeQuestion u package.company
  let employers := package.profile.employers.map (normalizeQuestion u)
  let consentTypes : List FieldType := [.checkbox, .select, .radio, .yesno, .combobox]
  match category with
  | .workAuthorization | .sponsorship =>
    if namesOtherCountry u key (package.profile.get .country) then
      some (ask base false (category.value ++
        ": the question names another country than the profile's; answer it yourself"))
    else none
  | .priorEmployment =>
    if company ≠ [] ∧ employers.any fun e =>
        e ≠ [] && (Text.occurs e company || Text.occurs company e) then
      some (ask base false
        "prior_employment: the profile records work at this company; answer it yourself")
    else none
  | .consent =>
    if field.fieldType ∉ consentTypes then
      some (ask base false "consent: a typed acknowledgement is yours to write")
    else if field.required = false then
      some (skip field key category "optional consent / opt-in: left to you")
    else none
  | _ => none

/-- An answer to another question of the category: a prepared one, then, past the guard, the entry
that may be shared. -/
def categoryAnswer (shared : Option AnswerBankEntry) : Option FieldAnswer :=
  let base := baseAnswer field key category
  let fromPreparation := package.answers.findSome? fun answer =>
    if answer.category = category.value then
      answer.text.map fun text =>
        typed env field base text (prepared answer ("prepared answer (" ++ category.value ++ ")"))
    else none
  let fromBank := shared.map fun entry =>
    typed env field base entry.answer
      (banked entry ("approved answer bank entry (" ++ category.value ++ ")"))
  if category = .other then none
  else (fromPreparation.or (categoryGuard env field key category package)).or fromBank

/-- A fact of the profile that answers the category, or the sub-question about education. -/
def factAnswer : Option FieldAnswer :=
  let asked : Option ProfileFact :=
    match category with
    | .education => (educationFacts.find? fun p => p.1.found env.unicode key).map (·.2)
    | .location => some .location
    | _ => none
  asked.bind fun fact => (package.profile.get fact).map fun value =>
    typed env field (baseAnswer field key category) value
      ⟨.profile, ["profile:" ++ fact.value], "profile " ++ fact.value, none⟩

/-- `_map_one`, given the entry of the question itself and the one its category may share. -/
def mapWith (entry shared : Option AnswerBankEntry) : FieldAnswer :=
  let u := env.unicode
  let base := baseAnswer field key category
  if field.fieldType = .unknown then
    ask base true "unknown field type is never filled automatically"
  else if field.fieldType = .file then fileAnswer env field key category package
  else match identityAnswer env field key category package with
  | some answer => answer
  | none =>
    if category = .voluntary then
      ask base false "voluntary / demographic question: only the candidate answers this"
    else if secretHintRe.found u key then
      ask base false "a password or passcode is never filled automatically"
    else if urlHintRe.found u key then linkAnswer env field key category package entry
    else
      match ((exactAnswer env field key category package entry).or
          (categoryAnswer env field key category package shared)).or
          (factAnswer env field key category package) with
      | some answer => answer
      | none =>
        if category ∈ factCategories then
          ask base false (category.value ++ ": not recorded in the answer bank or profile")
        else ask base true "cannot be grounded in prepared material"

end Field

/-- `_map_one`. -/
def mapOne (env : FormEnv) (package : ExecutionPackage) (field : FormField) : FieldAnswer :=
  let u := env.unicode
  let key := normalizeQuestion u field.label
  let category := (classifyQuestion u field.label).category
  mapWith env field key category package.toPreparedPackage (package.bank.byKey u key)
    (if shareable u category key then (package.bank.byCategory category.value).head? else none)

/-- `build_package`, of a preparation that was asked `questions`: a view of what it prepared, and
of the bank as it is. -/
def buildPackage (u : Unicode) (snapshot : EvidenceSnapshot)
    (validate : Text → List String → List String) (selection : EvidenceSelection)
    (jobTitle company : Text) (questions : List Text) (resume coverLetter : Option (List String))
    (profile : ProfileFacts) : ExecutionPackage :=
  { company, resume, coverLetter, profile
    answers := resolveAnswers u snapshot validate selection jobTitle company 0 [] questions
    bank := snapshot.bank }

def mapFields (env : FormEnv) (fields : List FormField) (package : ExecutionPackage) :
    List FieldAnswer :=
  fields.map (mapOne env package)

end RangeApply
