import RangeApply.Message

/-! Application questions: the key under which a question is looked up, its category by the first
rule that fits, and the approved answers of the bank by question and by category. -/
namespace RangeApply

namespace Text

/-- Every run of blanks is one space. -/
def spaced : Text → Text
  | [] => []
  | c :: rest =>
    if c.isBlank then
      match spaced rest with
      | ' ' :: more => ' ' :: more
      | more => ' ' :: more
    else c :: spaced rest

end Text

/-- The deterministic key of a question: lower case, words and single spaces only. -/
def normalizeQuestion (u : Unicode) (question : Text) : Text :=
  let text := Text.strip (u.lower question)
  let text := text.map fun c => if CharSet.word.has u false c || c.isBlank then c else ' '
  (Text.strip (Text.spaced text)).take 512

section Words

def literal : Text → Regex
  | [] => .empty
  | c :: rest => .seq (.set (.one c)) (literal rest)

/-- A lower case letter or a digit. -/
def wordChar : CharSet := .union (.range 'a' 'z') (.range '0' '9')

/-- `(?<![a-z0-9])` and `(?![a-z0-9])` around an escaped text. -/
def wordRe (text : Text) : Pattern :=
  ⟨.seq (.notBehind wordChar) (.seq (literal text) (.notAhead (.set wordChar))), false⟩

/-- `_word`. -/
def word (u : Unicode) (text key : Text) : Bool := (wordRe text).found u key

end Words

inductive QuestionCategory
  | workAuthorization | sponsorship | relocation | noticePeriod | salary | workMode | startDate
  | clearance | voluntary | location | education | experienceYears | currentEmployer
  | currentTitle | referralSource | priorEmployment | conflictOfInterest | consent | aboutYou
  | whyRole | whyCompany | relevantProject | experienceWith | other
  deriving DecidableEq

namespace QuestionCategory

def value : QuestionCategory → String
  | workAuthorization => "work_authorization"
  | sponsorship => "sponsorship"
  | relocation => "relocation"
  | noticePeriod => "notice_period"
  | salary => "salary"
  | workMode => "work_mode"
  | startDate => "start_date"
  | clearance => "clearance"
  | voluntary => "voluntary"
  | location => "location"
  | education => "education"
  | experienceYears => "experience_years"
  | currentEmployer => "current_employer"
  | currentTitle => "current_title"
  | referralSource => "referral_source"
  | priorEmployment => "prior_employment"
  | conflictOfInterest => "conflict_of_interest"
  | consent => "consent"
  | aboutYou => "about_you"
  | whyRole => "why_role"
  | whyCompany => "why_company"
  | relevantProject => "relevant_project"
  | experienceWith => "experience_with"
  | other => "other"

end QuestionCategory

/-- `FACT_CATEGORIES`: facts only the candidate can supply. -/
def factCategories : List QuestionCategory :=
  [.workAuthorization, .sponsorship, .relocation, .noticePeriod, .salary, .workMode, .startDate,
    .clearance, .voluntary, .location, .education, .experienceYears, .currentEmployer,
    .currentTitle, .referralSource, .priorEmployment, .conflictOfInterest, .consent]

/-- `_CATEGORY_SHARED_ANSWERS`: one approved entry answers every question of the category. -/
def categorySharedAnswers : List QuestionCategory :=
  factCategories.filter (· ∉ [.voluntary, .conflictOfInterest, .education]) ++
    [.aboutYou, .relevantProject]

/-- `_EMPLOYER_SPECIFIC`: answers written for one employer. -/
def employerSpecific : List QuestionCategory := [.whyCompany, .whyRole]

/-- `_names_company`. -/
def namesCompany (u : Unicode) (questionKey company : Text) : Bool :=
  let name := normalizeQuestion u company
  name ≠ [] && word u name questionKey

/-! ### Classification -/

/-- A category and its pattern; `topic` is the number of the group of that name. -/
structure QuestionRule where
  category : QuestionCategory
  pattern : Pattern
  topic : Option Nat

def questionRule (category : QuestionCategory) (pattern : String) : QuestionRule :=
  ⟨category, .of false false pattern.ascii, none⟩

/-- `_RULES`. -/
def questionRules : List QuestionRule := [
  questionRule .sponsorship "\\b(sponsor|sponsorship|visa)\\b",
  questionRule .workAuthorization
    ("\\b(authori[sz]ed|authori[sz]ation|right to work|eligible to work|legally (able|permitted) " ++
      "to work|work permit)\\b"),
  questionRule .relocation "\\b(relocat)",
  questionRule .noticePeriod
    ("\\b(notice period|earliest start|how soon|availability to start|when (can|could) you " ++
      "start)\\b"),
  questionRule .startDate "\\b(start date|available to start|join(ing)? date)\\b",
  questionRule .salary
    "\\b(salary|compensation|ctc|pay expectation|expected pay|rate expectation)\\b",
  questionRule .workMode "\\b(remote|hybrid|on ?site|in office|work from home)\\b",
  questionRule .clearance "\\b(security clearance|clearance)\\b",
  questionRule .voluntary
    "\\b(gender|ethnicity|race|disability|veteran|pronouns|voluntary self|eeo)\\b",
  questionRule .consent
    ("^i (?:acknowledge|agree|consent|confirm|certify|accept|have read|understand)\\b|" ++
      "\\backnowledg|\\bconsent to\\b|\\bprivacy (?:notice|policy|statement)\\b|" ++
      "\\bterms (?:and|&) conditions\\b|\\bby (?:checking|ticking) this box\\b|" ++
      "\\bcertify that\\b"),
  questionRule .conflictOfInterest
    ("\\bfamily member|\\brelatives?\\b|\\bfamilial\\b|\\bclose personal relationship|" ++
      "\\boutside business|\\bconflict of interest\\b"),
  questionRule .priorEmployment
    ("\\b(?:ever|previously|before)\\b.*\\b(?:worked|employed)\\b|\\b(?:worked|employed)\\b.*" ++
      "\\b(?:before|previously)\\b|\\bbeen employed by\\b|\\bcurrently or have you ever\\b|" ++
      "\\bformer (?:employee|employer)\\b"),
  questionRule .currentEmployer
    ("^(?:what is )?(?:the name of )?(?:your )?current(?: or most recent)? " ++
      "(?:company|employer|organi[sz]ation)\\b|^who is your current|\\bmost recent employer\\b|" ++
      "^current company$|^(?:company|employer) name$|^employer$"),
  questionRule .currentTitle
    ("^(?:what is )?(?:your )?current(?: or most recent)? (?:job )?(?:title|role|designation|" ++
      "position)\\b|\\bmost recent title\\b|^(?:job )?title$|^designation$"),
  questionRule .referralSource
    ("\\bhow did you (?:hear|learn|find out|come across|find|discover)\\b|\\bwhere did you " ++
      "(?:hear|find|see|learn)\\b|\\breferral source\\b|\\bsource of (?:application|referral)\\b"),
  questionRule .education
    ("\\b(degree|education|university|college|graduat|cgpa|gpa|school|institution|discipline|" ++
      "major|field of study|speciali[sz]ation)\\b"),
  questionRule .experienceYears
    "\\b(how many years|years of (professional |work )?experience|total experience)\\b",
  { questionRule .experienceWith
      ("\\b(?:experience|familiarity|proficiency|background) (?:with|in|using) " ++
        "(?P<topic>[a-z0-9+#. ]\x7b2,40\x7d)") with topic := some 1 },
  questionRule .relevantProject "\\b(project|something you built|work you are proud of)\\b",
  questionRule .whyCompany
    ("\\b(why (do you want to work|are you interested in working|us|this company|our company|" ++
      "join)|why .* company)\\b"),
  questionRule .whyRole
    ("\\b(why (this|the) (role|position|job)|why are you interested|interest(ed)? in (this|the) " ++
      "(role|position)|motivat)"),
  questionRule .aboutYou
    "\\b(about yourself|introduce yourself|tell us about you|who are you)\\b",
  questionRule .location
    ("\\bwhere are you (?:based|located)\\b|\\bcurrent location\\b|\\bcity\\b|^location$|" ++
      "\\bwhere do you (?:currently )?(?:reside|live)\\b|\\bresidence\\b|" ++
      "\\bcurrently (?:based|residing|located|living)\\b|\\bbased in\\b")]

structure ClassifiedQuestion where
  key : Text
  category : QuestionCategory
  topic : Option Text

/-- The category of a key: that of the first rule found in it. -/
def classifyKey (u : Unicode) (key : Text) : List QuestionRule → ClassifiedQuestion
  | [] => ⟨key, .other, none⟩
  | rule :: rules =>
    match rule.pattern.search u key with
    | some found =>
      ⟨key, rule.category, (rule.topic.bind fun n => Text.orNone (found.group n)).map Text.strip⟩
    | none => classifyKey u key rules

def classifyQuestion (u : Unicode) (question : Text) : ClassifiedQuestion :=
  classifyKey u (normalizeQuestion u question) questionRules

theorem classifyKey_key (u : Unicode) (key : Text) (rules : List QuestionRule) :
    (classifyKey u key rules).key = key := by
  induction rules with
  | nil => rfl
  | cons rule rules ih =>
    simp only [classifyKey]
    split
    · rfl
    · exact ih

@[simp] theorem classifyQuestion_key (u : Unicode) (question : Text) :
    (classifyQuestion u question).key = normalizeQuestion u question :=
  classifyKey_key u _ _

/-! ### The answer bank -/

inductive AnswerStatus
  | draft | approved | retired
  deriving DecidableEq

/-- A row of `answer_bank_entries`; its category is any text. The key that is stored beside the
question is always the question's own. -/
structure AnswerBankEntry where
  id : String
  category : String
  question : Text
  answer : Text
  evidenceKeys : List String
  status : AnswerStatus
  deriving DecidableEq

def AnswerBankEntry.questionKey (u : Unicode) (entry : AnswerBankEntry) : Text :=
  normalizeQuestion u entry.question

/-- The bank, in the order the database returns it. -/
abbrev AnswerBank := List AnswerBankEntry

namespace AnswerBank

def approved (bank : AnswerBank) : AnswerBank := bank.filter (·.status = .approved)

/-- `answer_by_key.get(key)`: a later entry takes the place of an earlier one. -/
def byKey (u : Unicode) (bank : AnswerBank) (key : Text) : Option AnswerBankEntry :=
  bank.approved.reverse.find? (·.questionKey u = key)

/-- `answers_by_category.get(category, [])`. -/
def byCategory (bank : AnswerBank) (category : String) : List AnswerBankEntry :=
  bank.approved.filter (·.category = category)

theorem category_of_head {bank : AnswerBank} {category : String} {entry : AnswerBankEntry}
    (first : (bank.byCategory category).head? = some entry) : entry.category = category := by
  simpa using List.of_mem_filter (List.mem_of_head? first)

section Without
variable {u : Unicode} (before after : AnswerBank) {entry : AnswerBankEntry}

theorem approved_append :
    approved (before ++ after) = before.approved ++ after.approved :=
  List.filter_append before after

theorem approved_without (entry : AnswerBankEntry) :
    approved (before ++ entry :: after) =
      before.approved ++ (approved [entry] ++ after.approved) := by
  rw [← approved_append [entry], List.singleton_append, approved_append]

/-- An entry is looked up by its own question only. -/
theorem byKey_without {key : Text} (differs : entry.questionKey u ≠ key) :
    byKey u (before ++ entry :: after) key = byKey u (before ++ after) key := by
  have unseen : (approved [entry]).reverse.find? (·.questionKey u = key) = none := by
    simp only [List.find?_eq_none, List.mem_reverse, decide_eq_true_eq]
    intro other member
    have same : other = entry := by simpa using List.mem_of_mem_filter member
    simpa [same] using differs
  rw [byKey, byKey, approved_without, approved_append]
  simp only [List.reverse_append, List.find?_append, unseen, Option.or_none]

/-- Only the first entry of a category is looked up by its category. -/
theorem byCategory_without {category : String}
    (later : (byCategory (before ++ entry :: after) category).head? ≠ some entry) :
    (byCategory (before ++ entry :: after) category).head? =
      (byCategory (before ++ after) category).head? := by
  rw [byCategory, approved_without] at later
  rw [byCategory, byCategory, approved_without, approved_append]
  simp only [List.filter_append] at later ⊢
  cases first : before.approved.filter (·.category = category) with
  | cons other rest => simp
  | nil =>
    cases own : (approved [entry]).filter (·.category = category) with
    | nil => simp
    | cons other rest =>
      have member : other ∈ (approved [entry]).filter (·.category = category) := by simp [own]
      have same : other = entry := by
        simpa using List.mem_of_mem_filter (List.mem_of_mem_filter member)
      simp [first, own, same] at later

end Without

end AnswerBank

end RangeApply
