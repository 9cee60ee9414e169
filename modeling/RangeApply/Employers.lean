import RangeApply.Forms

/-! What an approved answer may reach. The lookups read the bank under the key of the question and,
where one answer serves a whole category, at the first entry of its category; any other entry
might as well not be there. -/
namespace RangeApply

/-- The entry is the first one approved under a category that one answer serves. -/
def Serves (bank : AnswerBank) (entry : AnswerBankEntry) (category : QuestionCategory) : Prop :=
  category ∈ categorySharedAnswers ∧ (bank.byCategory category.value).head? = some entry

/-- The entry serves the category of a field, and no topic of its own keeps the field from it. -/
def ServesField (u : Unicode) (bank : AnswerBank) (entry : AnswerBankEntry) (label : Text) : Prop :=
  Serves bank entry (classifyQuestion u label).category ∧
    shareable u (classifyQuestion u label).category (normalizeQuestion u label) = true

theorem unserved_of_unshared {entry : AnswerBankEntry} (bank : AnswerBank)
    (unshared : ∀ category ∈ categorySharedAnswers, entry.category ≠ category.value)
    (category : QuestionCategory) : ¬Serves bank entry category := by
  rintro ⟨shared, first⟩
  exact unshared category shared (AnswerBank.category_of_head first)

/-- A question of another wording, and of no category that the entry serves. -/
structure Foreign (u : Unicode) (bank : AnswerBank) (entry : AnswerBankEntry) (question : Text) :
    Prop where
  differs : entry.questionKey u ≠ normalizeQuestion u question
  unserved : ¬Serves bank entry (classifyQuestion u question).category

structure ForeignField (u : Unicode) (bank : AnswerBank) (entry : AnswerBankEntry) (label : Text) :
    Prop where
  differs : entry.questionKey u ≠ normalizeQuestion u label
  unserved : ¬ServesField u bank entry label

section Lookup
variable {u : Unicode} {entry : AnswerBankEntry} {before after : AnswerBank}

theorem bankEntry_without {classified : ClassifiedQuestion} (company : Text)
    (differs : entry.questionKey u ≠ classified.key)
    (unserved : ¬Serves (before ++ entry :: after) entry classified.category) :
    bankEntry u (before ++ entry :: after) classified company =
      bankEntry u (before ++ after) classified company := by
  have own := AnswerBank.byKey_without before after differs
  by_cases shared : classified.category ∈ categorySharedAnswers
  · have later := fun first => unserved ⟨shared, first⟩
    simp only [bankEntry, own, AnswerBank.byCategory_without before after later]
  · simp only [bankEntry, own, shared, if_false]

/-- A question that an entry neither asks nor serves is resolved as if it were not in the bank. -/
theorem resolve_without (brain : CareerBrain) (selection : EvidenceSelection)
    (jobTitle company : Text) {question : Text}
    (foreign : Foreign u (before ++ entry :: after) entry question) :
    resolve u ⟨brain, before ++ entry :: after⟩ question selection jobTitle company =
      resolve u ⟨brain, before ++ after⟩ question selection jobTitle company := by
  have same := bankEntry_without company (by simpa using foreign.differs) foreign.unserved
  simp only [resolve, same]

theorem resolveAnswers_without (brain : CareerBrain) (validate : Text → List String → List String)
    (selection : EvidenceSelection) (jobTitle company : Text) {questions : List Text}
    (foreign : ∀ question ∈ questions, Foreign u (before ++ entry :: after) entry question)
    (position : Nat) (seen : List Text) :
    resolveAnswers u ⟨brain, before ++ entry :: after⟩ validate selection jobTitle company position
        seen questions =
      resolveAnswers u ⟨brain, before ++ after⟩ validate selection jobTitle company position seen
        questions := by
  induction questions generalizing position seen with
  | nil => rfl
  | cons question questions ih =>
    have own := resolve_without brain selection jobTitle company (foreign question (by simp))
    have rest := ih fun q member => foreign q (by simp [member])
    simp only [resolveAnswers, own, rest]

/-- A question without an entry of its own is answered by the entry that serves its category. -/
theorem resolve_served {snapshot : EvidenceSnapshot} {question : Text}
    (unanswered : snapshot.bank.byKey u (normalizeQuestion u question) = none)
    (serves : Serves snapshot.bank entry (classifyQuestion u question).category)
    (selection : EvidenceSelection) (jobTitle company : Text) :
    (resolve u snapshot question selection jobTitle company).entryId = some entry.id ∧
      (resolve u snapshot question selection jobTitle company).answer = some entry.answer := by
  have found : bankEntry u snapshot.bank (classifyQuestion u question) company = some entry := by
    simp only [bankEntry, classifyQuestion_key, unanswered, ite_self, serves.1, if_true, serves.2]
  simp only [resolve, found, and_self]

end Lookup

section Mapping
variable {u : Unicode} {category : QuestionCategory} {key : Text}

/-- What the form mapping shares by category: what the preparation shares, beside answers about
experience with one topic and two categories that the mapping never looks up. -/
theorem shared_of_shareable (shares : shareable u category key = true) :
    category ∈ categorySharedAnswers ∨ category = .experienceWith ∨ category = .voluntary ∨
      category = .other := by
  have kept : category ∉ employerSpecific ∧ category ∉ exactOnly := by
    constructor <;> intro member <;> simp [shareable, member] at shares
  revert kept
  cases category <;> decide

/-- Nothing of its category answers a voluntary question or one without a category. -/
theorem mapWith_unread (env : FormEnv) (field : FormField) (package : PreparedPackage)
    (entry shared shared' : Option AnswerBankEntry)
    (unread : category = .voluntary ∨ category = .other) :
    mapWith env field key category package entry shared =
      mapWith env field key category package entry shared' := by
  rcases unread with rfl | rfl
  · simp only [mapWith, if_true]
  · simp only [mapWith, categoryAnswer, if_true]

variable {env : FormEnv} {entry : AnswerBankEntry} {before after : AnswerBank}

/-- A field that an entry neither asks for nor serves is mapped as if it were not in the bank,
whatever the preparation has answered. -/
theorem mapOne_without (package : PreparedPackage) {field : FormField}
    (foreign : ForeignField env.unicode (before ++ entry :: after) entry field.label)
    (untopical : entry.category ≠ QuestionCategory.experienceWith.value) :
    mapOne env ⟨package, before ++ entry :: after⟩ field =
      mapOne env ⟨package, before ++ after⟩ field := by
  have own := AnswerBank.byKey_without before after foreign.differs
  simp only [mapOne, own]
  cases shares : shareable env.unicode (classifyQuestion env.unicode field.label).category
      (normalizeQuestion env.unicode field.label) with
  | false => rfl
  | true =>
    rcases shared_of_shareable shares with shared | topical | unread
    · have later := fun first => foreign.unserved ⟨⟨shared, first⟩, shares⟩
      simp only [AnswerBank.byCategory_without before after later]
    · have later : (AnswerBank.byCategory (before ++ entry :: after)
          QuestionCategory.experienceWith.value).head? ≠ some entry := by
        intro first
        exact untopical (AnswerBank.category_of_head first)
      simp only [topical, AnswerBank.byCategory_without before after later]
    · exact mapWith_unread env field package _ _ _ unread

/-- What a preparation brings to a form beside the bank is the same without an entry that none of
its questions is about. -/
theorem buildPackage_without (u : Unicode) (brain : CareerBrain)
    (validate : Text → List String → List String) (selection : EvidenceSelection)
    (jobTitle company : Text) {questions : List Text}
    (asked : ∀ question ∈ questions, Foreign u (before ++ entry :: after) entry question)
    (resume coverLetter : Option (List String)) (profile : ProfileFacts) :
    ∃ package : PreparedPackage,
      buildPackage u ⟨brain, before ++ entry :: after⟩ validate selection jobTitle company questions
          resume coverLetter profile = ⟨package, before ++ entry :: after⟩ ∧
        buildPackage u ⟨brain, before ++ after⟩ validate selection jobTitle company questions resume
          coverLetter profile = ⟨package, before ++ after⟩ := by
  have same := resolveAnswers_without brain validate selection jobTitle company asked 0 []
  refine ⟨_, rfl, ?_⟩
  simp only [buildPackage, same]

end Mapping

section Examples

def noEvidence : CareerBrain := ⟨[], [], none, List.nodup_nil⟩

def noSelection : EvidenceSelection := ⟨[], [], []⟩

/-- A package of nothing but its bank, for one company. -/
def emptyPackage (company : String) : PreparedPackage := ⟨company.ascii, none, none, [], ⟨[], []⟩⟩

def textField (label : String) : FormField := ⟨none, label.ascii, .text, true, []⟩

def noDates : String → Text → Option Text := fun _ _ => none

def whyNotion : AnswerBankEntry :=
  ⟨"e1", "why_company", "Why do you want to work at Notion?".ascii, "For its editor.".ascii, [],
    .approved⟩

def sponsoredByNotion : AnswerBankEntry :=
  ⟨"e2", "sponsorship", "Will you require Notion to sponsor a visa?".ascii, "No".ascii, [],
    .approved⟩

def whyZeta : String := "Why join our company?"

def zetaSponsors : String := "Do you need sponsorship?"

end Examples

end RangeApply
