import RangeApply.Reimport

/-! When an imported document is represented record by record, and a second import of it finds
nothing to do. -/
namespace RangeApply.Evidence

/-! ### The records of a document -/

namespace SeedDocument
variable (i : Importer) (doc : SeedDocument)

def ids : List Text :=
  doc.skills.map SkillRecord.id ++ doc.projects.map ProjectRecord.id ++
    doc.experience.map ExperienceRecord.id ++ doc.achievements.map AchievementRecord.id ++
    doc.facts.map FactRecord.id

/-- The records that have an id. -/
def idEntries : List Entry :=
  doc.skills.map SkillRecord.entry ++ doc.projects.map ProjectRecord.entry ++
    doc.experience.map ExperienceRecord.entry ++ doc.achievements.map AchievementRecord.entry ++
    doc.facts.map FactRecord.entry

def metricEntries : List Entry := doc.projects.flatMap fun r => r.metrics.map (r.metricEntry i)

def responsibilityEntries : List Entry :=
  doc.experience.flatMap fun r => r.responsibilities.map (r.responsibilityEntry i)

def records : List Entry := doc.idEntries ++ doc.metricEntries i ++ doc.responsibilityEntries i

/-- The link to what a record refers to. -/
def aboutLinks (id : Text) : Option Text → List Link
  | none | some [] => []
  | some target => [(id, target, .about)]

/-- The links between records that are made where both nodes exist. -/
def references : List Link :=
  doc.achievements.flatMap (fun r => aboutLinks r.id r.relatedProject) ++
  doc.facts.flatMap (fun r => aboutLinks r.id r.relatedEntityId) ++
  doc.skills.flatMap fun r => r.projects.map fun p => (p, r.id, .demonstrates)

end SeedDocument

/-- The link that a step makes where both nodes exist. -/
def Step.conditional : Step → Option Link
  | linkIfExists source target relation _ => some (source, target, relation)
  | _ => none

/-! ### The steps and the records -/

section Steps
variable {i : Importer} {doc : SeedDocument} {e : Entry}

theorem entries_append (a b : List Step) : entries (a ++ b) = entries a ++ entries b :=
  List.filterMap_append

theorem entries_map {α : Type*} (f : α → Entry) (l : List α) :
    entries (l.map fun r => .upsert (f r)) = l.map f := by
  unfold entries
  rw [List.filterMap_map]
  exact congrFun List.filterMap_eq_map l

theorem entries_flatMap {α : Type*} (f : α → List Step) (l : List α) :
    entries (l.flatMap f) = l.flatMap fun r => entries (f r) := List.filterMap_flatMap ..

/-- Every record of a list with its link. -/
theorem entries_linked {α : Type*} (f : α → Entry) (g : α × ℕ → Step) (l : List α)
    (link : ∀ m, (g m).entry = none) :
    entries (l.zipIdx.flatMap fun m => [.upsert (f m.1), g m]) = l.map f := by
  have one (m : α × ℕ) : entries [.upsert (f m.1), g m] = [f m.1] := by
    unfold entries
    rw [List.filterMap_cons, List.filterMap_cons, link m]
    rfl
  rw [entries_flatMap]
  simp only [one]
  rw [← List.map_eq_flatMap, ← List.zipIdx_map_fst 0 l, List.map_map]
  simp [Function.comp_def]

theorem no_conditional {steps : List Step} (no : ∀ st ∈ steps, st.conditional = none) :
    steps.filterMap Step.conditional = [] := List.filterMap_eq_nil_iff.mpr no

theorem linked_conditional {α : Type*} {f : α → Entry} {g : α → Step} {l : List α}
    (link : ∀ m, (g m).conditional = none) :
    ∀ st ∈ .upsert e :: l.flatMap fun m => [.upsert (f m), g m], st.conditional = none := by
  intro st member
  rcases List.mem_cons.mp member with rfl | here
  · rfl
  · obtain ⟨m, -, here⟩ := List.mem_flatMap.mp here
    simp only [List.mem_cons, List.not_mem_nil, or_false] at here
    rcases here with rfl | rfl
    · rfl
    · exact link m

theorem entries_about (id : Text) (target : Option Text) : entries (aboutSteps id target) = [] := by
  unfold aboutSteps
  split <;> rfl

theorem mem_entries_steps : e ∈ entries (doc.steps i) ↔
    e ∈ doc.records i ∨ e ∈ doc.profileEntries i := by
  have projects (r : ProjectRecord) :
      entries (SeedDocument.projectSteps i r) = r.entry :: r.metrics.map (r.metricEntry i) :=
    congrArg (r.entry :: ·) (entries_linked (r.metricEntry i) _ r.metrics fun _ => rfl)
  have experience (r : ExperienceRecord) : entries (SeedDocument.experienceSteps i r) =
      r.entry :: r.responsibilities.map (r.responsibilityEntry i) :=
    congrArg (r.entry :: ·) (entries_linked (r.responsibilityEntry i) _ r.responsibilities
      fun _ => rfl)
  have about (e : Entry) (id : Text) (target : Option Text) :
      entries (.upsert e :: aboutSteps id target) = [e] :=
    congrArg (e :: ·) (entries_about id target)
  have none_ (r : SkillRecord) : entries (r.projects.zipIdx.map fun p =>
      .linkIfExists p.1 r.id .demonstrates p.2) = [] := by
    unfold entries
    rw [List.filterMap_map]
    exact List.filterMap_eq_nil_iff.mpr fun _ _ => rfl
  have profile : entries ((doc.profileEntries i).map .upsert) = doc.profileEntries i :=
    (entries_map id _).trans (List.map_id _)
  unfold SeedDocument.steps SeedDocument.recordSteps SeedDocument.records SeedDocument.idEntries
    SeedDocument.metricEntries SeedDocument.responsibilityEntries
  simp only [entries_append, entries_map, entries_flatMap, projects, experience, about, none_,
    profile]
  simp only [List.mem_append, List.mem_map, List.mem_flatMap, List.mem_cons, List.not_mem_nil,
    or_false, and_false, exists_false]
  simp only [@eq_comm _ e, and_or_left, exists_or, or_assoc, or_left_comm]

/-- The steps that link records where both nodes exist. -/
theorem conditional_steps : (doc.steps i).filterMap Step.conditional = doc.references := by
  have skills : (doc.skills.map fun r => Step.upsert r.entry).filterMap Step.conditional = [] :=
    no_conditional fun _ member => by
      obtain ⟨r, -, rfl⟩ := List.mem_map.mp member
      rfl
  have projects : (doc.projects.flatMap (SeedDocument.projectSteps i)).filterMap
      Step.conditional = [] :=
    no_conditional fun st member => by
      obtain ⟨r, -, here⟩ := List.mem_flatMap.mp member
      exact linked_conditional (fun _ => rfl) st here
  have experience : (doc.experience.flatMap (SeedDocument.experienceSteps i)).filterMap
      Step.conditional = [] :=
    no_conditional fun st member => by
      obtain ⟨r, -, here⟩ := List.mem_flatMap.mp member
      exact linked_conditional (fun _ => rfl) st here
  have profile : ((doc.profileEntries i).map Step.upsert).filterMap Step.conditional = [] :=
    no_conditional fun _ member => by
      obtain ⟨e, -, rfl⟩ := List.mem_map.mp member
      rfl
  have about (e : Entry) (id : Text) (target : Option Text) :
      (.upsert e :: aboutSteps id target).filterMap Step.conditional =
        SeedDocument.aboutLinks id target := by
    rcases target with _ | _ | ⟨c, target⟩ <;> rfl
  have lists (r : SkillRecord) : (r.projects.zipIdx.map fun p =>
      Step.linkIfExists p.1 r.id .demonstrates p.2).filterMap Step.conditional =
        r.projects.map fun p => (p, r.id, .demonstrates) := by
    rw [List.filterMap_map, ← List.zipIdx_map_fst 0 r.projects, List.map_map]
    simp only [List.zipIdx_map_fst]
    exact congrFun List.filterMap_eq_map _
  unfold SeedDocument.steps SeedDocument.recordSteps SeedDocument.references
  rw [List.filterMap_append, List.filterMap_append, List.filterMap_append, List.filterMap_append,
    List.filterMap_append, List.filterMap_append, skills, projects, experience, profile]
  simp only [List.filterMap_flatMap, about, lists, List.nil_append, List.append_nil]

end Steps

/-! ### The keys -/

section Keys
variable {i : Importer} {doc : SeedDocument} {e e' : Entry}

theorem dashed_chars (t : Text) : ∀ c ∈ dashed t, slugChar c = true ∨ c = '-' := by
  induction t with
  | nil => exact nofun
  | cons d rest ih =>
    intro c member
    unfold dashed at member
    split at member
    · rename_i slug
      rcases List.mem_cons.mp member with rfl | later
      · exact .inl slug
      · exact ih c later
    · split at member
      · rename_i more same
        rcases List.mem_cons.mp member with rfl | later
        · exact .inr rfl
        · exact ih c (same ▸ List.mem_cons_of_mem _ later)
      · rcases List.mem_cons.mp member with rfl | later
        · exact .inr rfl
        · exact ih c later

theorem mem_stripMarks {marks : List Char} {t : Text} {c : Char}
    (member : c ∈ Text.stripMarks marks t) : c ∈ t :=
  (List.dropWhile_suffix _).subset ((List.rdropWhile_prefix _ _).subset member)

/-- A slug is of lower case letters, digits and dashes. -/
theorem slugify_free (u : Unicode) (t : Text) : ':' ∉ slugify u t := by
  intro member
  unfold slugify at member
  split at member
  · revert member
    decide
  · have inner := List.mem_of_mem_take (mem_stripMarks member)
    rcases dashed_chars _ _ (mem_stripMarks inner) with slug | dash
    · revert slug
      decide
    · revert dash
      decide

/-- The last separator splits a text in one way. -/
theorem append_cons_inj {a a' b b' : Text} {c : Char} (free : c ∉ b) (free' : c ∉ b')
    (same : a ++ c :: b = a' ++ c :: b') : a = a' ∧ b = b' := by
  rcases List.append_eq_append_iff.mp same with ⟨t, rfl, rest⟩ | ⟨t, rfl, rest⟩
  · cases t with
    | nil => exact ⟨(List.append_nil a).symm, (List.cons.inj rest).2⟩
    | cons x t =>
      exact (free ((List.cons.inj rest).2 ▸ List.mem_append_right t List.mem_cons_self)).elim
  · cases t with
    | nil => exact ⟨List.append_nil a', (List.cons.inj rest).2.symm⟩
    | cons x t =>
      exact (free' ((List.cons.inj rest).2 ▸ List.mem_append_right t List.mem_cons_self)).elim

theorem metricKey_inj {r r' : ProjectRecord} {m m' : MetricRecord}
    (same : r.metricKey i m = r'.metricKey i m') :
    r.id = r'.id ∧ slugify i.unicode m.name = slugify i.unicode m'.name := by
  unfold ProjectRecord.metricKey at same
  rw [List.append_assoc, List.append_assoc] at same
  exact append_cons_inj (slugify_free _ _) (slugify_free _ _) (List.append_cancel_left same)

theorem responsibilityKey_inj {r r' : ExperienceRecord} {t t' : Text}
    (same : r.responsibilityKey i t = r'.responsibilityKey i t') :
    r.id = r'.id ∧ i.sha1 t = i.sha1 t' := by
  unfold ExperienceRecord.responsibilityKey at same
  rw [List.append_assoc, List.append_assoc] at same
  have lengths : (':' :: i.sha1 t).length = (':' :: i.sha1 t').length := by
    rw [List.length_cons, List.length_cons, i.sha1_length, i.sha1_length]
  obtain ⟨ids, rest⟩ := List.append_inj' (List.append_cancel_left same) lengths
  exact ⟨ids, (List.cons.inj rest).2⟩

theorem metricKey_head {r : ProjectRecord} {m : MetricRecord} : (r.metricKey i m).head? = some 'm' :=
  rfl

theorem responsibilityKey_head {r : ExperienceRecord} {t : Text} :
    (r.responsibilityKey i t).head? = some 'r' := rfl

theorem linkEntry_key {profile : Dict} {name : Text} (is : i.linkEntry profile name = some e) :
    e.key = "link:".ascii ++ name := by
  unfold Importer.linkEntry at is
  split at is
  · cases is
    rfl
  · cases is

theorem educationEntry_key {profile : Dict} (is : i.educationEntry profile = some e) :
    e.key = "education:primary".ascii := by
  unfold Importer.educationEntry at is
  split at is
  · cases is
    rfl
  · cases is

theorem mem_profileEntries : e ∈ doc.profileEntries i ↔
    i.educationEntry doc.profile = some e ∨
      ∃ name ∈ profileLinkFields, i.linkEntry doc.profile name = some e := by
  unfold SeedDocument.profileEntries
  rw [List.mem_append, Option.mem_toList, List.mem_filterMap]

theorem profile_head (member : e ∈ doc.profileEntries i) :
    e.key.head? = some 'e' ∨ e.key.head? = some 'l' := by
  rcases mem_profileEntries.mp member with is | ⟨name, -, is⟩
  · rw [educationEntry_key is]
    exact .inl rfl
  · rw [linkEntry_key is]
    exact .inr rfl

/-- The nodes of the profile have keys of their own. -/
theorem profile_apart (member : e ∈ doc.profileEntries i) (member' : e' ∈ doc.profileEntries i)
    (same : e.key = e'.key) : e = e' := by
  rcases mem_profileEntries.mp member with is | ⟨name, -, is⟩ <;>
    rcases mem_profileEntries.mp member' with is' | ⟨name', -, is'⟩
  · exact Option.some.inj (is.symm.trans is')
  · rw [educationEntry_key is, linkEntry_key is'] at same
    cases congrArg List.head? same
  · rw [linkEntry_key is, educationEntry_key is'] at same
    cases congrArg List.head? same
  · rw [linkEntry_key is, linkEntry_key is'] at same
    obtain rfl := List.append_cancel_left same
    exact Option.some.inj (is.symm.trans is')

theorem ids_eq : doc.ids = doc.idEntries.map Entry.key := by
  unfold SeedDocument.ids SeedDocument.idEntries
  simp only [List.map_append, List.map_map]
  rfl

theorem mem_records : e ∈ doc.records i ↔ e ∈ doc.idEntries ∨
    (∃ r ∈ doc.projects, ∃ m ∈ r.metrics, r.metricEntry i m = e) ∨
    ∃ r ∈ doc.experience, ∃ t ∈ r.responsibilities, r.responsibilityEntry i t = e := by
  unfold SeedDocument.records SeedDocument.metricEntries SeedDocument.responsibilityEntries
  simp only [List.mem_append, List.mem_flatMap, List.mem_map, or_assoc]

/-- A record with an id is neither a metric nor a responsibility. -/
theorem idEntries_kind (member : e ∈ doc.idEntries) :
    e.kind ≠ .metric ∧ e.kind ≠ .responsibility := by
  unfold SeedDocument.idEntries at member
  simp only [List.mem_append, List.mem_map] at member
  rcases member with (((⟨r, -, rfl⟩ | ⟨r, -, rfl⟩) | ⟨r, -, rfl⟩) | ⟨r, -, rfl⟩) | ⟨r, -, rfl⟩ <;>
    exact ⟨nofun, nofun⟩

variable (distinct : doc.ids.Nodup)
include distinct

theorem idEntries_apart (member : e ∈ doc.idEntries) (member' : e' ∈ doc.idEntries)
    (same : e.key = e'.key) : e = e' :=
  List.inj_on_of_nodup_map (@ids_eq doc ▸ distinct) member member' same

theorem projects_apart {r r' : ProjectRecord} (member : r ∈ doc.projects)
    (member' : r' ∈ doc.projects) (same : r.id = r'.id) : r = r' := by
  unfold SeedDocument.ids at distinct
  have projects := ((((List.nodup_append.mp distinct).1 |> List.nodup_append.mp).1
    |> List.nodup_append.mp).1 |> List.nodup_append.mp).2.1
  exact List.inj_on_of_nodup_map projects member member' same

theorem experience_apart {r r' : ExperienceRecord} (member : r ∈ doc.experience)
    (member' : r' ∈ doc.experience) (same : r.id = r'.id) : r = r' := by
  unfold SeedDocument.ids at distinct
  have experience := (((List.nodup_append.mp distinct).1 |> List.nodup_append.mp).1
    |> List.nodup_append.mp).2.1
  exact List.inj_on_of_nodup_map experience member member' same

end Keys

/-! ### What must hold of a document -/

/-- A node with the key is there when the steps have been made. -/
def Present (g : Graph) (steps : List Step) (key : Text) : Prop :=
  g.has key ∨ ∃ e ∈ entries steps, e.key = key

/-- The link is met at some step when both its nodes are there. -/
def Met (g : Graph) (steps : List Step) (l : Link) : Prop :=
  ∃ before st after, steps = before ++ st :: after ∧ st.reference = some l ∧
    Present g before l.1 ∧ Present g before l.2.1

namespace SeedDocument
variable (i : Importer) (doc : SeedDocument)

/-- The keys of the records are their own, and no reference points only forward. -/
structure Faithful (g : Graph) : Prop where
  /-- No id is empty. -/
  named : ∀ id ∈ doc.ids, id ≠ []
  /-- Metrics of one project with one slug are the same record. -/
  metrics : ∀ r ∈ doc.projects, ∀ m ∈ r.metrics, ∀ m' ∈ r.metrics,
    slugify i.unicode m.name = slugify i.unicode m'.name → m = m'
  /-- No id is the key of a metric or of a responsibility. -/
  free : ∀ id ∈ doc.ids, (∀ r ∈ doc.projects, ∀ m ∈ r.metrics, r.metricKey i m ≠ id) ∧
    ∀ r ∈ doc.experience, ∀ t ∈ r.responsibilities, r.responsibilityKey i t ≠ id
  /-- No id is the key of a profile's node with another hash. -/
  profile : ∀ e ∈ doc.idEntries, ∀ e' ∈ doc.profileEntries i, e.key = e'.key →
    i.recordHash e.record = i.recordHash e'.record
  /-- A reference between nodes that are there in the end is stored or met when both are there. -/
  references : ∀ l ∈ doc.references, Present g (doc.steps i) l.1 → Present g (doc.steps i) l.2.1 →
    g.linked l ∨ Met g (doc.steps i) l

/-- Every record is stored under a key that no other record has, and importing the document again
creates, updates and links nothing and leaves every version as it is. -/
structure Lossless (later : Time) (g : Graph) : Prop where
  stored : ∀ e ∈ doc.records i, g.holds e.key (i.recordHash e.record)
  apart : ∀ e ∈ doc.records i, ∀ e' ∈ doc.records i, e.key = e'.key → e = e'
  again : ∃ g' report, i.importData later false doc g = some (g', report) ∧
    report.profile = .skipped ∧ report.created = [] ∧ report.updated = [] ∧
    report.relationshipsCreated = 0 ∧ Unchanged g g'

end SeedDocument

section Import
variable {i : Importer} {now later : Time} {doc : SeedDocument} {g g' : Graph}
  {report : ImportReport}

/-- Records of different keys, apart from the profile's. -/
theorem apart_iff (distinct : doc.ids.Nodup) (collision : ∀ r ∈ doc.experience,
    ∀ t ∈ r.responsibilities, ∀ t' ∈ r.responsibilities, i.sha1 t = i.sha1 t' → t = t') :
    (∀ e ∈ doc.records i, ∀ e' ∈ doc.records i, e.key = e'.key → e = e') ↔
      (∀ r ∈ doc.projects, ∀ m ∈ r.metrics, ∀ m' ∈ r.metrics,
        slugify i.unicode m.name = slugify i.unicode m'.name → m = m') ∧
      ∀ id ∈ doc.ids, (∀ r ∈ doc.projects, ∀ m ∈ r.metrics, r.metricKey i m ≠ id) ∧
        ∀ r ∈ doc.experience, ∀ t ∈ r.responsibilities, r.responsibilityKey i t ≠ id := by
  constructor
  · intro apart
    refine ⟨fun r project m member m' member' slug => ?_, fun id member => ⟨?_, ?_⟩⟩
    · have same := apart (r.metricEntry i m) (mem_records.mpr (.inr (.inl ⟨r, project, m, member, rfl⟩)))
        (r.metricEntry i m') (mem_records.mpr (.inr (.inl ⟨r, project, m', member', rfl⟩)))
        (show r.metricKey i m = r.metricKey i m' by unfold ProjectRecord.metricKey; rw [slug])
      exact SeedRecord.metric.inj (congrArg Entry.record same)
    · rintro r project m metric rfl
      rw [ids_eq] at member
      obtain ⟨e, here, same⟩ := List.mem_map.mp member
      have equal := apart e (mem_records.mpr (.inl here)) (r.metricEntry i m)
        (mem_records.mpr (.inr (.inl ⟨r, project, m, metric, rfl⟩))) same
      exact (idEntries_kind here).1 (congrArg Entry.kind equal)
    · rintro r experience t responsibility rfl
      rw [ids_eq] at member
      obtain ⟨e, here, same⟩ := List.mem_map.mp member
      have equal := apart e (mem_records.mpr (.inl here)) (r.responsibilityEntry i t)
        (mem_records.mpr (.inr (.inr ⟨r, experience, t, responsibility, rfl⟩))) same
      exact (idEntries_kind here).2 (congrArg Entry.kind equal)
  · rintro ⟨metrics, free⟩ e member e' member' same
    have id {e : Entry} (here : e ∈ doc.idEntries) : e.key ∈ doc.ids :=
      ids_eq ▸ List.mem_map_of_mem here
    rcases mem_records.mp member with here | ⟨r, project, m, metric, rfl⟩ | ⟨r, time, t, duty, rfl⟩ <;>
      rcases mem_records.mp member' with
        here' | ⟨r', project', m', metric', rfl⟩ | ⟨r', time', t', duty', rfl⟩
    · exact idEntries_apart distinct here here' same
    · exact ((free _ (id here)).1 r' project' m' metric' same.symm).elim
    · exact ((free _ (id here)).2 r' time' t' duty' same.symm).elim
    · exact ((free _ (id here')).1 r project m metric same).elim
    · obtain ⟨ids, slug⟩ := metricKey_inj same
      obtain rfl := projects_apart distinct project project' ids
      rw [metrics r project m metric m' metric' slug]
    · cases congrArg List.head? same
    · exact ((free _ (id here')).2 r time t duty same).elim
    · cases congrArg List.head? same
    · obtain ⟨ids, hash⟩ := responsibilityKey_inj same
      obtain rfl := experience_apart distinct time time' ids
      rw [collision r time t duty t' duty' hash]

/-! #### The graph after a run -/

section Final
variable {force : Bool} {s s' : Importing} {steps : List Step}
  (named : ∀ e ∈ entries steps, e.key ≠ [])
  (run : steps.foldlM (i.step now force) s = some s')
include named run

theorem has_iff (key : Text) : s'.graph.has key ↔ Present s.graph steps key := by
  rw [run_has run]
  refine or_congr_right (exists_congr fun e => and_congr_right fun member => ?_)
  rw [nodeKey_of_named (named e member)]

theorem linked_iff (l : Link) : s'.graph.linked l ↔ s.graph.linked l ∨ Met s.graph steps l := by
  rw [run_linked run]
  refine or_congr_right ?_
  have before_named {before after : List Step} {st : Step} (split : steps = before ++ st :: after) :
      ∀ e ∈ entries before, e.key ≠ [] := fun e member => named e (by
    rw [split, entries_append]
    exact List.mem_append_left _ member)
  constructor
  · rintro ⟨before, st, after, m, split, refers, run', source, target⟩
    exact ⟨before, st, after, split, refers, (has_iff (before_named split) run' _).mp source,
      (has_iff (before_named split) run' _).mp target⟩
  · rintro ⟨before, st, after, split, refers, source, target⟩
    rw [split, List.foldlM_append] at run
    obtain ⟨m, run', -⟩ := Option.bind_eq_some_iff.mp run
    exact ⟨before, st, after, m, split, refers, run', (has_iff (before_named split) run' _).mpr source,
      (has_iff (before_named split) run' _).mpr target⟩

end Final

/-- A link that was asked for is there afterwards. -/
theorem run_link {force : Bool} {s s' : Importing} {steps : List Step} {source target : Text}
    {relation : RelationType} {position : Nat}
    (run : steps.foldlM (i.step now force) s = some s')
    (member : .link source target relation position ∈ steps) :
    s'.graph.linked (source, target, relation) := by
  induction steps generalizing s with
  | nil => cases member
  | cons st steps ih =>
    obtain ⟨m, done, rest⟩ := run_cons.mp run
    rcases List.mem_cons.mp member with rfl | later
    · exact (run_linked rest _).mpr (.inl (((link_spec done).relationships _).mpr (.inr rfl)))
    · exact ih rest later

/-! #### The profile -/

theorem upsertProfile_hash {u : Unicode} {fields preferences : Dict} {hash : String}
    {row : Option ProfileRow} {result : ProfileRow × ProfileAction}
    (done : upsertProfile u fields preferences hash row = some result) :
    result.1.sourceHash = some hash := by
  unfold upsertProfile at done
  obtain ⟨-, -, done⟩ := Option.bind_eq_some_iff.mp done
  cases row with
  | none =>
    obtain ⟨-, -, done⟩ := Option.bind_eq_some_iff.mp done
    obtain ⟨-, -, done⟩ := Option.bind_eq_some_iff.mp done
    cases done
    rfl
  | some row =>
    dsimp only at done
    split at done
    · cases done
      rfl
    · obtain ⟨-, -, done⟩ := Option.bind_eq_some_iff.mp done
      cases done
      rfl

theorem importProfile_again {force : Bool} {row row' : Option ProfileRow} {action : ProfileAction}
    (done : i.importProfile force doc row = some (row', action)) :
    i.importProfile false doc row' = some (row', .skipped) := by
  unfold Importer.importProfile at done ⊢
  dsimp only at done ⊢
  by_cases empty : doc.profile = []
  · rw [if_pos empty]
  rw [if_neg empty] at done ⊢
  refine if_pos ?_
  split at done
  · rename_i same
    cases done
    rw [Bool.and_eq_true] at same ⊢
    exact ⟨same.1, rfl⟩
  · obtain ⟨result, upserted, same⟩ := Option.map_eq_some_iff.mp done
    cases same
    rw [Option.any_some, upsertProfile_hash upserted]
    simp

/-! #### An import -/

theorem importData_spec {force : Bool} (done : i.importData now force doc g = some (g', report)) :
    ∃ profile action s, i.importProfile force doc g.profile = some (profile, action) ∧
      (doc.steps i).foldlM (i.step now force)
        ⟨{ g with profile := profile }, 0, ⟨action, [], [], [], 0⟩⟩ = some s ∧
      g' = s.graph ∧ report = s.report := by
  unfold Importer.importData at done
  obtain ⟨⟨profile, action⟩, first, done⟩ := Option.bind_eq_some_iff.mp done
  obtain ⟨s, run, done⟩ := Option.bind_eq_some_iff.mp done
  cases done
  exact ⟨profile, action, s, first, run, rfl, rfl⟩

/-- Nothing is written again if and only if every step finds its data. -/
theorem again_iff (done : i.importData now false doc g = some (g', report)) :
    (∃ g'' report', i.importData later false doc g' = some (g'', report') ∧
      report'.profile = .skipped ∧ report'.created = [] ∧ report'.updated = [] ∧
      report'.relationshipsCreated = 0 ∧ Unchanged g' g'') ↔
      ∀ st ∈ doc.steps i, Quiet i g' st := by
  obtain ⟨profile, action, s, first, run, rfl, rfl⟩ := importData_spec done
  have second : i.importProfile false doc s.graph.profile = some (s.graph.profile, .skipped) := by
    rw [run_profile run]
    exact importProfile_again first
  constructor
  · rintro ⟨g'', report', done', -, created, updated, linked, -⟩
    obtain ⟨profile', action', s', first', run', rfl, rfl⟩ := importData_spec done'
    cases first'.symm.trans second
    have quiet := quiet_of_run run' (by simp [ImportReport.writes, created, updated, linked])
    exact quiet
  · intro quiet
    have start : ∀ st ∈ doc.steps i,
        Quiet i (Importing.graph ⟨s.graph, 0, ⟨.skipped, [], [], [], 0⟩⟩) st := quiet
    have again : ∃ s', (doc.steps i).foldlM (i.step later false)
        ⟨s.graph, 0, ⟨.skipped, [], [], [], 0⟩⟩ = some s' ∧ Unchanged s.graph s'.graph ∧
        s'.report.profile = .skipped ∧ s'.report.writes = 0 := quiet_run start
    obtain ⟨s', run', same, profile', writes⟩ := again
    have nothing : s'.report.created.length + s'.report.updated.length +
        s'.report.relationshipsCreated = 0 := writes
    refine ⟨s'.graph, s'.report, ?_, profile', ?_, ?_, by omega, same⟩
    · unfold Importer.importData
      rw [second]
      exact Option.bind_eq_some_iff.mpr
        ⟨(s.graph.profile, .skipped), rfl, Option.bind_eq_some_iff.mpr ⟨s', run', rfl⟩⟩
    · exact List.length_eq_zero_iff.mp (by omega)
    · exact List.length_eq_zero_iff.mp (by omega)

theorem holds_unique {key : Text} {hash hash' : String} (here : g.holds key hash)
    (also : g.holds key hash') : hash = hash' := by
  obtain ⟨row, found, stored⟩ := here
  obtain ⟨row', found', stored'⟩ := also
  obtain rfl := Option.some.inj (found.symm.trans found')
  exact Option.some.inj (stored.symm.trans stored')

theorem upsert_mem {steps : List Step} {e : Entry} :
    e ∈ entries steps ↔ .upsert e ∈ steps := by
  rw [mem_entries]
  constructor
  · rintro ⟨st, member, is⟩
    cases st with
    | upsert e' =>
      cases is
      exact member
    | link source target relation position => cases is
    | linkIfExists source target relation position => cases is
  · exact fun member => ⟨_, member, rfl⟩

/-- An import is lossless, and idempotent, exactly for the documents that are faithful. -/
theorem reimport_iff (i : Importer) (now later : Time) (doc : SeedDocument) (g g' : Graph)
    (report : ImportReport) (distinct : doc.ids.Nodup)
    (collision : ∀ r ∈ doc.experience, ∀ t ∈ r.responsibilities, ∀ t' ∈ r.responsibilities,
      i.sha1 t = i.sha1 t' → t = t')
    (done : i.importData now false doc g = some (g', report)) :
    doc.Lossless i later g' ↔ doc.Faithful i g := by
  obtain ⟨profile, action, s, first, run, rfl, rfl⟩ := importData_spec done
  constructor
  · rintro ⟨stored, apart, again⟩
    have quiet := (again_iff done).mp again
    obtain ⟨metrics, free⟩ := (apart_iff distinct collision).mp apart
    have holds {e : Entry} (member : e ∈ entries (doc.steps i)) :
        s.graph.holds e.key (i.recordHash e.record) := quiet _ (upsert_mem.mp member)
    have named : ∀ e ∈ entries (doc.steps i), e.key ≠ [] := fun e member => by
      obtain ⟨row, found, -⟩ := holds member
      exact s.graph.key_ne found
    refine ⟨fun id member => ?_, metrics, free, fun e here e' there same => ?_,
      fun l member source target => ?_⟩
    · rw [ids_eq] at member
      obtain ⟨e, here, rfl⟩ := List.mem_map.mp member
      exact named e (mem_entries_steps.mpr (.inl (mem_records.mpr (.inl here))))
    · have one := holds (mem_entries_steps.mpr (.inl (mem_records.mpr (.inl here))))
      have other := holds (mem_entries_steps.mpr (.inr there))
      rw [← same] at other
      exact holds_unique one other
    · rw [← conditional_steps (i := i)] at member
      obtain ⟨st, made, is⟩ := List.mem_filterMap.mp member
      cases st with
      | upsert e => cases is
      | link source target relation position => cases is
      | linkIfExists from_ to_ relation position =>
        cases is
        exact (linked_iff named run _).mp (quiet _ made ((has_iff named run _).mpr source)
          ((has_iff named run _).mpr target))
  · intro faithful
    have apart := (apart_iff distinct collision).mpr ⟨faithful.metrics, faithful.free⟩
    have named : ∀ e ∈ entries (doc.steps i), e.key ≠ [] := by
      intro e member empty
      have head : e.key.head? = none := by rw [empty]; rfl
      rcases mem_entries_steps.mp member with record | node
      · rcases mem_records.mp record with here | ⟨r, -, m, -, rfl⟩ | ⟨r, -, t, -, rfl⟩
        · exact faithful.named e.key (ids_eq ▸ List.mem_map_of_mem here) empty
        · cases head
        · cases head
      · rcases profile_head node with is | is <;> rw [head] at is <;> cases is
    have beside {e e' : Entry} (record : e ∈ doc.records i) (node : e' ∈ doc.profileEntries i)
        (same : e.key = e'.key) : i.recordHash e.record = i.recordHash e'.record := by
      rcases mem_records.mp record with here | ⟨r, -, m, -, rfl⟩ | ⟨r, -, t, -, rfl⟩
      · exact faithful.profile e here e' node same
      · rcases profile_head node with is | is <;> rw [← same] at is <;> cases is
      · rcases profile_head node with is | is <;> rw [← same] at is <;> cases is
    have hashes {e e' : Entry} (member : e ∈ entries (doc.steps i))
        (member' : e' ∈ entries (doc.steps i)) (same : e.key = e'.key) :
        i.recordHash e.record = i.recordHash e'.record := by
      rcases mem_entries_steps.mp member with record | node <;>
        rcases mem_entries_steps.mp member' with record' | node'
      · rw [apart e record e' record' same]
      · exact beside record node' same
      · exact (beside record' node same.symm).symm
      · rw [profile_apart node node' same]
    have holds {e : Entry} (member : e ∈ entries (doc.steps i)) :
        s.graph.holds e.key (i.recordHash e.record) := by
      obtain ⟨e', member', key, here⟩ := run_holds run member
      rw [nodeKey_of_named (named e member), nodeKey_of_named (named e' member')] at key
      rw [nodeKey_of_named (named e member)] at here
      rwa [← hashes member' member key]
    refine ⟨fun e record => holds (mem_entries_steps.mpr (.inl record)), apart,
      (again_iff done).mpr fun st member => ?_⟩
    cases st with
    | upsert e => exact holds (upsert_mem.mpr member)
    | link source target relation position => exact run_link run member
    | linkIfExists source target relation position =>
      intro from_ to_
      have reference : (source, target, relation) ∈ doc.references := by
        rw [← conditional_steps (i := i)]
        exact List.mem_filterMap.mpr ⟨_, member, rfl⟩
      exact (linked_iff named run _).mpr (faithful.references _ reference
        ((has_iff named run _).mp from_) ((has_iff named run _).mp to_))

end Import

/-! ### Two metrics with one slug -/

/-- The hash of a metric is told by its name here, and that of any other record by its kind. -/
def namingImporter : Importer where
  source := "seed.json".ascii
  actor := "importer".ascii
  unicode := .ascii
  recordHash
    | .metric m => "metric " ++ String.ofList m.name
    | _ => "record"
  sha1 text := text.rightpad 10 ' ' |>.take 10
  str _ := []
  sha1_length text := by
    rw [List.length_take, List.length_rightpad]
    omega

/-- One project with metrics of these names. -/
def measured (names : List String) : SeedDocument where
  profile := []
  preferences := []
  skills := []
  projects := [⟨"p1".ascii, "Gateway".ascii, none, none, none, none, [], none, [], [], [], [], [], [],
    none, names.map fun name => ⟨name.ascii, some "40".ascii, none, []⟩, []⟩]
  experience := []
  achievements := []
  facts := []

theorem reimport_iff_measured : ∃ g' report,
    namingImporter.importData 0 false (measured ["Latency"]) .empty = some (g', report) ∧
      ((measured ["Latency"]).Lossless namingImporter 1 g' ↔
        (measured ["Latency"]).Faithful namingImporter .empty) := by
  have ran : (namingImporter.importData 0 false (measured ["Latency"]) .empty).isSome := by
    decide +kernel
  obtain ⟨⟨g', report⟩, done⟩ := Option.isSome_iff_exists.mp ran
  exact ⟨g', report, done, reimport_iff namingImporter 0 1 (measured ["Latency"]) .empty g' report
    (by decide +kernel) nofun done⟩

/-- The names of two metrics differ only in what a slug drops. -/
theorem metrics_share_node :
    ¬ ∀ (i : Importer) (now later : Time) (doc : SeedDocument) (g g' : Graph)
      (report : ImportReport), doc.ids.Nodup →
      (∀ r ∈ doc.experience, ∀ t ∈ r.responsibilities, ∀ t' ∈ r.responsibilities,
        i.sha1 t = i.sha1 t' → t = t') →
      i.importData now false doc g = some (g', report) → doc.Lossless i later g' := by
  intro lossless
  let doc := measured ["Latency (p95)", "Latency p95"]
  have ran : (namingImporter.importData 0 false doc .empty).isSome := by decide +kernel
  obtain ⟨⟨g', report⟩, done⟩ := Option.isSome_iff_exists.mp ran
  have all := lossless namingImporter 0 1 doc .empty g' report (by decide +kernel) nofun done
  have one : ∃ e ∈ doc.records namingImporter, ∃ e' ∈ doc.records namingImporter,
      e.key = e'.key ∧ e.label ≠ e'.label := by decide +kernel
  obtain ⟨e, here, e', there, same, differ⟩ := one
  exact differ (congrArg Entry.label (all.apart e here e' there same))

end RangeApply.Evidence
