import Mathlib.Algebra.Order.Ring.Rat
import RangeApply.Dataset
import RangeApply.Status

/-! The application policy of a tenant as it is stored, partially updated and read back. -/
namespace RangeApply.Settings
open Dataset (EvidenceQuality)

/-! ### Nested settings -/

structure TenantAISettings where
  enabled : Bool
  provider : Option Text
  model : Option Text
  maxCallsPerRun : Option Int
  maxOutputTokens : Option Int
  timeoutSeconds : Option ℚ
  cacheEnabled : Option Bool
  deriving DecidableEq

/-- A JSON object of such settings, where any key may be absent. -/
structure AISettingsDict where
  enabled : Option Bool
  provider : Option (Option Text)
  model : Option (Option Text)
  maxCallsPerRun : Option (Option Int)
  maxOutputTokens : Option (Option Int)
  timeoutSeconds : Option (Option ℚ)
  cacheEnabled : Option (Option Bool)
  deriving DecidableEq

namespace AISettingsDict

def empty : AISettingsDict := ⟨none, none, none, none, none, none, none⟩

/-- `{**self, **other}` -/
def merge (d other : AISettingsDict) : AISettingsDict where
  enabled := other.enabled.or d.enabled
  provider := other.provider.or d.provider
  model := other.model.or d.model
  maxCallsPerRun := other.maxCallsPerRun.or d.maxCallsPerRun
  maxOutputTokens := other.maxOutputTokens.or d.maxOutputTokens
  timeoutSeconds := other.timeoutSeconds.or d.timeoutSeconds
  cacheEnabled := other.cacheEnabled.or d.cacheEnabled

/-- The keys given, over the settings there are. -/
def onto (d : AISettingsDict) (s : TenantAISettings) : TenantAISettings where
  enabled := d.enabled.getD s.enabled
  provider := d.provider.getD s.provider
  model := d.model.getD s.model
  maxCallsPerRun := d.maxCallsPerRun.getD s.maxCallsPerRun
  maxOutputTokens := d.maxOutputTokens.getD s.maxOutputTokens
  timeoutSeconds := d.timeoutSeconds.getD s.timeoutSeconds
  cacheEnabled := d.cacheEnabled.getD s.cacheEnabled

/-- `TenantAISettings(**self)` -/
def settings (d : AISettingsDict) : TenantAISettings :=
  d.onto ⟨false, none, none, none, none, none, none⟩

end AISettingsDict

namespace TenantAISettings
variable (s : TenantAISettings)

/-- `model_dump` -/
def dump : AISettingsDict :=
  ⟨some s.enabled, some s.provider, some s.model, some s.maxCallsPerRun, some s.maxOutputTokens,
    some s.timeoutSeconds, some s.cacheEnabled⟩

/-- The bounds of the fields. -/
def valid : Bool :=
  s.maxCallsPerRun.all (0 ≤ ·) && s.maxOutputTokens.all (1 ≤ ·) &&
    s.timeoutSeconds.all fun t => 0 < t && t ≤ 300

end TenantAISettings

structure TenantLearningSettings where
  orderingEnabled : Bool
  windowDays : Option Int
  minSamples : Int
  priorStrength : ℚ
  minimumEvidence : EvidenceQuality
  deriving DecidableEq

structure LearningSettingsDict where
  orderingEnabled : Option Bool
  windowDays : Option (Option Int)
  minSamples : Option Int
  priorStrength : Option ℚ
  minimumEvidence : Option EvidenceQuality
  deriving DecidableEq

namespace LearningSettingsDict

def empty : LearningSettingsDict := ⟨none, none, none, none, none⟩

def merge (d other : LearningSettingsDict) : LearningSettingsDict where
  orderingEnabled := other.orderingEnabled.or d.orderingEnabled
  windowDays := other.windowDays.or d.windowDays
  minSamples := other.minSamples.or d.minSamples
  priorStrength := other.priorStrength.or d.priorStrength
  minimumEvidence := other.minimumEvidence.or d.minimumEvidence

def onto (d : LearningSettingsDict) (s : TenantLearningSettings) : TenantLearningSettings where
  orderingEnabled := d.orderingEnabled.getD s.orderingEnabled
  windowDays := d.windowDays.getD s.windowDays
  minSamples := d.minSamples.getD s.minSamples
  priorStrength := d.priorStrength.getD s.priorStrength
  minimumEvidence := d.minimumEvidence.getD s.minimumEvidence

def settings (d : LearningSettingsDict) : TenantLearningSettings :=
  d.onto ⟨false, none, 5, 10, .moderate⟩

end LearningSettingsDict

namespace TenantLearningSettings
variable (s : TenantLearningSettings)

def dump : LearningSettingsDict :=
  ⟨some s.orderingEnabled, some s.windowDays, some s.minSamples, some s.priorStrength,
    some s.minimumEvidence⟩

def valid : Bool :=
  s.windowDays.all (fun n => 1 ≤ n && n ≤ 3650) && 1 ≤ s.minSamples && s.minSamples ≤ 10000 &&
    0 ≤ s.priorStrength && s.priorStrength ≤ 1000

end TenantLearningSettings

/-! ### The policy -/

/-- A row of `application_policies`. -/
structure PolicyRow where
  enabledBands : List FitBand
  bandThresholds : List (Text × Int)
  dailyCap : Int
  weeklyCap : Int
  tailoringByBand : List (Text × TailoringLevel)
  laneByBand : List (Text × Lane)
  coverLetterByBand : Option (List (Text × Text))
  cooldownDays : Int
  blockedCompanies : List Text
  preferredLocations : List Text
  preferredRoleFamilies : List Text
  minimumEligibility : EligibilityDecision
  duplicatePolicy : DuplicatePolicy
  priorityWeights : List (Text × ℚ)
  minimumFitScore : Option Int
  timezone : Option Text
  aiSettings : Option AISettingsDict
  learningSettings : Option LearningSettingsDict
  version : Nat
  updatedAt : Time
  deriving DecidableEq

/-- The settings of a policy, beside its version and the time of its last update. -/
structure Policy where
  enabledBands : List FitBand
  bandThresholds : List (Text × Int)
  dailyCap : Int
  weeklyCap : Int
  tailoringByBand : List (Text × TailoringLevel)
  laneByBand : List (Text × Lane)
  coverLetterByBand : List (Text × Text)
  cooldownDays : Int
  blockedCompanies : List Text
  preferredLocations : List Text
  preferredRoleFamilies : List Text
  minimumEligibility : EligibilityDecision
  duplicatePolicy : DuplicatePolicy
  priorityWeights : List (Text × ℚ)
  minimumFitScore : Option Int
  timezone : Text
  aiSettings : TenantAISettings
  learningSettings : TenantLearningSettings
  deriving DecidableEq

/-- A field that is omitted and one that is null are treated alike. -/
structure PolicyUpdate where
  enabledBands : Option (List FitBand)
  bandThresholds : Option (List (Text × Int))
  dailyCap : Option Int
  weeklyCap : Option Int
  tailoringByBand : Option (List (Text × TailoringLevel))
  laneByBand : Option (List (Text × Lane))
  coverLetterByBand : Option (List (Text × Text))
  cooldownDays : Option Int
  blockedCompanies : Option (List Text)
  preferredLocations : Option (List Text)
  preferredRoleFamilies : Option (List Text)
  minimumEligibility : Option EligibilityDecision
  duplicatePolicy : Option DuplicatePolicy
  priorityWeights : Option (List (Text × ℚ))
  minimumFitScore : Option Int
  timezone : Option Text
  aiSettings : Option AISettingsDict
  learningSettings : Option LearningSettingsDict

def defaultBandThresholds : List (Text × Int) := [("HIGH".ascii, 70), ("MEDIUM".ascii, 45)]

def defaultEnabledBands : List FitBand := [.high, .medium, .low]

def defaultTailoring : List (Text × TailoringLevel) :=
  [("HIGH".ascii, .l2), ("MEDIUM".ascii, .l1), ("LOW".ascii, .l0)]

def defaultLanes : List (Text × Lane) :=
  [("HIGH".ascii, .review), ("MEDIUM".ascii, .review), ("LOW".ascii, .review)]

def defaultCoverLetters : List (Text × Text) :=
  [("HIGH".ascii, "LIGHT".ascii), ("MEDIUM".ascii, "TEMPLATE".ascii),
    ("LOW".ascii, "DISABLED".ascii)]

def validCoverLetterModes : List Text :=
  ["DISABLED".ascii, "TEMPLATE".ascii, "LIGHT".ascii, "TARGETED".ascii]

def knownProviders : List Text :=
  ["stub".ascii, "gemini".ascii, "ollama".ascii, "scripted".ascii]

/-- `value or default`, of a list or a text. -/
def orDefault {α : Type} (value default_ : List α) : List α :=
  match value with
  | [] => default_
  | _ => value

/-- `policy_from_row` -/
def PolicyRow.policy (row : PolicyRow) : Policy where
  enabledBands := orDefault row.enabledBands defaultEnabledBands
  bandThresholds := orDefault row.bandThresholds defaultBandThresholds
  dailyCap := row.dailyCap
  weeklyCap := row.weeklyCap
  tailoringByBand := orDefault row.tailoringByBand defaultTailoring
  laneByBand := orDefault row.laneByBand defaultLanes
  coverLetterByBand := orDefault (row.coverLetterByBand.getD []) defaultCoverLetters
  cooldownDays := row.cooldownDays
  blockedCompanies := row.blockedCompanies
  preferredLocations := row.preferredLocations
  preferredRoleFamilies := row.preferredRoleFamilies
  minimumEligibility := row.minimumEligibility
  duplicatePolicy := row.duplicatePolicy
  priorityWeights := row.priorityWeights
  minimumFitScore := row.minimumFitScore
  timezone := orDefault (row.timezone.getD []) "UTC".ascii
  aiSettings := (row.aiSettings.getD .empty).settings
  learningSettings := (row.learningSettings.getD .empty).settings

/-- The row of a tenant that had none. -/
def PolicyRow.initial (now : Time) : PolicyRow where
  enabledBands := defaultEnabledBands
  bandThresholds := defaultBandThresholds
  dailyCap := 50
  weeklyCap := 300
  tailoringByBand := defaultTailoring
  laneByBand := defaultLanes
  coverLetterByBand := some defaultCoverLetters
  cooldownDays := 90
  blockedCompanies := []
  preferredLocations := []
  preferredRoleFamilies := []
  minimumEligibility := .uncertain
  duplicatePolicy := .block
  priorityWeights := []
  minimumFitScore := none
  timezone := none
  aiSettings := none
  learningSettings := none
  version := 1
  updatedAt := now

/-! ### Updates -/

/-- `d[key] = value` -/
def put {α : Type} (d : List (Text × α)) (key : Text) (value : α) : List (Text × α) :=
  if d.any fun e => e.1 = key then d.map fun e => if e.1 = key then (key, value) else e
  else d ++ [(key, value)]

/-- The strings of the library, the zones it knows among them. -/
structure PolicyEnv where
  unicode : Unicode
  upper : Text → Text
  zone : Text → Bool

section Update
variable (env : PolicyEnv)

/-- The keys of a map in upper case; a later one takes the place of an earlier. -/
def foldKeys {α : Type} (value : α → α) (d : List (Text × α)) : List (Text × α) :=
  d.foldl (fun folded e => put folded (env.upper e.1) (value e.2)) []

/-- The case folding that an update performs. -/
def PolicyUpdate.folded (data : PolicyUpdate) : PolicyUpdate :=
  { data with
    bandThresholds := data.bandThresholds.map (foldKeys env id)
    coverLetterByBand := data.coverLetterByBand.map (foldKeys env env.upper) }

/-- The bounds of the fields. -/
def PolicyUpdate.valid (data : PolicyUpdate) : Bool :=
  data.dailyCap.all (0 ≤ ·) && data.weeklyCap.all (0 ≤ ·) && data.cooldownDays.all (0 ≤ ·) &&
    (data.minimumFitScore.all fun n => 0 ≤ n && n ≤ 100) &&
    (data.aiSettings.all fun d => d.settings.valid) &&
    data.learningSettings.all fun d => d.settings.valid

/-- The thresholds are in order. -/
def orderedThresholds (thresholds : List (Text × Int)) : Bool :=
  (thresholds.lookup "MEDIUM".ascii).getD 45 < (thresholds.lookup "HIGH".ascii).getD 70

def knownProvider (s : TenantAISettings) : Bool :=
  match s.provider with
  | none | some [] => true
  | some provider => env.unicode.lower (Text.strip provider) ∈ knownProviders

/-- The row with the changes, its version aside. -/
def PolicyUpdate.row (data : PolicyUpdate) (row : PolicyRow) : PolicyRow :=
  let changes := data.folded env
  { row with
    enabledBands := changes.enabledBands.getD row.enabledBands
    bandThresholds := changes.bandThresholds.getD row.bandThresholds
    dailyCap := changes.dailyCap.getD row.dailyCap
    weeklyCap := changes.weeklyCap.getD row.weeklyCap
    tailoringByBand := changes.tailoringByBand.getD row.tailoringByBand
    laneByBand := changes.laneByBand.getD row.laneByBand
    coverLetterByBand := changes.coverLetterByBand.or row.coverLetterByBand
    cooldownDays := changes.cooldownDays.getD row.cooldownDays
    blockedCompanies := changes.blockedCompanies.getD row.blockedCompanies
    preferredLocations := changes.preferredLocations.getD row.preferredLocations
    preferredRoleFamilies := changes.preferredRoleFamilies.getD row.preferredRoleFamilies
    minimumEligibility := changes.minimumEligibility.getD row.minimumEligibility
    duplicatePolicy := changes.duplicatePolicy.getD row.duplicatePolicy
    priorityWeights := changes.priorityWeights.getD row.priorityWeights
    minimumFitScore := changes.minimumFitScore.or row.minimumFitScore
    timezone := changes.timezone.or row.timezone
    aiSettings := match changes.aiSettings with
      | none => row.aiSettings
      | some d => some ((row.aiSettings.getD .empty).merge d).settings.dump
    learningSettings := match changes.learningSettings with
      | none => row.learningSettings
      | some d => some ((row.learningSettings.getD .empty).merge d).settings.dump }

/-- The changes are accepted. -/
def PolicyUpdate.accepted (data : PolicyUpdate) (row : PolicyRow) : Bool :=
  let changes := data.folded env
  data.valid && changes.bandThresholds.all orderedThresholds &&
    (changes.timezone.all fun zone => zone = [] || env.zone zone) &&
    (changes.coverLetterByBand.all fun modes => modes.all fun m => m.2 ∈ validCoverLetterModes) &&
    (changes.aiSettings.all fun d =>
      let s := ((row.aiSettings.getD .empty).merge d).settings
      s.valid && knownProvider env s) &&
    changes.learningSettings.all fun d =>
      (((row.learningSettings.getD .empty).merge d).settings).valid

/-- The snapshots of a row before and after differ in nothing. -/
def PolicyRow.unchanged (before after : PolicyRow) : Bool :=
  { after with
    coverLetterByBand := some (after.coverLetterByBand.getD [])
    timezone := some (orDefault (after.timezone.getD []) "UTC".ascii)
    aiSettings := some (after.aiSettings.getD .empty)
    learningSettings := some (after.learningSettings.getD .empty) } =
  { before with
    coverLetterByBand := some (before.coverLetterByBand.getD [])
    timezone := some (orDefault (before.timezone.getD []) "UTC".ascii)
    aiSettings := some (before.aiSettings.getD .empty)
    learningSettings := some (before.learningSettings.getD .empty) }

/-- `get_or_create` -/
def getOrCreate (now : Time) (row : Option PolicyRow) : PolicyRow := row.getD (.initial now)

/-- `PolicyRepository.get` -/
def get (now : Time) (row : Option PolicyRow) : Policy := (getOrCreate now row).policy

/-- `PolicyRepository.update`: nothing when the update is refused. -/
def update (now : Time) (data : PolicyUpdate) (row : Option PolicyRow) : Option PolicyRow :=
  let row := getOrCreate now row
  if !data.accepted env row then none
  else
    let after := data.row env row
    some (if row.unchanged after then after
      else { after with version := row.version + 1, updatedAt := now })

end Update

/-! ### What is read back -/

/-- The fields given, over the policy there was. -/
def PolicyUpdate.onto (data : PolicyUpdate) (p : Policy) : Policy where
  enabledBands := data.enabledBands.getD p.enabledBands
  bandThresholds := data.bandThresholds.getD p.bandThresholds
  dailyCap := data.dailyCap.getD p.dailyCap
  weeklyCap := data.weeklyCap.getD p.weeklyCap
  tailoringByBand := data.tailoringByBand.getD p.tailoringByBand
  laneByBand := data.laneByBand.getD p.laneByBand
  coverLetterByBand := data.coverLetterByBand.getD p.coverLetterByBand
  cooldownDays := data.cooldownDays.getD p.cooldownDays
  blockedCompanies := data.blockedCompanies.getD p.blockedCompanies
  preferredLocations := data.preferredLocations.getD p.preferredLocations
  preferredRoleFamilies := data.preferredRoleFamilies.getD p.preferredRoleFamilies
  minimumEligibility := data.minimumEligibility.getD p.minimumEligibility
  duplicatePolicy := data.duplicatePolicy.getD p.duplicatePolicy
  priorityWeights := data.priorityWeights.getD p.priorityWeights
  minimumFitScore := data.minimumFitScore.or p.minimumFitScore
  timezone := data.timezone.getD p.timezone
  aiSettings := data.aiSettings.elim p.aiSettings (·.onto p.aiSettings)
  learningSettings := data.learningSettings.elim p.learningSettings (·.onto p.learningSettings)

/-- No field whose emptiness reads as a default is given empty. -/
structure PolicyUpdate.Kept (data : PolicyUpdate) : Prop where
  enabledBands : data.enabledBands ≠ some []
  bandThresholds : data.bandThresholds ≠ some []
  tailoringByBand : data.tailoringByBand ≠ some []
  laneByBand : data.laneByBand ≠ some []
  coverLetterByBand : data.coverLetterByBand ≠ some []
  timezone : data.timezone ≠ some []

section Fields
variable {α : Type}

/-- A field that defaults when it is empty reads as it was given, save when it was given empty. -/
theorem orDefault_getD_iff {given : Option (List α)} {stored default_ : List α}
    (some_ : default_ ≠ []) : orDefault (given.getD stored) default_ =
      given.getD (orDefault stored default_) ↔ given ≠ some [] := by
  cases given with
  | none => exact iff_of_true rfl nofun
  | some value =>
    cases value with
    | nil => exact iff_of_false some_ fun differs => differs rfl
    | cons a value => exact iff_of_true rfl nofun

theorem orDefault_or_iff {given stored : Option (List α)} {default_ : List α}
    (some_ : default_ ≠ []) : orDefault ((given.or stored).getD []) default_ =
      given.getD (orDefault (stored.getD []) default_) ↔ given ≠ some [] := by
  have same : (given.or stored).getD [] = given.getD (stored.getD []) := by
    cases given <;> rfl
  rw [same]
  exact orDefault_getD_iff some_

theorem getD_or (given stored : Option α) (default_ : α) :
    (given.or stored).getD default_ = given.getD (stored.getD default_) := by
  cases given <;> rfl

theorem put_ne (d : List (Text × α)) (key : Text) (value : α) : put d key value ≠ [] := by
  unfold put
  split
  · rename_i here
    cases d with
    | nil => cases here
    | cons e d => exact List.cons_ne_nil _ _
  · exact List.append_ne_nil_of_right_ne_nil _ (List.cons_ne_nil _ _)

theorem foldKeys_eq_nil {env : PolicyEnv} {value : α → α} {d : List (Text × α)} :
    foldKeys env value d = [] ↔ d = [] := by
  have kept (d acc : List (Text × α)) (some_ : acc ≠ []) : d.foldl (fun folded e =>
      put folded (env.upper e.1) (value e.2)) acc ≠ [] := by
    induction d generalizing acc with
    | nil => exact some_
    | cons e d ih => exact ih _ (put_ne _ _ _)
  cases d with
  | nil => exact iff_of_true rfl rfl
  | cons e d => exact iff_of_false (kept d _ (put_ne _ _ _)) (List.cons_ne_nil _ _)

theorem folded_ne_iff {env : PolicyEnv} {value : α → α} {given : Option (List (Text × α))} :
    given.map (foldKeys env value) ≠ some [] ↔ given ≠ some [] := by
  cases given with
  | none => simp
  | some d => simp [foldKeys_eq_nil]

end Fields

theorem merged_ai (stored d : AISettingsDict) :
    (stored.merge d).settings.dump.settings = d.onto stored.settings := by
  simp only [AISettingsDict.merge, AISettingsDict.settings, AISettingsDict.onto,
    TenantAISettings.dump, Option.getD_some, getD_or]

theorem merged_learning (stored d : LearningSettingsDict) :
    (stored.merge d).settings.dump.settings = d.onto stored.settings := by
  simp only [LearningSettingsDict.merge, LearningSettingsDict.settings, LearningSettingsDict.onto,
    TenantLearningSettings.dump, Option.getD_some, getD_or]

/-- The changed row reads as the changes over what was read before, exactly when no field is lost. -/
theorem row_policy_iff (env : PolicyEnv) (data : PolicyUpdate) (row : PolicyRow) :
    (data.row env row).policy = (data.folded env).onto row.policy ↔ data.Kept := by
  have ai : ((data.row env row).aiSettings.getD .empty).settings =
      data.aiSettings.elim (row.aiSettings.getD .empty).settings
        (·.onto (row.aiSettings.getD .empty).settings) := by
    unfold PolicyUpdate.row PolicyUpdate.folded
    cases data.aiSettings with
    | none => rfl
    | some d => exact merged_ai _ d
  have learning : ((data.row env row).learningSettings.getD .empty).settings =
      data.learningSettings.elim (row.learningSettings.getD .empty).settings
        (·.onto (row.learningSettings.getD .empty).settings) := by
    unfold PolicyUpdate.row PolicyUpdate.folded
    cases data.learningSettings with
    | none => rfl
    | some d => exact merged_learning _ d
  constructor
  · intro same
    have thresholds := (orDefault_getD_iff (by decide)).mp (congrArg Policy.bandThresholds same)
    have letters := (orDefault_or_iff (by decide)).mp (congrArg Policy.coverLetterByBand same)
    exact ⟨(orDefault_getD_iff (by decide)).mp (congrArg Policy.enabledBands same),
      folded_ne_iff.mp thresholds,
      (orDefault_getD_iff (by decide)).mp (congrArg Policy.tailoringByBand same),
      (orDefault_getD_iff (by decide)).mp (congrArg Policy.laneByBand same),
      folded_ne_iff.mp letters,
      (orDefault_or_iff (by decide)).mp (congrArg Policy.timezone same)⟩
  · intro kept
    unfold PolicyRow.policy PolicyUpdate.onto
    rw [Policy.mk.injEq]
    exact ⟨(orDefault_getD_iff (by decide)).mpr kept.enabledBands,
      (orDefault_getD_iff (by decide)).mpr (folded_ne_iff.mpr kept.bandThresholds), rfl, rfl,
      (orDefault_getD_iff (by decide)).mpr kept.tailoringByBand,
      (orDefault_getD_iff (by decide)).mpr kept.laneByBand,
      (orDefault_or_iff (by decide)).mpr (folded_ne_iff.mpr kept.coverLetterByBand),
      rfl, rfl, rfl, rfl, rfl, rfl, rfl, rfl,
      (orDefault_or_iff (by decide)).mpr kept.timezone, ai, learning⟩

/-! ### The law -/

/-- After an update every field that was given reads back as it was given, up to the folding of
case, and every other as it was, exactly when no field whose emptiness reads as a default is given
empty. -/
theorem update_round_trip_iff (env : PolicyEnv) (now later : Time) (data : PolicyUpdate)
    (row : Option PolicyRow) (after : PolicyRow) (done : update env now data row = some after) :
    get later (some after) = (data.folded env).onto (get now row) ↔ data.Kept := by
  unfold update at done
  dsimp only at done
  split at done
  · cases done
  · cases done
    refine Iff.trans ?_ (row_policy_iff env data (getOrCreate now row))
    have read : get later (some (if (getOrCreate now row).unchanged
        (data.row env (getOrCreate now row)) then data.row env (getOrCreate now row)
      else { data.row env (getOrCreate now row) with
        version := (getOrCreate now row).version + 1, updatedAt := now })) =
          (data.row env (getOrCreate now row)).policy := by
      unfold get
      rw [getOrCreate, Option.getD_some]
      split
      · rfl
      · rfl
    rw [read]
    rfl

def plainStrings : PolicyEnv := ⟨.ascii, List.map Char.toUpper, fun _ => true⟩

def nothing : PolicyUpdate :=
  ⟨none, none, none, none, none, none, none, none, none, none, none, none, none, none, none, none,
    none, none⟩

/-- A daily cap of zero. -/
def capped : PolicyUpdate := { nothing with dailyCap := some 0 }

/-- Every band switched off. -/
def switchedOff : PolicyUpdate := { nothing with enabledBands := some [] }

theorem update_round_trip_capped : ∃ after, update plainStrings 1 capped none = some after ∧
    (get 2 (some after) = (capped.folded plainStrings).onto (get 1 none) ↔ capped.Kept) := by
  have accepted : (update plainStrings 1 capped none).isSome := by decide +kernel
  obtain ⟨after, done⟩ := Option.isSome_iff_exists.mp accepted
  exact ⟨after, done, update_round_trip_iff plainStrings 1 2 capped none after done⟩

/-- Bands that were all switched off are all on when the policy is read again. -/
theorem switched_off_reads_on :
    ¬ ∀ (env : PolicyEnv) (now later : Time) (data : PolicyUpdate) (row : Option PolicyRow)
      (after : PolicyRow), update env now data row = some after →
      get later (some after) = (data.folded env).onto (get now row) := by
  intro law
  have accepted : (update plainStrings 1 switchedOff none).isSome := by decide +kernel
  obtain ⟨after, done⟩ := Option.isSome_iff_exists.mp accepted
  have read := congrArg Policy.enabledBands (law plainStrings 1 2 switchedOff none after done)
  have stored : (update plainStrings 1 switchedOff none).map (fun row =>
      row.policy.enabledBands) = some [.high, .medium, .low] := by decide +kernel
  rw [done, Option.map_some, Option.some.injEq] at stored
  exact absurd (stored.symm.trans read) (by decide)

end RangeApply.Settings
