import Mathlib.Algebra.Order.Ring.Rat
import RangeApply.Message

/-! The one place where a model is called: the rules, the cache, the budget, the provider and the
validation of its answer, in that order. -/
namespace RangeApply.Gateway

inductive Json
  | null
  | bool (b : Bool)
  /-- A number, or one of those that are no rational. -/
  | number (value : Option Rat)
  | str (t : Text)
  | arr (items : List Json)
  | obj (fields : List (Text × Json))

abbrev Fields := List (Text × Json)

namespace Json

/-- `bool(value)`. -/
def truthy : Json → Bool
  | null => false
  | bool b => b
  | number value => decide (value ≠ some 0)
  | str t => !t.isEmpty
  | arr items => !items.isEmpty
  | obj fields => !fields.isEmpty

/-- `value == 1`. -/
def isOne : Json → Bool
  | bool b => b
  | number value => decide (value = some 1)
  | _ => false

def isText (t : Text) : Json → Bool
  | str t' => decide (t' = t)
  | _ => false

end Json

/-- `entry.get(name)`. -/
def field (entry : Fields) (name : String) : Json := (entry.lookup name.ascii).getD .null

/-- Why an operation of a library gave no value: by the error its caller expects, or by another. -/
inductive Fault
  | rejected | raised
  deriving DecidableEq

/-! ### Requests, settings and responses -/

inductive AIOperation
  | extractJobFields | polishText | classify | summarize | classifySignal
  deriving DecidableEq

def AIOperation.value : AIOperation → String
  | extractJobFields => "extract_job_fields" | polishText => "polish_text" | classify => "classify"
  | summarize => "summarize" | classifySignal => "classify_signal"

inductive AIScope
  | job | candidate
  deriving DecidableEq

def AIScope.value : AIScope → String
  | job => "job" | candidate => "candidate"

inductive AIStatus
  | ok | disabled | unavailable | unsupported | budgetExhausted | timeout | error | malformed
  | refused
  deriving DecidableEq

def AIStatus.value : AIStatus → String
  | ok => "OK" | disabled => "DISABLED" | unavailable => "UNAVAILABLE"
  | unsupported => "UNSUPPORTED" | budgetExhausted => "BUDGET_EXHAUSTED" | timeout => "TIMEOUT"
  | error => "ERROR" | malformed => "MALFORMED" | refused => "REFUSED"

/-- A request, with its normalized input in `ι` and the schemas in `σ`. -/
structure AIRequest (ι σ : Type) where
  operation : AIOperation
  tenantId : Text
  scope : AIScope
  prompt : Text
  input : ι
  promptVersion : Text
  schemaModel : Option σ
  schemaVersion : Text
  provider : Option Text
  model : Option Text
  timeoutSeconds : Option Rat
  maxOutputTokens : Option Int
  cache : Bool

structure AIUsage where
  inputTokens : Option Int
  outputTokens : Option Int
  estimatedCostUsd : Option Rat
  deriving DecidableEq

def AIUsage.empty : AIUsage := ⟨none, none, none⟩

structure AIResponse where
  status : AIStatus
  operation : AIOperation
  provider : Option Text
  model : Option Text
  output : Option Json
  cacheHit : Bool
  cacheKey : Option Text
  usage : AIUsage
  fallbackReason : Option Text
  promptVersion : Text

structure TenantAISettings where
  enabled : Bool
  provider : Option Text
  model : Option Text
  maxCallsPerRun : Option Int
  maxOutputTokens : Option Int
  timeoutSeconds : Option Rat
  cacheEnabled : Option Bool

structure GlobalAIConfig where
  enabled : Bool
  provider : Text
  model : Option Text
  timeoutSeconds : Rat
  maxCallsPerRun : Int
  maxOutputTokens : Int
  cacheEnabled : Bool
  candidateDataProviders : List Text

structure EffectiveAIConfig where
  enabled : Bool
  provider : Text
  model : Option Text
  timeoutSeconds : Rat
  maxCallsPerRun : Int
  maxOutputTokens : Int
  cacheEnabled : Bool
  candidateDataProviders : List Text
  globalEnabled : Bool
  tenantEnabled : Bool
  providerConfigured : Bool
  reason : Option Text

/-! ### Providers -/

structure AIProvider where
  name : Text
  model : Option Text
  configured : Bool
  /-- The inputs never leave the machine. -/
  isLocal : Bool
  deriving DecidableEq

/-- What a provider is asked. -/
structure ProviderCall where
  provider : AIProvider
  scope : AIScope
  prompt : Text
  jsonMode : Bool
  timeoutSeconds : Rat
  maxOutputTokens : Int

/-- What it does then: a result, its own error, or any other exception. -/
inductive Answer
  | result (text : Text) (usage : AIUsage) (model : Option Text)
  | providerError (timeout : Bool) (message : Text)
  | crash (kind : Text)

/-- The keys and models the providers are built with. -/
structure ProviderSettings where
  apiKey : Option Text
  geminiApiKey : Option Text
  firecrawlApiKey : Option Text
  geminiModel : Text
  ollamaModel : Text

/-- `a or b`, of texts that may be missing. -/
def either (a b : Option Text) : Option Text :=
  match a with
  | some (c :: rest) => some (c :: rest)
  | _ => b

/-- `name.strip().lower()`. -/
def normalName (u : Unicode) (name : Text) : Text := u.lower (Text.strip name)

def knownProviders : List Text := ["stub", "gemini", "ollama", "scripted"].map String.ascii

def localProviders : List Text := ["ollama", "stub"].map String.ascii

def buildProvider (u : Unicode) (s : ProviderSettings) (name : Text) (model : Option Text) :
    Option AIProvider :=
  let key := normalName u ((either (some name) (some "stub".ascii)).getD [])
  if key = "stub".ascii then some ⟨"stub".ascii, none, false, true⟩
  else if key = "gemini".ascii then
    some ⟨"gemini".ascii, either model (some s.geminiModel),
      s.geminiApiKey.any fun secret => !secret.isEmpty, false⟩
  else if key = "ollama".ascii then
    let model := (either model (some s.ollamaModel)).getD []
    some ⟨"ollama".ascii, some model, !model.isEmpty, true⟩
  else none

/-! ### The cache and the budget -/

/-- What is at the path of a key. -/
inductive File
  | unreadable
  /-- The reading of its text ends in an error other than a bad value. -/
  | overflowing
  | holds (content : Json)

/-- The directory of entries, or the entries of this process. -/
inductive AICache
  | memory (entries : Text → Option Fields)
  | disk (files : Text → Option File)

namespace AICache

def get (key : Text) : AICache → Except Fault (Option Fields)
  | memory entries => .ok (entries key)
  | disk files =>
    match files key with
    | some .overflowing => .error .raised
    | some (.holds (.obj entry)) =>
      if (field entry "format").isOne && (field entry "key").isText key then .ok (some entry)
      else .ok none
    | _ => .ok none

/-- A file that cannot be written leaves the directory as it was. -/
def put (key : Text) (entry : Fields) (written : Bool) : AICache → AICache
  | memory entries => .memory (Function.update entries key (some entry))
  | disk files =>
    if written then .disk (Function.update files key (some (.holds (.obj entry)))) else .disk files

end AICache

structure CallBudget where
  maxCalls : Option Int
  name : Text
  calls : Nat
  refused : Nat
  byOperation : AIOperation → Nat

namespace CallBudget

def fresh (maxCalls : Option Int) (name : Text) : CallBudget := ⟨maxCalls, name, 0, 0, fun _ => 0⟩

def canCall (b : CallBudget) : Bool := b.maxCalls.all fun most => decide ((b.calls : Int) < most)

/-- One call is reserved, or counted as refused. -/
def take (b : CallBudget) (operation : AIOperation) : Bool × CallBudget :=
  if b.canCall then
    (true, { b with
      calls := b.calls + 1
      byOperation := Function.update b.byOperation operation (b.byOperation operation + 1) })
  else (false, { b with refused := b.refused + 1 })

end CallBudget

/-! ### The gateway -/

/-- What the gateway takes from the libraries it uses. A name in lower case without outer blanks is
its own lower case. -/
structure Platform (ι σ : Type) where
  unicode : Unicode
  steady : ∀ t, normalName unicode (normalName unicode t) = normalName unicode t
  plain : ∀ name ∈ [] :: localProviders, normalName unicode name = name
  /-- `json.loads`. -/
  loads : Text → Except Fault Json
  /-- `json.dumps` of an input, in bytes. -/
  dumps : ι → Option Text
  /-- `schema_model.model_validate(data).model_dump()`. -/
  schema : σ → Fields → Except Fault Json
  /-- `AIUsage(**fields)`. -/
  usage : Fields → Option AIUsage
  /-- The hexadecimal digest of the parts of a key. -/
  digest : List Text → Text

structure AIGateway where
  config : GlobalAIConfig
  injected : Option AIProvider
  settings : ProviderSettings

def gatewayVersion : String := "ai-gateway-v1"

def credentialPatterns : Pattern := .of true false
  ("(bearer\\s+[a-z0-9\\-_.]\x7b16,\x7d|api[_-]?key\\s*[:=]\\s*\\S\x7b12,\x7d|x-goog-api-key|" ++
    "authorization\\s*:|cookie\\s*:|set-cookie|password\\s*[:=]\\s*\\S+|sk-[a-z0-9]\x7b20,\x7d|" ++
    "AIza[0-9A-Za-z\\-_]\x7b30,\x7d)").ascii

def fenceRe : Pattern := .of false false "^```[a-zA-Z]*\\s*|\\s*```$".ascii

/-- How one request ended: what was returned, unless something was raised, the call that was made,
and what is left of the budget and in the cache. -/
structure Ran where
  returned : Option AIResponse
  call : Option ProviderCall
  budget : Option CallBudget
  cache : AICache

namespace AIGateway

section Config
variable (u : Unicode) (g : AIGateway)

/-- An injected provider answers to its own name and to the configured one. -/
def providerFor (name : Text) (model : Option Text) : Option AIProvider :=
  match g.injected with
  | some p =>
    if name = p.name ∨ name = g.config.provider then some p
    else buildProvider u g.settings name model
  | none => buildProvider u g.settings name model

def defaultSettings : TenantAISettings := ⟨true, none, none, none, none, none, none⟩

/-- The provider a tenant's settings lead to. -/
def providerName (tenant : TenantAISettings) : Text :=
  let chosen := (either tenant.provider none).map (normalName u)
  match chosen with
  | some name =>
    if name ≠ g.config.provider ∧ name ∉ localProviders then g.config.provider else name
  | none => normalName u ((either (some g.config.provider) (some "stub".ascii)).getD [])

/-- `min`, where the tenant sets a limit of its own. -/
def narrowed {α : Type} [Min α] (most : α) (own : Option α) : α :=
  match own with
  | none => most
  | some limit => min most limit

def quoted (lead : String) (name : Text) (tail : String) : Text := lead.ascii ++ name ++ tail.ascii

def effective (tenant : Option TenantAISettings) : EffectiveAIConfig :=
  let tenant := tenant.getD defaultSettings
  let cfg := g.config
  let name := g.providerName u tenant
  let provider := g.providerFor u name (either tenant.model cfg.model)
  let configured := provider.any (·.configured)
  { enabled := cfg.enabled && tenant.enabled && configured
    provider := name
    model := either (provider.bind (·.model)) (either tenant.model cfg.model)
    timeoutSeconds := narrowed cfg.timeoutSeconds tenant.timeoutSeconds
    maxCallsPerRun := narrowed cfg.maxCallsPerRun tenant.maxCallsPerRun
    maxOutputTokens := narrowed cfg.maxOutputTokens tenant.maxOutputTokens
    cacheEnabled := cfg.cacheEnabled && tenant.cacheEnabled.getD true
    candidateDataProviders := cfg.candidateDataProviders
    globalEnabled := cfg.enabled
    tenantEnabled := tenant.enabled
    providerConfigured := configured
    reason :=
      if !cfg.enabled then some "AI_ENABLED is false".ascii
      else if !tenant.enabled then
        some "AI is off for this tenant (policy.ai_settings.enabled)".ascii
      else if provider.isNone then some (quoted "unsupported provider '" name "'")
      else if !configured then
        some (quoted "provider '" name "' is not configured (missing key or model)")
      else none }

/-- `gateway.budget(tenant, name)`. -/
def budget (tenant : Option TenantAISettings) (name : Text) : CallBudget :=
  .fresh (some (g.effective u tenant).maxCallsPerRun) name

def promptHasCredentials (prompt : Text) : Bool :=
  credentialPatterns.found u prompt ||
    [g.settings.apiKey, g.settings.geminiApiKey, g.settings.firecrawlApiKey].any fun secret =>
      secret.any fun s => decide (8 ≤ s.length) && Text.occurs s prompt

end Config

section Run
variable {ι σ : Type} (env : Platform ι σ) (g : AIGateway)

/-- `_validate`: the parsed output, or why there is none. -/
def validate (raw : Json) (schemaModel : Option σ) : Except Fault Json :=
  match schemaModel with
  | none =>
    match raw with
    | .str t => if Text.strip t = [] then .error .rejected else .ok (.str (Text.strip t))
    | _ => .error .rejected
  | some schema => do
    let data ← match raw with
      | .str t =>
        let text := Text.strip t
        env.loads (if Text.startsWith "```".ascii text then fenceRe.sub env.unicode [] text else text)
      | data => .ok data
    match data with
    | .obj fields => env.schema schema fields
    | _ => .error .rejected

def cacheKey (r : AIRequest ι σ) (p : AIProvider) : Option Text :=
  (env.dumps r.input).map fun input => env.digest [
    gatewayVersion.ascii, "format=1".ascii, "op=".ascii ++ r.operation.value.ascii,
    "prompt=".ascii ++ r.promptVersion, "schema=".ascii ++ r.schemaVersion,
    "provider=".ascii ++ p.name, "model=".ascii ++ p.model.getD [],
    "scope=".ascii ++ r.scope.value.ascii,
    "tenant=".ascii ++ (if r.scope = .candidate then r.tenantId else ['*']), input]

/-- The response of a call that was stopped. -/
def stopped (r : AIRequest ι σ) (status : AIStatus) (provider model key : Option Text)
    (usage : AIUsage) (reason : Option Text) : AIResponse :=
  { status := status
    operation := r.operation
    provider := provider
    model := model
    output := none
    cacheHit := false
    cacheKey := key
    usage := usage
    fallbackReason := either reason (some (status.value.map Char.toLower).ascii)
    promptVersion := r.promptVersion }

def answered (r : AIRequest ι σ) (p : AIProvider) (model : Option Text) (output : Json)
    (cacheHit : Bool) (key : Text) (usage : AIUsage) : AIResponse :=
  { status := .ok
    operation := r.operation
    provider := some p.name
    model := model
    output := some output
    cacheHit := cacheHit
    cacheKey := some key
    usage := usage
    fallbackReason := none
    promptVersion := r.promptVersion }

/-- The rules: the provider that may be asked, or the response without a call. -/
def permit (cfg : EffectiveAIConfig) (r : AIRequest ι σ) : Except AIResponse AIProvider :=
  let u := env.unicode
  if !cfg.enabled then
    let status :=
      if !(cfg.globalEnabled && cfg.tenantEnabled) then AIStatus.disabled
      else if cfg.provider ∉ knownProviders ∧ g.providerFor u cfg.provider cfg.model = none then
        .unsupported
      else .unavailable
    .error (stopped r status (some cfg.provider) cfg.model none .empty cfg.reason)
  else
    let name := normalName u ((either r.provider (some cfg.provider)).getD [])
    match g.providerFor u name (either r.model cfg.model) with
    | none =>
      .error (stopped r .unsupported (some name) none none .empty
        (some (quoted "unsupported provider '" name "'")))
    | some p =>
      if !p.configured then
        .error (stopped r .unavailable (some p.name) p.model none .empty
          (some (quoted "provider '" p.name "' is not configured")))
      else if r.scope = .candidate ∧ !p.isLocal ∧ p.name ∉ cfg.candidateDataProviders then
        .error (stopped r .refused (some p.name) p.model none .empty (some (quoted "provider '" p.name
          "' is not allowed for candidate data (AI_CANDIDATE_DATA_PROVIDERS)")))
      else if g.promptHasCredentials u r.prompt then
        .error (stopped r .refused (some p.name) p.model none .empty
          (some "prompt contains credential-like content".ascii))
      else .ok p

/-- `AIUsage(**(entry.get("usage") or {}))`. -/
def usageOf (entry : Fields) : Option AIUsage :=
  let usage := field entry "usage"
  if usage.truthy then
    match usage with
    | .obj fields => env.usage fields
    | _ => none
  else env.usage []

/-- `entry.get("model") or provider.model`, which has to be a text. -/
def modelOf (entry : Fields) (p : AIProvider) : Option (Option Text) :=
  let model := field entry "model"
  if model.truthy then
    match model with
    | .str t => some (some t)
    | _ => none
  else some p.model

/-- The response the cache has, if any. -/
def lookup (cache : AICache) (r : AIRequest ι σ) (p : AIProvider) (key : Text) :
    Except Fault (Option AIResponse) :=
  match cache.get key with
  | .error fault => .error fault
  | .ok none => .ok none
  | .ok (some entry) =>
    match validate env (field entry "output") r.schemaModel with
    | .error .raised => .error .raised
    | .error .rejected => .ok none
    | .ok parsed =>
      match usageOf env entry, modelOf entry p with
      | some usage, some model => .ok (some (answered r p model parsed true key usage))
      | _, _ => .error .raised

/-- `min(own, most) if own else most`. -/
def capped {α : Type} [Min α] [DecidableEq α] [OfNat α 0] (own : Option α) (most : α) : α :=
  match own with
  | some limit => if limit = 0 then most else min limit most
  | none => most

def callFor (cfg : EffectiveAIConfig) (r : AIRequest ι σ) (p : AIProvider) : ProviderCall :=
  { provider := p
    scope := r.scope
    prompt := r.prompt
    jsonMode := r.schemaModel.isSome
    timeoutSeconds := capped r.timeoutSeconds cfg.timeoutSeconds
    maxOutputTokens := capped r.maxOutputTokens cfg.maxOutputTokens }

def dumpUsage (usage : AIUsage) : Json :=
  let int (n : Option Int) : Json := match n with
    | some n => .number (some n)
    | none => .null
  .obj [("input_tokens".ascii, int usage.inputTokens), ("output_tokens".ascii, int usage.outputTokens),
    ("estimated_cost_usd".ascii, match usage.estimatedCostUsd with
      | some cost => .number (some cost)
      | none => .null)]

def entryFor (r : AIRequest ι σ) (p : AIProvider) (key : Text) (output : Json)
    (model : Option Text) (usage : AIUsage) : Fields := [
  ("format".ascii, .number (some 1)), ("key".ascii, .str key),
  ("gateway_version".ascii, .str gatewayVersion.ascii),
  ("operation".ascii, .str r.operation.value.ascii), ("prompt_version".ascii, .str r.promptVersion),
  ("provider".ascii, .str p.name), ("model".ascii, (model.map Json.str).getD .null),
  ("output".ascii, output), ("usage".ascii, dumpUsage usage)]

/-- What becomes of the provider's answer. -/
def conclude (cache : AICache) (useCache written : Bool) (r : AIRequest ι σ) (p : AIProvider)
    (key : Text) : Answer → Option AIResponse × AICache
  | .providerError timeout message =>
    (some (stopped r (if timeout then .timeout else .error) (some p.name) p.model (some key) .empty
      (some (message.take 200))), cache)
  | .crash kind =>
    (some (stopped r .error (some p.name) p.model (some key) .empty
      (some ("provider crashed: ".ascii ++ kind))), cache)
  | .result text usage model =>
    match validate env (.str text) r.schemaModel with
    | .error .raised => (none, cache)
    | .error .rejected =>
      (some (stopped r .malformed (some p.name) (either model p.model) (some key) usage
        (some "provider output failed parsing/schema validation".ascii)), cache)
    | .ok parsed =>
      let model := either model p.model
      (some (answered r p model parsed false key usage),
        if useCache then cache.put key (entryFor r p key parsed model usage) written else cache)

/-- The call, once the budget allows it. -/
def ask (cfg : EffectiveAIConfig) (cache : AICache) (r : AIRequest ι σ) (p : AIProvider) (key : Text)
    (budget : Option CallBudget) (answer : Answer) (written : Bool) : Ran :=
  let made (budget : Option CallBudget) : Ran :=
    let ended := conclude env cache (cfg.cacheEnabled && r.cache) written r p key answer
    ⟨ended.1, some (callFor cfg r p), budget, ended.2⟩
  match budget with
  | none => made none
  | some b =>
    let taken := b.take r.operation
    if taken.1 then made (some taken.2)
    else
      let most := match b.maxCalls with
        | some n => (toString n).ascii
        | none => "None".ascii
      ⟨some (stopped r .budgetExhausted (some p.name) p.model (some key) .empty
        (some ("budget '".ascii ++ b.name ++ "' exhausted (".ascii ++ most ++ " calls)".ascii))),
        none, some taken.2, cache⟩

/-- `AIGateway.run`. The provider, if it is asked, does what `answer` tells. -/
def run (cache : AICache) (r : AIRequest ι σ) (tenant : Option TenantAISettings)
    (budget : Option CallBudget) (answer : Answer) (written : Bool) : Ran :=
  let cfg := g.effective env.unicode tenant
  match g.permit env cfg r with
  | .error response => ⟨some response, none, budget, cache⟩
  | .ok p =>
    match cacheKey env r p with
    | none => ⟨none, none, budget, cache⟩
    | some key =>
      match (if cfg.cacheEnabled && r.cache then lookup env cache r p key else .ok none) with
      | .error _ => ⟨none, none, budget, cache⟩
      | .ok (some response) => ⟨some response, none, budget, cache⟩
      | .ok none => ask env cfg cache r p key budget answer written

end Run

end AIGateway

end RangeApply.Gateway
