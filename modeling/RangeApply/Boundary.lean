import RangeApply.Gateway

/-! What bounds a call of the gateway: where a prompt may go, how many calls a budget allows, which
outputs are returned, and that nothing is raised. -/
namespace RangeApply.Gateway.AIGateway

variable {ι σ : Type} {env : Platform ι σ} {g : AIGateway} {cache : AICache} {r : AIRequest ι σ}
  {tenant : Option TenantAISettings} {budget : Option CallBudget} {answer : Answer} {written : Bool}
  {p : AIProvider} {key : Text}

/-! ### The provider that is asked -/

/-- The provider the gateway has under the configured name, however that is written. -/
def IsGlobal (u : Unicode) (g : AIGateway) (p : AIProvider) : Prop :=
  ∃ name model, (name = g.config.provider ∨ normalName u name =
      normalName u ((either (some g.config.provider) (some "stub".ascii)).getD [])) ∧
    g.providerFor u name model = some p

theorem isGlobal_injected {u : Unicode} (injected : g.injected = some p) : g.IsGlobal u p :=
  ⟨g.config.provider, none, .inl rfl, by simp [providerFor, injected]⟩

/-- The provider of a name is the injected one, or it is built. -/
theorem providerFor_cases {u : Unicode} {name : Text} {model : Option Text}
    (found : g.providerFor u name model = some p) :
    g.injected = some p ∨ buildProvider u g.settings name model = some p := by
  unfold providerFor at found
  split at found
  · split at found
    · left
      rwa [‹g.injected = _›]
    · exact .inr found
  · exact .inr found

theorem buildProvider_local {name : Text} {model : Option Text} (s : ProviderSettings)
    (plain : name ∈ [] :: localProviders)
    (built : buildProvider env.unicode s name model = some p) : p.isLocal := by
  have cases_ : name = [] ∨ name = "ollama".ascii ∨ name = "stub".ascii := by
    simpa [localProviders] using plain
  unfold buildProvider at built
  have stub := env.plain "stub".ascii (by simp [localProviders])
  have ollama := env.plain "ollama".ascii (by simp [localProviders])
  rcases cases_ with rfl | rfl | rfl
  · have key : (either (some []) (some "stub".ascii)).getD [] = "stub".ascii := rfl
    rw [key, stub, if_pos rfl] at built
    cases built
    rfl
  · have key : (either (some "ollama".ascii) (some "stub".ascii)).getD [] = "ollama".ascii := by decide
    rw [key, ollama, if_neg (by decide), if_neg (by decide), if_pos rfl] at built
    cases built
    rfl
  · have key : (either (some "stub".ascii) (some "stub".ascii)).getD [] = "stub".ascii := by decide
    rw [key, stub, if_pos rfl] at built
    cases built
    rfl

theorem local_or_global {name : Text} {model : Option Text} (plain : name ∈ [] :: localProviders)
    (found : g.providerFor env.unicode name model = some p) :
    p.isLocal ∨ g.IsGlobal env.unicode p := by
  rcases providerFor_cases found with injected | built
  · exact .inr (isGlobal_injected injected)
  · exact .inl (buildProvider_local g.settings plain built)

/-- The name a tenant's settings lead to is that of a local provider, or the configured one. -/
theorem providerName_cases (u : Unicode) (g : AIGateway) (t : TenantAISettings) :
    g.providerName u t ∈ localProviders ∨ g.providerName u t = g.config.provider ∨
      g.providerName u t =
        normalName u ((either (some g.config.provider) (some "stub".ascii)).getD []) := by
  unfold providerName
  dsimp only
  split
  · split
    · exact .inr (.inl rfl)
    · rename_i name _ allowed
      by_cases own : name = g.config.provider
      · exact .inr (.inl own)
      · exact .inl (not_not.mp fun foreign => allowed ⟨own, foreign⟩)
  · exact .inr (.inr rfl)

theorem either_some (a : Text) (b : Option Text) (known : a ≠ []) : either (some a) b = some a := by
  cases a with
  | nil => exact absurd rfl known
  | cons c rest => rfl

/-- Without a name of its own, a request goes to a local provider or to the configured one. -/
theorem unforced_allowed {name : Text} {model : Option Text}
    (named : name = normalName env.unicode (g.effective env.unicode tenant).provider)
    (found : g.providerFor env.unicode name model = some p) :
    p.isLocal ∨ g.IsGlobal env.unicode p := by
  rcases providerName_cases env.unicode g (tenant.getD defaultSettings) with near | own | whole
  · have same : name = g.providerName env.unicode (tenant.getD defaultSettings) :=
      named.trans (env.plain _ (List.mem_cons_of_mem _ near))
    exact local_or_global (same ▸ List.mem_cons_of_mem _ near) found
  · have same : name = normalName env.unicode g.config.provider := by
      rw [named, ← own]
      rfl
    by_cases blank : g.config.provider = []
    · rw [blank, env.plain [] List.mem_cons_self] at same
      exact local_or_global (same ▸ List.mem_cons_self) found
    · refine .inr ⟨name, model, .inr ?_, found⟩
      rw [same, env.steady, either_some _ _ blank, Option.getD_some]
  · refine .inr ⟨name, model, .inr ?_, found⟩
    have same : name = normalName env.unicode (g.providerName env.unicode
        (tenant.getD defaultSettings)) := named
    rw [same, whole, env.steady, env.steady]

/-! ### One request -/

/-- What the gateway has to keep to, for one request that ended so. -/
structure Bounded (env : Platform ι σ) (g : AIGateway) (r : AIRequest ι σ)
    (budget : Option CallBudget) (ran : Ran) : Prop where
  returns : ran.returned ≠ none
  confined : ∀ call, ran.call = some call → call.prompt = r.prompt ∧ (r.scope = .candidate →
    call.provider.isLocal ∨ call.provider.name ∈ g.config.candidateDataProviders)
  configured : ∀ call, ran.call = some call →
    call.provider.isLocal ∨ g.IsGlobal env.unicode call.provider
  validated : ∀ response, ran.returned = some response → response.status = .ok →
    ∃ raw output, validate env raw r.schemaModel = .ok output ∧ response.output = some output
  counted : ran.call ≠ none → ∀ b, budget = some b → b.canCall ∧
    ∃ b', ran.budget = some b' ∧ b'.calls = b.calls + 1 ∧ b'.maxCalls = b.maxCalls

/-- The cache serves the request. -/
def serves (env : Platform ι σ) (g : AIGateway) (cache : AICache) (r : AIRequest ι σ)
    (tenant : Option TenantAISettings) (p : AIProvider) (key : Text) :
    Except Fault (Option AIResponse) :=
  if (g.effective env.unicode tenant).cacheEnabled && r.cache then lookup env cache r p key
  else .ok none

/-- An entry whose output the schema accepts has a usage and a model of their types, and nothing in
the entry makes the reading of it end otherwise. -/
def Readable (env : Platform ι σ) (cache : AICache) (r : AIRequest ι σ) (p : AIProvider)
    (key : Text) : Prop :=
  cache.get key ≠ .error .raised ∧ ∀ entry, cache.get key = .ok (some entry) →
    validate env (field entry "output") r.schemaModel ≠ .error .raised ∧
    ∀ parsed, validate env (field entry "output") r.schemaModel = .ok parsed →
      usageOf env entry ≠ none ∧ modelOf entry p ≠ none

/-- What is asked of a request, of the cache and of the provider's answer. -/
structure Proper (env : Platform ι σ) (g : AIGateway) (cache : AICache) (r : AIRequest ι σ)
    (tenant : Option TenantAISettings) (budget : Option CallBudget) (answer : Answer)
    (p : AIProvider) : Prop where
  written : env.dumps r.input ≠ none
  readable : ∀ key, cacheKey env r p = some key →
    ((g.effective env.unicode tenant).cacheEnabled && r.cache) → Readable env cache r p key
  unforced : ∀ key, cacheKey env r p = some key → g.serves env cache r tenant p key = .ok none →
    budget.all (·.canCall) → either r.provider none = none ∨ p.isLocal ∨ g.IsGlobal env.unicode p
  parsed : ∀ key, cacheKey env r p = some key → g.serves env cache r tenant p key = .ok none →
    budget.all (·.canCall) → ∀ text usage model, answer = .result text usage model →
      validate env (.str text) r.schemaModel ≠ .error .raised

/-! ### The steps of a request -/

theorem either_none (a b : Option Text) (silent : either a none = none) : either a b = b := by
  cases a with
  | none => rfl
  | some t =>
    cases t with
    | nil => rfl
    | cons c rest => cases silent

/-- What the rules let through. -/
theorem permit_ok {cfg : EffectiveAIConfig} (admitted : g.permit env cfg r = .ok p) :
    (∃ model, g.providerFor env.unicode
      (normalName env.unicode ((either r.provider (some cfg.provider)).getD [])) model = some p) ∧
    (r.scope = .candidate → p.isLocal ∨ p.name ∈ cfg.candidateDataProviders) := by
  unfold permit at admitted
  dsimp only at admitted
  split at admitted
  · cases admitted
  · split at admitted
    · cases admitted
    · rename_i q found
      split at admitted
      · cases admitted
      · split at admitted
        · cases admitted
        · rename_i allowed
          split at admitted
          · cases admitted
          · cases admitted
            refine ⟨⟨_, found⟩, fun private_ => ?_⟩
            by_contra refused
            push Not at refused
            exact allowed ⟨private_, by simpa using refused.1, refused.2⟩

theorem get_error {fault : Fault} (failed : cache.get key = .error fault) : fault = .raised := by
  unfold AICache.get at failed
  split at failed
  · cases failed
  · split at failed
    · cases failed
      rfl
    · split at failed <;> cases failed
    · cases failed

/-- The entry of a key can be used or is passed over exactly when it is readable. -/
theorem lookup_readable_iff :
    (∃ served, lookup env cache r p key = .ok served) ↔ Readable env cache r p key := by
  unfold lookup Readable
  cases entered : cache.get key with
  | error fault => simp [get_error entered]
  | ok entry =>
    cases entry with
    | none => simp
    | some entry =>
      cases judged : validate env (field entry "output") r.schemaModel with
      | error fault => cases fault <;> simp [judged]
      | ok parsed =>
        cases counted : usageOf env entry <;> cases named : modelOf entry p <;>
          simp [judged, counted, named]

theorem lookup_hit {response : AIResponse} (hit : lookup env cache r p key = .ok (some response)) :
    ∃ raw output, validate env raw r.schemaModel = .ok output ∧ response.output = some output := by
  unfold lookup at hit
  split at hit
  · cases hit
  · cases hit
  · rename_i entry _
    split at hit
    · cases hit
    · cases hit
    · rename_i parsed accepted
      split at hit
      · cases hit
        exact ⟨_, parsed, accepted, rfl⟩
      · cases hit

theorem conclude_returns (useCache : Bool) :
    (conclude env cache useCache written r p key answer).1 ≠ none ↔
      ∀ text usage model, answer = .result text usage model →
        validate env (.str text) r.schemaModel ≠ .error .raised := by
  cases answer with
  | providerError timeout message => simp [conclude]
  | crash kind => simp [conclude]
  | result text usage model =>
    cases judged : validate env (.str text) r.schemaModel with
    | error fault => cases fault <;> simp [conclude, judged]
    | ok parsed => simp [conclude, judged]

theorem conclude_validated {useCache : Bool} {response : AIResponse}
    (returned : (conclude env cache useCache written r p key answer).1 = some response)
    (fine : response.status = .ok) :
    ∃ raw output, validate env raw r.schemaModel = .ok output ∧ response.output = some output := by
  unfold conclude at returned
  split at returned
  · cases returned
    dsimp only [stopped] at fine
    split at fine <;> cases fine
  · cases returned
    cases fine
  · split at returned
    · cases returned
    · cases returned
      cases fine
    · rename_i parsed accepted
      cases returned
      exact ⟨_, parsed, accepted, rfl⟩

variable (env cache r p key budget answer written) in
/-- A request that no rule and no entry stops is asked, if the budget allows it. -/
theorem ask_cases (cfg : EffectiveAIConfig) :
    (budget.all (·.canCall) = true ∧ ∃ budget',
      ask env cfg cache r p key budget answer written =
        ⟨(conclude env cache (cfg.cacheEnabled && r.cache) written r p key answer).1,
          some (callFor cfg r p), budget',
          (conclude env cache (cfg.cacheEnabled && r.cache) written r p key answer).2⟩ ∧
      ∀ b, budget = some b → b.canCall ∧
        ∃ b', budget' = some b' ∧ b'.calls = b.calls + 1 ∧ b'.maxCalls = b.maxCalls) ∨
    budget.all (·.canCall) = false ∧ ∃ response budget',
      ask env cfg cache r p key budget answer written = ⟨some response, none, budget', cache⟩ ∧
      response.status = .budgetExhausted := by
  cases budget with
  | none => exact .inl ⟨rfl, none, rfl, nofun⟩
  | some b =>
    cases able : b.canCall with
    | true =>
      refine .inl ⟨able, some (b.take r.operation).2, ?_, ?_⟩
      · simp [ask, CallBudget.take, able]
      · rintro b' ⟨⟩
        exact ⟨able, (b.take r.operation).2, rfl, by simp [CallBudget.take, able],
          by simp [CallBudget.take, able]⟩
    | false =>
      refine .inr ⟨able, ?_⟩
      simp only [ask, CallBudget.take, able]
      exact ⟨_, _, rfl, rfl⟩

/-! ### The boundary -/

/-- A request that ends without a call and with no output keeps every bound. -/
theorem Bounded.quiet {response : AIResponse} {budget' : Option CallBudget} {cache' : AICache}
    (validated : response.status = .ok →
      ∃ raw output, validate env raw r.schemaModel = .ok output ∧ response.output = some output) :
    Bounded env g r budget ⟨some response, none, budget', cache'⟩ where
  returns := nofun
  confined := nofun
  configured := nofun
  validated := by
    rintro response' ⟨⟩
    exact validated
  counted := fun called => absurd rfl called

theorem permit_error_status {cfg : EffectiveAIConfig} {response : AIResponse}
    (refused : g.permit env cfg r = .error response) : response.status ≠ .ok := by
  unfold permit at refused
  dsimp only at refused
  repeat' split at refused
  all_goals cases refused
  all_goals nofun

/-- What the gateway asks keeps the bounds that are the rules' and the budget's. -/
theorem bounded_ask (admitted : g.permit env (g.effective env.unicode tenant) r = .ok p)
    (own : budget.all (·.canCall) →
      either r.provider none = none ∨ p.isLocal ∨ g.IsGlobal env.unicode p)
    (parsed : budget.all (·.canCall) → ∀ text usage model, answer = .result text usage model →
      validate env (.str text) r.schemaModel ≠ .error .raised) :
    Bounded env g r budget
      (ask env (g.effective env.unicode tenant) cache r p key budget answer written) := by
  obtain ⟨⟨model, found⟩, confined⟩ := permit_ok admitted
  rcases ask_cases env cache r budget answer written p key (g.effective env.unicode tenant) with
    ⟨able, budget', asked, counted⟩ | ⟨-, response, budget', asked, exhausted⟩
  · rw [asked]
    refine ⟨(conclude_returns _).mpr (parsed able), ?_, ?_, ?_, fun _ => counted⟩
    · rintro call ⟨⟩
      exact ⟨rfl, confined⟩
    · rintro call ⟨⟩
      rcases own able with silent | allowed
      · rw [either_none _ _ silent, Option.getD_some] at found
        exact unforced_allowed rfl found
      · exact allowed
    · exact fun response returned fine => conclude_validated returned fine
  · rw [asked]
    exact .quiet fun fine => by rw [exhausted] at fine; cases fine

theorem run_of_refused {response : AIResponse}
    (refused : g.permit env (g.effective env.unicode tenant) r = .error response) :
    g.run env cache r tenant budget answer written = ⟨some response, none, budget, cache⟩ := by
  simp only [run, refused]

section Admitted
variable (admitted : g.permit env (g.effective env.unicode tenant) r = .ok p)
include admitted

theorem run_of_unwritten (unwritten : env.dumps r.input = none) :
    g.run env cache r tenant budget answer written = ⟨none, none, budget, cache⟩ := by
  simp only [run, admitted, cacheKey, unwritten, Option.map_none]

theorem run_of_fault {fault : Fault} (keyed : cacheKey env r p = some key)
    (failed : g.serves env cache r tenant p key = .error fault) :
    g.run env cache r tenant budget answer written = ⟨none, none, budget, cache⟩ := by
  unfold serves at failed
  simp only [run, admitted, keyed, failed]

theorem run_of_hit {response : AIResponse} (keyed : cacheKey env r p = some key)
    (hit : g.serves env cache r tenant p key = .ok (some response)) :
    g.run env cache r tenant budget answer written = ⟨some response, none, budget, cache⟩ := by
  unfold serves at hit
  simp only [run, admitted, keyed, hit]

theorem run_of_miss (keyed : cacheKey env r p = some key)
    (missed : g.serves env cache r tenant p key = .ok none) :
    g.run env cache r tenant budget answer written =
      ask env (g.effective env.unicode tenant) cache r p key budget answer written := by
  unfold serves at missed
  simp only [run, admitted, keyed, missed]

end Admitted

theorem serves_readable_iff : (∃ served, g.serves env cache r tenant p key = .ok served) ↔
    (((g.effective env.unicode tenant).cacheEnabled && r.cache) = true →
      Readable env cache r p key) := by
  unfold serves
  split
  · rename_i used
    rw [lookup_readable_iff]
    exact ⟨fun readable _ => readable, fun readable => readable used⟩
  · rename_i unused
    exact ⟨fun _ used => absurd used unused, fun _ => ⟨none, rfl⟩⟩

theorem serves_hit {response : AIResponse}
    (hit : g.serves env cache r tenant p key = .ok (some response)) :
    ∃ raw output, validate env raw r.schemaModel = .ok output ∧ response.output = some output := by
  unfold serves at hit
  split at hit
  · exact lookup_hit hit
  · cases hit

/-- A proper request keeps every bound. -/
theorem Proper.bounded (admitted : g.permit env (g.effective env.unicode tenant) r = .ok p)
    (proper : Proper env g cache r tenant budget answer p) :
    Bounded env g r budget (g.run env cache r tenant budget answer written) := by
  obtain ⟨input, dumped⟩ := Option.ne_none_iff_exists'.mp proper.written
  obtain ⟨key, keyed⟩ : ∃ key, cacheKey env r p = some key := by simp [cacheKey, dumped]
  obtain ⟨served, serves_⟩ := serves_readable_iff.mpr (proper.readable key keyed)
  cases served with
  | some response =>
    rw [run_of_hit admitted keyed serves_]
    exact .quiet fun _ => serves_hit serves_
  | none =>
    rw [run_of_miss admitted keyed serves_]
    exact bounded_ask admitted (proper.unforced key keyed serves_) (proper.parsed key keyed serves_)

/-- A request that keeps every bound was proper. -/
theorem Proper.of_bounded (admitted : g.permit env (g.effective env.unicode tenant) r = .ok p)
    (bounded : Bounded env g r budget (g.run env cache r tenant budget answer written)) :
    Proper env g cache r tenant budget answer p := by
  -- when the gateway asks, the call is made and its answer concluded
  have asked {key : Text} (keyed : cacheKey env r p = some key)
      (missed : g.serves env cache r tenant p key = .ok none) (able : budget.all (·.canCall)) :
      ∃ call, (g.run env cache r tenant budget answer written).call = some call ∧
        call.provider = p ∧ (g.run env cache r tenant budget answer written).returned =
          (conclude env cache ((g.effective env.unicode tenant).cacheEnabled && r.cache) written r p
            key answer).1 := by
    rw [run_of_miss admitted keyed missed]
    rcases ask_cases env cache r budget answer written p key
      (g.effective env.unicode tenant) with ⟨-, budget', asked, -⟩ | ⟨unable, -⟩
    · rw [asked]
      exact ⟨_, rfl, rfl, rfl⟩
    · rw [able] at unable
      cases unable
  refine ⟨?_, ?_, ?_, ?_⟩
  · intro unwritten
    refine bounded.returns ?_
    rw [run_of_unwritten admitted unwritten]
  · intro key keyed
    refine serves_readable_iff.mp ?_
    cases failed : g.serves env cache r tenant p key with
    | ok served => exact ⟨served, rfl⟩
    | error fault =>
      refine absurd ?_ bounded.returns
      rw [run_of_fault admitted keyed failed]
  · intro key keyed missed able
    obtain ⟨call, made, same, -⟩ := asked keyed missed able
    exact .inr (same ▸ bounded.configured call made)
  · intro key keyed missed able
    obtain ⟨-, -, -, returned⟩ := asked keyed missed able
    have returns := bounded.returns
    rw [returned] at returns
    exact (conclude_returns _).mp returns

/-- A request keeps every bound exactly when, the rules letting it through, it is proper. -/
theorem run_bounded_iff (env : Platform ι σ) (g : AIGateway) (cache : AICache) (r : AIRequest ι σ)
    (tenant : Option TenantAISettings) (budget : Option CallBudget) (answer : Answer)
    (written : Bool) :
    Bounded env g r budget (g.run env cache r tenant budget answer written) ↔
      ∀ p, g.permit env (g.effective env.unicode tenant) r = .ok p →
        Proper env g cache r tenant budget answer p := by
  constructor
  · exact fun bounded p admitted => .of_bounded admitted bounded
  · intro proper
    cases admitted : g.permit env (g.effective env.unicode tenant) r with
    | ok p => exact (proper p admitted).bounded admitted
    | error response =>
      rw [run_of_refused admitted]
      exact .quiet fun fine => absurd fine (permit_error_status admitted)

end RangeApply.Gateway.AIGateway
