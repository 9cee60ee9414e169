import RangeApply.Boundary

/-! Sequences of requests over one cache: every request keeps its bounds, and a budget allows no
more calls than it has. -/
namespace RangeApply.Gateway.AIGateway

variable {ι σ : Type} {env : Platform ι σ} {g : AIGateway} {cache : AICache} {r : AIRequest ι σ}
  {tenant : Option TenantAISettings} {answer : Answer} {written : Bool}

variable (env g cache r tenant answer written) in
/-- A budget is charged for a call and for nothing else. -/
theorem run_charges (b : CallBudget) :
    ∃ b', (g.run env cache r tenant (some b) answer written).budget = some b' ∧
      b'.maxCalls = b.maxCalls ∧
      ((g.run env cache r tenant (some b) answer written).call.isSome ∧ b.canCall ∧
          b'.calls = b.calls + 1 ∨
        (g.run env cache r tenant (some b) answer written).call.isSome = false ∧
          b'.calls = b.calls) := by
  unfold run
  dsimp only
  split
  · exact ⟨b, rfl, rfl, .inr ⟨rfl, rfl⟩⟩
  · split
    · exact ⟨b, rfl, rfl, .inr ⟨rfl, rfl⟩⟩
    · split
      · exact ⟨b, rfl, rfl, .inr ⟨rfl, rfl⟩⟩
      · exact ⟨b, rfl, rfl, .inr ⟨rfl, rfl⟩⟩
      · cases able : b.canCall with
        | true => exact ⟨(b.take r.operation).2, by simp [ask, CallBudget.take, able],
            by simp [CallBudget.take, able], .inl (by simp [ask, CallBudget.take, able])⟩
        | false => exact ⟨(b.take r.operation).2, by simp [ask, CallBudget.take, able],
            by simp [CallBudget.take, able], .inr (by simp [ask, CallBudget.take, able])⟩

/-- The cache, the budgets, and how many calls were made under each. -/
structure World where
  cache : AICache
  budgets : Nat → CallBudget
  asked : Nat → Nat

inductive Op (ι σ : Type)
  | run (r : AIRequest ι σ) (tenant : Option TenantAISettings) (budget : Option Nat)
      (answer : Answer) (written : Bool)
  /-- Whatever else happens to the cache. -/
  | tamper (cache : AICache)

namespace World

def start (cache : AICache) (limits : Nat → Option Int) (names : Nat → Text) : World :=
  ⟨cache, fun i => .fresh (limits i) (names i), fun _ => 0⟩

def step (env : Platform ι σ) (g : AIGateway) (w : World) : Op ι σ → World
  | .tamper cache => { w with cache := cache }
  | .run r tenant none answer written =>
    { w with cache := (g.run env w.cache r tenant none answer written).cache }
  | .run r tenant (some i) answer written =>
    let ran := g.run env w.cache r tenant (some (w.budgets i)) answer written
    { cache := ran.cache
      budgets := Function.update w.budgets i (ran.budget.getD (w.budgets i))
      asked := if ran.call.isSome then Function.update w.asked i (w.asked i + 1) else w.asked }

def runs (env : Platform ι σ) (g : AIGateway) (w : World) (ops : List (Op ι σ)) : World :=
  ops.foldl (step env g) w

/-- Every request of the sequence keeps its bounds. -/
def EachBounded (env : Platform ι σ) (g : AIGateway) (w : World) : List (Op ι σ) → Prop
  | [] => True
  | op :: ops => (match op with
      | .run r tenant budget answer written => Bounded env g r (budget.map w.budgets)
          (g.run env w.cache r tenant (budget.map w.budgets) answer written)
      | .tamper _ => True) ∧ EachBounded env g (w.step env g op) ops

/-- Every request of the sequence that the rules let through is proper. -/
def EachProper (env : Platform ι σ) (g : AIGateway) (w : World) : List (Op ι σ) → Prop
  | [] => True
  | op :: ops => (match op with
      | .run r tenant budget answer _ =>
        ∀ p, g.permit env (g.effective env.unicode tenant) r = .ok p →
          Proper env g w.cache r tenant (budget.map w.budgets) answer p
      | .tamper _ => True) ∧ EachProper env g (w.step env g op) ops

theorem each_bounded_iff (w : World) (ops : List (Op ι σ)) :
    EachBounded env g w ops ↔ EachProper env g w ops := by
  induction ops generalizing w with
  | nil => exact Iff.rfl
  | cons op ops ih =>
    unfold EachBounded EachProper
    refine and_congr ?_ (ih _)
    cases op with
    | run r tenant budget answer written => exact run_bounded_iff ..
    | tamper cache => exact Iff.rfl

/-- The calls under a budget are those it was charged for, and it never allows one too many. -/
def Charged (limits : Nat → Option Int) (w : World) : Prop :=
  ∀ i, (w.budgets i).maxCalls = limits i ∧ (w.budgets i).calls = w.asked i ∧
    ∀ most, limits i = some most → (w.asked i : Int) ≤ max most 0

theorem charged_step {limits : Nat → Option Int} {w : World} (charged : w.Charged limits)
    (op : Op ι σ) : (w.step env g op).Charged limits := by
  cases op with
  | tamper cache => exact charged
  | run r tenant budget answer written =>
    cases budget with
    | none => exact charged
    | some i =>
      intro j
      obtain ⟨b', left, most, called⟩ := run_charges env g w.cache r tenant answer written
        (w.budgets i)
      obtain ⟨limit, counted, bound⟩ := charged j
      by_cases here : j = i
      · subst here
        rcases called with ⟨made, able, more⟩ | ⟨idle, same⟩
        · have room : ∀ m, limits j = some m → (w.asked j : Int) < m := by
            intro m own
            rw [CallBudget.canCall, limit, own, counted] at able
            simpa using able
          simp only [step, left, made, if_true, Function.update_self, Option.getD_some]
          refine ⟨most.trans limit, by rw [more, counted], fun m own => ?_⟩
          have below := room m own
          push_cast
          omega
        · simp only [step, left, idle, Function.update_self, Option.getD_some]
          exact ⟨most.trans limit, same.trans counted, bound⟩
      · have same : (w.step env g (.run r tenant (some i) answer written)).asked j = w.asked j := by
          simp only [step]
          split
          · exact Function.update_of_ne here _ _
          · rfl
        rw [same]
        simp only [step, Function.update_of_ne here]
        exact ⟨limit, counted, bound⟩

theorem charged_runs {limits : Nat → Option Int} {w : World} (charged : w.Charged limits)
    (ops : List (Op ι σ)) : (w.runs env g ops).Charged limits := by
  induction ops generalizing w with
  | nil => exact charged
  | cons op ops ih => exact ih (charged_step charged op)

theorem charged_start (cache : AICache) (limits : Nat → Option Int) (names : Nat → Text) :
    (start cache limits names).Charged limits :=
  fun _ => ⟨rfl, rfl, fun _ _ => le_max_right _ _⟩

/-- In any sequence of requests, over any cache, every request keeps its bounds and no budget is
overdrawn, exactly when each request that the rules let through is proper. -/
theorem gateway_keeps_iff (env : Platform ι σ) (g : AIGateway) (cache : AICache)
    (limits : Nat → Option Int) (names : Nat → Text) (ops : List (Op ι σ)) :
    EachBounded env g (start cache limits names) ops ∧
        (∀ i most, limits i = some most →
          (((start cache limits names).runs env g ops).asked i : Int) ≤ max most 0) ↔
      EachProper env g (start cache limits names) ops := by
  rw [each_bounded_iff]
  constructor
  · exact And.left
  · intro proper
    exact ⟨proper, fun i => (charged_runs (charged_start cache limits names) ops i).2.2⟩

end World

/-! ### A cached entry with a wrong usage -/

theorem strip_map_toLower (t : Text) :
    Text.strip (t.map Char.toLower) = (Text.strip t).map Char.toLower := by
  have same : Char.isBlank ∘ Char.toLower = Char.isBlank := funext Char.isBlank_toLower
  simp only [Text.strip, List.rdropWhile, List.dropWhile_map, same, ← List.map_reverse]

theorem strip_strip (t : Text) : Text.strip (Text.strip t) = Text.strip t :=
  Text.strip_of_edges (Text.strip_head t) (Text.strip_last t)

theorem normalName_steady (t : Text) :
    normalName .ascii (normalName .ascii t) = normalName .ascii t := by
  change ((Text.strip ((Text.strip t).map Char.toLower)).map Char.toLower) = _
  rw [strip_map_toLower, strip_strip, List.map_map]
  exact List.map_congr_left fun c _ => Char.toLower_toLower c

/-- Texts only, and a digest that keeps the parts apart. -/
def textPlatform : Platform Unit Empty where
  unicode := .ascii
  steady := normalName_steady
  plain := by decide
  loads := fun _ => .error .rejected
  dumps := fun _ => some "\x7b\x7d".ascii
  schema := fun schema _ => schema.elim
  usage := fun fields => if fields = [] then some .empty else none
  digest := fun parts => ['\x00'].intercalate parts

def localGateway : AIGateway where
  config := ⟨true, "ollama".ascii, none, 20, 50, 1024, true, ["ollama".ascii, "stub".ascii]⟩
  injected := none
  settings := ⟨none, none, none, "gemini-2.0-flash".ascii, "llama3.2".ascii⟩

def summary : AIRequest Unit Empty :=
  ⟨.summarize, "t1".ascii, .job, "hello".ascii, (), "v1".ascii, none, "v1".ascii, none, none, none,
    none, true⟩

/-- Every file holds an entry under its own key, with a good output and a usage that is a list. -/
def listedUsage : AICache := .disk fun key => some (.holds (.obj [
  ("format".ascii, .number (some 1)), ("key".ascii, .str key), ("output".ascii, .str "hi".ascii),
  ("usage".ascii, .arr [.number (some 1)])]))

/-- The request ends in an exception. -/
theorem listed_usage_raises :
    ¬ World.EachBounded textPlatform localGateway (.start listedUsage (fun _ => none) fun _ => [])
      [.run summary none none (.result "hi".ascii .empty none) true] := by
  intro bounded
  have raised : (localGateway.run textPlatform listedUsage summary none none
      (.result "hi".ascii .empty none) true).returned.isNone := by decide +kernel
  exact bounded.1.returns (Option.isNone_iff_eq_none.mp raised)

end RangeApply.Gateway.AIGateway
