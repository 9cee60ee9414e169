import RangeApply.Conduct

/-! How a form is reached: the page is opened and looked at, its apply link is followed, a person is
waited for. Nothing is typed on the way. -/
namespace RangeApply.Playwright
open Program

section Rules
variable {ω α β : Type} {s : Session ω} {after : β → List Act → Session ω → Prop}
variable {raised : Failure → List Act → Session ω → Prop}

theorem Silent.runs_bind {m : Drive ω α} {f : α → Drive ω β} (first : Silent m)
    (failing : ∀ x s', s'.run = s.run → raised (.other x) [] s')
    (second : ∀ a s', s'.run = s.run → (f a).Runs Session.log s' after raised) :
    (m >>= f).Runs Session.log s after raised := by
  refine Program.runs_bind (first s) ?_ ?_
  · rintro _ _ s' ⟨⟨x, rfl⟩, rfl, same⟩
    exact failing x s' same
  · rintro a _ s' ⟨rfl, same⟩
    exact second a s' same

theorem runs_write {a : Act} {f : Unit → Drive ω β}
    (second : ∀ s', s'.run = s.run → (f ()).Runs Session.log s' (fun b more => after b (a :: more))
      fun e more => raised e (a :: more)) : (write a >>= f).Runs Session.log s after raised := by
  have first : (write a : Drive ω Unit).Runs Session.log s
      (fun _ acts s' => acts = [a] ∧ s'.run = s.run) (fun _ _ _ => False) :=
    runs_modify rfl ⟨rfl, rfl⟩
  refine Program.runs_bind first (fun _ _ _ never => never.elim) ?_
  rintro ⟨⟩ _ s' ⟨rfl, same⟩
  exact second s' same

theorem runs_peek {f : ω → α} {g : α → Drive ω β}
    (second : ∀ a, (g a).Runs Session.log s after raised) :
    (peek f >>= g).Runs Session.log s after raised :=
  second (f s.world)

theorem runs_setRun {run : Option RunState} {f : Unit → Drive ω β}
    (second : ∀ s', s'.run = run → (f ()).Runs Session.log s' after raised) :
    (setRun run >>= f).Runs Session.log s after raised := by
  have first : (setRun run : Drive ω Unit).Runs Session.log s
      (fun _ acts s' => acts = [] ∧ s'.run = run) (fun _ _ _ => False) :=
    runs_modify (List.append_nil _).symm ⟨rfl, rfl⟩
  refine Program.runs_bind first (fun _ _ _ never => never.elim) ?_
  rintro ⟨⟩ _ s' ⟨rfl, same⟩
  exact second s' same

end Rules

section Arrival
variable {ω : Type} {b : Browser ω} {s : Session ω} {rules : Rules}
variable (delivers : Touch → Prop) (usable : Text → FileInfo → Prop)

theorem settledScan_runs (u : Unicode) : (settledScan u b).Runs Session.log s
    (fun best acts s' => acts = [.looked best.2] ∧ s'.run = s.run)
    fun e acts s' => (∃ x, e = .other x) ∧ acts = [] ∧ s'.run = s.run := by
  refine (silent_peek _).runs_bind (fun x _ same => ⟨⟨x, rfl⟩, rfl, same⟩) fun rounds s₁ same₁ => ?_
  refine (silent_settleRounds u rounds).runs_bind
    (fun x _ same => ⟨⟨x, rfl⟩, rfl, same.trans same₁⟩) fun best s₂ same₂ => ?_
  refine runs_write fun s₃ same₃ => runs_pure ⟨rfl, ?_⟩
  exact same₃.trans (same₂.trans same₁)

/-- A look leads where the scan says. -/
theorem steps_looked (rules : Rules) {start : Stage} (scan : PageScan) (here : start = .away ∨ start = .clear) :
    Steps rules delivers usable 0 start (rules.next .away (.looked scan)) [.looked scan] :=
  .single (.looked scan) here (by simp) rfl

theorem looked_stage (rules : Rules) (scan : PageScan) : rules.next .away (.looked scan) = .away ∨
    rules.next .away (.looked scan) = .clear := by
  change (if _ then _ else _) = _ ∨ (if _ then _ else _) = _
  split
  · exact .inr rfl
  · exact .inl rfl

theorem looked_clear {scan : PageScan}
    (none : handoffCondition rules.unicode rules.strategy scan = none) :
    rules.next .away (.looked scan) = .clear := if_pos none

/-! ### The apply link -/

theorem openApplyLink_runs (link : ApplyLink) : (openApplyLink rules.unicode b link).Runs Session.log s
    (fun _ acts s' => Steps rules delivers usable 0 .away .away acts ∧ s'.run = s.run)
    fun _ acts s' => Steps rules delivers usable 0 .away .away acts ∧ s'.run = s.run := by
  unfold openApplyLink
  split
  · refine (silent_call _).runs_bind (fun _ _ same => ⟨.nil, same⟩) fun url s₁ same₁ => ?_
    have visit : Steps rules delivers usable 0 .away .away [.visited url] :=
      .single (.visited url) rfl (by simp) rfl
    refine runs_write fun s₂ same₂ => (silent_call _).runs_bind ?_ fun _ s₃ same₃ => runs_pure ?_
    · exact fun _ _ same => ⟨visit, same.trans (same₂.trans same₁)⟩
    · exact ⟨visit, same₃.trans (same₂.trans same₁)⟩
  · refine (silent_call _).runs_bind (fun _ _ same => ⟨.nil, same⟩) fun n s₁ same₁ => ?_
    have follow : Steps rules delivers usable 0 .away .away [.followed link.selector] :=
      .single (.followed link.selector) rfl (by simp) rfl
    split
    · exact runs_pure ⟨.nil, same₁⟩
    · refine runs_write fun s₂ same₂ => (silent_call _).runs_bind ?_ fun _ s₃ same₃ => runs_pure ?_
      · exact fun _ _ same => ⟨follow, same.trans (same₂.trans same₁)⟩
      · exact ⟨follow, same₃.trans (same₂.trans same₁)⟩

/-- Where the page is once its apply link was tried. -/
structure Followed (rules : Rules) (state : RunState) (r : RunState × Bool) (final : Stage) :
    Prop where
  same : r.1 = { state with frame := r.1.frame, scan := r.1.scan }
  stage : final = .away ∨ final = .clear
  looked : r.2 = true → final = rules.next .away (.looked r.1.scan)

theorem enterApplyLink_runs {state : RunState} (link : ApplyLink) (here : s.run = some state) :
    (enterApplyLink rules.unicode b state link).Runs Session.log s
      (fun r acts s' => s'.run = some r.1 ∧
        ∃ final, Followed rules state r final ∧ Steps rules delivers usable 0 .away final acts)
      fun _ acts s' => Steps rules delivers usable 0 .away .away acts ∧ s'.run = some state := by
  refine Program.runs_bind (openApplyLink_runs delivers usable link) ?_ ?_
  · exact fun _ _ _ ⟨steps, same⟩ => ⟨steps, same.trans here⟩
  rintro found acts s₁ ⟨steps, same₁⟩
  split
  · refine (silent_call _).runs_bind ?_ fun _ s₂ same₂ => ?_
    · intro _ _ same
      rw [List.append_nil]
      exact ⟨steps, same.trans (same₁.trans here)⟩
    · refine Program.runs_bind (settledScan_runs _) ?_ ?_
      · rintro _ _ s₃ ⟨-, rfl, same₃⟩
        rw [List.append_nil]
        exact ⟨steps, same₃.trans (same₂.trans (same₁.trans here))⟩
      · rintro best _ s₃ ⟨rfl, -⟩
        refine runs_setRun fun s₄ same₄ => runs_pure
          ⟨same₄, rules.next .away (.looked best.2), ⟨rfl, looked_stage rules best.2, ?_⟩, ?_⟩
        · exact fun _ => rfl
        · exact steps.append (steps_looked delivers usable rules best.2 (.inl rfl))
  · have stays : Followed rules state (state, false) .away := ⟨rfl, .inl rfl, fun h => by cases h⟩
    refine runs_pure ⟨same₁.trans here, .away, stays, ?_⟩
    rw [List.append_nil]
    exact steps

theorem followApplyLink_runs {state : RunState} (link : ApplyLink) (here : s.run = some state) :
    (followApplyLink rules.unicode b state link).Runs Session.log s
      (fun r acts s' => s'.run = some r.1 ∧
        ∃ final, Followed rules state r final ∧ Steps rules delivers usable 0 .away final acts)
      fun _ _ _ => False := by
  refine runs_orElse (enterApplyLink_runs delivers usable link here) ?_
  rintro _ acts s₁ ⟨steps, same₁⟩
  refine runs_pure ⟨same₁, .away, ⟨rfl, .inl rfl, fun h => by cases h⟩, ?_⟩
  rw [List.append_nil]
  exact steps

/-! ### The opening -/

/-- An error before anything was pressed. -/
def Failure.early (e : Failure) : Prop := ∃ e', e = .executor e' ∧ e'.beforeSubmit = true

/-- The program ends without an act, the run as it was, or raises such an error. -/
def Early {α : Type} (m : Drive ω α) (s : Session ω) : Prop :=
  m.Runs Session.log s (fun _ acts s' => acts = [] ∧ s'.run = s.run)
    fun e acts s' => e.early ∧ acts = [] ∧ s'.run = s.run

theorem failing_runs {α : Type} {m : Drive ω α} {error : Exn → ExecutorError}
    {after : α → List Act → Session ω → Prop} {raised : List Act → Session ω → Prop}
    (early : ∀ x, (error x).beforeSubmit = true)
    (runs : m.Runs Session.log s after fun e acts s' => (∃ x, e = .other x) ∧ raised acts s') :
    (failing error m).Runs Session.log s after fun e acts s' => e.early ∧ raised acts s' := by
  refine runs_orElse runs ?_
  rintro _ acts s' ⟨⟨x, rfl⟩, holds⟩
  refine runs_raise ⟨⟨_, rfl, early x⟩, ?_⟩
  rwa [List.append_nil]

theorem guarded_runs {α : Type} {m : Drive ω α} {classify : Exn → ExecutorError} {u : Unicode}
    {after : α → List Act → Session ω → Prop} (raised : List Act → Option RunState → Prop)
    (early : ∀ x, (classify x).beforeSubmit = true)
    (runs : m.Runs Session.log s after fun e acts s' => (∃ x, e = .other x) ∧ raised acts s'.run) :
    (guarded u b classify m).Runs Session.log s after
      fun e acts s' => e.early ∧ raised acts s'.run := by
  refine runs_orElse runs ?_
  rintro _ acts s' ⟨⟨x, rfl⟩, holds⟩
  refine Program.runs_bind (relaunchAfter_runs u x s') (fun _ _ _ never => never.elim) ?_
  rintro ⟨⟩ _ s₁ ⟨rfl, same⟩
  refine runs_raise ⟨⟨_, rfl, early x⟩, ?_⟩
  rwa [List.append_nil, List.append_nil, same]

theorem classifyNavigation_early (u : Unicode) (e : Exn) :
    (classifyNavigation u e).beforeSubmit = true := by
  unfold classifyNavigation before
  grind

theorem classifyFill_early (u : Unicode) (e : Exn) : (classifyFill u e).beforeSubmit = true := by
  unfold classifyFill before
  grind

theorem startBrowser_runs : Early (startBrowser b) s :=
  failing_runs (fun _ => rfl) (silent_call _ s)

theorem newPage_runs : Early (newPage b) s := by
  refine runs_orElse (silent_call _ s) ?_
  rintro _ _ s₁ ⟨⟨x, rfl⟩, rfl, same₁⟩
  have changed : (change b.relaunch : Drive ω Unit).Runs Session.log s₁
      (fun _ acts s' => acts = [] ∧ s'.run = s₁.run) (fun _ _ _ => False) :=
    runs_modify (List.append_nil _).symm ⟨rfl, rfl⟩
  refine Program.runs_bind changed (fun _ _ _ never => never.elim) ?_
  rintro ⟨⟩ _ s₂ ⟨rfl, same₂⟩
  exact runs_raise ⟨⟨_, rfl, rfl⟩, rfl, same₂.trans same₁⟩

theorem navigate_runs (package : Package) (start : Stage) :
    (navigate rules.unicode b package).Runs Session.log s
      (fun _ acts s' => Steps rules delivers usable 0 start .away acts ∧ s'.run = none)
      fun e acts s' => e.early ∧
        (∃ final, Steps rules delivers usable 0 start final acts) ∧ s'.run = none := by
  refine runs_setRun fun s₁ same₁ => ?_
  refine Program.runs_bind startBrowser_runs ?_ ?_
  · rintro e _ s₂ ⟨early, rfl, same₂⟩
    exact ⟨early, ⟨start, .nil⟩, same₂.trans same₁⟩
  rintro ⟨⟩ _ s₂ ⟨rfl, same₂⟩
  refine Program.runs_bind newPage_runs ?_ ?_
  · rintro e _ s₃ ⟨early, rfl, same₃⟩
    exact ⟨early, ⟨start, .nil⟩, same₃.trans (same₂.trans same₁)⟩
  rintro ⟨⟩ _ s₃ ⟨rfl, same₃⟩
  refine runs_write fun s₄ same₄ => runs_write fun s₅ same₅ => ?_
  have run₅ : s₅.run = none := same₅.trans (same₄.trans (same₃.trans (same₂.trans same₁)))
  have opened : Steps rules delivers usable 0 start .away [.opened] :=
    .single .opened trivial (by simp) rfl
  have visited : Steps rules delivers usable 0 .away .away [.visited package.canonicalUrl] :=
    .single (.visited _) rfl (by simp) rfl
  have loaded : Silent (do call (b.goto package.canonicalUrl); call b.wait : Drive ω Unit) :=
    (silent_call _).bind fun _ => silent_call _
  refine (guarded_runs (fun acts run => acts = [] ∧ run = s₅.run)
    (classifyNavigation_early rules.unicode) (loaded s₅)).mono ?_ ?_
  · rintro _ _ s₆ ⟨rfl, same₆⟩
    exact ⟨opened.append visited, same₆.trans run₅⟩
  · rintro e _ s₆ ⟨early, rfl, same₆⟩
    exact ⟨early, ⟨.away, opened.append visited⟩, same₆.trans run₅⟩

theorem discover_runs (u : Unicode) : (discover u b).Runs Session.log s
    (fun best acts s' => acts = [.looked best.2] ∧ s'.run = s.run)
    fun e acts s' => e.early ∧ acts = [] ∧ s'.run = s.run :=
  failing_runs (fun _ => rfl) (settledScan_runs u)

/-- What the state says of the page, at this stage of it. -/
structure RunState.Ready (rules : Rules) (state : RunState) (stage : Stage) : Prop where
  strategy : state.strategy = rules.strategy
  page : state.page = true
  unsent : state.postSubmit = none
  settled : stage = .away ∨ stage = .clear
  cleared : state.handoff = none → stage = .clear

/-- An opening that fails leaves no run. -/
def Unopened (rules : Rules) (delivers : Touch → Prop) (usable : Text → FileInfo → Prop)
    (start : Stage) (e : Failure) (acts : List Act) (s : Session ω) : Prop :=
  e.early ∧ (∃ final, Steps rules delivers usable 0 start final acts) ∧ s.run = none

theorem open_runs (package : Package) (start : Stage)
    (strategy : strategyFor package.atsFamily = rules.strategy) :
    (open_ rules.unicode b package).Runs Session.log s
      (fun state acts s' => s'.run = some state ∧
        ∃ final, state.Ready rules final ∧ Steps rules delivers usable 0 start final acts)
      (Unopened rules delivers usable start) := by
  refine Program.runs_bind (navigate_runs delivers usable package start)
    (fun _ _ _ holds => holds) ?_
  rintro ⟨⟩ arrived s₁ ⟨steps, same₁⟩
  refine Program.runs_bind (discover_runs _) ?_ ?_
  · rintro e _ s₂ ⟨early, rfl, same₂⟩
    rw [List.append_nil]
    exact ⟨early, ⟨.away, steps⟩, same₂.trans same₁⟩
  rintro best _ s₂ ⟨rfl, same₂⟩
  have looked := steps.append (steps_looked delivers usable rules best.2 (.inl rfl))
  have ready : RunState.Ready rules ⟨strategyFor package.atsFamily, true, best.1, best.2,
      handoffCondition rules.unicode (strategyFor package.atsFamily) best.2, none⟩
      (rules.next .away (.looked best.2)) := by
    refine ⟨strategy, rfl, rfl, looked_stage rules _, fun clear => looked_clear ?_⟩
    rw [← strategy]
    exact clear
  refine runs_setRun fun s₃ same₃ => ?_
  split
  · next message _ _ ambiguous _ =>
    have condition : handoffCondition rules.unicode (strategyFor package.atsFamily) best.2 =
        some (.ambiguousForm, message) := ambiguous
    -- There is no form here, so the link is followed from outside one.
    have away : rules.next .away (.looked best.2) = .away := by
      rw [strategy] at condition
      exact if_neg (by simp [condition])
    rw [away] at looked
    refine Program.runs_bind (followApplyLink_runs delivers usable _ same₃)
      (fun _ _ _ never => never.elim) ?_
    rintro r more s₄ ⟨-, final, followed, steps'⟩
    have whole := looked.append steps'
    refine runs_setRun fun s₅ same₅ => runs_pure ⟨same₅, final, ?_, ?_⟩
    · split
      · next form =>
        rw [followed.same]
        refine ⟨strategy, rfl, rfl, followed.stage, fun clear => ?_⟩
        rw [followed.looked form]
        refine looked_clear ?_
        rw [← strategy]
        exact clear
      · rw [followed.same]
        refine ⟨strategy, rfl, rfl, followed.stage, fun clear => ?_⟩
        simp [condition] at clear
    · simpa using whole
  · refine runs_pure ⟨same₃, _, ready, ?_⟩
    rw [List.append_nil]
    exact looked

theorem prepare_runs (rules : Rules) (package : Package) (start : Stage)
    (strategy : strategyFor package.atsFamily = rules.strategy) :
    (prepare rules.unicode b package).Runs Session.log s
      (fun _ acts s' => ∃ state final, s'.run = some state ∧ state.Ready rules final ∧
        Steps rules delivers usable 0 start final acts)
      (Unopened rules delivers usable start) := by
  refine Program.runs_bind (open_runs delivers usable package start strategy)
    (fun _ _ _ holds => holds) ?_
  rintro state acts s₁ ⟨-, final, ready, steps⟩
  refine runs_setRun fun s₂ same₂ => runs_pure ⟨_, final, same₂, ?_, ?_⟩
  · exact ⟨ready.strategy, ready.page, ready.unsent, ready.settled, ready.cleared⟩
  · rw [List.append_nil]
    exact steps

/-! ### The person -/

/-- What is left once the person had their time. -/
def Waited (rules : Rules) (delivers : Touch → Prop) (usable : Text → FileInfo → Prop)
    (start : Stage) (state : RunState) (r : Option RunState) (acts : List Act) (s : Session ω) :
    Prop :=
  match r with
  | none => s.run = some state ∧ ∃ final, Steps rules delivers usable 0 start final acts
  | some cleared => s.run = some cleared ∧ cleared.Ready rules .clear ∧
      Steps rules delivers usable 0 start .clear acts

theorem nextLook_runs (u : Unicode) : (nextLook u b).Runs Session.log s
    (fun best acts s' => acts = [.looked best.2] ∧ s'.run = s.run)
    fun _ acts s' => acts = [] ∧ s'.run = s.run := by
  refine (silent_call _).runs_bind (fun _ _ same => ⟨rfl, same⟩) fun _ s₁ same₁ => ?_
  refine (settledScan_runs u).mono ?_ ?_
  · exact fun _ _ _ ⟨acts, same⟩ => ⟨acts, same.trans same₁⟩
  · exact fun _ _ _ ⟨_, acts, same⟩ => ⟨acts, same.trans same₁⟩

theorem tryLook_runs (u : Unicode) : (tryLook u b).Runs Session.log s
    (fun look acts s' => acts = (look.toList.map fun best => .looked best.2) ∧ s'.run = s.run)
    fun _ _ _ => False := by
  have look : (do let best ← nextLook u b; pure (some best) :
      Drive ω (Option (Option Frame × PageScan))).Runs Session.log s
      (fun look acts s' => acts = (look.toList.map fun best => .looked best.2) ∧ s'.run = s.run)
      fun _ acts s' => acts = [] ∧ s'.run = s.run := by
    refine Program.runs_bind (nextLook_runs u) (fun _ _ _ holds => holds) ?_
    rintro best _ s₁ ⟨rfl, same₁⟩
    exact runs_pure ⟨rfl, same₁⟩
  refine runs_orElse look ?_
  rintro _ _ s₁ ⟨rfl, same₁⟩
  exact runs_pure ⟨rfl, same₁⟩

theorem waitRounds_runs {state : RunState} {stage : Stage} (ready : state.Ready rules stage)
    (rounds : Nat) {start : Stage} (outside : start = .away ∨ start = .clear)
    (here : s.run = some state) :
    (waitRounds rules.unicode b state rounds).Runs Session.log s
      (Waited rules delivers usable start state) fun _ _ _ => False := by
  induction rounds generalizing s start with
  | zero => exact runs_pure ⟨here, start, .nil⟩
  | succ rounds ih =>
    refine Program.runs_bind (tryLook_runs _) (fun _ _ _ never => never.elim) ?_
    rintro (_ | best) _ s₁ ⟨rfl, same₁⟩
    · exact runs_pure ⟨same₁.trans here, start, .nil⟩
    have looked := steps_looked delivers usable rules best.2 outside
    dsimp only
    split
    · next clear =>
      rw [ready.strategy] at clear
      rw [looked_clear clear] at looked
      refine runs_setRun fun s₂ same₂ => runs_pure ⟨same₂, ?_, looked⟩
      exact ⟨ready.strategy, ready.page, ready.unsent, .inr rfl, fun _ => rfl⟩
    · refine (ih (looked_stage rules best.2) (same₁.trans here)).mono ?_ fun _ _ _ never => never
      rintro (_ | cleared) more s₂
      · rintro ⟨same₂, final, steps⟩
        exact ⟨same₂, final, looked.append steps⟩
      · rintro ⟨same₂, cleared', steps⟩
        exact ⟨same₂, cleared', looked.append steps⟩

theorem waitForPerson_runs (x : Executor) {state : RunState} {stage : Stage}
    (ready : state.Ready rules stage) (reason : HandoffReason) {start : Stage}
    (outside : start = .away ∨ start = .clear) (here : s.run = some state) :
    (waitForPerson rules.unicode b x state reason).Runs Session.log s
      (Waited rules delivers usable start state) fun _ _ _ => False := by
  unfold waitForPerson
  split
  · exact runs_pure ⟨here, start, .nil⟩
  · exact runs_peek fun rounds => waitRounds_runs delivers usable ready rounds outside here

end Arrival

end RangeApply.Playwright
