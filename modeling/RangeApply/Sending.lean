import RangeApply.Typing

/-! How a run of the executor ends: held before the click, or with one click and what was seen after
it. -/
namespace RangeApply.Playwright
open Program

/-! ### Held -/

/-- The result of a run that did not press submit. -/
structure Unpressed (r : StoppedResult) : Prop where
  attempted : r.submitAttempted = false
  outcome : r.outcome ≠ .submitted ∧ r.outcome ≠ .unknown
  references : r.confirmationReference = none ∧ r.externalApplicationId = none

theorem unpressed_handoff (reason : HandoffReason) (message : String) (state : RunState)
    (stoppedAt : String) (steps : List String) :
    Unpressed (handoffResult reason message state stoppedAt false steps) :=
  ⟨rfl, ⟨nofun, nofun⟩, rfl, rfl⟩

theorem unpressed_stopped {outcome : ExecutionOutcome}
    (held : outcome ≠ .submitted ∧ outcome ≠ .unknown) (errorClass : Option ErrorClass)
    (message stoppedAt : String) :
    Unpressed (stopped outcome false errorClass message stoppedAt) :=
  ⟨rfl, held, rfl, rfl⟩

theorem unpressed_refusal {t : Tally} {state : RunState} {notes : List (Text × String)}
    {r : StoppedResult} (refused : t.refusal state notes = some r) : Unpressed r := by
  unfold Tally.refusal at refused
  split at refused
  · obtain rfl := Option.some.inj refused
    exact unpressed_stopped (by decide) ..
  split at refused
  · obtain rfl := Option.some.inj refused
    exact unpressed_handoff ..
  split at refused
  · obtain rfl := Option.some.inj refused
    exact unpressed_handoff ..
  · cases refused

theorem complete_of_not_refused {t : Tally} {state : RunState} {notes : List (Text × String)}
    (passes : t.refusal state notes = none) : t.complete := by
  unfold Tally.refusal at passes
  split at passes
  · cases passes
  next missing =>
  split at passes
  · cases passes
  next files =>
  split at passes
  · cases passes
  next left => exact ⟨not_not.mp missing, not_not.mp files, not_not.mp left⟩

section Held
variable {ω : Type} {b : Browser ω} {s : Session ω} {rules : Rules} {x : Executor}
variable (delivers : Touch → Prop) (usable : Text → FileInfo → Prop)

/-- The acts of a run that stops before the click, and the state it leaves. -/
structure Halted (rules : Rules) (delivers : Touch → Prop) (usable : Text → FileInfo → Prop)
    (start : Stage) (acts : List Act) (s : Session ω) : Prop where
  steps : ∃ final, Steps rules delivers usable 0 start final acts
  unsent : ∀ state, s.run = some state → state.postSubmit = none

variable {delivers usable} in
theorem Halted.after {start middle : Stage} {acts more : List Act}
    (halted : Halted rules delivers usable middle more s)
    (steps : Steps rules delivers usable 0 start middle acts) :
    Halted rules delivers usable start (acts ++ more) s := by
  obtain ⟨final, steps'⟩ := halted.steps
  exact ⟨⟨final, steps.append steps'⟩, halted.unsent⟩

/-- What a check leaves: the way is clear, or the run is held. -/
def Checked {α : Type} (rules : Rules) (delivers : Touch → Prop) (usable : Text → FileInfo → Prop)
    (start : Stage) (stateOf : α → RunState) (r : Except StoppedResult α) (acts : List Act)
    (s : Session ω) : Prop :=
  match r with
  | .ok a => s.run = some (stateOf a) ∧ (stateOf a).Ready rules .clear ∧
      Steps rules delivers usable 0 start .clear acts
  | .error r => Unpressed r ∧ Halted rules delivers usable start acts s

theorem requireMappedForm_runs (form : FormSnapshot) (state : RunState) :
    (requireMappedForm rules.unicode form state : Drive ω Unit).Runs Session.log s
      (fun _ acts s' => acts = [] ∧ s'.run = s.run)
      fun e acts s' => e.early ∧ acts = [] ∧ s'.run = s.run := by
  unfold requireMappedForm
  split
  · exact runs_pure ⟨rfl, rfl⟩
  · exact runs_raise ⟨⟨_, rfl, rfl⟩, rfl, rfl⟩

/-- A person is waited for, and the form is compared with the one that was mapped. -/
theorem waited_runs {α : Type} (form : FormSnapshot) {state : RunState} {stage start : Stage}
    (ready : state.Ready rules stage) (reason : HandoffReason)
    (outside : start = .away ∨ start = .clear) (here : s.run = some state) (held : StoppedResult)
    (unpressed : Unpressed held) (stateOf : α → RunState) (result : RunState → α)
    (same : ∀ cleared, stateOf (result cleared) = cleared) :
    (do
      match ← waitForPerson rules.unicode b x state reason with
      | none => pure (.error held)
      | some cleared => do
        requireMappedForm rules.unicode form cleared
        pure (.ok (result cleared)) : Drive ω (Except StoppedResult α)).Runs Session.log s
      (Checked rules delivers usable start stateOf)
      fun e acts s' => e.early ∧ Halted rules delivers usable start acts s' := by
  refine Program.runs_bind (waitForPerson_runs delivers usable x ready reason outside here)
    (fun _ _ _ never => never.elim) ?_
  rintro (_ | cleared) acts s₁
  · rintro ⟨same₁, final, steps⟩
    refine runs_pure ⟨unpressed, ⟨final, ?_⟩, fun state' run => ?_⟩
    · rw [List.append_nil]
      exact steps
    · obtain rfl := Option.some.inj (same₁.symm.trans run)
      exact ready.unsent
  · rintro ⟨same₁, cleared', steps⟩
    refine Program.runs_bind (requireMappedForm_runs form cleared) ?_ ?_
    · rintro e _ s₂ ⟨early, rfl, same₂⟩
      refine ⟨early, ⟨.clear, ?_⟩, fun state' run => ?_⟩
      · rw [List.append_nil]
        exact steps
      · obtain rfl := Option.some.inj ((same₂.trans same₁).symm.trans run)
        exact cleared'.unsent
    · rintro ⟨⟩ _ s₂ ⟨rfl, same₂⟩
      refine runs_pure ⟨?_, ?_, ?_⟩
      · rw [same]
        exact same₂.trans same₁
      · rw [same]
        exact cleared'
      · simpa using steps

theorem pastWall_runs (form : FormSnapshot) {state : RunState} {start : Stage}
    (ready : state.Ready rules start) (here : s.run = some state) :
    (pastWall rules.unicode b x form state).Runs Session.log s
      (Checked rules delivers usable start id)
      fun e acts s' => e.early ∧ Halted rules delivers usable start acts s' := by
  unfold pastWall
  split
  · next clear =>
    have clear := ready.cleared clear
    subst clear
    exact runs_pure ⟨here, ready, .nil⟩
  · next reason message _ =>
    exact waited_runs delivers usable form ready reason ready.settled here _
      (unpressed_handoff ..) id id fun _ => rfl

theorem pastLateWall_runs (form : FormSnapshot) {state : RunState} {stage start : Stage}
    (ready : state.Ready rules stage) (typed : start = .clear ∨ start = .typed)
    (here : s.run = some state) :
    (pastLateWall rules.unicode b x form state).Runs Session.log s
      (Checked rules delivers usable start Prod.fst)
      fun e acts s' => e.early ∧ Halted rules delivers usable start acts s' := by
  refine Program.runs_bind (guarded_runs (fun acts run => acts = [] ∧ run = s.run)
    (classifyFill_early _) (silent_call _ s)) ?_ ?_
  · rintro e _ s₁ ⟨early, rfl, same₁⟩
    refine ⟨early, ⟨start, .nil⟩, fun state' run => ?_⟩
    obtain rfl := Option.some.inj ((same₁.trans here).symm.trans run)
    exact ready.unsent
  rintro scan _ s₁ ⟨rfl, same₁⟩
  have step : Steps rules delivers usable 0 start (rules.next start (.rescanned scan))
      [.rescanned scan] := .single (.rescanned scan) typed (by simp) rfl
  have passes (free : rules.walled scan = false) :
      rules.next start (.rescanned scan) = .clear := by simp [Rules.next, free]
  have run₁ := same₁.trans here
  refine runs_write fun s₂ same₂ => ?_
  have clear (free : rules.walled scan = false) : Checked rules delivers usable start Prod.fst
      (.ok (state, scan)) [.rescanned scan] s₂ := by
    rw [passes free] at step
    exact ⟨same₂.trans run₁, ⟨ready.strategy, ready.page, ready.unsent, .inr rfl, fun _ => rfl⟩, step⟩
  split
  · next none_ =>
    rw [ready.strategy] at none_
    exact runs_pure (clear (by simp [Rules.walled, none_]))
  next reason message some_ =>
  rw [ready.strategy] at some_
  split
  · next wall =>
    have away : rules.next start (.rescanned scan) = .away := by
      simp [Rules.next, Rules.walled, some_, wall]
    rw [away] at step
    refine runs_setRun fun s₃ same₃ => ?_
    have held : RunState.Ready rules { state with handoff := some (reason, message) } .away :=
      ⟨ready.strategy, ready.page, ready.unsent, .inl rfl, nofun⟩
    refine (waited_runs delivers usable form held reason (.inl rfl) same₃ _
      (unpressed_handoff ..) Prod.fst (fun cleared => (cleared, cleared.scan)) fun _ => rfl).mono
      ?_ ?_
    · rintro (r | a) more s₄
      · exact fun ⟨unpressed, halted⟩ => ⟨unpressed, halted.after step⟩
      · exact fun ⟨run, ready', steps⟩ => ⟨run, ready', step.append steps⟩
    · exact fun e more s₄ ⟨early, halted⟩ => ⟨early, halted.after step⟩
  · next free => exact runs_pure (clear (by simp [Rules.walled, some_, free]))

/-! ### The control and the gate -/

theorem firstWhere_runs {test : Text → Drive ω Bool} (silent : ∀ selector, Silent (test selector))
    (selectors : List Text) : (firstWhere test selectors).Runs Session.log s
      (fun _ acts s' => acts = [] ∧ s'.run = s.run) fun _ _ _ => False := by
  induction selectors generalizing s with
  | nil => exact runs_pure ⟨rfl, rfl⟩
  | cons selector rest ih =>
    have tried : (Program.orElse (test selector) fun _ => pure false :
        Drive ω Bool).Runs Session.log s (fun _ acts s' => acts = [] ∧ s'.run = s.run)
        fun _ _ _ => False := by
      refine runs_orElse (silent selector s) ?_
      rintro _ _ s₁ ⟨-, rfl, same₁⟩
      exact runs_pure ⟨rfl, same₁⟩
    refine Program.runs_bind tried (fun _ _ _ never => never.elim) ?_
    rintro passed _ s₁ ⟨rfl, same₁⟩
    split
    · exact runs_pure ⟨rfl, same₁⟩
    · refine ih.mono ?_ fun _ _ _ never => never
      exact fun _ _ _ ⟨acts, same₂⟩ => ⟨acts, same₂.trans same₁⟩

theorem findSubmit_runs (u : Unicode) (frame : Option Frame) (strategy : Strategy) (scan : PageScan) :
    (findSubmit u b frame strategy scan).Runs Session.log s
      (fun _ acts s' => acts = [] ∧ s'.run = s.run) fun _ _ _ => False := by
  refine Program.runs_bind (firstWhere_runs (fun selector => ?_) _)
    (fun _ _ _ never => never.elim) ?_
  · refine (silent_call _).bind fun n => ?_
    split
    · exact silent_pure _
    · exact silent_call _
  rintro known _ s₁ ⟨rfl, same₁⟩
  split
  · exact runs_pure ⟨rfl, same₁⟩
  · refine (firstWhere_runs (fun selector => ?_) _).mono ?_ fun _ _ _ never => never
    · exact (silent_call _).bind fun _ => silent_pure _
    · exact fun _ _ _ ⟨acts, same₂⟩ => ⟨acts, same₂.trans same₁⟩

theorem askGate_runs (gate : Gate ω) (gated : rules.gated = true → gate.isSome = true) :
    (askGate gate).Runs Session.log s
      (fun failures acts s' => s'.run = s.run ∧
        ∃ final, Steps rules delivers usable 0 .clear final acts ∧
          (failures = [] → final = .approved ∨ rules.gated = false ∧ final = .clear))
      fun e acts s' => (gate.isSome = true ∧ ∃ x, e = .other x) ∧ acts = [] ∧ s'.run = s.run := by
  unfold askGate
  split
  · refine runs_pure ⟨rfl, .clear, .nil, fun _ => .inr ⟨?_, rfl⟩⟩
    by_contra on
    exact absurd (gated (Bool.not_eq_false _ ▸ on)) (by simp)
  · refine (silent_call _).runs_bind (fun x _ same => ⟨⟨rfl, x, rfl⟩, rfl, same⟩) ?_
    intro failures s₁ same₁
    refine runs_write fun s₂ same₂ => runs_pure
      ⟨same₂.trans same₁, rules.next .clear (.asked failures), ?_, fun go => .inl ?_⟩
    · exact .single (.asked failures) rfl (by simp) rfl
    · simp [Rules.next, go]

end Held

/-! ### The click -/

section Click
variable {ω : Type} {b : Browser ω} {s : Session ω} {u : Unicode} {state : RunState}
variable {urlBefore : Text}

/-- What is kept of the page after the click: the last look, of a submission that was seen or of a
wait that saw nothing. -/
inductive Kept (u : Unicode) (state : RunState) (r : StoppedResult) (acts : List Act) :
    Option RunState → Prop
  | seen (scan : PageScan) (submitted : r.outcome = .submitted)
      (last : acts.getLast? = some (.watched scan))
      (confirmed : scan.confirms u state.strategy = true ∨
        scan.confirmingUrl u state.strategy = true) :
    Kept u state r acts (some { state with postSubmit := some scan })
  | silence (scan : PageScan) (nothing : r = silence) (last : acts.getLast? = some (.watched scan))
      (unconfirmed : scan.confirms u state.strategy = false) :
    Kept u state r acts (some { state with postSubmit := some scan })
  | nothing (other : r.outcome ≠ .submitted)
      (references : r.confirmationReference = none ∧ r.externalApplicationId = none) :
    Kept u state r acts (some state)

/-- The result of a run that pressed submit. -/
structure Sent (u : Unicode) (state : RunState) (r : StoppedResult) (acts : List Act)
    (run : Option RunState) : Prop where
  attempted : r.submitAttempted = true
  outcome : r.outcome = .submitted ∨ r.outcome = .unknown ∨ r.outcome = .handoff ∨
    r.outcome = .needsReview
  kept : Kept u state r acts run

def Watched (acts : List Act) : Prop := ∀ a ∈ acts, ∃ scan, a = .watched scan

theorem lookAfter_runs (frame : Option Frame) : (lookAfter b frame).Runs Session.log s
    (fun look acts s' => acts = [.watched look.2] ∧ s'.run = s.run)
    fun e acts s' => (∃ x, e = .other x) ∧ acts = [] ∧ s'.run = s.run := by
  have look (frame : Option Frame) (s : Session ω) : (do
      call b.wait
      let scan ← call (b.scan frame)
      write (.watched scan)
      pure (frame, scan) : Drive ω (Option Frame × PageScan)).Runs Session.log s
      (fun look acts s' => acts = [.watched look.2] ∧ s'.run = s.run)
      fun e acts s' => (∃ x, e = .other x) ∧ acts = [] ∧ s'.run = s.run := by
    refine (silent_call _).runs_bind (fun x _ same => ⟨⟨x, rfl⟩, rfl, same⟩) fun _ s₁ same₁ => ?_
    refine (silent_call _).runs_bind ?_ fun scan s₂ same₂ => ?_
    · exact fun x _ same => ⟨⟨x, rfl⟩, rfl, same.trans same₁⟩
    · exact runs_write fun s₃ same₃ => runs_pure ⟨rfl, same₃.trans (same₂.trans same₁)⟩
  refine runs_orElse (look frame s) ?_
  rintro e _ s₁ ⟨other, rfl, same₁⟩
  split
  · exact runs_raise ⟨other, rfl, same₁⟩
  · rw [← same₁]
    exact look none s₁

theorem verdictOf_sent {scan : PageScan} {r : StoppedResult}
    (verdict : verdictOf u state urlBefore scan = some r) : r.submitAttempted = true ∧
      ((r.outcome = .submitted ∧ (scan.confirms u state.strategy = true ∨
        scan.confirmingUrl u state.strategy = true)) ∨
      ((r.outcome = .handoff ∨ r.outcome = .needsReview) ∧
        r.confirmationReference = none ∧ r.externalApplicationId = none)) := by
  unfold verdictOf at verdict
  dsimp only at verdict
  split at verdict
  · next success =>
    obtain rfl := Option.some.inj verdict
    rw [Bool.or_eq_true, Bool.and_eq_true] at success
    exact ⟨rfl, .inl ⟨rfl, success.imp_right And.right⟩⟩
  split at verdict
  · obtain rfl := Option.some.inj verdict
    exact ⟨rfl, .inr ⟨.inl rfl, rfl, rfl⟩⟩
  split at verdict
  · obtain rfl := Option.some.inj verdict
    exact ⟨rfl, .inr ⟨.inr rfl, rfl, rfl⟩⟩
  · cases verdict

theorem verdictOf_none {scan : PageScan} (verdict : verdictOf u state urlBefore scan = none) :
    scan.confirms u state.strategy = false := by
  unfold verdictOf at verdict
  dsimp only at verdict
  split at verdict
  · cases verdict
  · next success =>
    rw [Bool.or_eq_true, not_or] at success
    exact Bool.eq_false_iff.mpr success.1

/-- The state once a verdict was kept, or was not. -/
def RunState.keeping (state : RunState) (scan : PageScan) (verdict : Option StoppedResult) :
    RunState :=
  if verdict.any fun r => decide (r.outcome = .submitted) then { state with postSubmit := some scan }
  else state

theorem watchRound_runs (frame : Option Frame) (here : s.run = some state) :
    (watchRound u b state urlBefore frame).Runs Session.log s
      (fun round acts s' => acts = [.watched round.1.2] ∧
        round.2 = verdictOf u state urlBefore round.1.2 ∧
        s'.run = some (state.keeping round.1.2 round.2))
      fun e acts s' => (∃ x, e = .other x) ∧ acts = [] ∧ s'.run = some state := by
  refine Program.runs_bind (lookAfter_runs frame) ?_ ?_
  · exact fun _ _ _ ⟨other, acts, same⟩ => ⟨other, acts, same.trans here⟩
  rintro look _ s₁ ⟨rfl, same₁⟩
  unfold keepSubmitted RunState.keeping
  dsimp only
  split
  · next submitted =>
    refine runs_setRun fun s₂ same₂ => runs_pure ⟨rfl, rfl, ?_⟩
    rw [if_pos submitted]
    exact same₂
  · next other =>
    refine runs_pure ⟨rfl, rfl, ?_⟩
    rw [if_neg other]
    exact same₁.trans here

theorem kept_verdict {scan : PageScan} {r : StoppedResult} {acts : List Act}
    (verdict : verdictOf u state urlBefore scan = some r)
    (last : acts.getLast? = some (.watched scan)) :
    Sent u state r acts (some (state.keeping scan (some r))) := by
  obtain ⟨attempted, ⟨submitted, confirmed⟩ | ⟨other, references⟩⟩ := verdictOf_sent verdict
  · refine ⟨attempted, .inl submitted, ?_⟩
    have keeps : state.keeping scan (some r) = { state with postSubmit := some scan } := by
      simp [RunState.keeping, submitted]
    rw [keeps]
    exact .seen scan submitted last confirmed
  · refine ⟨attempted, .inr (.inr other), ?_⟩
    have apart : r.outcome ≠ .submitted := by
      rcases other with h | h <;> simp [h]
    have keeps : state.keeping scan (some r) = state := by
      simp [RunState.keeping, apart]
    rw [keeps]
    exact .nothing apart references

theorem sent_later {r : StoppedResult} {acts more : List Act} {run : Option RunState}
    (sent : Sent u state r more run) : Sent u state r (acts ++ more) run := by
  obtain ⟨attempted, outcome, kept⟩ := sent
  refine ⟨attempted, outcome, ?_⟩
  cases kept with
  | seen scan submitted last confirmed =>
    exact .seen scan submitted (by rw [List.getLast?_append, last]; rfl) confirmed
  | silence scan nothing last unconfirmed =>
    exact .silence scan nothing (by rw [List.getLast?_append, last]; rfl) unconfirmed
  | nothing other references => exact .nothing other references

theorem watchRounds_runs (rounds : Nat) (frame : Option Frame) (here : s.run = some state) :
    (watchRounds u b state urlBefore rounds frame).Runs Session.log s
      (fun r acts s' => Watched acts ∧ Sent u state r acts s'.run)
      fun e acts s' => (∃ x, e = .other x) ∧ Watched acts ∧ s'.run = some state := by
  have one (scan : PageScan) : Watched [.watched scan] := by
    intro a member
    exact ⟨scan, List.mem_singleton.mp member⟩
  induction rounds generalizing s frame with
  | zero =>
    refine Program.runs_bind (watchRound_runs frame here) ?_ ?_
    · rintro _ _ _ ⟨other, rfl, same⟩
      exact ⟨other, by simp [Watched], same⟩
    rintro ⟨look, verdict⟩ _ s₁ ⟨rfl, judged, same₁⟩
    cases verdict with
    | some r =>
      refine runs_pure ⟨one look.2, ?_⟩
      rw [same₁]
      exact kept_verdict judged.symm rfl
    | none =>
      refine runs_setRun fun s₂ same₂ => runs_pure ⟨one look.2, rfl, .inr (.inl rfl), ?_⟩
      rw [same₂]
      exact .silence look.2 rfl rfl (verdictOf_none judged.symm)
  | succ rounds ih =>
    refine Program.runs_bind (watchRound_runs frame here) ?_ ?_
    · rintro _ _ _ ⟨other, rfl, same⟩
      exact ⟨other, by simp [Watched], same⟩
    rintro ⟨look, verdict⟩ _ s₁ ⟨rfl, judged, same₁⟩
    cases verdict with
    | some r =>
      refine runs_pure ⟨one look.2, ?_⟩
      rw [same₁]
      exact kept_verdict judged.symm rfl
    | none =>
      have kept : s₁.run = some state := same₁
      refine (ih look.1 kept).mono ?_ ?_
      · exact fun r more s₂ ⟨watched, sent⟩ =>
          ⟨List.forall_mem_append.mpr ⟨one look.2, watched⟩, sent_later sent⟩
      · exact fun e more s₂ ⟨other, watched, same₂⟩ =>
          ⟨other, List.forall_mem_append.mpr ⟨one look.2, watched⟩, same₂⟩

theorem unknown_runs (message : String) (e : Exn) (here : s.run = some state) (acts : List Act) :
    (unknown u b message e).Runs Session.log s
      (fun r more s' => more = [] ∧ Sent u state r acts s'.run) fun _ _ _ => False := by
  refine Program.runs_bind (relaunchAfter_runs u e s) (fun _ _ _ never => never.elim) ?_
  rintro ⟨⟩ _ s₁ ⟨rfl, same₁⟩
  refine runs_pure ⟨rfl, rfl, .inr (.inl rfl), ?_⟩
  rw [same₁.trans here]
  exact .nothing nofun ⟨rfl, rfl⟩

theorem afterSubmit_runs (here : s.run = some state) :
    (afterSubmit u b state urlBefore).Runs Session.log s
      (fun r acts s' => Watched acts ∧ Sent u state r acts s'.run) fun _ _ _ => False := by
  refine runs_peek fun rounds => runs_orElse (watchRounds_runs rounds _ here) ?_
  rintro _ acts s₁ ⟨⟨x, rfl⟩, watched, same₁⟩
  refine (unknown_runs _ x same₁ acts).mono ?_ fun _ _ _ never => never
  rintro r _ s₂ ⟨rfl, sent⟩
  rw [List.append_nil]
  exact ⟨watched, sent⟩

/-- The click comes first, and is the only one. -/
theorem press_runs (selector : Text) (here : s.run = some state) :
    (press u b state selector).Runs Session.log s
      (fun r acts s' => ∃ watched, acts = .pressed selector :: watched ∧ Watched watched ∧
        Sent u state r acts s'.run) fun _ _ _ => False := by
  refine runs_peek fun urlBefore => runs_write fun s₁ same₁ => ?_
  refine Program.runs_bind (?clicked : Program.Runs Session.log _ s₁
    (fun _ acts s' => acts = [] ∧ s'.run = some state) fun _ _ _ => False)
    (fun _ _ _ never => never.elim) ?_
  case clicked =>
    have clicks : Silent (do call (b.submit state.frame selector); pure none : Drive ω (Option Exn)) :=
      (silent_call _).bind fun _ => silent_pure none
    refine runs_orElse ((clicks s₁).mono ?_ fun _ _ _ holds => holds) ?_
    · exact fun _ _ _ ⟨acts, same⟩ => ⟨acts, same.trans (same₁.trans here)⟩
    · rintro _ _ s₂ ⟨⟨x, rfl⟩, rfl, same₂⟩
      exact runs_pure ⟨rfl, same₂.trans (same₁.trans here)⟩
  rintro (_ | e) _ s₂ ⟨rfl, same₂⟩
  · refine (afterSubmit_runs same₂).mono ?_ fun _ _ _ never => never
    intro r more s₃ ⟨watched, sent⟩
    have later : Sent u state r ([.pressed selector] ++ more) s₃.run := sent_later sent
    exact ⟨more, rfl, watched, later⟩
  · refine (unknown_runs _ e same₂ [.pressed selector]).mono ?_ fun _ _ _ never => never
    rintro r _ s₃ ⟨rfl, sent⟩
    exact ⟨[], rfl, by simp [Watched], sent⟩

theorem steps_watched {rules : Rules} (delivers : Touch → Prop) (usable : Text → FileInfo → Prop)
    {acts : List Act} (watched : Watched acts) : Steps rules delivers usable 0 .sent .sent acts := by
  induction acts with
  | nil => exact .nil
  | cons a acts ih =>
    obtain ⟨scan, rfl⟩ := watched a List.mem_cons_self
    have first : Steps rules delivers usable 0 .sent .sent [.watched scan] :=
      .single (.watched scan) rfl (by simp) rfl
    exact first.append (ih fun b member => watched b (List.mem_cons_of_mem _ member))

/-- From where the click is permitted. -/
theorem steps_pressed {rules : Rules} (delivers : Touch → Prop) (usable : Text → FileInfo → Prop)
    {start : Stage} {selector : Text} {acts : List Act}
    (permitted : rules.permits start (.pressed selector)) (watched : Watched acts) :
    Steps rules delivers usable 1 start .sent (.pressed selector :: acts) := by
  have click : Steps rules delivers usable 1 start .sent [.pressed selector] :=
    ⟨⟨permitted, trivial⟩, rfl, rfl, by simp, backed_of_no_upload (by simp)⟩
  exact click.append (steps_watched delivers usable watched)

end Click

end RangeApply.Playwright
