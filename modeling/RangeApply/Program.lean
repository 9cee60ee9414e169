import Mathlib.Logic.Basic

/-! Programs over a state that may raise, where what was done before an exception stays done, and
what holds once one has run. The state carries a log that only grows, and the rules speak of what a
program added to it. -/

/-- A value or an exception, and the state that was reached. -/
def Program (σ ε α : Type) : Type := σ → Except ε α × σ

namespace Program
variable {σ ε ε' α β : Type}

def done (a : α) : Program σ ε α := fun s => (.ok a, s)

def raise (e : ε) : Program σ ε α := fun s => (.error e, s)

def andThen (m : Program σ ε α) (f : α → Program σ ε β) : Program σ ε β := fun s =>
  match m s with
  | (.ok a, s) => f a s
  | (.error e, s) => (.error e, s)

instance : Monad (Program σ ε) where
  pure := done
  bind := andThen

/-- `try: … except`. -/
def orElse (m : Program σ ε α) (handler : ε → Program σ ε' α) : Program σ ε' α := fun s =>
  match m s with
  | (.ok a, s) => (.ok a, s)
  | (.error e, s) => handler e s

/-- `try: … finally`. -/
def finally_ (m : Program σ ε α) (last : σ → σ) : Program σ ε α := fun s =>
  match m s with
  | (r, s) => (r, last s)

def get : Program σ ε σ := fun s => (.ok s, s)

def modify (f : σ → σ) : Program σ ε Unit := fun s => (.ok (), f s)

/-! ### What a run leaves -/

variable {τ : Type}

/-- What is promised of a value, or of an exception. -/
def Outcome (after : α → List τ → σ → Prop) (raised : ε → List τ → σ → Prop) :
    Except ε α → List τ → σ → Prop
  | .ok a => after a
  | .error e => raised e

theorem Outcome.imp {after after' : α → List τ → σ → Prop} {raised raised' : ε → List τ → σ → Prop}
    {r : Except ε α} {acts acts' : List τ} {s s' : σ} (promised : Outcome after raised r acts s)
    (value : ∀ a, after a acts s → after' a acts' s')
    (error : ∀ e, raised e acts s → raised' e acts' s') : Outcome after' raised' r acts' s' := by
  cases r with
  | ok a => exact value a promised
  | error e => exact error e promised

/-- From this state the program adds to the log what `after` allows of its value and of the state it
leaves, or raises as `raised` allows. -/
def Runs (log : σ → List τ) (m : Program σ ε α) (s : σ) (after : α → List τ → σ → Prop)
    (raised : ε → List τ → σ → Prop) : Prop :=
  ∃ acts, log (m s).2 = log s ++ acts ∧ Outcome after raised (m s).1 acts (m s).2

variable {log : σ → List τ} {m : Program σ ε α} {s : σ}
variable {after : α → List τ → σ → Prop} {raised : ε → List τ → σ → Prop}

theorem runs_pure {a : α} (here : after a [] s) :
    Runs log (pure a : Program σ ε α) s after raised :=
  ⟨[], (List.append_nil _).symm, here⟩

theorem runs_raise {e : ε} (here : raised e [] s) :
    Runs log (raise e : Program σ ε α) s after raised :=
  ⟨[], (List.append_nil _).symm, here⟩

theorem runs_get {f : σ → Program σ ε α} (then_ : Runs log (f s) s after raised) :
    Runs log (get >>= f) s after raised := then_

theorem runs_modify {f : σ → σ} {acts : List τ} {after : Unit → List τ → σ → Prop}
    (adds : log (f s) = log s ++ acts) (here : after () acts (f s)) :
    Runs log (modify f : Program σ ε Unit) s after raised :=
  ⟨acts, adds, here⟩

theorem Runs.mono (runs : Runs log m s after raised) {after' : α → List τ → σ → Prop}
    {raised' : ε → List τ → σ → Prop} (stronger : ∀ a acts s', after a acts s' → after' a acts s')
    (failing : ∀ e acts s', raised e acts s' → raised' e acts s') :
    Runs log m s after' raised' := by
  obtain ⟨acts, adds, promised⟩ := runs
  exact ⟨acts, adds, promised.imp (fun a => stronger a acts _) fun e => failing e acts _⟩

/-- What holds of every end. -/
theorem Runs.always {holds : List τ → σ → Prop}
    (runs : Runs log m s (fun _ => holds) fun _ => holds) :
    ∃ acts, log (m s).2 = log s ++ acts ∧ holds acts (m s).2 := by
  obtain ⟨acts, adds, promised⟩ := runs
  refine ⟨acts, adds, ?_⟩
  cases ended : (m s).1 with
  | ok a =>
    rw [ended] at promised
    exact promised
  | error e =>
    rw [ended] at promised
    exact promised

theorem runs_bind {f : α → Program σ ε β} {between : α → List τ → σ → Prop}
    {caught : ε → List τ → σ → Prop} {after : β → List τ → σ → Prop}
    (first : Runs log m s between caught)
    (failing : ∀ e acts s', caught e acts s' → raised e acts s')
    (second : ∀ a acts s', between a acts s' → Runs log (f a) s'
      (fun b more => after b (acts ++ more)) fun e more => raised e (acts ++ more)) :
    Runs log (m >>= f) s after raised := by
  obtain ⟨acts, adds, promised⟩ := first
  change Runs log (andThen m f) s after raised
  unfold Runs andThen
  match ran : m s with
  | (.ok a, s') =>
    rw [ran] at adds promised
    obtain ⟨more, adds', promised'⟩ := second a acts s' promised
    refine ⟨acts ++ more, ?_, promised'.imp (fun _ holds => holds) fun _ holds => holds⟩
    rw [← List.append_assoc, ← adds]
    exact adds'
  | (.error e, s') =>
    rw [ran] at adds promised
    exact ⟨acts, adds, failing e acts s' promised⟩

theorem runs_orElse {handler : ε → Program σ ε' α} {caught : ε → List τ → σ → Prop}
    {raised : ε' → List τ → σ → Prop} (first : Runs log m s after caught)
    (second : ∀ e acts s', caught e acts s' → Runs log (handler e) s'
      (fun a more => after a (acts ++ more)) fun e more => raised e (acts ++ more)) :
    Runs log (m.orElse handler) s after raised := by
  obtain ⟨acts, adds, promised⟩ := first
  unfold Runs orElse
  match ran : m s with
  | (.ok a, s') =>
    rw [ran] at adds promised
    exact ⟨acts, adds, promised⟩
  | (.error e, s') =>
    rw [ran] at adds promised
    obtain ⟨more, adds', promised'⟩ := second e acts s' promised
    refine ⟨acts ++ more, ?_, promised'.imp (fun _ holds => holds) fun _ holds => holds⟩
    rw [← List.append_assoc, ← adds]
    exact adds'

theorem runs_finally {last : σ → σ} (quiet : ∀ s, log (last s) = log s)
    (first : Runs log m s (fun a acts s' => after a acts (last s'))
      fun e acts s' => raised e acts (last s')) :
    Runs log (m.finally_ last) s after raised := by
  obtain ⟨acts, adds, promised⟩ := first
  exact ⟨acts, (quiet _).trans adds, promised.imp (fun _ holds => holds) fun _ holds => holds⟩

/-- A loop over a list, by an invariant of what is done, the accumulator, the log and the state. -/
theorem runs_foldlM (inv : List β → α → List τ → σ → Prop) {f : α → β → Program σ ε α}
    {bs : List β} {a : α} (start : inv [] a [] s)
    (round : ∀ past b rest a acts s, bs = past ++ b :: rest → inv past a acts s →
      Runs log (f a b) s (fun a' more => inv (past ++ [b]) a' (acts ++ more))
        fun e more => raised e (acts ++ more)) :
    Runs log (bs.foldlM f a) s (inv bs) raised := by
  suffices loop : ∀ past rest a acts s, bs = past ++ rest → inv past a acts s →
      Runs log (rest.foldlM f a) s (fun a' more => inv bs a' (acts ++ more))
        (fun e more => raised e (acts ++ more)) from loop [] bs a [] s rfl start
  intro past rest
  induction rest generalizing past with
  | nil =>
    intro a acts s whole holds
    rw [List.append_nil] at whole
    subst whole
    refine runs_pure ?_
    rw [List.append_nil]
    exact holds
  | cons b rest ih =>
    intro a acts s whole holds
    rw [List.foldlM_cons]
    refine runs_bind (round past b rest a acts s whole holds) (fun _ _ _ holds => holds) ?_
    intro a' more s' holds'
    have later := ih (past ++ [b]) a' (acts ++ more) s' (by simp [whole]) holds'
    refine later.mono (fun _ _ _ final => ?_) fun _ _ _ final => ?_
    · rwa [← List.append_assoc]
    · rwa [← List.append_assoc]

end Program
