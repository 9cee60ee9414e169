import RangeApply.Latch
import RangeApply.Served

/-! Concurrent calls of the extension's gate for one item. A request reads the run, makes its
precondition check and records the submit in three steps, and the last one does not look at
the flag again. -/
namespace RangeApply

inductive Request
  | idle
  /-- It has read the run, on which no submit was recorded. -/
  | read (r : RunId)
  /-- Its check is committed and found nothing. -/
  | checked (r : RunId)
  | answered (ok : Bool)
  deriving DecidableEq

/-- The committed rows and the requests in flight. -/
structure Race (ι : Type*) where
  slice : Slice
  request : ι → Request

namespace Race

section Step
variable {ι : Type*} [DecidableEq ι] (env : Env) (worker : WorkerId)

/-- A request gets on, over the rows it left behind. -/
def move (s : Race ι) (i : ι) (request : Request) (slice : Slice) : Race ι :=
  ⟨slice, fun j => if j = i then request else s.request j⟩

/-- The next step of one request, with what it reads besides the rows. -/
def advance (s : Race ι) (a : ι × GateReads) : Race ι :=
  match s.request a.1 with
  | .idle =>
    match ownRun worker s.slice with
    | .error _ => s.move a.1 (.answered false) s.slice
    | .ok found =>
      match gateRefusal a.2.check.now s.slice.opening found.2 with
      | some _ => s.move a.1 (.answered false) s.slice
      | none => s.move a.1 (.read found.1) s.slice
  | .read r =>
    let answer := preSubmitGate env a.2 s.slice
    s.move a.1 (if answer.1 ≠ [] then .answered false else .checked r) answer.2
  | .checked r =>
    s.move a.1 (.answered true) { s.slice with opening := markSubmit r s.slice.opening }
  | .answered _ => s

/-- The step does not record a submit on a run that already carries one. -/
def writesUnset (s : Race ι) (a : ι × GateReads) : Bool :=
  match s.request a.1 with
  | .checked r => !pressedAt s.slice.opening.runs r
  | _ => true

def Fresh (s : Race ι) : Prop := ∀ i, s.request i = .idle

/-- At most one request was answered ok. -/
def Exclusive (s : Race ι) : Prop :=
  ∀ i j, s.request i = .answered true → s.request j = .answered true → i = j

end Step

end Race

/-! ### The run a request reads -/

section Runs
variable {r : RunId}

theorem newerRun_press (entry : ExecutionRun × RunId) (best : Option (RunId × ExecutionRun)) :
    newerRun (best.map fun b => (b.1, if b.1 = r then b.2.press else b.2))
        (if entry.2 = r then entry.1.press else entry.1, entry.2) =
      (newerRun best entry).map fun b => (b.1, if b.1 = r then b.2.press else b.2) := by
  have status : (if entry.2 = r then entry.1.press else entry.1).status = entry.1.status := by
    split <;> rfl
  have number (b : RunId × ExecutionRun) :
      (if b.1 = r then b.2.press else b.2).runNumber = b.2.runNumber := by
    split <;> rfl
  have number' : (if entry.2 = r then entry.1.press else entry.1).runNumber = entry.1.runNumber := by
    split <;> rfl
  unfold newerRun
  dsimp only
  rw [status]
  split
  · cases best with
    | none => rfl
    | some b =>
      simp only [Option.map_some, number, number']
      split <;> rfl
  · rfl

theorem foldl_newerRun_press (r : RunId) (entries : List (ExecutionRun × RunId))
    (best : Option (RunId × ExecutionRun)) :
    (entries.map fun e => (if e.2 = r then e.1.press else e.1, e.2)).foldl newerRun
        (best.map fun b => (b.1, if b.1 = r then b.2.press else b.2)) =
      (entries.foldl newerRun best).map fun b => (b.1, if b.1 = r then b.2.press else b.2) := by
  induction entries generalizing best with
  | nil => rfl
  | cons entry entries ih =>
    rw [List.map_cons, List.foldl_cons, List.foldl_cons, newerRun_press, ih]

theorem zipIdx_modify_press (runs : List ExecutionRun) :
    (runs.modify r .press).zipIdx =
      runs.zipIdx.map fun e => (if e.2 = r then e.1.press else e.1, e.2) := by
  apply List.ext_getElem?
  intro n
  simp only [List.getElem?_zipIdx, List.getElem?_map, List.getElem?_modify]
  cases runs[n]? with
  | none => rfl
  | some run =>
    by_cases here : r = n
    · simp [here]
    · simp [here, Ne.symm here]

theorem crashedRun_press (r : RunId) (runs : List ExecutionRun) :
    (crashedRun (runs.modify r .press)).map Prod.fst = (crashedRun runs).map Prod.fst := by
  have folded := foldl_newerRun_press r runs.zipIdx none
  rw [Option.map_none] at folded
  rw [crashedRun, zipIdx_modify_press, folded, Option.map_map]
  rfl

end Runs

/-! ### The latch in the race -/

def Request.pc : Request → Latch.Pc
  | .idle => .idle
  | .read _ | .checked _ => .armed
  | .answered ok => if ok then .fired else .refused

namespace Race
variable {ι : Type*} {env : Env} {worker : WorkerId} {r₀ : RunId}

/-- The flag of the run, and the requests as its clients. -/
def latch (r₀ : RunId) (s : Race ι) : Latch.State ι where
  set := pressedAt s.slice.opening.runs r₀
  pc := fun i => (s.request i).pc

theorem fired_iff (s : Race ι) (i : ι) :
    (s.latch r₀).pc i = .fired ↔ s.request i = .answered true := by
  rw [show (s.latch r₀).pc i = (s.request i).pc from rfl]
  cases request : s.request i with
  | answered ok => cases ok <;> simp [Request.pc]
  | _ => simp [Request.pc]

def act (env : Env) (worker : WorkerId) (s : Race ι) (a : ι × GateReads) : Latch.Act ι :=
  match s.request a.1 with
  | .idle =>
    match ownRun worker s.slice with
    | .error _ => .refuse a.1
    | .ok found =>
      if found.2.submitInvoked then .read a.1
      else if (gateRefusal a.2.check.now s.slice.opening found.2).isSome then .refuse a.1
      else .read a.1
  | .read _ => if (preSubmitGate env a.2 s.slice).1 ≠ [] then .refuse a.1 else .skip
  | .checked _ => .fire a.1
  | .answered _ => .skip

/-- All requests speak of the run at `r₀`. -/
structure On (r₀ : RunId) (s : Race ι) : Prop where
  found : ∀ f, crashedRun s.slice.opening.runs = some f → f.1 = r₀
  requests : ∀ i r, s.request i = .read r ∨ s.request i = .checked r →
    r = r₀ ∧ r₀ < s.slice.opening.runs.length

theorem timely_iff (s : Race ι) (a : ι × GateReads) (on : s.On r₀) :
    Latch.Timely (s.latch r₀) (s.act env worker a) ↔ s.writesUnset a = true := by
  cases request : s.request a.1 with
  | idle =>
    simp only [act, writesUnset, request]
    split
    · simp [Latch.Timely]
    · split
      · simp [Latch.Timely]
      · split <;> simp [Latch.Timely]
  | read r =>
    simp only [act, writesUnset, request]
    split <;> simp [Latch.Timely]
  | checked r =>
    obtain ⟨rfl, -⟩ := on.requests a.1 r (.inr request)
    simp [act, writesUnset, request, Latch.Timely, latch, Request.pc]
  | answered ok => simp [act, writesUnset, request, Latch.Timely]

variable [DecidableEq ι]

theorem on_move {s : Race ι} (on : s.On r₀) (i : ι) (request : Request) {slice : Slice}
    (found : ∀ f, crashedRun slice.opening.runs = some f → f.1 = r₀)
    (length : slice.opening.runs.length = s.slice.opening.runs.length)
    (here : ∀ r, request = .read r ∨ request = .checked r →
      r = r₀ ∧ r₀ < s.slice.opening.runs.length) : (s.move i request slice).On r₀ := by
  refine ⟨found, fun j r waits => ?_⟩
  rw [show (s.move i request slice).slice = slice from rfl, length]
  by_cases same : j = i
  · exact here r (by simpa [move, same] using waits)
  · exact on.requests j r (by simpa [move, same] using waits)

theorem advance_on (s : Race ι) (a : ι × GateReads) (on : s.On r₀) :
    (s.advance env worker a).On r₀ := by
  unfold advance
  split
  · split
    · exact on_move on _ _ on.found rfl (by simp)
    · rename_i found own
      have here := crashedRun_some (ownRun_ok own)
      split
      · exact on_move on _ _ on.found rfl (by simp)
      · refine on_move on _ _ on.found rfl fun r waits => ?_
        have same : found.1 = r := by simpa using waits
        have at_ := on.found found (ownRun_ok own)
        exact ⟨same.symm.trans at_, at_ ▸ (List.getElem?_eq_some_iff.mp here.1).1⟩
  · rename_i r reading
    have runs := preSubmitGate_runs env a.2 s.slice
    refine on_move on _ _ (by rw [runs]; exact on.found) (by rw [runs]) fun r' waits => ?_
    split at waits
    · simp at waits
    · have same : r = r' := by simpa using waits
      exact same ▸ on.requests a.1 r (.inl reading)
  · refine on_move on _ _ (fun f found => ?_) (by simp [markSubmit]) (by simp)
    rename_i r _
    have same := crashedRun_press r s.slice.opening.runs
    rw [show (markSubmit r s.slice.opening).runs = s.slice.opening.runs.modify r .press from rfl]
      at found
    rw [found, Option.map_some] at same
    obtain ⟨f', before, first⟩ := Option.map_eq_some_iff.mp same.symm
    exact first ▸ on.found f' before
  · exact on

/-- A request that stays armed looks to the latch like no step. -/
theorem latch_move_armed {s : Race ι} {i : ι} {request : Request} {slice : Slice}
    (armed : (s.request i).pc = request.pc)
    (flag : pressedAt slice.opening.runs r₀ = pressedAt s.slice.opening.runs r₀) :
    (s.move i request slice).latch r₀ = s.latch r₀ := by
  simp only [latch, move, flag, Latch.State.mk.injEq, true_and]
  funext j
  split
  · rename_i here
    rw [here, armed]
  · rfl

theorem latch_move {s : Race ι} (i : ι) (request : Request) {slice : Slice}
    (flag : pressedAt slice.opening.runs r₀ = pressedAt s.slice.opening.runs r₀) :
    (s.move i request slice).latch r₀ = (s.latch r₀).move i request.pc := by
  simp only [latch, move, flag, Latch.State.move, Latch.State.mk.injEq, true_and]
  funext j
  split <;> rfl

/-- Every step of the race is a step of the latch. -/
theorem advance_latch (s : Race ι) (a : ι × GateReads) (on : s.On r₀) :
    (s.advance env worker a).latch r₀ = Latch.step (s.latch r₀) (s.act env worker a) := by
  have pc : (s.latch r₀).pc a.1 = (s.request a.1).pc := rfl
  unfold advance act
  split
  · rename_i idle
    have waits : (s.latch r₀).pc a.1 = .idle := by rw [pc, idle]; rfl
    split
    · rw [latch_move _ _ rfl, Latch.step, if_pos (.inl waits)]
      rfl
    · rename_i found own
      have here := crashedRun_some (ownRun_ok own)
      have flag : (s.latch r₀).set = found.2.submitInvoked := by
        simp only [latch, pressedAt, ← on.found found (ownRun_ok own), here.1]
      cases pressed : found.2.submitInvoked with
      | true =>
        simp only [gateRefusal, pressed, if_true]
        rw [latch_move _ _ rfl, Latch.step, if_pos waits, if_pos (flag.trans pressed)]
        rfl
      | false =>
        have unset : ¬ (s.latch r₀).set = true := by simp [flag, pressed]
        simp only [Bool.false_eq_true, if_false]
        cases gateRefusal a.2.check.now s.slice.opening found.2 with
        | some text =>
          simp only [Option.isSome_some, if_true]
          rw [latch_move _ _ rfl, Latch.step, if_pos (.inl waits)]
          rfl
        | none =>
          simp only [Option.isSome_none, Bool.false_eq_true, if_false]
          rw [latch_move _ _ rfl, Latch.step, if_pos waits, if_neg unset]
          rfl
  · rename_i r reading
    have armed : (s.latch r₀).pc a.1 = .armed := by rw [pc, reading]; rfl
    have flag : pressedAt (preSubmitGate env a.2 s.slice).2.opening.runs r₀ =
        pressedAt s.slice.opening.runs r₀ := by rw [preSubmitGate_runs]
    dsimp only
    split
    · rw [latch_move _ _ flag, Latch.step, if_pos (.inr armed)]
      rfl
    · rw [latch_move_armed (by rw [reading]; rfl) flag]
      rfl
  · rename_i r checked
    have armed : (s.latch r₀).pc a.1 = .armed := by rw [pc, checked]; rfl
    obtain ⟨rfl, bound⟩ := on.requests a.1 r (.inr checked)
    rw [Latch.step, if_pos armed]
    simp only [latch, move, markSubmit, pressedAt_press bound, Latch.State.move,
      Latch.State.mk.injEq, true_and]
    funext j
    split <;> rfl
  · rfl

open Trace in
/-- However the steps of any number of gate requests for one item interleave, at most one is
answered ok exactly when no request records its submit over another one's. -/
theorem gate_exclusive_iff (s : Race ι) (fresh : s.Fresh) (as : List (ι × GateReads)) :
    (run (advance env worker) s as).Exclusive ↔
      Guarded (advance env worker) (fun s a => s.writesUnset a) s as := by
  -- the run all requests are for
  obtain ⟨r₀, found⟩ : ∃ r₀, ∀ f, crashedRun s.slice.opening.runs = some f → f.1 = r₀ := by
    cases here : crashedRun s.slice.opening.runs with
    | none => exact ⟨0, fun f found => by contradiction⟩
    | some f => exact ⟨f.1, fun f' found => by cases found; rfl⟩
  have on : s.On r₀ := ⟨found, fun i r waits => by rw [fresh i] at waits; simp at waits⟩
  have exclusive := Latch.exclusive_iff_of_simulates (advance env worker) (latch r₀)
    (act env worker) (On r₀) (fun s a => advance_on s a)
    (fun s a => advance_latch s a) on
    (fun i => by rw [show (s.latch r₀).pc i = (s.request i).pc from rfl, fresh i]; rfl) as
  have guards : Guarded (advance env worker) (fun s a => Latch.Timely (s.latch r₀)
      (act env worker s a)) s as ↔ Guarded (advance env worker) (fun s a => s.writesUnset a) s as :=
    guarded_congr (On r₀) (fun s a => advance_on s a) (fun s a on => timely_iff s a on) on as
  rw [← guards, ← exclusive]
  simp only [Exclusive, Latch.Exclusive, fired_iff]

open Trace in
/-- A request that nothing interrupts is the gate of the service. -/
theorem advance_alone (s : Race ι) (i : ι) (g : GateReads) (idle : s.request i = .idle) :
    match gate env g worker s.slice with
    | .error _ =>
      run (advance env worker) s [(i, g), (i, g), (i, g)] = s.move i (.answered false) s.slice
    | .ok answer =>
      (run (advance env worker) s [(i, g), (i, g), (i, g)]).slice = answer.2 ∧
        (run (advance env worker) s [(i, g), (i, g), (i, g)]).request i =
          .answered (decide (answer.1 = [])) := by
  have here (t : Race ι) (request : Request) (slice : Slice) :
      (t.move i request slice).request i = request := if_pos rfl
  have settled (t : Race ι) (ok : Bool) (slice : Slice) :
      (t.move i (.answered ok) slice).advance env worker (i, g) = t.move i (.answered ok) slice := by
    simp only [advance, here]
  simp only [run_cons, run_nil]
  cases own : ownRun worker s.slice with
  | error e =>
    have first : s.advance env worker (i, g) = s.move i (.answered false) s.slice := by
      simp only [advance, idle, own]
    simp only [gate, own, bind, Except.bind, first, settled]
  | ok found =>
    cases refusal : gateRefusal g.check.now s.slice.opening found.2 with
    | some text =>
      have first : s.advance env worker (i, g) = s.move i (.answered false) s.slice := by
        simp only [advance, idle, own, refusal]
      simp only [gate, own, refusal, bind, Except.bind, first, settled, here]
      exact ⟨rfl, rfl⟩
    | none =>
      have first : s.advance env worker (i, g) = s.move i (.read found.1) s.slice := by
        simp only [advance, idle, own, refusal]
      have second : (s.move i (.read found.1) s.slice).advance env worker (i, g) =
          (s.move i (.read found.1) s.slice).move i
            (if (preSubmitGate env g s.slice).1 ≠ [] then .answered false else .checked found.1)
            (preSubmitGate env g s.slice).2 := by
        simp only [advance, here]
        rfl
      by_cases failed : (preSubmitGate env g s.slice).1 ≠ []
      · rw [if_pos failed] at second
        simp only [gate, own, refusal, bind, Except.bind, first, second, settled, here,
          if_pos failed, decide_eq_false failed]
        exact ⟨rfl, trivial⟩
      · rw [if_neg failed] at second
        simp only [gate, own, refusal, bind, Except.bind, first, second, if_neg failed]
        simp only [advance, here]
        exact ⟨rfl, rfl⟩

/-! ### Two requests at once -/

def openReads : GateReads := ⟨⟨.initial, 10, [], []⟩, [], true⟩

def twoRequests : Race Bool where
  slice := ⟨.executing 1 "Acme" "Engineer" "w", .empty⟩
  request := fun _ => .idle

open Trace in
/-- Both read the run before either records its submit, and both are answered ok. -/
theorem both_requests_pass :
    ¬ (run (advance .utc "w") twoRequests
      [(true, openReads), (false, openReads), (true, openReads), (false, openReads),
        (true, openReads), (false, openReads)]).Exclusive := by
  intro exclusive
  exact absurd (exclusive true false (by decide) (by decide)) (by decide)

open Trace in
/-- One after the other, only the first is answered ok. -/
theorem requests_in_turn_exclusive :
    (run (advance .utc "w") twoRequests
      [(true, openReads), (true, openReads), (true, openReads), (false, openReads),
        (false, openReads), (false, openReads)]).Exclusive := by
  exact (gate_exclusive_iff twoRequests (fun _ => rfl) _).mpr (by decide)

end Race

end RangeApply
