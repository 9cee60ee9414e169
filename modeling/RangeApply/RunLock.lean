import Mathlib.Data.List.Basic
import RangeApply.Rows

/-! The lock of scheduling runs: a read of the latest RUNNING row, then an insert. Any number of
`SchedulerService.run` calls of one tenant take their steps in any order. -/
namespace RangeApply

inductive SchedulerRunStatus
  | running | completed | failed
  deriving DecidableEq, Repr

/-- The fields of `SchedulerRunRow` that the lock reads and writes. -/
structure SchedulerRun where
  status : SchedulerRunStatus
  startedAt : Time
  heartbeatAt : Option Time
  completedAt : Option Time
  errors : List String
  deriving DecidableEq

/-- A RUNNING row whose heartbeat is older than this is treated as dead. -/
def runLeaseSeconds : Time := 600

structure RunArgs where
  window : Int
  force : Bool

namespace SchedulerRun

def fresh (now : Time) : SchedulerRun := ⟨.running, now, some now, none, []⟩

def stale (now : Time) (run : SchedulerRun) : Bool :=
  match run.heartbeatAt with
  | none => true
  | some heartbeat => decide (runLeaseSeconds < now - heartbeat)

def supersede (now : Time) (note : String) (run : SchedulerRun) : SchedulerRun :=
  { run with status := .failed, completedAt := some now, errors := run.errors ++ [note] }

def heartbeat (now : Time) (run : SchedulerRun) : SchedulerRun :=
  { run with heartbeatAt := some now }

/-- The end of `run`, whatever became of the row meanwhile. -/
def finish (now : Time) (status : SchedulerRunStatus) (errors : List String) (run : SchedulerRun) :
    SchedulerRun :=
  { run with
    status := status, completedAt := some now, heartbeatAt := some now, errors := errors.take 100 }

end SchedulerRun

/-- Where a call of `run` stands. A call that has read the running run keeps how many rows there
were. -/
inductive RunPhase
  | idle
  | marking (r : Nat) (note : String) (seen : Nat)
  | inserting (seen : Nat)
  | looping (r : Nat)
  | failing (r : Nat) (error : String)
  | over
  deriving DecidableEq

/-- What happened to a run, newest first. -/
inductive RunEvent
  | admitted (r : Nat) (i : OpportunityId)
  | superseded (r : Nat)
  deriving DecidableEq

/-- The `scheduler_runs` of the tenant, in the order they were inserted, and its calls. -/
structure RunSystem where
  rows : List SchedulerRun
  phase : Nat → RunPhase
  log : List RunEvent

/-- One step of a call. -/
inductive RunStep
  | read (p : Nat) (now : Time)
  | mark (p : Nat) (now : Time)
  | insert (p : Nat) (now : Time)
  | admission (p : Nat) (i : OpportunityId)
  | heartbeat (p : Nat) (now : Time)
  | complete (p : Nat) (now : Time) (errors : List String)
  | raise (p : Nat) (error : String)
  | fail (p : Nat) (now : Time) (errors : List String)
  | die (p : Nat)

namespace RunSystem

def start : RunSystem := ⟨[], fun _ => .idle, []⟩

def goes (s : RunSystem) (p : Nat) (phase : RunPhase) : RunSystem :=
  { s with phase := fun q => if q = p then phase else s.phase q }

def edit (s : RunSystem) (r : Nat) (f : SchedulerRun → SchedulerRun) : RunSystem :=
  { s with rows := s.rows.modify r f }

def note (s : RunSystem) (e : RunEvent) : RunSystem := { s with log := e :: s.log }

def statusOf (s : RunSystem) (r : Nat) : Option SchedulerRunStatus :=
  s.rows[r]?.map SchedulerRun.status

/-- `running_run`: of the RUNNING rows the one that started last. -/
def runningRun (s : RunSystem) : Option (SchedulerRun × Nat) :=
  s.rows.zipIdx.foldl (fun latest x =>
    if x.1.status = .running ∧ latest.all fun y => y.1.startedAt < x.1.startedAt then some x
    else latest) none

/-- `_acquire` up to its write: refused, on to the insert, or a run to supersede first. -/
def acquire (s : RunSystem) (args : RunArgs) (now : Time) : RunPhase :=
  if args.window < 1 then .over
  else match s.runningRun with
    | none => .inserting s.rows.length
    | some (current, r) =>
      if current.stale now then .marking r "superseded: heartbeat stale" s.rows.length
      else if args.force then .marking r "superseded: forced" s.rows.length
      else .over

/-- A step of a call that is not there to take it changes nothing. -/
def step (args : Nat → RunArgs) (s : RunSystem) : RunStep → RunSystem
  | .read p now =>
    match s.phase p with
    | .idle => s.goes p (s.acquire (args p) now)
    | _ => s
  | .mark p now =>
    match s.phase p with
    | .marking r note seen =>
      ((s.edit r (.supersede now note)).note (.superseded r)).goes p (.inserting seen)
    | _ => s
  | .insert p now =>
    match s.phase p with
    | .inserting _ => { s with rows := s.rows ++ [SchedulerRun.fresh now] }.goes p (.looping s.rows.length)
    | _ => s
  | .admission p i =>
    match s.phase p with
    | .looping r => s.note (.admitted r i)
    | _ => s
  | .heartbeat p now =>
    match s.phase p with
    | .looping r => s.edit r (.heartbeat now)
    | _ => s
  | .complete p now errors =>
    match s.phase p with
    | .looping r => (s.edit r (.finish now .completed errors)).goes p .over
    | _ => s
  | .raise p error =>
    match s.phase p with
    | .looping r => s.goes p (.failing r error)
    | _ => s
  | .fail p now errors =>
    match s.phase p with
    | .failing r error => (s.edit r (.finish now .failed (errors ++ [error]))).goes p .over
    | _ => s
  | .die p => s.goes p .over

def run (args : Nat → RunArgs) : RunSystem → List RunStep → RunSystem
  | s, [] => s
  | s, l :: rest => run args (s.step args l) rest

/-- A run is superseded when its call is out of its pass: it crashed, raised or ended. A row is
inserted when no run is RUNNING that was inserted since the running run was read. -/
def Orderly (s : RunSystem) : RunStep → Prop
  | .mark p _ => ∀ r note seen, s.phase p = .marking r note seen → ∀ q, s.phase q ≠ .looping r
  | .insert p _ => ∀ seen, s.phase p = .inserting seen →
      ∀ r, seen ≤ r → s.statusOf r ≠ some .running
  | _ => True

def Follows (args : Nat → RunArgs) : RunSystem → List RunStep → Prop
  | _, [] => True
  | s, l :: rest => s.Orderly l ∧ Follows args (s.step args l) rest

def Admits (s : RunSystem) (p r : Nat) : Prop :=
  s.phase p = .looping r ∧ s.statusOf r = some .running

/-- The lock keeps its word: one RUNNING run admits, a superseded one has admitted nothing
since, and it has stayed FAILED. -/
structure Exclusive (s : RunSystem) : Prop where
  one : ∀ p q r r', s.Admits p r → s.Admits q r' → p = q
  quiet : ∀ later earlier r, s.log = later ++ .superseded r :: earlier →
    ∀ i, .admitted r i ∉ later
  failed : ∀ r, .superseded r ∈ s.log → s.statusOf r = some .failed

/-! ### What a step does to the rows -/

section Rows
variable {s : RunSystem} {r r' : Nat}

@[simp] theorem statusOf_goes (s : RunSystem) (p : Nat) (phase : RunPhase) (r : Nat) :
    (s.goes p phase).statusOf r = s.statusOf r := rfl

@[simp] theorem statusOf_note (s : RunSystem) (e : RunEvent) (r : Nat) :
    (s.note e).statusOf r = s.statusOf r := rfl

theorem statusOf_edit (s : RunSystem) (r r' : Nat) (f : SchedulerRun → SchedulerRun) :
    (s.edit r f).statusOf r' =
      if r = r' then s.rows[r']?.map (fun run => (f run).status) else s.statusOf r' := by
  unfold statusOf edit
  rw [List.getElem?_modify]
  split
  · cases s.rows[r']? <;> rfl
  · simp

theorem statusOf_append (s : RunSystem) (now : Time) (r : Nat) :
    ({ s with rows := s.rows ++ [SchedulerRun.fresh now] } : RunSystem).statusOf r =
      if r = s.rows.length then some .running else s.statusOf r := by
  unfold statusOf
  rw [List.getElem?_append]
  split
  · rename_i old
    rw [if_neg (by omega)]
  · rename_i new
    by_cases last : r = s.rows.length
    · simp [last, SchedulerRun.fresh]
    · have beyond : s.rows[r]? = none := by
        rw [List.getElem?_eq_none_iff]
        omega
      have none : [SchedulerRun.fresh now][r - s.rows.length]? = none := by
        rw [List.getElem?_eq_none_iff, List.length_singleton]
        omega
      rw [if_neg last, beyond, none]

theorem lt_of_statusOf {status : SchedulerRunStatus} (stored : s.statusOf r = some status) :
    r < s.rows.length := by
  by_contra beyond
  rw [statusOf, List.getElem?_eq_none_iff.mpr (by omega)] at stored
  cases stored

theorem latest_running (rows : List (SchedulerRun × Nat)) (latest : Option (SchedulerRun × Nat)) :
    let read := rows.foldl (fun latest x =>
      if x.1.status = .running ∧ latest.all fun y => y.1.startedAt < x.1.startedAt then some x
      else latest) latest
    (∀ x, read = some x → latest = some x ∨ (x ∈ rows ∧ x.1.status = .running)) ∧
      (read = none → latest = none ∧ ∀ x ∈ rows, x.1.status ≠ .running) := by
  induction rows generalizing latest with
  | nil => simp
  | cons x rows ih =>
    rw [List.foldl_cons]
    obtain ⟨found, missed⟩ := ih (if x.1.status = .running ∧
      latest.all fun y => y.1.startedAt < x.1.startedAt then some x else latest)
    constructor
    · intro y read
      rcases found y read with here | ⟨member, running⟩
      · split at here
        · rename_i newer
          cases here
          exact .inr ⟨List.mem_cons_self, newer.1⟩
        · exact .inl here
      · exact .inr ⟨List.mem_cons_of_mem _ member, running⟩
    · intro read
      obtain ⟨before, rest⟩ := missed read
      split at before
      · cases before
      · rename_i older
        subst before
        refine ⟨rfl, List.forall_mem_cons.mpr ⟨fun running => older ⟨running, rfl⟩, rest⟩⟩

theorem runningRun_some {current : SchedulerRun} (read : s.runningRun = some (current, r)) :
    s.statusOf r = some .running := by
  rcases (latest_running s.rows.zipIdx none).1 _ read with none | ⟨member, running⟩
  · cases none
  · rw [List.mem_zipIdx_iff_getElem?] at member
    rw [statusOf, member]
    exact congrArg some running

theorem runningRun_none (read : s.runningRun = none) : s.statusOf r ≠ some .running := by
  intro running
  obtain ⟨run, row, status⟩ := Option.map_eq_some_iff.mp running
  have member : (run, r) ∈ s.rows.zipIdx := by
    rw [List.mem_zipIdx_iff_getElem?]
    exact row
  exact ((latest_running s.rows.zipIdx none).2 read).2 _ member status

end Rows

/-! ### The invariant -/

/-- What a call in this phase relies on: nothing runs that it has not read and that was there when
it read, and the run of its pass is its own. -/
def Fits (s : RunSystem) (p : Nat) : RunPhase → Prop
  | .marking r _ seen => r < s.rows.length ∧ seen ≤ s.rows.length ∧
      ∀ r', s.statusOf r' = some .running → r' = r ∨ seen ≤ r'
  | .inserting seen => seen ≤ s.rows.length ∧ ∀ r, s.statusOf r = some .running → seen ≤ r
  | .looping r => r < s.rows.length ∧ .superseded r ∉ s.log ∧
      ∀ q, s.phase q = .looping r → q = p
  | _ => True

/-- An older event of the log does not forbid a newer one. -/
def Allows (newer older : RunEvent) : Prop :=
  ∀ r i, newer = .admitted r i → older ≠ .superseded r

structure Locked (s : RunSystem) : Prop where
  unique : ∀ r r', s.statusOf r = some .running → s.statusOf r' = some .running → r = r'
  fits : ∀ p, s.Fits p (s.phase p)
  failed : ∀ r, .superseded r ∈ s.log → s.statusOf r = some .failed
  quiet : s.log.Pairwise Allows

section Keeps
variable {s s' : RunSystem} {p q r : Nat} {phase : RunPhase}

theorem locked_start : Locked start := by
  constructor
  · intro r r' running
    cases running
  · intro p
    trivial
  · intro r superseded
    cases superseded
  · exact .nil

/-- A call goes into a phase it fits; only one goes into the pass of a run. -/
theorem Locked.goes (locked : Locked s) (fits : s.Fits p phase)
    (alone : ∀ r, phase = .looping r → ∀ q, s.phase q = .looping r → q = p) :
    Locked (s.goes p phase) := by
  constructor
  · exact locked.unique
  · intro q
    have own : ∀ r, phase = .looping r → ∀ q, (s.goes p phase).phase q = .looping r → q = p := by
      intro r looping q there
      by_cases mine : q = p
      · exact mine
      · simp only [RunSystem.goes, if_neg mine] at there
        exact alone r looping q there
    by_cases mine : q = p
    · subst mine
      have moved : (s.goes q phase).phase q = phase := by simp [RunSystem.goes]
      rw [moved]
      cases phase with
      | looping r => exact ⟨fits.1, fits.2.1, own r rfl⟩
      | _ => exact fits
    · have stays : (s.goes p phase).phase q = s.phase q := by simp [RunSystem.goes, mine]
      have old := locked.fits q
      rw [stays]
      cases there : s.phase q with
      | looping r =>
        rw [there] at old
        refine ⟨old.1, old.2.1, fun q' looping => ?_⟩
        by_cases moved : q' = p
        · subst moved
          simp only [RunSystem.goes, if_true] at looping
          exact absurd (alone r looping q there) mine
        · simp only [RunSystem.goes, if_neg moved] at looping
          exact old.2.2 q' looping
      | _ =>
        rw [there] at old
        exact old
  · exact locked.failed
  · exact locked.quiet

theorem Locked.edit {f : SchedulerRun → SchedulerRun} (locked : Locked s)
    (stops : ∀ run, (f run).status = .running → run.status = .running)
    (stays : .superseded r ∈ s.log → ∀ run, run.status = .failed → (f run).status = .failed) :
    Locked (s.edit r f) := by
  have fewer : ∀ r', (s.edit r f).statusOf r' = some .running → s.statusOf r' = some .running := by
    intro r' running
    rw [statusOf_edit] at running
    split at running
    · obtain ⟨run, row, status⟩ := Option.map_eq_some_iff.mp running
      rw [statusOf, row, Option.map_some, stops run status]
    · exact running
  have length : (s.edit r f).rows.length = s.rows.length := List.length_modify ..
  constructor
  · intro r₁ r₂ running running'
    exact locked.unique r₁ r₂ (fewer r₁ running) (fewer r₂ running')
  · intro p
    have old := locked.fits p
    change (s.edit r f).Fits p (s.phase p)
    cases there : s.phase p with
    | marking r' note seen =>
      rw [there] at old
      refine ⟨length ▸ old.1, length ▸ old.2.1, fun r₁ running => ?_⟩
      exact old.2.2 r₁ (fewer r₁ running)
    | inserting seen =>
      rw [there] at old
      exact ⟨length ▸ old.1, fun r₁ running => old.2 r₁ (fewer r₁ running)⟩
    | looping r' =>
      rw [there] at old
      exact ⟨length ▸ old.1, old.2⟩
    | _ => trivial
  · intro r' superseded
    have failed := locked.failed r' superseded
    rw [statusOf_edit]
    split
    · rename_i same
      subst same
      obtain ⟨run, row, status⟩ := Option.map_eq_some_iff.mp failed
      rw [row, Option.map_some, stays superseded run status]
    · exact failed
  · exact locked.quiet

theorem Locked.admitted (locked : Locked s) (looping : s.phase p = .looping r) (i : OpportunityId) :
    Locked (s.note (.admitted r i)) := by
  have fits := locked.fits p
  rw [looping] at fits
  constructor
  · exact locked.unique
  · intro q
    have old := locked.fits q
    change (s.note (.admitted r i)).Fits q (s.phase q)
    cases there : s.phase q with
    | looping r' =>
      rw [there] at old
      exact ⟨old.1, by simpa [note] using old.2.1, old.2.2⟩
    | _ =>
      rw [there] at old
      exact old
  · intro r' superseded
    exact locked.failed r' (by simpa [note] using superseded)
  · refine List.pairwise_cons.mpr ⟨fun e older r' i' same gone => ?_, locked.quiet⟩
    cases same
    exact fits.2.1 (gone ▸ older)

theorem Locked.superseded (locked : Locked s) (failed : s.statusOf r = some .failed)
    (stopped : ∀ q, s.phase q ≠ .looping r) : Locked (s.note (.superseded r)) := by
  constructor
  · exact locked.unique
  · intro q
    have old := locked.fits q
    change (s.note (.superseded r)).Fits q (s.phase q)
    cases there : s.phase q with
    | looping r' =>
      rw [there] at old
      refine ⟨old.1, ?_, old.2.2⟩
      intro superseded
      rcases List.mem_cons.mp superseded with same | older
      · cases same
        exact stopped q there
      · exact old.2.1 older
    | _ =>
      rw [there] at old
      exact old
  · intro r' superseded
    rcases List.mem_cons.mp superseded with same | older
    · cases same
      exact failed
    · exact locked.failed r' older
  · refine List.pairwise_cons.mpr ⟨fun e _ r' i' same => ?_, locked.quiet⟩
    cases same

theorem Locked.append (locked : Locked s) (now : Time)
    (free : ∀ r, s.statusOf r ≠ some .running) :
    Locked { s with rows := s.rows ++ [SchedulerRun.fresh now] } := by
  have only : ∀ r, ({ s with rows := s.rows ++ [SchedulerRun.fresh now] } : RunSystem).statusOf r =
      some .running → r = s.rows.length := by
    intro r running
    rw [statusOf_append] at running
    split at running
    · assumption
    · exact absurd running (free r)
  have length : ({ s with rows := s.rows ++ [SchedulerRun.fresh now] } : RunSystem).rows.length =
      s.rows.length + 1 := List.length_append
  constructor
  · intro r r' running running'
    rw [only r running, only r' running']
  · intro p
    have old := locked.fits p
    change Fits _ p (s.phase p)
    cases there : s.phase p with
    | marking r note seen =>
      rw [there] at old
      obtain ⟨stored, seen', -⟩ := old
      refine ⟨by omega, by omega, fun r' running => .inr ?_⟩
      rw [only r' running]
      exact seen'
    | inserting seen =>
      rw [there] at old
      obtain ⟨seen', -⟩ := old
      refine ⟨by omega, fun r running => ?_⟩
      rw [only r running]
      exact seen'
    | looping r =>
      rw [there] at old
      obtain ⟨stored, own⟩ := old
      exact ⟨by omega, own⟩
    | _ => trivial
  · intro r superseded
    have failed := locked.failed r superseded
    have stored := lt_of_statusOf failed
    rw [statusOf_append, if_neg (by omega)]
    exact failed
  · exact locked.quiet

end Keeps

theorem fits_acquire {s : RunSystem} (locked : Locked s) (p : Nat) (args : RunArgs) (now : Time) :
    s.Fits p (s.acquire args now) ∧ ∀ r, s.acquire args now ≠ .looping r := by
  unfold acquire
  split
  · exact ⟨trivial, fun r looping => by cases looping⟩
  cases read : s.runningRun with
  | none =>
    refine ⟨⟨Nat.le_refl _, fun r running => ?_⟩, fun r looping => by cases looping⟩
    exact absurd running (runningRun_none read)
  | some current =>
    obtain ⟨run, r⟩ := current
    have running := runningRun_some read
    have fits : ∀ text, s.Fits p (.marking r text s.rows.length) := by
      intro text
      refine ⟨lt_of_statusOf running, Nat.le_refl _, fun r' running' => .inl ?_⟩
      exact locked.unique r' r running' running
    dsimp only
    split
    · exact ⟨fits _, fun r looping => by cases looping⟩
    split
    · exact ⟨fits _, fun r looping => by cases looping⟩
    · exact ⟨trivial, fun r looping => by cases looping⟩

theorem Locked.mark {s : RunSystem} {p r seen : Nat} {text : String} (locked : Locked s)
    (marking : s.phase p = .marking r text seen) (now : Time)
    (stopped : ∀ q, s.phase q ≠ .looping r) :
    Locked (((s.edit r (.supersede now text)).note (.superseded r)).goes p (.inserting seen)) := by
  have fits := locked.fits p
  rw [marking] at fits
  obtain ⟨stored, seen', others⟩ := fits
  have failed : (s.edit r (.supersede now text)).statusOf r = some .failed := by
    rw [statusOf_edit, if_pos rfl, List.getElem?_eq_getElem stored]
    rfl
  have edited : Locked (s.edit r (.supersede now text)) := by
    apply locked.edit
    · intro run running
      cases running
    · intro _ run _
      rfl
  apply (edited.superseded failed stopped).goes
  · refine ⟨?_, fun r' running => ?_⟩
    · exact Nat.le_trans seen' (Nat.le_of_eq (List.length_modify ..).symm)
    · by_cases same : r' = r
      · subst same
        rw [statusOf_note, failed] at running
        cases running
      · rw [statusOf_note, statusOf_edit, if_neg (Ne.symm same)] at running
        exact (others r' running).resolve_left same
  · intro r' looping
    cases looping

theorem Locked.insert {s : RunSystem} {p seen : Nat} (locked : Locked s)
    (inserting : s.phase p = .inserting seen) (now : Time)
    (late : ∀ r, seen ≤ r → s.statusOf r ≠ some .running) :
    Locked ({ s with rows := s.rows ++ [SchedulerRun.fresh now] }.goes p
      (.looping s.rows.length)) := by
  have fits := locked.fits p
  rw [inserting] at fits
  have free : ∀ r, s.statusOf r ≠ some .running := fun r running =>
    late r (fits.2 r running) running
  have nobody : ∀ q, s.phase q ≠ .looping s.rows.length := by
    intro q there
    have own := locked.fits q
    rw [there] at own
    exact absurd own.1 (Nat.lt_irrefl _)
  apply (locked.append now free).goes
  · refine ⟨?_, fun superseded => ?_, fun q there => absurd there (nobody q)⟩
    · rw [List.length_append, List.length_singleton]
      exact Nat.lt_succ_self _
    · exact absurd (lt_of_statusOf (locked.failed _ superseded)) (Nat.lt_irrefl _)
  · intro r looping q there
    cases looping
    exact absurd there (nobody q)

/-- An orderly step keeps the lock. -/
theorem step_locked {s : RunSystem} (args : Nat → RunArgs) (l : RunStep) (orderly : s.Orderly l)
    (locked : Locked s) : Locked (s.step args l) := by
  have leaves : ∀ {t : RunSystem} (p : Nat), Locked t → Locked (t.goes p .over) := fun p kept =>
    kept.goes trivial fun r looping => by cases looping
  cases l with
  | read p now =>
    simp only [step]
    split
    · obtain ⟨fits, notYet⟩ := fits_acquire locked p (args p) now
      exact locked.goes fits fun r looping => absurd looping (notYet r)
    · exact locked
  | mark p now =>
    simp only [step]
    split
    · rename_i r text seen marking
      exact locked.mark marking now (orderly r text seen marking)
    · exact locked
  | insert p now =>
    simp only [step]
    split
    · rename_i seen inserting
      exact locked.insert inserting now (orderly seen inserting)
    · exact locked
  | admission p i =>
    simp only [step]
    split
    · rename_i r looping
      exact locked.admitted looping i
    · exact locked
  | heartbeat p now =>
    simp only [step]
    split
    · exact locked.edit (fun _ running => running) fun _ _ failed => failed
    · exact locked
  | complete p now errors =>
    simp only [step]
    split
    · rename_i r looping
      have fits := locked.fits p
      rw [looping] at fits
      apply leaves
      apply locked.edit
      · intro run running
        cases running
      · intro superseded
        exact absurd superseded fits.2.1
    · exact locked
  | raise p error =>
    simp only [step]
    split
    · exact locked.goes trivial fun r looping => by cases looping
    · exact locked
  | fail p now errors =>
    simp only [step]
    split
    · apply leaves
      apply locked.edit
      · intro run running
        cases running
      · intro _ run _
        rfl
    · exact locked
  | die p => exact leaves p locked

theorem run_locked {s : RunSystem} {args : Nat → RunArgs} {steps : List RunStep}
    (follows : s.Follows args steps) (locked : Locked s) : Locked (s.run args steps) := by
  induction steps generalizing s with
  | nil => exact locked
  | cons l rest ih => exact ih follows.2 (step_locked args l follows.1 locked)

theorem Locked.exclusive {s : RunSystem} (locked : Locked s) : Exclusive s := by
  constructor
  · intro p q r r' first second
    have same := locked.unique r r' first.2 second.2
    subst same
    have fits := locked.fits q
    rw [second.1] at fits
    exact fits.2.2 p first.1
  · intro later earlier r log i admitted
    have quiet := locked.quiet
    rw [log, List.pairwise_append] at quiet
    exact quiet.2.2 _ admitted _ (List.mem_cons_self ..) r i rfl rfl
  · exact locked.failed

/-- A run that is superseded in the middle of its pass is FAILED no longer once it completes. -/
theorem completes_over {s : RunSystem} {args : Nat → RunArgs} {p r : Nat} (now : Time)
    (errors : List String) (looping : s.phase p = .looping r) (superseded : .superseded r ∈ s.log)
    (stored : r < s.rows.length) : ¬ Exclusive (s.step args (.complete p now errors)) := by
  intro exclusive
  simp only [step, looping] at exclusive
  have failed := exclusive.failed r superseded
  rw [statusOf_goes, statusOf_edit, if_pos rfl, List.getElem?_eq_getElem stored] at failed
  cases failed

end RunSystem

/-- Any number of calls of `run`, forced or not, in any order of their steps. As long as a run is
superseded only when its call is out of its pass, and inserted only when none is RUNNING that was
inserted since the running run was read, the lock keeps its word. -/
theorem runs_exclusive (args : Nat → RunArgs) (steps : List RunStep)
    (follows : RunSystem.start.Follows args steps) :
    (RunSystem.start.run args steps).Exclusive :=
  (RunSystem.run_locked follows RunSystem.locked_start).exclusive

/-! ### Calls to look at -/

def someArgs (p : Nat) : RunArgs := ⟨500, decide (p = 1)⟩

/-- Two calls read that nothing runs, and both admit. A forced call supersedes a run that goes on,
admits and completes. -/
theorem lock_is_advisory :
    ¬ (RunSystem.start.run someArgs [.read 0 0, .read 2 0, .insert 0 0, .insert 2 0]).Exclusive ∧
      ¬ (RunSystem.start.run someArgs [.read 0 0, .insert 0 0, .read 1 1, .mark 1 1, .insert 1 1,
        .admission 0 7, .complete 0 2 []]).Exclusive := by
  constructor
  · intro exclusive
    exact absurd (exclusive.one 0 2 0 1 ⟨rfl, rfl⟩ ⟨rfl, rfl⟩) (by decide)
  · intro exclusive
    have failed := exclusive.failed 0 (by decide)
    revert failed
    decide

/-- A run whose call died is superseded once its heartbeat is stale. -/
theorem dead_run_superseded :
    (RunSystem.start.run someArgs [.read 0 0, .insert 0 0, .die 0, .read 2 601, .mark 2 601,
      .insert 2 601]).statusOf 0 = some .failed := by
  refine (runs_exclusive someArgs _ ?_).failed 0 (by decide)
  refine ⟨trivial, ?_, trivial, trivial, ?_, ?_, trivial⟩
  · intro seen _ r _ running
    cases running
  · intro r text seen marking q looping
    cases marking
    rcases q with _ | _ | _ | q <;> cases looping
  · intro seen _ r _ running
    rcases r with _ | r <;> cases running

end RangeApply
