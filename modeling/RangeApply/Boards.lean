import Mathlib.Data.Finset.Card
import RangeApply.Health

/-! Polling: which boards a cycle asks, and who waits for how long. Captured pages leave rows of
their own among the boards, which are due like them and which no cycle ever asks. -/
namespace RangeApply.Health

/-! ### What is due -/

/-- The order of polls: rows without a time come first. -/
def NoLater : Option Time → Option Time → Prop
  | none, _ => True
  | some _, none => False
  | some a, some b => a ≤ b

instance : (a b : Option Time) → Decidable (NoLater a b)
  | none, _ => isTrue trivial
  | some _, none => isFalse id
  | some a, some b => inferInstanceAs (Decidable (a ≤ b))

namespace NoLater
variable {a b c : Option Time}

theorem refl (a : Option Time) : NoLater a a := by
  cases a with
  | none => trivial
  | some t => exact Int.le_refl t

theorem trans (ab : NoLater a b) (bc : NoLater b c) : NoLater a c := by
  cases a with
  | none => trivial
  | some x =>
    cases b with
    | none => exact ab.elim
    | some y =>
      cases c with
      | none => exact bc.elim
      | some z => exact Int.le_trans ab bc

theorem total (a b : Option Time) : NoLater a b ∨ NoLater b a := by
  cases a with
  | none => exact .inl trivial
  | some x =>
    cases b with
    | none => exact .inr trivial
    | some y => exact Int.le_total x y

end NoLater

/-- A turn that has come and gone. -/
def Passed (turn : Option Time) (now : Time) : Prop := ∀ t ∈ turn, t < now

instance (turn : Option Time) (now : Time) : Decidable (Passed turn now) :=
  inferInstanceAs (Decidable (∀ t ∈ turn, t < now))

theorem Passed.mono {turn : Option Time} {now later : Time} (passed : Passed turn now)
    (forward : now ≤ later) : Passed turn later :=
  fun t member => Int.lt_of_lt_of_le (passed t member) forward

theorem Passed.noLater {turn : Option Time} {now : Time} (passed : Passed turn now) :
    NoLater turn (some now) := by
  cases turn with
  | none => trivial
  | some t => exact Int.le_of_lt (passed t rfl)

theorem Passed.not_noLater {turn : Option Time} {now : Time} (passed : Passed turn now) :
    ¬NoLater (some now) turn := by
  cases turn with
  | none => exact id
  | some t => exact Int.not_le.mpr (passed t rfl)

def SourceHealth.isDue (now : Time) (row : SourceHealth) : Bool :=
  row.enabled && decide (NoLater row.nextPollAt (some now))

/-- `due`. -/
def Boards.due (t : Boards) (now : Time) (limit : ℕ) : List (Board × SourceHealth) :=
  let sooner (a b : Board × SourceHealth) := decide (NoLater a.2.nextPollAt b.2.nextPollAt)
  ((t.rows.filter fun r => r.2.isDue now).mergeSort sooner).take limit

/-- The boards that are asked at `now`, in whatever order the database leaves equal times. -/
structure Chosen (t : Boards) (now : Time) (limit : ℕ) (chosen : List Board) : Prop where
  nodup : chosen.Nodup
  bounded : chosen.length ≤ limit
  due : ∀ board ∈ chosen, ∃ row, t.get board = some row ∧ row.isDue now = true
  full : ∀ board row, t.get board = some row → row.isDue now = true → board ∉ chosen →
    chosen.length = limit ∧ ∀ earlier ∈ chosen, ∃ row', t.get earlier = some row' ∧
      NoLater row'.nextPollAt row.nextPollAt

theorem due_chosen (t : Boards) (now : Time) (limit : ℕ) :
    Chosen t now limit ((t.due now limit).map Prod.fst) := by
  unfold Boards.due
  dsimp only
  set rows := t.rows.filter fun r => r.2.isDue now with rowsDef
  set sooner : Board × SourceHealth → Board × SourceHealth → Bool :=
    fun a b => decide (NoLater a.2.nextPollAt b.2.nextPollAt)
  set sorted := rows.mergeSort sooner
  have perm : sorted.Perm rows := List.mergeSort_perm _ _
  have ordered : sorted.Pairwise fun a b => sooner a b = true := by
    apply List.pairwise_mergeSort
    · intro a b c ab bc
      exact decide_eq_true (NoLater.trans (of_decide_eq_true ab) (of_decide_eq_true bc))
    · intro a b
      simpa [sooner] using NoLater.total a.2.nextPollAt b.2.nextPollAt
  have split : sorted = sorted.take limit ++ sorted.drop limit := (List.take_append_drop _ _).symm
  have known {r : Board × SourceHealth} :
      r ∈ sorted ↔ t.get r.1 = some r.2 ∧ r.2.isDue now = true := by
    rw [perm.mem_iff, rowsDef, List.mem_filter, Table.get_eq_some]
  constructor
  · have nodup : (sorted.map Prod.fst).Nodup := by
      rw [(perm.map Prod.fst).nodup_iff]
      exact t.nodup.sublist (List.filter_sublist.map Prod.fst)
    exact nodup.sublist ((List.take_sublist _ _).map Prod.fst)
  · rw [List.length_map]
    exact List.length_take_le _ _
  · intro board member
    obtain ⟨r, taken, rfl⟩ := List.mem_map.mp member
    exact ⟨r.2, known.mp (List.mem_of_mem_take taken)⟩
  · intro board row found due skipped
    have member : (board, row) ∈ sorted := known.mpr ⟨found, due⟩
    rw [split, List.mem_append] at member
    have later : (board, row) ∈ sorted.drop limit := by
      rcases member with taken | later
      · exact absurd (List.mem_map_of_mem (f := Prod.fst) taken) skipped
      · exact later
    have long : limit < sorted.length := by
      have some_ := List.length_pos_of_mem later
      rw [List.length_drop] at some_
      omega
    refine ⟨?_, ?_⟩
    · rw [List.length_map, List.length_take]
      omega
    · intro earlier taken
      obtain ⟨r, first, rfl⟩ := List.mem_map.mp taken
      rw [split, List.pairwise_append] at ordered
      refine ⟨r.2, (known.mp (List.mem_of_mem_take first)).1, ?_⟩
      exact of_decide_eq_true (ordered.2.2 r first (board, row) later)

/-! ### Cycles -/

/-- `JobSourceType.EXTENSION`: what a page was captured from, which no cycle can ask. -/
def extension : String := "EXTENSION"

/-- A run of a cycle, and when it ended. -/
structure Ended where
  run : DiscoveryRun
  fresh : Option Time
  now : Time

/-- The table of boards, and the time that has been reached. -/
structure Desk where
  boards : Boards
  clock : Time

/-- A cycle asks what is due, in an order of its own; everything else goes on between the cycles. -/
inductive Event
  | cycle (now : Time) (limit : ℕ) (chosen : List Board) (ends : List Ended)
  | other (op : Op)

def Op.now : Op → Time
  | .target _ _ _ _ now => now
  | .ended _ _ now => now

section Steps
variable (p : Polling)

def Boards.endAll (t : Boards) (ends : List Ended) : Boards :=
  ends.foldl (fun t e => t.recordRun p e.now e.run e.fresh) t

def Desk.step (s : Desk) : Event → Desk
  | .cycle now _ _ ends => ⟨s.boards.endAll p ends, now⟩
  | .other op => ⟨Health.step p s.boards op, op.now⟩

end Steps

/-- The clock does not run back, and every board that a cycle chose is asked, but for the captured
pages. -/
def Desk.Ok (s : Desk) : Event → Prop
  | .cycle now limit chosen ends =>
    s.clock ≤ now ∧ Chosen s.boards now limit chosen ∧
      (ends.map (·.run.board)).Perm (chosen.filter (·.source ≠ extension)) ∧
      ∀ e ∈ ends, now ≤ e.now
  | .other op => s.clock ≤ op.now

/-- The boards whose turn is not after a time. -/
def Boards.older (t : Boards) (turn : Option Time) : Finset Board :=
  t.select fun row => decide (NoLater row.nextPollAt turn)

def Boards.Positive (t : Boards) : Prop :=
  ∀ board row, t.get board = some row → 0 < row.pollIntervalMinutes

variable {p : Polling} {t : Boards} {now : Time} {run : DiscoveryRun} {fresh : Option Time}
  {board : Board} {turn : Option Time}

theorem mem_older :
    board ∈ t.older turn ↔ ∃ row, t.get board = some row ∧ NoLater row.nextPollAt turn := by
  rw [Boards.older, Table.mem_select]
  simp

theorem row_positive (positive : t.Positive) (default_ : 0 < p.defaultPollMinutes) (now : Time)
    (board : Board) (companyName : Option String) (interval : Option ℕ) :
    0 < (t.row p now board companyName interval).pollIntervalMinutes := by
  unfold Boards.row
  cases found : t.get board with
  | none =>
    dsimp only [SourceHealth.new]
    split
    · exact default_
    · omega
  | some row =>
    dsimp only [SourceHealth.target]
    split
    · exact positive board row found
    · omega

/-- A run that ends puts its board behind every turn before it. -/
theorem record_turn {row : SourceHealth} (positive : 0 < row.pollIntervalMinutes)
    (round : ℚ → ℚ) (late : NoLater turn (some now)) :
    ¬NoLater (row.record round now run fresh).nextPollAt turn := by
  have after (interval : ℕ) (positive : 0 < interval) :
      ¬NoLater (some (now + minutes interval)) turn := by
    intro early
    have back : now + minutes interval ≤ now := early.trans late
    have some_ : (0 : Int) < (interval : Int) * 60 * 1000000 := by omega
    exact absurd back (Int.not_le.mpr (Int.lt_add_of_pos_right now some_))
  rcases record_cases round now run fresh row with ⟨-, same⟩ | ⟨-, same⟩
  · rw [same]
    exact after _ positive
  · rw [same]
    exact after _ (backoff_pos _ positive)

theorem record_interval (row : SourceHealth) (round : ℚ → ℚ) :
    (row.record round now run fresh).pollIntervalMinutes = row.pollIntervalMinutes := by
  rcases record_cases round now run fresh row with ⟨-, same⟩ | ⟨-, same⟩ <;> rw [same] <;> rfl

theorem recordRun_positive (positive : t.Positive) (default_ : 0 < p.defaultPollMinutes) :
    (t.recordRun p now run fresh).Positive := by
  intro board row found
  unfold Boards.recordRun at found
  by_cases own : board = run.board
  · subst own
    rw [Table.get_set_self] at found
    cases found
    rw [record_interval]
    exact row_positive positive default_ _ _ _ _
  · rw [Table.get_set_other _ _ own] at found
    exact positive board row found

/-- Who is old after a run has ended was old before, and is another board. -/
theorem recordRun_older (positive : t.Positive) (default_ : 0 < p.defaultPollMinutes)
    (late : NoLater turn (some now)) :
    (t.recordRun p now run fresh).older turn ⊆ (t.older turn).erase run.board := by
  intro board member
  obtain ⟨row, found, old⟩ := mem_older.mp member
  unfold Boards.recordRun at found
  by_cases own : board = run.board
  · subst own
    rw [Table.get_set_self] at found
    cases found
    have soon := row_positive positive default_ now run.board run.companyName none
    exact absurd old (record_turn soon p.round late)
  · rw [Table.get_set_other _ _ own] at found
    exact Finset.mem_erase.mpr ⟨own, mem_older.mpr ⟨row, found, old⟩⟩

theorem recordRun_get (other : board ≠ run.board) :
    (t.recordRun p now run fresh).get board = t.get board :=
  Table.get_set_other _ _ other

theorem endAll_positive (positive : t.Positive) (default_ : 0 < p.defaultPollMinutes)
    (ends : List Ended) : (t.endAll p ends).Positive := by
  induction ends generalizing t with
  | nil => exact positive
  | cons e ends ih => exact ih (recordRun_positive positive default_)

theorem endAll_get {ends : List Ended} (spared : board ∉ ends.map (·.run.board)) :
    (t.endAll p ends).get board = t.get board := by
  induction ends generalizing t with
  | nil => rfl
  | cons e ends ih =>
    rw [List.map_cons, List.mem_cons, not_or] at spared
    exact (ih spared.2).trans (recordRun_get spared.1)

theorem endAll_older (positive : t.Positive) (default_ : 0 < p.defaultPollMinutes)
    {ends : List Ended} (late : ∀ e ∈ ends, NoLater turn (some e.now)) :
    (t.endAll p ends).older turn ⊆ t.older turn \ (ends.map (·.run.board)).toFinset := by
  induction ends generalizing t with
  | nil => simp [Boards.endAll]
  | cons e ends ih =>
    intro board member
    have kept : (t.recordRun p e.now e.run e.fresh).Positive :=
      recordRun_positive positive default_
    have rest := ih kept (fun e member => late e (List.mem_cons_of_mem _ member)) member
    obtain ⟨still, others⟩ := Finset.mem_sdiff.mp rest
    obtain ⟨other, old⟩ := Finset.mem_erase.mp
      (recordRun_older positive default_ (late e List.mem_cons_self) still)
    rw [Finset.mem_sdiff, List.map_cons, List.toFinset_cons, Finset.mem_insert, not_or]
    exact ⟨old, other, others⟩

theorem upsertTarget_get {other : Board} {companyName : Option String} {interval : Option ℕ}
    {enabled : Option Bool} (elsewhere : other ≠ board) :
    (t.upsertTarget p now board companyName interval enabled).get other = t.get other :=
  Table.get_set_other _ _ elsewhere

theorem upsertTarget_self {row : SourceHealth} (found : t.get board = some row)
    (companyName : Option String) (interval : Option ℕ) (enabled : Option Bool) :
    (t.upsertTarget p now board companyName interval enabled).get board =
      some { row.target companyName interval with enabled := enabled.getD row.enabled } := by
  unfold Boards.upsertTarget
  rw [Table.get_set_self, Boards.row, found]
  rfl

theorem upsertTarget_positive (positive : t.Positive) (default_ : 0 < p.defaultPollMinutes)
    (companyName : Option String) (interval : Option ℕ) (enabled : Option Bool) :
    (t.upsertTarget p now board companyName interval enabled).Positive := by
  intro other row found
  by_cases own : other = board
  · subst own
    unfold Boards.upsertTarget at found
    rw [Table.get_set_self] at found
    cases found
    exact row_positive positive default_ now other companyName interval
  · rw [upsertTarget_get own] at found
    exact positive other row found

/-- A board that is registered is behind every turn that has come. -/
theorem upsertTarget_older (late : Passed turn now) (companyName : Option String)
    (interval : Option ℕ) (enabled : Option Bool) :
    (t.upsertTarget p now board companyName interval enabled).older turn ⊆ t.older turn := by
  intro other member
  obtain ⟨row, found, old⟩ := mem_older.mp member
  by_cases own : other = board
  · subst own
    cases known : t.get other with
    | none =>
      unfold Boards.upsertTarget at found
      rw [Table.get_set_self, Boards.row, known] at found
      cases found
      exact absurd old late.not_noLater
    | some before =>
      rw [upsertTarget_self known] at found
      cases found
      exact mem_older.mpr ⟨before, known, old⟩
  · rw [upsertTarget_get own] at found
    exact mem_older.mpr ⟨row, found, old⟩

/-! ### How long a board waits -/

/-- An enabled board that is due at a turn. -/
def Boards.Waits (t : Boards) (board : Board) (turn : Option Time) : Prop :=
  ∃ row, t.get board = some row ∧ row.enabled = true ∧ row.nextPollAt = turn

/-- The boards that may be asked before this one. -/
def Boards.ahead (t : Boards) (board : Board) (turn : Option Time) : Finset Board :=
  (t.older turn).filter fun other => other ≠ board ∧ other.source ≠ extension

/-- The rows of captured pages that are due as long. -/
def Boards.captured (t : Boards) (turn : Option Time) : Finset Board :=
  (t.older turn).filter fun other => other.source = extension

/-- The event neither asks the board nor takes it off the list. -/
def Spares (board : Board) : Event → Prop
  | .cycle _ _ _ ends => board ∉ ends.map (·.run.board)
  | .other (.ended run _ _) => board ≠ run.board
  | .other (.target other _ _ enabled _) => board = other → enabled ≠ some false

/-- What holds between events while the board waits. -/
structure Waiting (s : Desk) (board : Board) (turn : Option Time) : Prop where
  positive : s.boards.Positive
  waits : s.boards.Waits board turn
  late : Passed turn s.clock

variable {s : Desk} {e : Event} {es : List Event} {limit : ℕ} {chosen : List Board}
  {ends : List Ended}

theorem Waiting.step (waiting : Waiting s board turn) (default_ : 0 < p.defaultPollMinutes)
    (ok : s.Ok e) (spared : Spares board e) :
    Waiting (s.step p e) board turn ∧
      (s.step p e).boards.older turn ⊆ s.boards.older turn := by
  obtain ⟨positive, ⟨row, found, enabled, same⟩, late⟩ := waiting
  cases e with
  | cycle now limit chosen ends =>
    obtain ⟨forward, -, -, after⟩ := ok
    have behind : Passed turn now := late.mono forward
    have later : ∀ e ∈ ends, NoLater turn (some e.now) := fun e member =>
      (behind.mono (after e member)).noLater
    refine ⟨⟨endAll_positive positive default_ ends, ⟨row, ?_, enabled, same⟩, behind⟩, ?_⟩
    · exact (endAll_get spared).trans found
    · exact (endAll_older positive default_ later).trans Finset.sdiff_subset
  | other op =>
    have behind : Passed turn op.now := late.mono ok
    cases op with
    | ended run fresh now =>
      refine ⟨⟨recordRun_positive positive default_, ⟨row, ?_, enabled, same⟩, behind⟩, ?_⟩
      · exact (recordRun_get spared).trans found
      · exact (recordRun_older positive default_ behind.noLater).trans (Finset.erase_subset _ _)
    | target other companyName interval enabled' now =>
      refine ⟨⟨upsertTarget_positive positive default_ companyName interval enabled', ?_, behind⟩,
        upsertTarget_older behind companyName interval enabled'⟩
      by_cases own : board = other
      · subst own
        refine ⟨_, upsertTarget_self found companyName interval enabled', ?_, same⟩
        have kept : enabled' ≠ some false := spared rfl
        cases enabled' with
        | none => exact enabled
        | some on => simpa using kept
      · exact ⟨row, (upsertTarget_get own).trans found, enabled, same⟩

/-- A cycle that passes the board over asks others that were ahead of it, as many as it may ask but
for the captured pages. -/
theorem cycle_ahead (waiting : Waiting s board turn) (default_ : 0 < p.defaultPollMinutes)
    (ok : s.Ok (.cycle now limit chosen ends)) (board_ : board.source ≠ extension)
    (spared : Spares board (.cycle now limit chosen ends)) :
    ((s.step p (.cycle now limit chosen ends)).boards.ahead board turn).card + limit ≤
      (s.boards.ahead board turn).card + (s.boards.captured turn).card := by
  obtain ⟨positive, ⟨row, found, enabled, same⟩, late⟩ := waiting
  obtain ⟨forward, choice, asked, after⟩ := ok
  have behind : Passed turn now := late.mono forward
  have due : row.isDue now = true := by
    rw [SourceHealth.isDue, enabled, same]
    simpa using behind.noLater
  have skipped : board ∉ chosen := by
    intro member
    apply spared
    rw [asked.mem_iff, List.mem_filter]
    exact ⟨member, by simpa using board_⟩
  obtain ⟨whole, first⟩ := choice.full board row found due skipped
  have old : ∀ b ∈ chosen, b ∈ s.boards.older turn := by
    intro b member
    obtain ⟨row', found', before⟩ := first b member
    exact mem_older.mpr ⟨row', found', same ▸ before⟩
  set others := chosen.toFinset.filter fun b => b.source ≠ extension
  set pages := chosen.toFinset.filter fun b => ¬b.source ≠ extension
  have parts : others.card + pages.card = limit := by
    rw [Finset.card_filter_add_card_filter_not, List.toFinset_card_of_nodup choice.nodup, whole]
  have pagesOld : pages.card ≤ (s.boards.captured turn).card := by
    apply Finset.card_le_card
    intro b member
    obtain ⟨member, page⟩ := Finset.mem_filter.mp member
    exact Finset.mem_filter.mpr ⟨old b (List.mem_toFinset.mp member), not_not.mp page⟩
  have othersAhead : others ⊆ s.boards.ahead board turn := by
    intro b member
    obtain ⟨member, source⟩ := Finset.mem_filter.mp member
    refine Finset.mem_filter.mpr ⟨old b (List.mem_toFinset.mp member), ?_, source⟩
    rintro rfl
    exact skipped (List.mem_toFinset.mp member)
  have left : (s.step p (.cycle now limit chosen ends)).boards.ahead board turn ⊆
      s.boards.ahead board turn \ others := by
    intro b member
    obtain ⟨old', apart, source⟩ := Finset.mem_filter.mp member
    have later : ∀ e ∈ ends, NoLater turn (some e.now) := fun e member =>
      (behind.mono (after e member)).noLater
    obtain ⟨before, unasked⟩ := Finset.mem_sdiff.mp (endAll_older positive default_ later old')
    refine Finset.mem_sdiff.mpr ⟨Finset.mem_filter.mpr ⟨before, apart, source⟩, ?_⟩
    intro asked'
    apply unasked
    rw [List.mem_toFinset, asked.mem_iff, List.mem_filter]
    exact ⟨List.mem_toFinset.mp (Finset.mem_filter.mp asked').1, by simpa using source⟩
  have fewer := Finset.card_le_card left
  rw [Finset.card_sdiff_of_subset othersAhead] at fewer
  have room := Finset.card_le_card othersAhead
  omega

def Event.asks (least : ℕ) : Event → Prop
  | .cycle _ limit _ _ => least ≤ limit
  | .other _ => True

def Event.isCycle : Event → Bool
  | .cycle _ _ _ _ => true
  | .other _ => false

def cycles (es : List Event) : ℕ := es.countP (·.isCycle)

@[simp] theorem cycles_other {op : Op} : cycles (.other op :: es) = cycles es :=
  List.countP_cons_of_neg (by simp [Event.isCycle])

@[simp] theorem cycles_cycle : cycles (.cycle now limit chosen ends :: es) = cycles es + 1 :=
  List.countP_cons_of_pos rfl

theorem captured_mono {t' : Boards} (fewer : t'.older turn ⊆ t.older turn) :
    (t'.captured turn).card ≤ (t.captured turn).card :=
  Finset.card_le_card (Finset.filter_subset_filter _ fewer)

theorem ahead_mono {t' : Boards} (board : Board) (fewer : t'.older turn ⊆ t.older turn) :
    (t'.ahead board turn).card ≤ (t.ahead board turn).card :=
  Finset.card_le_card (Finset.filter_subset_filter _ fewer)

theorem cycles_bounded (default_ : 0 < p.defaultPollMinutes) (board_ : board.source ≠ extension)
    {least : ℕ} (waiting : Waiting s board turn)
    (guarded : Trace.Guarded (Desk.step p) Desk.Ok s es) (spared : ∀ e ∈ es, Spares board e)
    (asks : ∀ e ∈ es, e.asks least) :
    cycles es * least ≤
      (s.boards.ahead board turn).card +
        cycles es * (s.boards.captured turn).card := by
  induction es generalizing s with
  | nil => simp [cycles]
  | cons e es ih =>
    obtain ⟨ok, guarded⟩ := guarded
    obtain ⟨waiting', fewer⟩ := waiting.step default_ ok (spared e List.mem_cons_self)
    have rest := ih waiting' guarded (fun e member => spared e (List.mem_cons_of_mem _ member))
      (fun e member => asks e (List.mem_cons_of_mem _ member))
    have pages := Nat.mul_le_mul_left (cycles es) (captured_mono fewer)
    cases e with
    | other op =>
      have boards := ahead_mono board fewer
      rw [cycles_other]
      omega
    | cycle now limit chosen ends =>
      have progress := cycle_ahead waiting default_ ok board_ (spared _ List.mem_cons_self)
      have enough : least ≤ limit := asks _ List.mem_cons_self
      rw [cycles_cycle, Nat.add_mul, Nat.add_mul, Nat.one_mul, Nat.one_mul]
      omega

/-- The table that a history leaves. -/
def tracked (p : Polling) (ops : List Op) : Boards := ops.foldl (Health.step p) .empty

theorem tracked_positive (default_ : 0 < p.defaultPollMinutes) (ops : List Op) :
    (tracked p ops).Positive := by
  induction ops using List.reverseRecOn with
  | nil =>
    intro board row found
    cases found
  | append_singleton ops op ih =>
    rw [tracked, List.foldl_concat]
    cases op with
    | target board companyName interval enabled now =>
      exact upsertTarget_positive ih default_ companyName interval enabled
    | ended run fresh now => exact recordRun_positive ih default_

/-- The rows of captured pages that stand before every board. -/
structure Blocked (s : Desk) (pages : Finset Board) (turn : Option Time) : Prop where
  positive : s.boards.Positive
  page : ∀ b ∈ pages, b.source = extension
  due : ∀ b ∈ pages, ∃ row, s.boards.get b = some row ∧ row.enabled = true ∧
    NoLater row.nextPollAt turn
  boards : ∀ b row, s.boards.get b = some row → b.source ≠ extension →
    ¬NoLater row.nextPollAt turn
  late : Passed turn s.clock

/-- Nothing is captured anew for one of the pages, and none is switched off. -/
def Leaves (pages : Finset Board) : Event → Prop
  | .cycle _ limit _ _ => limit ≤ pages.card
  | .other (.ended run _ _) => run.board ∉ pages
  | .other (.target board _ _ enabled _) => board ∈ pages → enabled ≠ some false

/-- What a cycle asked. -/
def Event.asked : Event → List Ended
  | .cycle _ _ _ ends => ends
  | .other _ => []

theorem blocked_cycle {pages : Finset Board} (blocked : Blocked s pages turn)
    (ok : s.Ok (.cycle now limit chosen ends)) (few : limit ≤ pages.card) : ends = [] := by
  obtain ⟨positive, page, due, boards, late⟩ := blocked
  obtain ⟨forward, choice, asked, -⟩ := ok
  have none_ : chosen.filter (·.source ≠ extension) = [] := by
    apply List.filter_eq_nil_iff.mpr
    intro b member source
    have board : b.source ≠ extension := by simpa using source
    obtain ⟨row, found, -⟩ := choice.due b member
    -- Some page is left out for the board, and stands before it.
    have more : ∃ page ∈ pages, page ∉ chosen := by
      by_contra all
      have inside : insert b pages ⊆ chosen.toFinset := by
        intro c member'
        rw [List.mem_toFinset]
        rcases Finset.mem_insert.mp member' with rfl | member'
        · exact member
        · by_contra out
          exact all ⟨c, member', out⟩
      have apart : b ∉ pages := fun inside => board (page b inside)
      have size := Finset.card_le_card inside
      rw [Finset.card_insert_of_notMem apart, List.toFinset_card_of_nodup choice.nodup] at size
      have bounded := choice.bounded
      omega
    obtain ⟨first, inside, out⟩ := more
    obtain ⟨row', found', enabled, old⟩ := due first inside
    have due' : row'.isDue now = true := by
      rw [SourceHealth.isDue, enabled]
      simpa using old.trans (late.mono forward).noLater
    obtain ⟨-, before⟩ := choice.full first row' found' due' out
    obtain ⟨row'', found'', earlier⟩ := before b member
    exact boards b row'' found'' board (earlier.trans old)
  rw [none_] at asked
  exact List.map_eq_nil_iff.mp (List.perm_nil.mp asked)

theorem Blocked.step {pages : Finset Board} (blocked : Blocked s pages turn)
    (default_ : 0 < p.defaultPollMinutes) (ok : s.Ok e) (leaves : Leaves pages e) :
    Blocked (s.step p e) pages turn ∧ e.asked = [] := by
  cases e with
  | cycle now limit chosen ends =>
    obtain rfl := blocked_cycle blocked ok leaves
    obtain ⟨positive, page, due, boards, late⟩ := blocked
    exact ⟨⟨positive, page, due, boards, late.mono ok.1⟩, rfl⟩
  | other op =>
    obtain ⟨positive, page, due, boards, late⟩ := blocked
    have behind : Passed turn op.now := late.mono ok
    refine ⟨?_, rfl⟩
    cases op with
    | ended run fresh now =>
      refine ⟨recordRun_positive positive default_, page, fun b member => ?_, ?_, behind⟩
      · obtain ⟨row, found, enabled, old⟩ := due b member
        refine ⟨row, (recordRun_get ?_).trans found, enabled, old⟩
        rintro rfl
        exact leaves member
      · intro b row found source early
        have old := mem_older.mpr ⟨row, found, early⟩
        obtain ⟨row', found', old'⟩ := mem_older.mp
          (Finset.mem_of_mem_erase (recordRun_older positive default_ behind.noLater old))
        exact boards b row' found' source old'
    | target other companyName interval enabled' now =>
      refine ⟨upsertTarget_positive positive default_ companyName interval enabled', page,
        fun b member => ?_, ?_, behind⟩
      · obtain ⟨row, found, enabled, old⟩ := due b member
        by_cases own : b = other
        · subst own
          refine ⟨_, upsertTarget_self found companyName interval enabled', ?_, old⟩
          have kept : enabled' ≠ some false := leaves member
          cases enabled' with
          | none => exact enabled
          | some on => simpa using kept
        · exact ⟨row, (upsertTarget_get own).trans found, enabled, old⟩
      · intro b row found source early
        have old := mem_older.mpr ⟨row, found, early⟩
        obtain ⟨row', found', old'⟩ := mem_older.mp
          (upsertTarget_older behind companyName interval enabled' old)
        exact boards b row' found' source old'

/-- Once as many captured pages as a cycle may ask are due before every board, no cycle asks a
board any more, however many cycles there are and whatever boards are registered. -/
theorem never_polled (p : Polling) (default_ : 0 < p.defaultPollMinutes) (s : Desk)
    (pages : Finset Board) (turn : Option Time) (blocked : Blocked s pages turn) (es : List Event)
    (guarded : Trace.Guarded (Desk.step p) Desk.Ok s es) (leaves : ∀ e ∈ es, Leaves pages e) :
    ∀ e ∈ es, e.asked = [] := by
  induction es generalizing s with
  | nil =>
    intro e member
    cases member
  | cons e es ih =>
    obtain ⟨ok, guarded⟩ := guarded
    obtain ⟨blocked', idle⟩ := blocked.step default_ ok (leaves e List.mem_cons_self)
    intro e' member
    rcases List.mem_cons.mp member with rfl | member
    · exact idle
    · exact ih _ blocked' guarded (fun e member => leaves e (List.mem_cons_of_mem _ member)) e'
        member

section Example

def somePolling : Polling := ⟨360, id⟩

def acme : Board := ⟨"LEVER", "acme"⟩
def globex : Board := ⟨"GREENHOUSE", "globex"⟩
def page : Board := ⟨extension, "initech"⟩

def someRun (board : Board) : DiscoveryRun where
  id := "run"
  source := board.source
  sourceIdentifier := board.identifier
  companyName := none
  status := .completed
  failureKind := none
  completedAt := none
  durationSeconds := none
  candidatesDiscovered := 0
  jobsNew := 0
  jobsUpdated := 0
  jobsDuplicate := 0
  jobsRejected := 0
  errors := []

def registered (board : Board) (now : Time) : Op := .target board none none none now

/-- A cycle that asks one of two boards. -/
def oneOfTwo : Event := .cycle 10 1 [globex] [⟨someRun globex, none, 11⟩]

theorem chosen_first {t : Boards} {first second : Board} {row row' : SourceHealth} {now : Time}
    (rows : t.rows = [(first, row), (second, row')]) (apart : first ≠ second)
    (due : row.isDue now = true) (order : NoLater row.nextPollAt row'.nextPollAt) :
    Chosen t now 1 [first] := by
  have found : t.get first = some row := by
    rw [Table.get_eq_some, rows]
    exact List.mem_cons_self
  constructor
  · exact List.nodup_singleton first
  · exact le_rfl
  · intro board member
    obtain rfl := List.mem_singleton.mp member
    exact ⟨row, found, due⟩
  · intro board row'' found' _ skipped
    rw [Table.get_eq_some, rows] at found'
    have second_ : row'' = row' := by
      simp only [List.mem_cons, Prod.mk.injEq, List.not_mem_nil, or_false] at found'
      rcases found' with ⟨rfl, -⟩ | ⟨-, same⟩
      · exact absurd List.mem_cons_self skipped
      · exact same
    refine ⟨rfl, fun earlier member => ?_⟩
    obtain rfl := List.mem_singleton.mp member
    exact ⟨row, found, second_ ▸ order⟩

def twoBoards : List Op := [registered globex 0, registered acme 1]

/-- A captured page that is due before the only board. -/
theorem never_polled_acme : (Event.cycle 10 1 [page] []).asked = [] := by
  have blocked : Blocked ⟨tracked somePolling [registered page 0, registered acme 1], 5⟩ {page}
      (some 0) := by
    constructor
    · exact tracked_positive (by decide) _
    · simp [page]
    · intro b member
      obtain rfl := Finset.mem_singleton.mp member
      exact ⟨_, rfl, rfl, le_rfl⟩
    · intro b row found source
      have member := Table.get_eq_some.mp found
      have rows : (tracked somePolling [registered page 0, registered acme 1]).rows =
          [(page, .new none 360 0), (acme, .new none 360 1)] := rfl
      rw [rows] at member
      simp only [List.mem_cons, Prod.mk.injEq, List.not_mem_nil, or_false] at member
      rcases member with ⟨rfl, -⟩ | ⟨-, rfl⟩
      · exact absurd rfl source
      · decide
    · decide
  refine never_polled somePolling (by decide) _ {page} (some 0) blocked [.cycle 10 1 [page] []]
    ⟨⟨?_, ?_, ?_, ?_⟩, trivial⟩ ?_ _ List.mem_cons_self
  · decide
  · exact chosen_first rfl (by decide) (by decide) (by decide)
  · decide
  · simp
  · intro e member
    obtain rfl := List.mem_singleton.mp member
    exact le_rfl

end Example

end RangeApply.Health
