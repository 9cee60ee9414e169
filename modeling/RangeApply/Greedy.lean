import RangeApply.Regex

/-! How the matcher moves over sets of characters: a set repeated takes the longest run of its
characters when what follows matches there, and a search passes over places where nothing begins. -/

namespace Regex
variable {u : Unicode} {fold : Bool} {s : CharSet} {r : Regex} {k : Cursor → Option Cursor}
  {before rest run : List Char} {groups : List (Nat × List Char)} {c found : Cursor}

/-- The text begins with no character of the set. -/
def Misses (u : Unicode) (fold : Bool) (s : CharSet) (rest : List Char) : Prop :=
  ∀ x ∈ rest.head?, s.has u fold x = false

theorem run_set_cons {x : Char} (has : s.has u fold x = true) :
    (set s).run u fold ⟨before, x :: rest, groups⟩ k = k ⟨x :: before, rest, groups⟩ :=
  if_pos has

theorem run_set_miss (miss : Misses u fold s c.rest) : (set s).run u fold c k = none := by
  unfold Regex.run
  split
  · rfl
  · rename_i x rest split_
    rw [if_neg (Bool.eq_false_iff.mp (miss x (by rw [split_]; rfl)))]

/-- The longest run is taken when the rest matches after it. -/
theorem greedy_set (n : Nat) (all : ∀ x ∈ run, s.has u fold x = true)
    (miss : Misses u fold s rest) (enough : run.length ≤ n)
    (follows : k ⟨run.reverse ++ before, rest, groups⟩ = some found) :
    ((set s).run u fold).greedy n ⟨before, run ++ rest, groups⟩ k = some found := by
  induction run generalizing n before with
  | nil =>
    cases n with
    | zero => exact follows
    | succ n =>
      unfold Matcher.greedy
      rw [run_set_miss miss]
      exact follows
  | cons x run ih =>
    cases n with
    | zero => exact absurd enough (by simp)
    | succ n =>
      unfold Matcher.greedy
      rw [List.cons_append, run_set_cons (all x List.mem_cons_self),
        if_pos (by simp [List.length_append]),
        ih n (fun y member => all y (List.mem_cons_of_mem x member)) (by simpa using enough)
          (by simpa using follows)]

theorem run_seq (a b : Regex) : (seq a b).run u fold c k =
    a.run u fold c fun c' => b.run u fold c' k := by
  simp only [Regex.run]

theorem run_plus_eq : (rep r 1 none).run u fold c k = r.run u fold c fun c' =>
    (r.run u fold).greedy c'.rest.length c' k := by
  simp only [Regex.run, Matcher.times]

theorem run_optional_eq : (rep r 0 (some 1)).run u fold c k =
    match r.run u fold c fun c' => if c'.rest.length < c.rest.length then k c' else none with
    | some found => some found
    | none => k c := by
  rw [Regex.run]
  rfl

/-- `+` after a set, where the text begins with a run of its characters. -/
theorem run_plus {x : Char} (all : ∀ y ∈ x :: run, s.has u fold y = true)
    (miss : Misses u fold s rest)
    (follows : k ⟨(x :: run).reverse ++ before, rest, groups⟩ = some found) :
    (rep (set s) 1 none).run u fold ⟨before, x :: run ++ rest, groups⟩ k = some found := by
  rw [run_plus_eq, List.cons_append, run_set_cons (all x List.mem_cons_self)]
  refine greedy_set _ (fun y member => all y (List.mem_cons_of_mem x member)) miss ?_
    (by simpa using follows)
  simp

theorem run_plus_miss (miss : Misses u fold s c.rest) :
    (rep (set s) 1 none).run u fold c k = none :=
  run_plus_eq.trans (run_set_miss miss)

/-- `?`: with the part when it consumes something and the rest matches then, or else without. -/
theorem run_optional_taken
    (taken : r.run u fold c (fun c' => if c'.rest.length < c.rest.length then k c' else none) =
      some found) :
    (rep r 0 (some 1)).run u fold c k = some found := by
  rw [run_optional_eq, taken]

theorem run_optional_left
    (left : ∀ k', r.run u fold c k' = none) :
    (rep r 0 (some 1)).run u fold c k = k c := by
  rw [run_optional_eq, left]

end Regex

namespace Pattern
variable {u : Unicode} {p : Pattern} {before skipped rest : List Char}

/-- The search passes over places where no match begins. -/
theorem searchFrom_skip
    (nothing : ∀ done x more, skipped = done ++ x :: more →
      p.matchAt u (.at_ (done.reverse ++ before) (x :: more ++ rest)) = none) :
    p.searchFrom u before (skipped ++ rest) = p.searchFrom u (skipped.reverse ++ before) rest := by
  induction skipped generalizing before with
  | nil => rfl
  | cons x skipped ih =>
    have here := nothing [] x skipped rfl
    have later := ih fun done y more split => by
      have there := nothing (x :: done) y more (by rw [split]; rfl)
      simpa using there
    rw [List.cons_append, List.reverse_cons, List.append_assoc, List.singleton_append, ← later]
    rw [searchFrom, show p.matchAt u (.at_ before (x :: (skipped ++ rest))) = none from here]

theorem searchFrom_found {m : Match} (found : p.matchAt u (.at_ before rest) = some m) :
    p.searchFrom u before rest = some m := by
  cases rest with
  | nil => exact found
  | cons x rest =>
    unfold searchFrom
    rw [found]

end Pattern
