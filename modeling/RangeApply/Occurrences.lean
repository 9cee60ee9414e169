import RangeApply.Regex

/-! Where the matches of a pattern lie: every match is a passage of the text, with what stands
before it and after it in their places. -/

namespace Cursor

/-- The later place lies behind the earlier one, by the text that was passed over. -/
def Reaches (c later : Cursor) (passed : List Char) : Prop :=
  c.rest = passed ++ later.rest ∧ later.before = passed.reverse ++ c.before

variable {a b c : Cursor} {s t : List Char}

theorem Reaches.refl (c : Cursor) : c.Reaches c [] := ⟨rfl, rfl⟩

theorem Reaches.trans (first : a.Reaches b s) (second : b.Reaches c t) : a.Reaches c (s ++ t) := by
  obtain ⟨rest, before⟩ := first
  obtain ⟨rest', before'⟩ := second
  constructor
  · rw [rest, rest', List.append_assoc]
  · rw [before', before, List.reverse_append, List.append_assoc]

theorem Reaches.upTo (reaches : a.Reaches b s) : a.upTo b = s := by
  unfold Cursor.upTo
  rw [reaches.1, List.length_append, Nat.add_sub_cancel]
  exact List.take_left

/-- The whole text, wherever in it one is. -/
theorem Reaches.whole (reaches : a.Reaches b s) :
    b.before.reverse ++ b.rest = a.before.reverse ++ a.rest := by
  simp [reaches.1, reaches.2]

end Cursor

namespace Matcher

/-- Whatever it succeeds with, it went on from a place further along. -/
def Moves (m : Matcher) : Prop :=
  ∀ c k out, m c k = some out → ∃ c' passed, k c' = some out ∧ c.Reaches c' passed

variable {m : Matcher}

theorem Moves.times (moves : m.Moves) (count : Nat) : (m.times count).Moves := by
  induction count with
  | zero => exact fun c k out ran => ⟨c, [], ran, .refl c⟩
  | succ count ih =>
    intro c k out ran
    obtain ⟨c', passed, ran', reaches⟩ := moves c _ out ran
    obtain ⟨c'', passed', ran'', reaches'⟩ := ih c' k out ran'
    exact ⟨c'', _, ran'', reaches.trans reaches'⟩

theorem Moves.greedy (moves : m.Moves) (count : Nat) : (m.greedy count).Moves := by
  induction count with
  | zero => exact fun c k out ran => ⟨c, [], ran, .refl c⟩
  | succ count ih =>
    intro c k out ran
    unfold Matcher.greedy at ran
    split at ran
    · next found inner =>
      obtain rfl := Option.some.inj ran
      obtain ⟨c', passed, ran', reaches⟩ := moves c _ _ inner
      split at ran'
      · obtain ⟨c'', passed', ran'', reaches'⟩ := ih c' k _ ran'
        exact ⟨c'', _, ran'', reaches.trans reaches'⟩
      · cases ran'
    · exact ⟨c, [], ran, .refl c⟩

end Matcher

namespace Regex

theorem run_moves (u : Unicode) (fold : Bool) (r : Regex) : (r.run u fold).Moves := by
  induction r with
  | empty => exact fun c k out ran => ⟨c, [], ran, .refl c⟩
  | set s =>
    intro c k out ran
    unfold run at ran
    split at ran
    · cases ran
    next x rest ahead =>
    split at ran
    · exact ⟨_, [x], ran, ahead, rfl⟩
    · cases ran
  | seq a b iha ihb =>
    intro c k out ran
    obtain ⟨c', passed, ran', reaches⟩ := iha c _ out ran
    obtain ⟨c'', passed', ran'', reaches'⟩ := ihb c' k out ran'
    exact ⟨c'', _, ran'', reaches.trans reaches'⟩
  | alt a b iha ihb =>
    intro c k out ran
    unfold run at ran
    split at ran
    · next found inner =>
      obtain rfl := Option.some.inj ran
      exact iha c k _ inner
    · exact ihb c k out ran
  | rep r least most ih =>
    intro c k out ran
    obtain ⟨c', passed, ran', reaches⟩ := ih.times least c _ out ran
    obtain ⟨c'', passed', ran'', reaches'⟩ := ih.greedy _ c' k out ran'
    exact ⟨c'', _, ran'', reaches.trans reaches'⟩
  | group n r ih =>
    intro c k out ran
    obtain ⟨c', passed, ran', reaches⟩ := ih c _ out ran
    exact ⟨_, passed, ran', reaches⟩
  | boundary | start | stop =>
    intro c k out ran
    unfold run at ran
    split at ran
    · exact ⟨c, [], ran, .refl c⟩
    · cases ran
  | notAhead r =>
    intro c k out ran
    unfold run at ran
    split at ran
    · cases ran
    · exact ⟨c, [], ran, .refl c⟩
  | notBehind s =>
    intro c k out ran
    unfold run at ran
    split at ran
    · exact ⟨c, [], ran, .refl c⟩
    split at ran
    · cases ran
    · exact ⟨c, [], ran, .refl c⟩

end Regex

namespace Match

/-- The match is a passage of the text. -/
structure In (m : Match) (text : List Char) : Prop where
  spans : m.first.Reaches m.last m.text
  whole : m.first.before.reverse ++ m.first.rest = text

/-- A text with a match in it: what stands before, the match, and what stands after. -/
theorem In.split {m : Match} {text : List Char} (inside : m.In text) :
    text = m.first.before.reverse ++ m.text ++ m.last.rest := by
  rw [← inside.whole, inside.spans.1, List.append_assoc]

end Match

namespace Pattern
variable {u : Unicode} {p : Pattern} {m : Match} {before rest : List Char}

theorem matchAt_in {c : Cursor} (found : p.matchAt u c = some m) :
    m.In (c.before.reverse ++ c.rest) := by
  obtain ⟨last, ran, rfl⟩ := Option.map_eq_some_iff.mp found
  obtain ⟨c', passed, same, reaches⟩ := Regex.run_moves u p.ignoreCase p.regex c some last ran
  obtain rfl := Option.some.inj same
  refine ⟨?_, rfl⟩
  have taken : (Match.mk c c').text = passed := reaches.upTo
  rw [taken]
  exact reaches

theorem searchFrom_in (found : p.searchFrom u before rest = some m) :
    m.In (before.reverse ++ rest) := by
  induction rest generalizing before with
  | nil => exact matchAt_in found
  | cons x rest ih =>
    unfold searchFrom at found
    split at found
    · next here =>
      obtain rfl := Option.some.inj found
      exact matchAt_in here
    · have later := ih found
      rwa [List.reverse_cons, List.append_assoc, List.singleton_append] at later

theorem matchesFrom_in (n : Nat) (found : m ∈ p.matchesFrom u n before rest) :
    m.In (before.reverse ++ rest) := by
  induction n generalizing before rest with
  | zero => cases found
  | succ n ih =>
    unfold matchesFrom at found
    split at found
    · cases found
    next first here =>
    have inside := searchFrom_in here
    have whole : first.last.before.reverse ++ first.last.rest = before.reverse ++ rest :=
      inside.spans.whole.trans inside.whole
    split at found
    · rcases List.mem_cons.mp found with rfl | later
      · exact inside
      · exact whole ▸ ih later
    split at found
    · exact (List.mem_singleton.mp found) ▸ inside
    next x after ahead =>
    rcases List.mem_cons.mp found with rfl | later
    · exact inside
    · have goes := ih later
      rw [List.reverse_cons, List.append_assoc, List.singleton_append, ← ahead, whole] at goes
      exact goes

/-- Every match that is found is a passage of the text. -/
theorem all_in {text : List Char} (found : m ∈ p.all u text) : m.In text :=
  matchesFrom_in _ found

end Pattern
