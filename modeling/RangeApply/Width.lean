import RangeApply.Regex

/-! The least number of characters that a pattern takes: what a match is at least long. -/
namespace Matcher

/-- Whatever it succeeds with, it went on from a place at least so far ahead. -/
def Takes (m : Matcher) (n : Nat) : Prop :=
  ∀ c k out, m c k = some out → ∃ c', k c' = some out ∧ c'.rest.length + n ≤ c.rest.length

variable {m : Matcher} {n : Nat}

theorem Takes.times (takes : m.Takes n) (count : Nat) : (m.times count).Takes (count * n) := by
  induction count with
  | zero => exact fun c k out ran => ⟨c, ran, by omega⟩
  | succ count ih =>
    intro c k out ran
    obtain ⟨c', ran', ahead⟩ := takes c _ out ran
    obtain ⟨c'', ran'', ahead'⟩ := ih c' k out ran'
    refine ⟨c'', ran'', ?_⟩
    rw [Nat.add_mul]
    omega

theorem Takes.greedy (takes : m.Takes n) (count : Nat) : (m.greedy count).Takes 0 := by
  induction count with
  | zero => exact fun c k out ran => ⟨c, ran, by omega⟩
  | succ count ih =>
    intro c k out ran
    unfold Matcher.greedy at ran
    split at ran
    · next found inner =>
      obtain rfl := Option.some.inj ran
      obtain ⟨c', ran', ahead⟩ := takes c _ _ inner
      split at ran'
      · obtain ⟨c'', ran'', ahead'⟩ := ih c' k _ ran'
        exact ⟨c'', ran'', by omega⟩
      · cases ran'
    · exact ⟨c, ran, by omega⟩

end Matcher

namespace Regex

def width : Regex → Nat
  | empty | boundary | start | stop | notAhead _ | notBehind _ => 0
  | set _ => 1
  | seq a b => a.width + b.width
  | alt a b => min a.width b.width
  | rep r least _ => least * r.width
  | group _ r => r.width

theorem run_takes (u : Unicode) (fold : Bool) (r : Regex) : (r.run u fold).Takes r.width := by
  induction r with
  | empty => exact fun c k out ran => ⟨c, ran, Nat.le_refl _⟩
  | set s =>
    intro c k out ran
    unfold run at ran
    split at ran
    · cases ran
    next x rest ahead =>
    split at ran
    · exact ⟨_, ran, by simp [ahead, width]⟩
    · cases ran
  | seq a b iha ihb =>
    intro c k out ran
    obtain ⟨c', ran', ahead⟩ := iha c _ out ran
    obtain ⟨c'', ran'', ahead'⟩ := ihb c' k out ran'
    refine ⟨c'', ran'', ?_⟩
    unfold width
    omega
  | alt a b iha ihb =>
    intro c k out ran
    unfold run at ran
    unfold width
    split at ran
    · next found inner =>
      obtain rfl := Option.some.inj ran
      obtain ⟨c', ran', ahead⟩ := iha c k _ inner
      exact ⟨c', ran', by omega⟩
    · obtain ⟨c', ran', ahead⟩ := ihb c k out ran
      exact ⟨c', ran', by omega⟩
  | rep r least most ih =>
    intro c k out ran
    obtain ⟨c', ran', ahead⟩ := ih.times least c _ out ran
    obtain ⟨c'', ran'', ahead'⟩ := ih.greedy _ c' k out ran'
    refine ⟨c'', ran'', ?_⟩
    unfold width
    omega
  | group n r ih =>
    intro c k out ran
    obtain ⟨c', ran', ahead⟩ := ih c _ out ran
    exact ⟨_, ran', ahead⟩
  | boundary | start | stop =>
    intro c k out ran
    unfold run at ran
    split at ran
    · exact ⟨c, ran, Nat.le_refl _⟩
    · cases ran
  | notAhead r =>
    intro c k out ran
    unfold run at ran
    split at ran
    · cases ran
    · exact ⟨c, ran, Nat.le_refl _⟩
  | notBehind s =>
    intro c k out ran
    unfold run at ran
    split at ran
    · exact ⟨c, ran, Nat.le_refl _⟩
    split at ran
    · cases ran
    · exact ⟨c, ran, Nat.le_refl _⟩

end Regex

namespace Pattern
variable {u : Unicode} {p : Pattern} {m : Match}

theorem matchAt_width {c : Cursor} (found : p.matchAt u c = some m) :
    p.regex.width ≤ m.text.length := by
  obtain ⟨last, ran, rfl⟩ := Option.map_eq_some_iff.mp found
  obtain ⟨c', same, ahead⟩ := Regex.run_takes u p.ignoreCase p.regex c some last ran
  obtain rfl := Option.some.inj same
  change _ ≤ (c.rest.take (c.rest.length - c'.rest.length)).length
  rw [List.length_take]
  omega

/-- A match is at least as long as its pattern is wide. -/
theorem search_width {text : List Char} (found : p.search u text = some m) :
    p.regex.width ≤ m.text.length := by
  suffices from_ : ∀ before rest, p.searchFrom u before rest = some m →
      p.regex.width ≤ m.text.length from from_ [] text found
  intro before rest
  induction rest generalizing before with
  | nil => exact fun found => matchAt_width found
  | cons x rest ih =>
    intro found
    unfold searchFrom at found
    split at found
    · next here =>
      obtain rfl := Option.some.inj found
      exact matchAt_width here
    · exact ih _ found

end Pattern
