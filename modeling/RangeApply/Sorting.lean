import RangeApply.Outcome

/-! Sorting by a key: the keys form a linear order, a sorted list is determined by its elements
once their keys differ, and sorting commutes with a filter. -/
namespace RangeApply

/-! ### The order of the keys -/

theorem keyLe_refl (a : List Int) : keyLe a a = true := by
  induction a with
  | nil => rfl
  | cons x a ih => simp [keyLe, ih]

theorem keyLe_total (a b : List Int) : keyLe a b = true ∨ keyLe b a = true := by
  induction a generalizing b with
  | nil => exact .inl rfl
  | cons x a ih =>
    cases b with
    | nil => exact .inr rfl
    | cons y b =>
      by_cases same : x = y
      · subst same
        simp [keyLe, ih b]
      · have ordered : x < y ∨ y < x := lt_or_gt_of_ne same
        simp only [keyLe, if_neg same, if_neg (Ne.symm same), decide_eq_true_iff]
        exact ordered

theorem keyLe_trans {a b c : List Int} (left : keyLe a b = true) (right : keyLe b c = true) :
    keyLe a c = true := by
  induction a generalizing b c with
  | nil => rfl
  | cons x a ih =>
    cases b with
    | nil => cases left
    | cons y b =>
      cases c with
      | nil => cases right
      | cons z c =>
        simp only [keyLe] at left right ⊢
        by_cases xy : x = y
        · subst xy
          rw [if_pos rfl] at left
          by_cases xz : x = z
          · rw [if_pos xz] at right ⊢
            exact ih left right
          · rwa [if_neg xz] at right ⊢
        · rw [if_neg xy, decide_eq_true_iff] at left
          by_cases yz : y = z
          · subst yz
            rw [if_neg xy]
            exact decide_eq_true left
          · rw [if_neg yz, decide_eq_true_iff] at right
            rw [if_neg (by omega)]
            exact decide_eq_true (by omega)

theorem keyLe_antisymm {a b : List Int} (left : keyLe a b = true) (right : keyLe b a = true) :
    a = b := by
  induction a generalizing b with
  | nil =>
    cases b with
    | nil => rfl
    | cons y b => cases right
  | cons x a ih =>
    cases b with
    | nil => cases left
    | cons y b =>
      by_cases same : x = y
      · subst same
        simp only [keyLe, if_true] at left right
        rw [ih left right]
      · simp only [keyLe, if_neg same, if_neg (Ne.symm same), decide_eq_true_iff] at left right
        omega

/-- One key comes after another. -/
def keyLt (a b : List Int) : Prop := keyLe b a = false

theorem keyLt.of_le {a b c : List Int} (before : keyLe a b = true) (after : keyLt b c) :
    keyLt a c := by
  by_contra reached
  rw [keyLt, Bool.not_eq_false] at reached
  rw [keyLt, keyLe_trans reached before] at after
  cases after

/-! ### Sorted lists -/

section Sorted
variable {β : Type} {key : β → List Int} {l : List β}

def SortedBy (key : β → List Int) (l : List β) : Prop :=
  l.Pairwise fun a b => keyLe (key a) (key b) = true

theorem insertBy_front {r : β} (above : ∀ a ∈ l, keyLt (key r) (key a)) :
    insertBy key r l = r :: l := by
  cases l with
  | nil => rfl
  | cons a l =>
    have here : keyLe (key a) (key r) = false := above a List.mem_cons_self
    rw [insertBy, here, if_neg (by decide)]

theorem insertBy_sorted (r : β) (sorted : SortedBy key l) : SortedBy key (insertBy key r l) := by
  induction l with
  | nil => exact List.pairwise_singleton _ _
  | cons a l ih =>
    obtain ⟨first, rest⟩ := List.pairwise_cons.mp sorted
    rw [insertBy]
    by_cases before : keyLe (key a) (key r) = true
    · rw [if_pos before]
      refine List.pairwise_cons.mpr ⟨fun b member => ?_, ih rest⟩
      rcases List.mem_cons.mp ((insertBy_perm r l).mem_iff.mp member) with rfl | old
      · exact before
      · exact first b old
    · rw [if_neg before]
      have here : keyLe (key r) (key a) = true := (keyLe_total _ _).resolve_right before
      refine List.pairwise_cons.mpr ⟨fun b member => ?_, sorted⟩
      rcases List.mem_cons.mp member with rfl | later
      · exact here
      · exact keyLe_trans here (first b later)

/-- What insertion keeps, sorting has. -/
theorem sortBy_induction {motive : List β → List β → Prop} (nil : motive [] [])
    (insert : ∀ rows sorted r, motive rows sorted →
      motive (rows ++ [r]) (insertBy key r sorted)) (rows : List β) :
    motive rows (sortBy key rows) := by
  have all (rest done sorted : List β) (here : motive done sorted) :
      motive (done ++ rest) (rest.foldl (fun acc r => insertBy key r acc) sorted) := by
    induction rest generalizing done sorted with
    | nil => simpa using here
    | cons r rest ih =>
      have next := ih (done ++ [r]) (insertBy key r sorted) (insert done sorted r here)
      simpa using next
  exact all rows [] [] nil

theorem sortBy_sorted (rows : List β) : SortedBy key (sortBy key rows) :=
  sortBy_induction (motive := fun _ sorted => SortedBy key sorted) .nil
    (fun _ _ r sorted => insertBy_sorted r sorted) rows

/-- Two sorts of the same elements agree once the keys differ. -/
theorem sortBy_eq_of_perm {rows rows' : List β} (same : rows'.Perm rows)
    (distinct : (rows.map key).Nodup) : sortBy key rows' = sortBy key rows := by
  have perm : (sortBy key rows').Perm (sortBy key rows) :=
    ((sortBy_perm rows').trans same).trans (sortBy_perm rows).symm
  refine perm.eq_of_pairwise (fun a b left right ab ba => ?_) (sortBy_sorted _) (sortBy_sorted _)
  have leftIn : a ∈ rows := same.mem_iff.mp ((sortBy_perm rows').mem_iff.mp left)
  have rightIn : b ∈ rows := (sortBy_perm rows).mem_iff.mp right
  exact List.inj_on_of_nodup_map distinct leftIn rightIn (keyLe_antisymm ab ba)

theorem insertBy_filter (kept : β → Bool) (r : β) (sorted : SortedBy key l) :
    (insertBy key r l).filter kept =
      if kept r then insertBy key r (l.filter kept) else l.filter kept := by
  induction l with
  | nil => cases here : kept r <;> simp [insertBy, here]
  | cons a l ih =>
    obtain ⟨first, rest⟩ := List.pairwise_cons.mp sorted
    have later := ih rest
    rw [insertBy]
    by_cases before : keyLe (key a) (key r) = true
    · rw [if_pos before, List.filter_cons, List.filter_cons, later]
      cases kept a <;> cases kept r <;> simp [insertBy, before]
    · rw [if_neg before, List.filter_cons]
      have above : ∀ b ∈ (a :: l).filter kept, keyLt (key r) (key b) := by
        intro b member
        have ahead : keyLt (key r) (key a) := by simpa [keyLt] using before
        rcases List.mem_cons.mp (List.mem_filter.mp member).1 with rfl | inside
        · exact ahead
        · by_contra reached
          rw [keyLt, Bool.not_eq_false] at reached
          exact before (keyLe_trans (first b inside) reached)
      rw [insertBy_front above]

/-- The rows that are kept stand in the order they had. -/
theorem sortBy_filter (kept : β → Bool) (rows : List β) :
    sortBy key (rows.filter kept) = (sortBy key rows).filter kept := by
  suffices all : SortedBy key (sortBy key rows) ∧
      sortBy key (rows.filter kept) = (sortBy key rows).filter kept from all.2
  refine sortBy_induction (motive := fun rows sorted => SortedBy key sorted ∧
    sortBy key (rows.filter kept) = sorted.filter kept) ⟨.nil, rfl⟩ ?_ rows
  rintro rows sorted r ⟨ordered, same⟩
  refine ⟨insertBy_sorted r ordered, ?_⟩
  rw [insertBy_filter kept r ordered, ← same, List.filter_append]
  cases here : kept r
  · simp [here]
  · simp [here, sortBy]

theorem SortedBy.le_getLast (sorted : SortedBy key l) {a last : β} (member : a ∈ l)
    (end_ : l.getLast? = some last) : keyLe (key a) (key last) = true := by
  obtain ⟨before, rfl⟩ := List.getLast?_eq_some_iff.mp end_
  rcases List.mem_append.mp member with earlier | here
  · exact (List.pairwise_append.mp sorted).2.2 a earlier last List.mem_cons_self
  · rw [List.mem_singleton.mp here]
    exact keyLe_refl _

end Sorted

/-! ### The greatest element -/

section Greatest
variable {α : Type} {key : α → List Int}

theorem foldl_greatest (l : List α) (a : α) :
    let best := l.foldl (fun best b => if keyLe (key b) (key best) then best else b) a
    best ∈ a :: l ∧ ∀ b ∈ a :: l, keyLe (key b) (key best) = true := by
  induction l generalizing a with
  | nil =>
    refine ⟨List.mem_cons_self, fun b member => ?_⟩
    rw [List.mem_singleton.mp member]
    exact keyLe_refl _
  | cons c l ih =>
    rw [List.foldl_cons]
    by_cases before : keyLe (key c) (key a) = true
    · simp only [before, if_true]
      obtain ⟨member, above⟩ := ih a
      refine ⟨by simp only [List.mem_cons] at member ⊢; tauto, fun b here => ?_⟩
      rcases List.mem_cons.mp here with rfl | here
      · exact above b List.mem_cons_self
      · rcases List.mem_cons.mp here with rfl | here
        · exact keyLe_trans before (above a List.mem_cons_self)
        · exact above b (List.mem_cons_of_mem _ here)
    · simp only [before]
      obtain ⟨member, above⟩ := ih c
      refine ⟨List.mem_cons_of_mem _ member, fun b here => ?_⟩
      rcases List.mem_cons.mp here with rfl | here
      · exact keyLe_trans ((keyLe_total _ _).resolve_left before) (above c List.mem_cons_self)
      · exact above b here

theorem greatest_spec {l : List α} {best : α} (found : greatest key l = some best) :
    best ∈ l ∧ ∀ b ∈ l, keyLe (key b) (key best) = true := by
  cases l with
  | nil => cases found
  | cons a l =>
    cases found
    exact foldl_greatest l a

theorem greatest_eq_none {l : List α} : greatest key l = none ↔ l = [] := by
  cases l <;> simp [greatest]

/-- The greatest element comes after smaller ones only, and nothing after it is greater. -/
theorem greatest_split {l : List α} {best : α} : greatest key l = some best ↔
    ∃ before after, l = before ++ best :: after ∧ (∀ a ∈ before, keyLt (key a) (key best)) ∧
      ∀ a ∈ after, keyLe (key a) (key best) = true := by
  have kept (after : List α) (a : α) (low : ∀ b ∈ after, keyLe (key b) (key a) = true) :
      after.foldl (fun best b => if keyLe (key b) (key best) then best else b) a = a := by
    induction after with
    | nil => rfl
    | cons b after ih =>
      rw [List.foldl_cons, if_pos (low b List.mem_cons_self)]
      exact ih fun c member => low c (List.mem_cons_of_mem _ member)
  have split (l : List α) (a : α) :
      let best := l.foldl (fun best b => if keyLe (key b) (key best) then best else b) a
      ∃ before after, a :: l = before ++ best :: after ∧
        (∀ c ∈ before, keyLt (key c) (key best)) ∧
        ∀ c ∈ after, keyLe (key c) (key best) = true := by
    induction l generalizing a with
    | nil => exact ⟨[], [], rfl, by simp, by simp⟩
    | cons c l ih =>
      rw [List.foldl_cons]
      by_cases low : keyLe (key c) (key a) = true
      · rw [if_pos low]
        obtain ⟨before, after, shape, smaller, rest⟩ := ih a
        cases before with
        | nil =>
          obtain ⟨same, rfl⟩ := List.cons.inj shape
          refine ⟨[], c :: l, by rw [← same]; rfl, by simp, fun b member => ?_⟩
          rcases List.mem_cons.mp member with rfl | later
          · exact same ▸ low
          · exact rest b later
        | cons b before =>
          obtain ⟨rfl, tail⟩ := List.cons.inj shape
          refine ⟨a :: c :: before, after, congrArg (fun l => a :: c :: l) tail,
            fun b member => ?_, rest⟩
          rcases List.mem_cons.mp member with rfl | later
          · exact smaller b List.mem_cons_self
          · rcases List.mem_cons.mp later with rfl | later
            · exact (smaller a List.mem_cons_self).of_le low
            · exact smaller b (List.mem_cons_of_mem _ later)
      · rw [if_neg low]
        obtain ⟨before, after, shape, smaller, rest⟩ := ih c
        have above : keyLe (key a) (key c) = true := (keyLe_total _ _).resolve_left low
        refine ⟨a :: before, after, by rw [shape]; rfl, fun b member => ?_, rest⟩
        rcases List.mem_cons.mp member with rfl | later
        · cases before with
          | nil =>
            obtain ⟨same, -⟩ := List.cons.inj shape
            rw [← same, keyLt]
            simpa using low
          | cons d before =>
            obtain ⟨rfl, -⟩ := List.cons.inj shape
            exact (smaller c List.mem_cons_self).of_le above
        · exact smaller b later
  constructor
  · intro found
    cases l with
    | nil => cases found
    | cons a l =>
      cases found
      exact split l a
  · rintro ⟨before, after, rfl, smaller, rest⟩
    cases before with
    | nil => exact congrArg some (kept after best rest)
    | cons a before =>
      have reached : ∀ c ∈ a :: before, keyLt (key c) (key best) := smaller
      rw [List.cons_append, greatest, List.foldl_append, List.foldl_cons]
      have first : keyLe (key best) (key (before.foldl
          (fun best b => if keyLe (key b) (key best) then best else b) a)) = false :=
        reached _ (foldl_greatest before a).1
      rw [first, if_neg Bool.false_ne_true, kept after best rest]

/-- Of fewer elements the greatest is the same, as long as it is one of them. -/
theorem greatest_filter {l : List α} {best : α} {p : α → Bool} (found : greatest key l = some best)
    (kept : p best = true) : greatest key (l.filter p) = some best := by
  obtain ⟨before, after, rfl, smaller, rest⟩ := greatest_split.mp found
  refine greatest_split.mpr ⟨before.filter p, after.filter p, ?_, fun a member => ?_,
    fun a member => ?_⟩
  · rw [List.filter_append, List.filter_cons, if_pos kept]
  · exact smaller a (List.mem_filter.mp member).1
  · exact rest a (List.mem_filter.mp member).1

end Greatest

end RangeApply
