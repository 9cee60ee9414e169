import Mathlib.Data.Finset.Dedup
import Mathlib.Data.List.Basic
import Mathlib.Data.List.Nodup

/-! A keyed table: rows in a fixed order, one row to a key. Rows are changed in place, appended and
erased. -/

structure Table (κ ρ : Type*) where
  rows : List (κ × ρ)
  nodup : (rows.map Prod.fst).Nodup

namespace Table

variable {κ ρ : Type*}

def empty : Table κ ρ := ⟨[], List.nodup_nil⟩

instance : Membership (κ × ρ) (Table κ ρ) := ⟨fun t r => r ∈ t.rows⟩

theorem eq_of_rows {s t : Table κ ρ} (rows : s.rows = t.rows) : s = t := by
  cases s
  cases t
  cases rows
  rfl

def All (p : κ → ρ → Prop) (t : Table κ ρ) : Prop := ∀ r ∈ t.rows, p r.1 r.2

instance (p : κ → ρ → Prop) [∀ k v, Decidable (p k v)] (t : Table κ ρ) : Decidable (t.All p) :=
  inferInstanceAs (Decidable (∀ r ∈ t.rows, p r.1 r.2))

theorem All.mono {p q : κ → ρ → Prop} {t : Table κ ρ} (all : t.All p)
    (weaker : ∀ k v, p k v → q k v) : t.All q :=
  fun r hr => weaker _ _ (all r hr)

def mapRows (f : κ → ρ → ρ) (t : Table κ ρ) : Table κ ρ where
  rows := t.rows.map fun r => (r.1, f r.1 r.2)
  nodup := by simpa [Function.comp_def] using t.nodup

@[simp] theorem mapRows_rows (f : κ → ρ → ρ) (t : Table κ ρ) :
    (t.mapRows f).rows = t.rows.map fun r => (r.1, f r.1 r.2) := rfl

theorem all_mapRows {p : κ → ρ → Prop} {f : κ → ρ → ρ} {t : Table κ ρ} :
    (t.mapRows f).All p ↔ t.All fun k v => p k (f k v) := by
  simp only [All, mapRows_rows, List.forall_mem_map]

theorem nodup_unique {l : List (κ × ρ)} (nodup : (l.map Prod.fst).Nodup) {k : κ} {v w : ρ}
    (hv : (k, v) ∈ l) (hw : (k, w) ∈ l) : v = w := by
  have h := List.inj_on_of_nodup_map nodup hv hw rfl
  exact (Prod.mk.inj h).2

section Lookup
variable [DecidableEq κ]

def get (t : Table κ ρ) (k : κ) : Option ρ :=
  (t.rows.find? fun r => r.1 = k).map Prod.snd

theorem get_eq_some {t : Table κ ρ} {k : κ} {v : ρ} : t.get k = some v ↔ (k, v) ∈ t.rows := by
  constructor
  · intro found
    simp only [get, Option.map_eq_some_iff] at found
    obtain ⟨r, hr, rfl⟩ := found
    have hk : r.1 = k := by simpa using List.find?_some hr
    exact hk ▸ List.mem_of_find?_eq_some hr
  · intro member
    have isSome : (t.rows.find? fun r => r.1 = k).isSome := by
      rw [List.find?_isSome]
      exact ⟨(k, v), member, by simp⟩
    obtain ⟨r, hr⟩ := Option.isSome_iff_exists.mp isSome
    have hk : r.1 = k := by simpa using List.find?_some hr
    have hm : (k, r.2) ∈ t.rows := hk ▸ List.mem_of_find?_eq_some hr
    simp [get, hr, nodup_unique t.nodup hm member]

theorem All.get {p : κ → ρ → Prop} {t : Table κ ρ} (all : t.All p) {k : κ} {v : ρ}
    (found : t.get k = some v) : p k v :=
  all _ (get_eq_some.mp found)

def modify (t : Table κ ρ) (k : κ) (f : ρ → ρ) : Table κ ρ :=
  t.mapRows fun k' v => if k' = k then f v else v

/-- Store `v` at `k` when the table has a row there. -/
def put (t : Table κ ρ) (k : κ) (v : ρ) : Table κ ρ := t.modify k fun _ => v

theorem get_mapRows (f : κ → ρ → ρ) (t : Table κ ρ) (k : κ) :
    (t.mapRows f).get k = (t.get k).map (f k) := by
  cases found : t.get k with
  | none =>
    cases later : (t.mapRows f).get k with
    | none => rfl
    | some w =>
      have member := get_eq_some.mp later
      simp only [mapRows_rows, List.mem_map, Prod.mk.injEq] at member
      obtain ⟨r, hr, rfl, -⟩ := member
      rw [get_eq_some.mpr hr] at found
      contradiction
  | some v =>
    have member := get_eq_some.mp found
    exact get_eq_some.mpr (List.mem_map.mpr ⟨(k, v), member, rfl⟩)

@[simp] theorem get_modify_self (t : Table κ ρ) (k : κ) (f : ρ → ρ) :
    (t.modify k f).get k = (t.get k).map f := by
  simp [modify, get_mapRows]

theorem get_modify_other (t : Table κ ρ) {k k' : κ} (f : ρ → ρ) (other : k' ≠ k) :
    (t.modify k f).get k' = t.get k' := by
  cases h : t.get k' <;> simp [modify, get_mapRows, other, h]

theorem get_put_self {t : Table κ ρ} {k : κ} {v w : ρ} (found : t.get k = some w) :
    (t.put k v).get k = some v := by
  simp [put, found]

theorem get_put_other (t : Table κ ρ) {k k' : κ} (v : ρ) (other : k' ≠ k) :
    (t.put k v).get k' = t.get k' :=
  get_modify_other t _ other

theorem all_put {p : κ → ρ → Prop} {t : Table κ ρ} {k : κ} {v : ρ} (all : t.All p) (here : p k v) :
    (t.put k v).All p := by
  refine all_mapRows.mpr fun r hr => ?_
  by_cases same : r.1 = k
  · simpa [same] using here
  · simpa [same] using all r hr

/-- Append a row when its key is free. -/
def insertNew (t : Table κ ρ) (k : κ) (v : ρ) : Table κ ρ :=
  if free : k ∈ t.rows.map Prod.fst then t
  else ⟨t.rows ++ [(k, v)], by
    rw [List.map_append, List.nodup_append']
    refine ⟨t.nodup, List.nodup_singleton _, ?_⟩
    simpa using free⟩

theorem all_insertNew {p : κ → ρ → Prop} {t : Table κ ρ} {k : κ} {v : ρ} (all : t.All p)
    (here : t.get k = none → p k v) : (t.insertNew k v).All p := by
  unfold insertNew
  split
  · exact all
  · rename_i free
    intro r hr
    rcases List.mem_append.mp hr with old | new
    · exact all r old
    · cases List.mem_singleton.mp new
      refine here (Option.eq_none_iff_forall_ne_some.mpr fun w found => free ?_)
      exact List.mem_map_of_mem (get_eq_some.mp found)

theorem get_put_none {t : Table κ ρ} {k k' : κ} (v : ρ) (missing : t.get k' = none) :
    (t.put k v).get k' = none := by
  rw [put, modify, get_mapRows, missing]
  rfl

theorem get_insertNew_none {t : Table κ ρ} {k k' : κ} {v w : ρ} (missing : t.get k' = none)
    (found : (t.insertNew k v).get k' = some w) : k' = k ∧ w = v := by
  unfold insertNew at found
  split at found
  · rw [missing] at found
    contradiction
  · rcases List.mem_append.mp (get_eq_some.mp found) with old | new
    · rw [get_eq_some.mpr old] at missing
      contradiction
    · exact Prod.mk.inj (List.mem_singleton.mp new)

theorem get_insertNew {t : Table κ ρ} {k k' : κ} {v w : ρ} (found : t.get k' = some w) :
    (t.insertNew k v).get k' = some w := by
  unfold insertNew
  split
  · exact found
  · exact get_eq_some.mpr (List.mem_append_left _ (get_eq_some.mp found))

theorem get_insertNew_self {t : Table κ ρ} {k : κ} {v : ρ} (missing : t.get k = none) :
    (t.insertNew k v).get k = some v := by
  have free : k ∉ t.rows.map Prod.fst := by
    intro member
    obtain ⟨r, hr, rfl⟩ := List.mem_map.mp member
    rw [get_eq_some.mpr hr] at missing
    contradiction
  refine get_eq_some.mpr ?_
  simp only [insertNew, dif_neg free]
  exact List.mem_append_right _ (List.mem_singleton_self _)

/-- Store `v` at `k`, in a row of its own when there is none. -/
def set (t : Table κ ρ) (k : κ) (v : ρ) : Table κ ρ := (t.insertNew k v).put k v

theorem all_set {p : κ → ρ → Prop} {t : Table κ ρ} {k : κ} {v : ρ} (all : t.All p) (here : p k v) :
    (t.set k v).All p :=
  all_put (all_insertNew all fun _ => here) here

@[simp] theorem get_set_self (t : Table κ ρ) (k : κ) (v : ρ) : (t.set k v).get k = some v := by
  cases found : t.get k with
  | none => exact get_put_self (get_insertNew_self found)
  | some w => exact get_put_self (get_insertNew found)

theorem get_set_other (t : Table κ ρ) {k k' : κ} (v : ρ) (other : k' ≠ k) :
    (t.set k v).get k' = t.get k' := by
  rw [set, get_put_other _ _ other]
  cases found : t.get k' with
  | none =>
    refine Option.eq_none_iff_forall_ne_some.mpr fun w inserted => ?_
    exact other (get_insertNew_none found inserted).1
  | some w => exact get_insertNew found

/-- The table without the row of a key. -/
def erase (t : Table κ ρ) (k : κ) : Table κ ρ where
  rows := t.rows.filter fun r => r.1 ≠ k
  nodup := t.nodup.sublist (List.filter_sublist.map _)

theorem get_erase {t : Table κ ρ} {k k' : κ} {v : ρ} :
    (t.erase k).get k' = some v ↔ k' ≠ k ∧ t.get k' = some v := by
  rw [get_eq_some, get_eq_some]
  simp [erase, and_comm]

theorem modify_eq_put {t : Table κ ρ} {k : κ} {v : ρ} (f : ρ → ρ) (found : t.get k = some v) :
    t.modify k f = t.put k (f v) := by
  have rows : (t.modify k f).rows = (t.put k (f v)).rows := by
    simp only [put, modify, mapRows_rows]
    refine List.map_congr_left fun r hr => ?_
    by_cases here : r.1 = k
    · have same : r.2 = v := nodup_unique t.nodup hr (here ▸ get_eq_some.mp found)
      simp only [if_pos here, same]
    · simp only [if_neg here]
  exact eq_of_rows rows

theorem mapRows_put (f : κ → ρ → ρ) (t : Table κ ρ) (k : κ) (v : ρ) :
    (t.put k v).mapRows f = (t.mapRows f).put k (f k v) := by
  have rows : ((t.put k v).mapRows f).rows = ((t.mapRows f).put k (f k v)).rows := by
    simp only [put, modify, mapRows_rows, List.map_map]
    refine List.map_congr_left fun r _ => ?_
    by_cases here : r.1 = k
    · simp [here]
    · simp [here]
  exact eq_of_rows rows

theorem put_get {t : Table κ ρ} {k : κ} {v : ρ} (found : t.get k = some v) : t.put k v = t := by
  have rows : (t.put k v).rows = t.rows := by
    simp only [put, modify, mapRows_rows]
    refine (List.map_congr_left fun r hr => ?_).trans (List.map_id _)
    by_cases here : r.1 = k
    · have same : r.2 = v := nodup_unique t.nodup hr (here ▸ get_eq_some.mp found)
      simp only [if_pos here, ← same, id]
    · simp only [if_neg here, id]
  exact eq_of_rows rows

theorem modify_of_none {t : Table κ ρ} {k : κ} (f : ρ → ρ) (missing : t.get k = none) :
    t.modify k f = t := by
  have rows : (t.modify k f).rows = t.rows := by
    simp only [modify, mapRows_rows]
    refine (List.map_congr_left fun r hr => ?_).trans (List.map_id _)
    have elsewhere : r.1 ≠ k := by
      intro here
      have found : t.get k = some r.2 := get_eq_some.mpr (here ▸ hr)
      rw [missing] at found
      contradiction
    simp only [if_neg elsewhere, id]
  exact eq_of_rows rows

/-- Changing the rows of some keys one after the other is changing them at once. -/
theorem foldl_modify (f : κ → ρ → ρ) {ks : List κ} (nodup : ks.Nodup) (t : Table κ ρ) :
    ks.foldl (fun acc k => acc.modify k (f k)) t =
      t.mapRows fun k v => if k ∈ ks then f k v else v := by
  induction ks generalizing t with
  | nil =>
    cases t
    simp [mapRows]
  | cons k ks ih =>
    rw [List.foldl_cons, ih (List.nodup_cons.mp nodup).2]
    have fresh : k ∉ ks := (List.nodup_cons.mp nodup).1
    simp only [modify, mapRows, List.map_map, Function.comp_def, mk.injEq, List.mem_cons]
    refine List.map_congr_left fun r _ => ?_
    by_cases here : r.1 = k
    · simp [here, fresh]
    · simp [here]

theorem mapRows_eq_foldl (f : κ → ρ → ρ) (t : Table κ ρ) :
    t.mapRows f = (t.rows.map Prod.fst).foldl (fun acc k => acc.modify k (f k)) t := by
  rw [foldl_modify f t.nodup]
  simp only [mapRows, mk.injEq]
  refine List.map_congr_left fun r hr => ?_
  rw [if_pos (List.mem_map_of_mem hr)]

def select (t : Table κ ρ) (p : ρ → Bool) : Finset κ :=
  ((t.rows.filter fun r => p r.2).map Prod.fst).toFinset

theorem mem_select {t : Table κ ρ} {p : ρ → Bool} {k : κ} :
    k ∈ t.select p ↔ ∃ v, t.get k = some v ∧ p v = true := by
  simp only [select, List.mem_toFinset, List.mem_map, List.mem_filter]
  constructor
  · rintro ⟨r, ⟨member, here⟩, rfl⟩
    exact ⟨r.2, get_eq_some.mpr member, here⟩
  · rintro ⟨v, found, here⟩
    exact ⟨(k, v), ⟨get_eq_some.mp found, here⟩, rfl⟩

theorem mem_select_put {t : Table κ ρ} {p : ρ → Bool} {k : κ} {v w : ρ} (found : t.get k = some w) :
    k ∈ (t.put k v).select p ↔ p v = true := by
  simp [mem_select, get_put_self found]

theorem mem_select_put_other {t : Table κ ρ} {p : ρ → Bool} {k k' : κ} {v : ρ} (other : k' ≠ k) :
    k' ∈ (t.put k v).select p ↔ k' ∈ t.select p := by
  simp [mem_select, get_put_other t v other]

theorem select_insertNew {t : Table κ ρ} {p : ρ → Bool} {k : κ} {v : ρ} (no : p v = false) :
    (t.insertNew k v).select p = t.select p := by
  unfold insertNew
  split
  · rfl
  · simp [select, List.filter_append, no]

end Lookup

end Table
