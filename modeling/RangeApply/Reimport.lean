import RangeApply.Seed

/-! A seed document imported twice: what the second import finds of the first. -/
namespace RangeApply.Evidence

def Graph.has (g : Graph) (key : Text) : Prop := (g.nodes.get key).isSome

def Graph.linked (g : Graph) (l : Link) : Prop := (g.relationships.get l).isSome

/-- The node at the key was written with the hash. -/
def Graph.holds (g : Graph) (key : Text) (hash : String) : Prop :=
  ∃ row, g.nodes.get key = some row ∧ row.sourceHash = some hash

/-- The key under which a record without a node is stored. -/
def Importer.nodeKey (i : Importer) (e : Entry) : Text := (i.createData e 0).nodeKey i.unicode

theorem nodeKey_of_named {i : Importer} {e : Entry} (named : e.key ≠ []) : i.nodeKey e = e.key := by
  unfold Importer.nodeKey EvidenceNodeCreate.nodeKey Importer.createData
  split
  · rename_i none_
    cases none_
  · rename_i empty
    exact (named (Option.some.inj empty)).elim
  · rename_i key _ given
    cases given
    rfl

/-- How many nodes and relationships were written. -/
def ImportReport.writes (r : ImportReport) : Nat :=
  r.created.length + r.updated.length + r.relationshipsCreated

namespace Step

def entry : Step → Option Entry
  | upsert e => some e
  | _ => none

def reference : Step → Option Link
  | upsert _ => none
  | link source target relation _ => some (source, target, relation)
  | linkIfExists source target relation _ => some (source, target, relation)

end Step

/-- The graph holds already what the step would write. -/
def Quiet (i : Importer) (g : Graph) : Step → Prop
  | .upsert e => g.holds e.key (i.recordHash e.record)
  | .link source target relation _ => g.linked (source, target, relation)
  | .linkIfExists source target relation _ =>
    g.has source → g.has target → g.linked (source, target, relation)

/-- Nothing but the order and the positions differs. -/
structure Unchanged (g g' : Graph) : Prop where
  nodes : ∀ key, (g'.nodes.get key).map (fun row => (row.sourceHash, row.version)) =
    (g.nodes.get key).map fun row => (row.sourceHash, row.version)
  relationships : ∀ l, g'.linked l ↔ g.linked l
  profile : g'.profile = g.profile

namespace Unchanged
variable {g g' g'' : Graph}

theorem refl (g : Graph) : Unchanged g g := ⟨fun _ => rfl, fun _ => .rfl, rfl⟩

theorem trans (first : Unchanged g g') (second : Unchanged g' g'') : Unchanged g g'' where
  nodes key := (second.nodes key).trans (first.nodes key)
  relationships l := (second.relationships l).trans (first.relationships l)
  profile := second.profile.trans first.profile

theorem has (same : Unchanged g g') (key : Text) : g'.has key ↔ g.has key := by
  have nodes := congrArg Option.isSome (same.nodes key)
  rw [Option.isSome_map, Option.isSome_map] at nodes
  unfold Graph.has
  rw [nodes]

theorem holds (same : Unchanged g g') {key : Text} {hash : String} :
    g'.holds key hash ↔ g.holds key hash := by
  have read (g : Graph) : g.holds key hash ↔ ∃ version,
      (g.nodes.get key).map (fun row => (row.sourceHash, row.version)) =
        some (some hash, version) := by
    constructor
    · rintro ⟨row, found, stored⟩
      exact ⟨row.version, by rw [found, ← stored]; rfl⟩
    · rintro ⟨version, found⟩
      obtain ⟨row, there, read⟩ := Option.map_eq_some_iff.mp found
      exact ⟨row, there, congrArg Prod.fst read⟩
  rw [read, read, same.nodes]

theorem quiet {i : Importer} (same : Unchanged g g') {st : Step} : Quiet i g' st ↔ Quiet i g st := by
  cases st with
  | upsert e => exact same.holds
  | link source target relation position => exact same.relationships _
  | linkIfExists source target relation position =>
    exact imp_congr (same.has source) (imp_congr (same.has target) (same.relationships _))

end Unchanged

/-! ### One write -/

section Write
variable {u : Unicode} {actor : Text} {now : Time} {g g' : Graph} {key : Text}
  {sourceHash : Option String}

theorem createNode_spec {d : EvidenceNodeCreate}
    (done : createNode u actor now g d sourceHash = some g') :
    g' = g.setNode (d.nodeKey u) (nodeKey_ne u d) (d.row actor now sourceHash) := by
  unfold createNode at done
  dsimp only at done
  split at done
  · cases done
  split at done
  · cases done
  split at done
  · cases done
  split at done
  · cases done
  · cases done
    rfl

theorem updateNode_spec {d : EvidenceNodeUpdate} {hash : String}
    (done : updateNode actor now g key d (some hash) = some g') :
    ∃ (given : key ≠ []) (row : NodeRow), row.sourceHash = some hash ∧ g' = g.setNode key given row := by
  unfold updateNode at done
  split at done
  · cases done
  rename_i row found
  dsimp only at done
  split at done
  · cases done
  split at done
  · cases done
  · cases done
    refine ⟨g.key_ne found, _, ?_, rfl⟩
    rw [apply_ite NodeRow.sourceHash]
    exact ite_self _

end Write

/-! ### One step -/

section Step
variable {i : Importer} {now : Time} {force : Bool} {s s' : Importing} {e : Entry} {st : Step}
  {source target : Text} {relation : RelationType} {position : Nat}

theorem holds_setNode {g : Graph} {key : Text} (given : key ≠ []) {row : NodeRow} {hash : String}
    (stored : row.sourceHash = some hash) : (g.setNode key given row).holds key hash :=
  ⟨row, Table.get_set_self _ _ _, stored⟩

/-- A record leaves its hash at its key, and touches no other node. -/
structure Upserted (i : Importer) (s : Importing) (e : Entry) (s' : Importing) : Prop where
  holds : s'.graph.holds (i.nodeKey e) (i.recordHash e.record)
  others : ∀ key, key ≠ i.nodeKey e → s'.graph.nodes.get key = s.graph.nodes.get key
  relationships : s'.graph.relationships = s.graph.relationships
  profile : s'.graph.profile = s.graph.profile
  writes : Quiet i s.graph (.upsert e) ∧ s'.report.writes = s.report.writes ∨
    s'.report.writes = s.report.writes + 1

theorem upsert_spec (done : i.upsert now force s e = some s') : Upserted i s e s' := by
  unfold Importer.upsert at done
  dsimp only at done
  split at done
  · obtain ⟨g, created, rfl⟩ := Option.map_eq_some_iff.mp done
    obtain rfl := createNode_spec created
    refine ⟨holds_setNode (nodeKey_ne _ _) rfl, fun key other => Table.get_set_other _ _ other, rfl, rfl, .inr ?_⟩
    simp only [ImportReport.writes, List.length_append, List.length_singleton]
    omega
  · rename_i row found
    have key : i.nodeKey e = e.key := nodeKey_of_named (s.graph.key_ne found)
    split at done
    · rename_i hash
      cases done
      refine ⟨?_, fun key' other => ?_, rfl, rfl, .inl ⟨⟨row, found, hash.1⟩, rfl⟩⟩
      · rw [key]
        exact holds_setNode (s.graph.key_ne found) hash.1
      · rw [key] at other
        exact Table.get_set_other _ _ other
    · obtain ⟨g, updated, rfl⟩ := Option.map_eq_some_iff.mp done
      obtain ⟨given, after, hash, rfl⟩ := updateNode_spec updated
      refine ⟨?_, fun key' other => ?_, rfl, rfl, .inr ?_⟩
      · rw [key]
        exact holds_setNode given hash
      · rw [key] at other
        exact Table.get_set_other _ _ other
      · simp only [ImportReport.writes, List.length_append, List.length_singleton]
        omega

/-- A link is made between nodes that are there. -/
structure Linked (s : Importing) (l : Link) (s' : Importing) : Prop where
  source : s.graph.has l.1
  target : s.graph.has l.2.1
  nodes : s'.graph.nodes = s.graph.nodes
  relationships : ∀ l', s'.graph.linked l' ↔ s.graph.linked l' ∨ l' = l
  profile : s'.graph.profile = s.graph.profile
  writes : s.graph.linked l ∧ s'.report = s.report ∨ s'.report.writes = s.report.writes + 1

theorem link_spec (done : Importer.link s source target relation position = some s') :
    Linked s (source, target, relation) s' := by
  obtain ⟨⟨g, new⟩, added, rfl⟩ := Option.map_eq_some_iff.mp done
  unfold addRelationship at added
  split at added
  · rename_i there
    cases added
    refine ⟨there.1, there.2, rfl, fun l' => ?_, rfl, ?_⟩
    · unfold Graph.linked
      by_cases same : l' = (source, target, relation)
      · subst same
        simp
      · rw [Table.get_set_other _ _ same]
        simp [same]
    · unfold Graph.linked
      cases found : s.graph.relationships.get (source, target, relation) with
      | none => exact .inr rfl
      | some old => exact .inl ⟨rfl, rfl⟩
  · cases added

theorem link_done (relation : RelationType) (position : Nat)
    (there : s.graph.has source ∧ s.graph.has target) :
    ∃ s', Importer.link s source target relation position = some s' := by
  have here : (s.graph.nodes.get source).isSome ∧ (s.graph.nodes.get target).isSome := there
  unfold Importer.link addRelationship
  rw [dif_pos here]
  exact ⟨_, rfl⟩

theorem Linked.unchanged {l : Link} (linked : Linked s l s') (old : s.graph.linked l) :
    Unchanged s.graph s'.graph where
  nodes key := by rw [linked.nodes]
  relationships l' := by
    rw [linked.relationships]
    exact or_iff_left_of_imp fun same => same ▸ old
  profile := linked.profile

theorem missing_iff {g : Graph} : ((g.nodes.get source).isNone ∨ (g.nodes.get target).isNone) ↔
    ¬ (g.has source ∧ g.has target) := by
  unfold Graph.has
  cases g.nodes.get source <;> cases g.nodes.get target <;> simp

theorem step_absent (absent : ¬ (s.graph.has source ∧ s.graph.has target)) :
    i.step now force s (.linkIfExists source target relation position) = some s :=
  if_pos (missing_iff.mpr absent)

theorem step_present (there : s.graph.has source ∧ s.graph.has target) :
    i.step now force s (.linkIfExists source target relation position) =
      Importer.link s source target relation position :=
  if_neg fun missing => missing_iff.mp missing there

theorem step_reference (done : i.step now force s st = some s') {l : Link}
    (refers : st.reference = some l) : Linked s l s' ∨
      (s' = s ∧ Quiet i s.graph st ∧ ¬ (s.graph.has l.1 ∧ s.graph.has l.2.1)) := by
  cases st with
  | upsert e => cases refers
  | link source target relation position =>
    cases refers
    exact .inl (link_spec done)
  | linkIfExists source target relation position =>
    cases refers
    by_cases there : s.graph.has source ∧ s.graph.has target
    · rw [step_present there] at done
      exact .inl (link_spec done)
    · rw [step_absent there] at done
      cases done
      exact .inr ⟨rfl, fun first second => (there ⟨first, second⟩).elim, there⟩

/-- A step writes something, unless its data is stored already. -/
theorem step_writes (done : i.step now force s st = some s') :
    Quiet i s.graph st ∧ s'.report.writes = s.report.writes ∨
      s'.report.writes = s.report.writes + 1 := by
  cases st with
  | upsert e => exact (upsert_spec done).writes
  | link source target relation position =>
    exact (link_spec done).writes.imp_left fun old => ⟨old.1, by rw [old.2]⟩
  | linkIfExists source target relation position =>
    rcases step_reference done rfl with linked | ⟨rfl, quiet, -⟩
    · exact linked.writes.imp_left fun old => ⟨fun _ _ => old.1, by rw [old.2]⟩
    · exact .inl ⟨quiet, rfl⟩

theorem quiet_link {l : Link} (position : Nat) (old : s.graph.linked l) :
    ∃ s', Importer.link s l.1 l.2.1 l.2.2 position = some s' ∧ Unchanged s.graph s'.graph ∧
      s'.report.profile = s.report.profile ∧ s'.report.writes = s.report.writes := by
  obtain ⟨p, found⟩ := Option.isSome_iff_exists.mp old
  have there := s.graph.ends _ (Table.get_eq_some.mp found)
  obtain ⟨s', done⟩ := link_done l.2.2 position there
  have linked := link_spec done
  have report : s'.report = s.report := by
    obtain ⟨⟨g, new⟩, added, rfl⟩ := Option.map_eq_some_iff.mp done
    unfold addRelationship at added
    rw [dif_pos there] at added
    cases added
    simp [found]
  exact ⟨s', done, linked.unchanged old, by rw [report], by rw [report]⟩

/-- A step whose data is stored changes nothing and writes nothing. -/
theorem quiet_step (now : Time) (quiet : Quiet i s.graph st) :
    ∃ s', i.step now false s st = some s' ∧ Unchanged s.graph s'.graph ∧
      s'.report.profile = s.report.profile ∧ s'.report.writes = s.report.writes := by
  cases st with
  | upsert e =>
    obtain ⟨row, found, hash⟩ := quiet
    unfold Importer.step Importer.upsert
    dsimp only
    split
    · rename_i none_
      rw [none_] at found
      cases found
    · rename_i row' found'
      obtain rfl := Option.some.inj (found'.symm.trans found)
      rw [if_pos ⟨hash, rfl⟩]
      refine ⟨_, rfl, ⟨fun key => ?_, fun _ => .rfl, rfl⟩, rfl, rfl⟩
      by_cases same : key = e.key
      · subst same
        have before : (s.graph.nodes.get e.key).map (fun row => (row.sourceHash, row.version)) =
            some (row'.sourceHash, row'.version) := congrArg (Option.map _) found
        exact (congrArg (Option.map _) (Table.get_set_self _ _ _)).trans before.symm
      · exact congrArg (Option.map _) (Table.get_set_other _ _ same)
  | link source target relation position => exact quiet_link position quiet
  | linkIfExists source target relation position =>
    by_cases there : s.graph.has source ∧ s.graph.has target
    · rw [step_present there]
      exact quiet_link position (quiet there.1 there.2)
    · exact ⟨s, step_absent there, .refl _, rfl, rfl⟩

theorem holds_has {g : Graph} {key : Text} {hash : String} (here : g.holds key hash) : g.has key := by
  obtain ⟨row, found, -⟩ := here
  unfold Graph.has
  rw [found]
  rfl

/-- The nodes afterwards: those before and the one of the record. -/
theorem step_has (done : i.step now force s st = some s') (key : Text) :
    s'.graph.has key ↔ s.graph.has key ∨ ∃ e, st.entry = some e ∧ i.nodeKey e = key := by
  cases refers : st.reference with
  | none =>
    cases st with
    | upsert e =>
      have spec := upsert_spec done
      by_cases same : key = i.nodeKey e
      · exact iff_of_true (same ▸ holds_has spec.holds) (.inr ⟨e, rfl, same.symm⟩)
      · unfold Graph.has
        rw [spec.others key same]
        refine (or_iff_left ?_).symm
        rintro ⟨e, ⟨⟩, here⟩
        exact same here.symm
    | link source target relation position => cases refers
    | linkIfExists source target relation position => cases refers
  | some l =>
    have no : ¬ ∃ e, st.entry = some e ∧ i.nodeKey e = key := by
      rintro ⟨e, is, -⟩
      cases st with
      | upsert e => cases refers
      | link source target relation position => cases is
      | linkIfExists source target relation position => cases is
    rw [or_iff_left no]
    rcases step_reference done refers with linked | ⟨rfl, -⟩
    · unfold Graph.has
      rw [linked.nodes]
    · exact .rfl

/-- The relationships afterwards: those before, and the one of a reference whose nodes are there. -/
theorem step_linked (done : i.step now force s st = some s') (l : Link) :
    s'.graph.linked l ↔
      s.graph.linked l ∨ (st.reference = some l ∧ s.graph.has l.1 ∧ s.graph.has l.2.1) := by
  cases refers : st.reference with
  | none =>
    cases st with
    | upsert e =>
      unfold Graph.linked
      rw [(upsert_spec done).relationships]
      simp
    | link source target relation position => cases refers
    | linkIfExists source target relation position => cases refers
  | some l' =>
    rcases step_reference done refers with linked | ⟨rfl, -, absent⟩
    · rw [linked.relationships]
      refine or_congr_right ⟨?_, fun same => (Option.some.inj same.1).symm⟩
      rintro rfl
      exact ⟨rfl, linked.source, linked.target⟩
    · refine (or_iff_left ?_).symm
      rintro ⟨same, there⟩
      exact absent (Option.some.inj same ▸ there)

theorem step_profile (done : i.step now force s st = some s') : s'.graph.profile = s.graph.profile := by
  cases refers : st.reference with
  | none =>
    cases st with
    | upsert e => exact (upsert_spec done).profile
    | link source target relation position => cases refers
    | linkIfExists source target relation position => cases refers
  | some l =>
    rcases step_reference done refers with linked | ⟨rfl, -⟩
    · exact linked.profile
    · rfl

/-- A hash stays stored until a record takes its key. -/
theorem step_kept {key : Text} {hash : String} (done : i.step now force s st = some s')
    (here : s.graph.holds key hash) : s'.graph.holds key hash ∨
      ∃ e, st.entry = some e ∧ i.nodeKey e = key ∧ s'.graph.holds key (i.recordHash e.record) := by
  cases refers : st.reference with
  | none =>
    cases st with
    | upsert e =>
      have spec := upsert_spec done
      by_cases same : key = i.nodeKey e
      · subst same
        exact .inr ⟨e, rfl, rfl, spec.holds⟩
      · unfold Graph.holds
        rw [spec.others key same]
        exact .inl here
    | link source target relation position => cases refers
    | linkIfExists source target relation position => cases refers
  | some l =>
    rcases step_reference done refers with linked | ⟨rfl, -⟩
    · unfold Graph.holds
      rw [linked.nodes]
      exact .inl here
    · exact .inl here

end Step

/-! ### A run -/

def entries (steps : List Step) : List Entry := steps.filterMap Step.entry

theorem mem_entries {steps : List Step} {e : Entry} :
    e ∈ entries steps ↔ ∃ st ∈ steps, st.entry = some e := List.mem_filterMap

section Run
variable {i : Importer} {now : Time} {force : Bool} {s s' : Importing} {steps : List Step}

theorem run_cons {st : Step} :
    (st :: steps).foldlM (i.step now force) s = some s' ↔
      ∃ m, i.step now force s st = some m ∧ steps.foldlM (i.step now force) m = some s' := by
  rw [List.foldlM_cons]
  exact Option.bind_eq_some_iff

theorem quiet_run (quiet : ∀ st ∈ steps, Quiet i s.graph st) :
    ∃ s', steps.foldlM (i.step now false) s = some s' ∧ Unchanged s.graph s'.graph ∧
      s'.report.profile = s.report.profile ∧ s'.report.writes = s.report.writes := by
  induction steps generalizing s with
  | nil => exact ⟨s, rfl, .refl _, rfl, rfl⟩
  | cons st steps ih =>
    obtain ⟨m, done, same, profile, writes⟩ := quiet_step now (quiet st List.mem_cons_self)
    obtain ⟨s', run, later, profile', writes'⟩ := ih fun st member =>
      same.quiet.mpr (quiet st (List.mem_cons_of_mem _ member))
    exact ⟨s', run_cons.mpr ⟨m, done, run⟩, same.trans later, profile'.trans profile,
      writes'.trans writes⟩

theorem run_writes (run : steps.foldlM (i.step now force) s = some s') :
    s.report.writes ≤ s'.report.writes := by
  induction steps generalizing s with
  | nil =>
    cases run
    exact Nat.le_refl _
  | cons st steps ih =>
    obtain ⟨m, done, rest⟩ := run_cons.mp run
    have later := ih rest
    rcases step_writes done with ⟨-, same⟩ | more
    · exact same ▸ later
    · omega

/-- A run that writes nothing finds all its data stored. -/
theorem quiet_of_run (run : steps.foldlM (i.step now false) s = some s')
    (nothing : s'.report.writes = s.report.writes) : ∀ st ∈ steps, Quiet i s.graph st := by
  induction steps generalizing s with
  | nil =>
    intro st member
    cases member
  | cons st steps ih =>
    obtain ⟨m, done, rest⟩ := run_cons.mp run
    have later := run_writes rest
    rcases step_writes done with ⟨quiet, same⟩ | more
    · obtain ⟨m', done', unchanged, -⟩ := quiet_step now quiet
      obtain rfl := Option.some.inj (done.symm.trans done')
      intro st' member
      rcases List.mem_cons.mp member with rfl | member
      · exact quiet
      · exact unchanged.quiet.mp (ih rest (nothing.trans same.symm) st' member)
    · omega

theorem run_profile (run : steps.foldlM (i.step now force) s = some s') :
    s'.graph.profile = s.graph.profile := by
  induction steps generalizing s with
  | nil =>
    cases run
    rfl
  | cons st steps ih =>
    obtain ⟨m, done, rest⟩ := run_cons.mp run
    exact (ih rest).trans (step_profile done)

theorem run_has (run : steps.foldlM (i.step now force) s = some s') (key : Text) :
    s'.graph.has key ↔ s.graph.has key ∨ ∃ e ∈ entries steps, i.nodeKey e = key := by
  induction steps generalizing s with
  | nil =>
    cases run
    simp [entries]
  | cons st steps ih =>
    obtain ⟨m, done, rest⟩ := run_cons.mp run
    rw [ih rest, step_has done, or_assoc]
    refine or_congr_right ?_
    simp only [mem_entries, List.mem_cons, exists_eq_or_imp]
    constructor
    · rintro (⟨e, is, here⟩ | ⟨e, later, here⟩)
      · exact ⟨e, .inl is, here⟩
      · exact ⟨e, .inr later, here⟩
    · rintro ⟨e, is | later, here⟩
      · exact .inl ⟨e, is, here⟩
      · exact .inr ⟨e, later, here⟩

theorem run_kept {key : Text} {hash : String} (run : steps.foldlM (i.step now force) s = some s')
    (here : s.graph.holds key hash) : s'.graph.holds key hash ∨
      ∃ e ∈ entries steps, i.nodeKey e = key ∧ s'.graph.holds key (i.recordHash e.record) := by
  induction steps generalizing s hash with
  | nil =>
    cases run
    exact .inl here
  | cons st steps ih =>
    obtain ⟨m, done, rest⟩ := run_cons.mp run
    have later {e : Entry} (member : e ∈ entries steps) : e ∈ entries (st :: steps) := by
      obtain ⟨st', there, is⟩ := mem_entries.mp member
      exact mem_entries.mpr ⟨st', List.mem_cons_of_mem _ there, is⟩
    rcases step_kept done here with kept | ⟨e, is, same, kept⟩
    · exact (ih rest kept).imp_right fun ⟨e, member, more⟩ => ⟨e, later member, more⟩
    · rcases ih rest kept with last | ⟨e', member, more⟩
      · exact .inr ⟨e, mem_entries.mpr ⟨st, List.mem_cons_self, is⟩, same, last⟩
      · exact .inr ⟨e', later member, more⟩

/-- Where a record was stored, the hash is that of a record with this key. -/
theorem run_holds (run : steps.foldlM (i.step now force) s = some s') {e : Entry}
    (member : e ∈ entries steps) : ∃ e' ∈ entries steps, i.nodeKey e' = i.nodeKey e ∧
      s'.graph.holds (i.nodeKey e) (i.recordHash e'.record) := by
  induction steps generalizing s with
  | nil => cases member
  | cons st steps ih =>
    obtain ⟨m, done, rest⟩ := run_cons.mp run
    have later {e : Entry} (member : e ∈ entries steps) : e ∈ entries (st :: steps) := by
      obtain ⟨st', there, is⟩ := mem_entries.mp member
      exact mem_entries.mpr ⟨st', List.mem_cons_of_mem _ there, is⟩
    obtain ⟨st', there, is⟩ := mem_entries.mp member
    rcases List.mem_cons.mp there with rfl | there
    · cases st' with
      | upsert e' =>
        cases is
        rcases run_kept rest (upsert_spec done).holds with kept | ⟨e', other, more⟩
        · exact ⟨e, member, rfl, kept⟩
        · exact ⟨e', later other, more⟩
      | link source target relation position => cases is
      | linkIfExists source target relation position => cases is
    · obtain ⟨e', other, more⟩ := ih rest (mem_entries.mpr ⟨st', there, is⟩)
      exact ⟨e', later other, more⟩

theorem run_linked (run : steps.foldlM (i.step now force) s = some s') (l : Link) :
    s'.graph.linked l ↔ s.graph.linked l ∨ ∃ before st after m, steps = before ++ st :: after ∧
      st.reference = some l ∧ before.foldlM (i.step now force) s = some m ∧
      m.graph.has l.1 ∧ m.graph.has l.2.1 := by
  induction steps generalizing s with
  | nil =>
    cases run
    simp
  | cons st steps ih =>
    obtain ⟨m, done, rest⟩ := run_cons.mp run
    rw [ih rest, step_linked done, or_assoc]
    refine or_congr_right ?_
    constructor
    · rintro (⟨refers, there⟩ | ⟨before, st', after, m', rfl, refers, run', there⟩)
      · exact ⟨[], st, steps, s, rfl, refers, rfl, there⟩
      · exact ⟨st :: before, st', after, m', rfl, refers, run_cons.mpr ⟨m, done, run'⟩, there⟩
    · rintro ⟨before, st', after, m', split, refers, run', there⟩
      cases before with
      | nil =>
        cases split
        cases run'
        exact .inl ⟨refers, there⟩
      | cons st₁ before =>
        cases split
        obtain ⟨m₁, done', run₁⟩ := run_cons.mp run'
        obtain rfl := Option.some.inj (done.symm.trans done')
        exact .inr ⟨before, st', after, m', rfl, refers, run₁, there⟩

end Run

end RangeApply.Evidence
