import RangeApply.Seed
import RangeApply.Trace

/-! What the evidence of a candidate may be used for: over any run of the requests that write nodes,
the flags and the name of who verified a node keep to its status. -/
namespace RangeApply.Evidence

/-! ### The rules -/

/-- Only what is verified is allowed for an application, what is inferred or in conflict is allowed
for nothing, and who verified a node is recorded of those that are verified and of no other. -/
structure NodeRow.Truthful (row : NodeRow) : Prop where
  application : row.allowedForApplication → row.verificationStatus = .verified
  nothing : row.verificationStatus = .inferred ∨ row.verificationStatus = .conflict →
    row.allowedForResume = false ∧ row.allowedForApplication = false
  verifier : row.verifiedBy.isSome ↔ row.verificationStatus = .verified

def Graph.Truthful (g : Graph) : Prop := g.nodes.All fun _ row => row.Truthful

/-- The rules that are checked are those that are wanted of the flags. -/
theorem checkTruthRules_iff {status : EvidenceVerification} {resume application : Bool} :
    checkTruthRules status resume application ↔
      (application → status = .verified) ∧
        (status = .inferred ∨ status = .conflict → resume = false ∧ application = false) := by
  cases status <;> cases resume <;> cases application <;> decide

/-! ### One write -/

section Write
variable {u : Unicode} {actor : Text} {now : Time} {g g' : Graph} {key : Text}
  {sourceHash : Option String}

theorem Graph.Truthful.setNode {given : key ≠ []} {row : NodeRow} (truthful : g.Truthful)
    (fine : row.Truthful) : (g.setNode key given row).Truthful :=
  Table.all_set truthful fine

theorem createNode_truthful {d : EvidenceNodeCreate} (truthful : g.Truthful)
    (done : createNode u actor now g d sourceHash = some g') : g'.Truthful := by
  unfold createNode at done
  dsimp only at done
  split at done
  · cases done
  · split at done
    · cases done
    · split at done
      · cases done
      · split at done
        · cases done
        · rename_i rules
          cases done
          rw [Bool.not_eq_true', Bool.not_eq_false, checkTruthRules_iff] at rules
          refine truthful.setNode ⟨rules.1, rules.2, ?_⟩
          by_cases verified : d.verificationStatus = .verified
          · simp [EvidenceNodeCreate.row, verified]
          · simp [EvidenceNodeCreate.row, verified]

/-- The name of who verified a node follows its status through every change. -/
theorem verifier_updated {d : EvidenceNodeUpdate} {row : NodeRow}
    (verifier : row.verifiedBy.isSome ↔ row.verificationStatus = .verified) :
    (d.row actor now sourceHash row).verifiedBy.isSome ↔
      (d.row actor now sourceHash row).verificationStatus = .verified := by
  unfold EvidenceNodeUpdate.row
  dsimp only
  by_cases same : d.verificationStatus.getD row.verificationStatus = row.verificationStatus
  · rw [same]
    simpa using verifier
  · rw [decide_eq_true same, if_pos rfl]
    by_cases verified : d.verificationStatus.getD row.verificationStatus = .verified
    · simp [verified]
    · simp [verified]

theorem updateNode_truthful {d : EvidenceNodeUpdate} (truthful : g.Truthful)
    (done : updateNode actor now g key d sourceHash = some g') : g'.Truthful := by
  unfold updateNode at done
  split at done
  · cases done
  · rename_i row found
    dsimp only at done
    split at done
    · cases done
    · split at done
      · cases done
      · rename_i rules
        cases done
        rw [Bool.not_eq_true', Bool.not_eq_false, checkTruthRules_iff] at rules
        have fine : (d.row actor now sourceHash row).Truthful :=
          ⟨rules.1, rules.2, verifier_updated (Table.All.get truthful found).verifier⟩
        refine truthful.setNode ?_
        split
        · exact fine
        · exact ⟨fine.application, fine.nothing, fine.verifier⟩

theorem setRemoved_truthful {removed : Bool} (truthful : g.Truthful)
    (done : setRemoved removed g key = some g') : g'.Truthful := by
  unfold setRemoved at done
  split at done
  · cases done
  · rename_i row found
    cases done
    have fine : row.Truthful := Table.All.get truthful found
    refine truthful.setNode ?_
    unfold NodeRow.withRemoved
    split
    · exact fine
    · exact ⟨fine.application, fine.nothing, fine.verifier⟩

end Write

/-! ### An import -/

section Import
variable {i : Importer} {now : Time} {force : Bool} {s s' : Importing}

theorem upsert_truthful {e : Entry} (truthful : s.graph.Truthful)
    (done : i.upsert now force s e = some s') : s'.graph.Truthful := by
  unfold Importer.upsert at done
  dsimp only at done
  split at done
  · obtain ⟨g, created, rfl⟩ := Option.map_eq_some_iff.mp done
    exact createNode_truthful truthful created
  · rename_i row found
    split at done
    · cases done
      have fine : row.Truthful := Table.All.get truthful found
      refine Table.all_set truthful ?_
      exact ⟨fine.application, fine.nothing, fine.verifier⟩
    · obtain ⟨g, updated, rfl⟩ := Option.map_eq_some_iff.mp done
      exact updateNode_truthful truthful updated

theorem link_truthful {source target : Text} {relation : RelationType} {position : Nat}
    (truthful : s.graph.Truthful)
    (done : Importer.link s source target relation position = some s') : s'.graph.Truthful := by
  obtain ⟨⟨g, new⟩, added, rfl⟩ := Option.map_eq_some_iff.mp done
  unfold addRelationship at added
  split at added
  · cases added
    exact truthful
  · cases added

theorem step_truthful {st : Step} (truthful : s.graph.Truthful)
    (done : i.step now force s st = some s') : s'.graph.Truthful := by
  cases st with
  | upsert e => exact upsert_truthful truthful done
  | link source target relation position => exact link_truthful truthful done
  | linkIfExists source target relation position =>
    simp only [Importer.step] at done
    split at done
    · cases done
      exact truthful
    · exact link_truthful truthful done

theorem steps_truthful {steps : List Step} (truthful : s.graph.Truthful)
    (done : steps.foldlM (i.step now force) s = some s') : s'.graph.Truthful := by
  induction steps generalizing s with
  | nil =>
    cases done
    exact truthful
  | cons st steps ih =>
    obtain ⟨t, first, rest⟩ := Option.bind_eq_some_iff.mp done
    exact ih (step_truthful truthful first) rest

theorem importData_truthful {doc : SeedDocument} {g g' : Graph} {report : ImportReport}
    (truthful : g.Truthful) (done : i.importData now force doc g = some (g', report)) :
    g'.Truthful := by
  obtain ⟨⟨profile, action⟩, -, done⟩ := Option.bind_eq_some_iff.mp done
  obtain ⟨s, run, same⟩ := Option.bind_eq_some_iff.mp done
  cases same
  exact steps_truthful (s := ⟨{ g with profile := profile }, 0, ⟨action, [], [], [], 0⟩⟩) truthful run

end Import

/-! ### Runs -/

/-- A request that writes nodes. -/
inductive Request
  | create (d : EvidenceNodeCreate)
  | update (key : Text) (d : EvidenceNodeUpdate)
  | remove (key : Text)
  | restore (key : Text)
  | import_ (i : Importer) (force : Bool) (doc : SeedDocument)

/-- A request by someone at some time. -/
structure Call where
  actor : Text
  now : Time
  request : Request

def perform (u : Unicode) (g : Graph) (call : Call) : Option Graph :=
  match call.request with
  | .create d => createNode u call.actor call.now g d none
  | .update key d => updateNode call.actor call.now g key d none
  | .remove key => removeNode g key
  | .restore key => restoreNode g key
  | .import_ i force doc => (i.importData call.now force doc g).map Prod.fst

/-- A request that fails writes nothing. -/
def serve (u : Unicode) (g : Graph) (call : Call) : Graph := (perform u g call).getD g

theorem perform_truthful {u : Unicode} {g g' : Graph} {call : Call} (truthful : g.Truthful)
    (done : perform u g call = some g') : g'.Truthful := by
  unfold perform at done
  cases request : call.request with
  | create d =>
    rw [request] at done
    exact createNode_truthful truthful done
  | update key d =>
    rw [request] at done
    exact updateNode_truthful truthful done
  | remove key =>
    rw [request] at done
    exact setRemoved_truthful truthful done
  | restore key =>
    rw [request] at done
    exact setRemoved_truthful truthful done
  | import_ i force doc =>
    rw [request] at done
    obtain ⟨⟨g'', report⟩, imported, rfl⟩ := Option.map_eq_some_iff.mp done
    exact importData_truthful truthful imported

theorem serve_truthful {u : Unicode} {g : Graph} {call : Call} (truthful : g.Truthful) :
    (serve u g call).Truthful := by
  unfold serve
  cases done : perform u g call with
  | none => exact truthful
  | some g' => exact perform_truthful truthful done

theorem empty_truthful : Graph.empty.Truthful := by
  intro r here
  cases here

/-- Whatever is asked of the evidence, in any order: a node that is allowed for applications is
verified, one that is inferred or in conflict is allowed for nothing, and a node has a name of who
verified it if and only if it is verified. -/
theorem evidence_truthful (u : Unicode) (calls : List Call) :
    (Trace.run (serve u) Graph.empty calls).Truthful :=
  Trace.run_always Graph.Truthful (fun _ _ => serve_truthful) empty_truthful calls

end RangeApply.Evidence
