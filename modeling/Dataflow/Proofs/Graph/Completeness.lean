import Dataflow.Proofs.Graph.Atomicity
import Dataflow.Proofs.Graph.Attributes
import Dataflow.Proofs.Text.Order

/-!
# When a staged node is complete

A node can be built when it has an element type for each output of its op, an input for each slot,
and the attributes of the op, no more and no less (`NodeBuilder.Complete`). The check counts the
attributes that are staged and looks for one of the op's that is not among them. That decides
whether the two sets are the same, because neither has an attribute twice: an op was declared, and
what is staged is a table.

Whatever is missing, the error names the first fault in a fixed order (`NodeBuilder.Lacks`), and of
several missing attributes the least in the order of bytes (`Workshop.build_decides`).
-/

namespace Dataflow

namespace NodeBuilder

/-- The staged node has all that its op asks for, with these output element types. -/
structure Complete (b : NodeBuilder) (outDTypes : List DType) : Prop where
  outputs : outDTypes.length = b.op.numOutputs
  inputs : b.inputs.length = b.op.numInputs
  attributes : ∀ attr, attr ∈ b.attributes.keys ↔ attr ∈ b.op.attributes

/-- What is first missing, or too much, of what the op asks for. -/
inductive Lacks (b : NodeBuilder) (outDTypes : List DType) : Error → Prop
  | outputs (hout : outDTypes.length ≠ b.op.numOutputs) :
      Lacks b outDTypes
        (.outputDTypeCountMismatch b.op.name b.op.numOutputs outDTypes.length)
  | inputs (hout : outDTypes.length = b.op.numOutputs) (hin : b.inputs.length ≠ b.op.numInputs) :
      Lacks b outDTypes (.inputCountMismatch b.op.name b.op.numInputs b.inputs.length)
  | attributes (hout : outDTypes.length = b.op.numOutputs) (hin : b.inputs.length = b.op.numInputs)
      (hcount : b.attributes.keys.length ≠ b.op.attributes.length) :
      Lacks b outDTypes
        (.attributeCountMismatch b.op.name b.op.attributes.length b.attributes.keys.length)
  /-- Of the missing attributes, the least in the order of bytes. -/
  | missing {attr : String} (hout : outDTypes.length = b.op.numOutputs)
      (hin : b.inputs.length = b.op.numInputs)
      (hcount : b.attributes.keys.length = b.op.attributes.length)
      (hattr : attr ∈ b.op.attributes) (hmissing : attr ∉ b.attributes.keys)
      (hleast : ∀ other ∈ b.op.attributes, other ∉ b.attributes.keys → other ≠ attr →
        Text.bytes attr < Text.bytes other) :
      Lacks b outDTypes (.missingAttribute b.op.name attr)

variable {b : NodeBuilder} {outDTypes : List DType} {e : Error}

/-- The attribute that the check finds missing. -/
theorem find?_missing_iff {attr : String} :
    (b.op.sortedAttributes.find? fun attr => !b.attributes.contains attr) = some attr ↔
      attr ∈ b.op.attributes ∧ attr ∉ b.attributes.keys ∧
        ∀ other ∈ b.op.attributes, other ∉ b.attributes.keys → other ≠ attr →
          Text.bytes attr < Text.bytes other := by
  have hmissing (attr : String) :
      (!b.attributes.contains attr) = true ↔ attr ∉ b.attributes.keys := by
    rw [Bool.not_eq_true', ← Bool.not_eq_true, Table.contains_iff]
  rw [Op.sortedAttributes, find?_sortNames_eq_some_iff]
  simp only [hmissing]

/-- A node that lacks something is not built, and the error says what. -/
theorem Lacks.checkBuild_eq (h : b.Lacks outDTypes e) : b.checkBuild outDTypes = .error e := by
  unfold checkBuild
  rw [Table.size_eq_length_keys]
  cases h with
  | outputs hout => exact if_pos hout
  | inputs hout hin =>
    rw [if_neg (not_not_intro hout)]
    exact if_pos hin
  | attributes hout hin hcount =>
    rw [if_neg (not_not_intro hout), if_neg (not_not_intro hin)]
    exact if_pos hcount
  | missing hout hin hcount hattr hmissing hleast =>
    rw [if_neg (not_not_intro hout), if_neg (not_not_intro hin), if_neg (not_not_intro hcount),
      find?_missing_iff.2 ⟨hattr, hmissing, hleast⟩]

/-- A check that fails has found what is lacking. -/
theorem lacks_of_checkBuild (h : b.checkBuild outDTypes = .error e) : b.Lacks outDTypes e := by
  unfold checkBuild at h
  rw [Table.size_eq_length_keys] at h
  split at h
  · rename_i hout
    cases h
    exact .outputs hout
  rename_i hout
  split at h
  · rename_i hin
    cases h
    exact .inputs (Decidable.not_not.1 hout) hin
  rename_i hin
  split at h
  · rename_i hcount
    cases h
    exact .attributes (Decidable.not_not.1 hout) (Decidable.not_not.1 hin) hcount
  rename_i hcount
  split at h
  · rename_i attr hfind
    obtain ⟨hattr, hmissing, hleast⟩ := find?_missing_iff.1 hfind
    cases h
    exact .missing (Decidable.not_not.1 hout) (Decidable.not_not.1 hin)
      (Decidable.not_not.1 hcount) hattr hmissing hleast
  · cases h

/-- The check accepts the complete nodes of an op that was declared. -/
theorem checkBuild_eq_ok_iff_complete (hop : b.op.Declared) :
    b.checkBuild outDTypes = .ok () ↔ b.Complete outDTypes := by
  constructor
  · intro hcheck
    obtain ⟨hout, hin, -, -⟩ := checkBuild_eq_ok_iff.1 hcheck
    exact ⟨hout, hin, mem_keys_iff hop hcheck⟩
  · rintro ⟨hout, hin, hattributes⟩
    have hperm : b.attributes.keys.Perm b.op.attributes :=
      (List.perm_ext_iff_of_nodup b.attributes.nodup_keys hop.nodup).2 hattributes
    have hcount : b.attributes.size = b.op.attributes.length := by
      rw [Table.size_eq_length_keys, hperm.length_eq]
    exact checkBuild_eq_ok_iff.2
      ⟨hout, hin, hcount, fun attr hattr => Table.contains_iff.2 ((hattributes attr).2 hattr)⟩

/-- An accumulating builder builds what passes the check. -/
theorem build_of_accumulating (hs : b.state = .accumulating) :
    (b.build outDTypes).1 =
      (b.checkBuild outDTypes).map fun _ => ⟨b.graph.id, b.graph.nodes.length⟩ := by
  unfold build
  cases hcheck : b.checkBuild outDTypes with
  | error e => exact congrArg Prod.fst (attempt_of_error hs)
  | ok u => exact congrArg Prod.fst (attempt_of_ok hs)

end NodeBuilder

namespace Workshop

/-- **A node is built exactly if it is complete.** Whatever was staged in whichever run, an
accumulating builder builds its node if there is an element type for each output, an input for each
slot, and just the attributes of the op; otherwise the answer is the first fault with the counts or
the least missing attribute. The inputs and the attributes that count are those that the trace of
the run tells to have been accepted since the builder was started or reset. -/
theorem build_decides (id : GraphId) (steps : List Step) {b : NodeBuilder}
    (hheld : (run id steps).assembly = .held b) (hs : b.state = .accumulating)
    (outDTypes : List DType) :
    ((∃ handle, (b.build outDTypes).1 = .ok handle) ↔ b.Complete outDTypes) ∧
      (∀ e, (b.build outDTypes).1 = .error e ↔ b.Lacks outDTypes e) ∧
      b.inputs = stagedInputs (trace id steps) ∧
      ∀ attr, b.attributes.get? attr = staged attr (trace id steps) := by
  have huses := declared_run id steps
  rw [hheld] at huses
  rw [NodeBuilder.build_of_accumulating hs, ← NodeBuilder.checkBuild_eq_ok_iff_complete huses.1]
  refine ⟨?_, fun e => ?_, inputs_eq_stagedInputs hheld, stages_run id steps b hheld ?_⟩
  · constructor
    · rintro ⟨handle, hbuilt⟩
      obtain ⟨_, hok, -⟩ := except_map_eq_ok.1 hbuilt
      exact hok
    · intro hok
      exact ⟨_, except_map_eq_ok.2 ⟨(), hok, rfl⟩⟩
  · rw [except_map_eq_error]
    exact ⟨NodeBuilder.lacks_of_checkBuild, fun h => h.checkBuild_eq⟩
  · rw [hs]
    nofun

/-- Steps that stage as many attributes as an op has, but under other names. -/
def misnamedSteps : List Step := [
  .catalog (.op "ops" "scale" 0 [Layout.ofDims [1]] ["é", "z"]),
  .start "ops" "scale" "CPU:0" oneDevice,
  .call (.attr "a" (.int32 1)),
  .call (.attr "b" (.bool true))]

/-- Of the two missing attributes the error names the one whose first byte is smaller. -/
theorem build_decides_misnamed :
    ∃ b, (run ⟨0⟩ misnamedSteps).assembly = .held b ∧ b.state = .accumulating ∧
      (b.build [.float]).1 = .error (.missingAttribute "scale" "z") ∧
      b.Lacks [.float] (.missingAttribute "scale" "z") := by
  obtain ⟨b, hheld, hs, hbuild⟩ : ∃ b, (run ⟨0⟩ misnamedSteps).assembly = .held b ∧
      b.state = .accumulating ∧ (b.build [.float]).1 = .error (.missingAttribute "scale" "z") :=
    ⟨_, rfl, rfl, rfl⟩
  have hlacks := ((build_decides ⟨0⟩ misnamedSteps hheld hs [.float]).2.1 _).1 hbuild
  exact ⟨b, hheld, hs, hbuild, hlacks⟩

end Workshop

end Dataflow
