import Dataflow.Graph.Builder
import Dataflow.Proofs.Except

/-!
# Assembling a graph definition

A graph definition starts out empty and is assembled by builders, one after the other: a builder is
started for the graph, is called any number of times, and is let go when the next one is started.
An `Assembly` is the graph with the builder that holds it, and `Assembly.run` is where a list of
steps leads. What a new builder and each of its calls keep, a step of an assembly keeps
(`Assembly.perform_keeps`).

What a call answers and does to a builder is said once, by `NodeBuilder.Turn`: a call that is
refused changes nothing, a failed check changes the state alone, and only a `build` that passes its
check touches the graph (`NodeBuilder.perform_turn`).
-/

namespace Dataflow

/-! ## What a call does to a builder -/

namespace NodeBuilder

variable {b : NodeBuilder}

/-- What the check of an input accepts: an output of a node of the graph, while there is a slot
left to feed. -/
theorem checkInput_eq_ok_iff {src : NodeHandle} {slot : Nat} :
    b.checkInput src slot = .ok () ↔
      (∃ n, b.graph.node? src = some n ∧ slot < n.op.numOutputs) ∧
        b.inputs.length < b.op.numInputs := by
  unfold checkInput
  cases hn : b.graph.node? src with
  | none => simp
  | some n =>
    by_cases hs : n.op.numOutputs ≤ slot
    · simp [hs, Nat.not_lt.2 hs]
    · by_cases hi : b.op.numInputs ≤ b.inputs.length
      · simp [hs, hi]
      · simp [hs, hi, Nat.not_le.1 hs, Nat.not_le.1 hi]

/-- What the check of a build accepts: an element type for each output, an input for each slot, and
the attributes of the op. -/
theorem checkBuild_eq_ok_iff {outDTypes : List DType} :
    b.checkBuild outDTypes = .ok () ↔
      outDTypes.length = b.op.numOutputs ∧ b.inputs.length = b.op.numInputs ∧
        b.attributes.size = b.op.attributes.length ∧
        ∀ attr ∈ b.op.attributes, b.attributes.contains attr = true := by
  unfold checkBuild
  by_cases ho : outDTypes.length = b.op.numOutputs
  · by_cases hi : b.inputs.length = b.op.numInputs
    · by_cases ha : b.attributes.size = b.op.attributes.length
      · cases hf : b.op.sortedAttributes.find? fun attr => !b.attributes.contains attr with
        | none =>
          simp only [List.find?_eq_none, Op.sortedAttributes, mem_sortNames] at hf
          simpa [ho, hi, ha] using hf
        | some attr =>
          have hmem := List.mem_of_find?_eq_some hf
          have hnot := List.find?_some hf
          rw [Op.sortedAttributes, mem_sortNames] at hmem
          simp only [ho, hi, ha, ne_eq, not_true_eq_false, if_false, reduceCtorEq, true_and,
            false_iff]
          exact fun h => by simp [h attr hmem] at hnot
      · simp [ho, hi, ha]
    · simp [ho, hi]
  · simp [ho]

/-- What a call of a builder answers, and the builder after it. -/
inductive Turn (b : NodeBuilder) :
    Call → Except Error (Option NodeHandle) → NodeBuilder → Prop
  /-- The builder is not accumulating. -/
  | refused {call : Call} : b.state ≠ .accumulating → call ≠ .reset →
      Turn b call (.error (.builderNotAccumulating b.state)) b
  /-- The check of the call fails. -/
  | failed {call : Call} {e : Error} : b.state = .accumulating → call ≠ .reset →
      Turn b call (.error e) { b with state := .failed }
  | input {src : NodeHandle} {slot : Nat} : b.state = .accumulating →
      b.checkInput src slot = .ok () →
      Turn b (.input src slot) (.ok none) { b with inputs := b.inputs ++ [(src.index, slot)] }
  | name {name : String} : b.state = .accumulating →
      Turn b (.name name) (.ok none) { b with name := some name }
  | attr {name : String} {value : AttrValue} : b.state = .accumulating →
      checkAttributeName name = .ok () →
      Turn b (.attr name value) (.ok none)
        { b with attributes := b.attributes.insert name value }
  | build {outDTypes : List DType} : b.state = .accumulating → b.checkBuild outDTypes = .ok () →
      Turn b (.build outDTypes) (.ok (some ⟨b.graph.id, b.graph.nodes.length⟩))
        { b with
          graph := (b.graph.commit b.op (b.graph.uniqueName (b.name.getD b.op.name)) b.device
            outDTypes b.inputs b.attributes.entries).2
          attributes := {}
          state := .built }
  | reset : Turn b .reset (.ok none) b.reset

/-- A checked step refuses, fails, or is done. -/
theorem attempt_turn {α : Type} (call : Call) (hcall : call ≠ .reset) {check : Except Error Unit}
    {done : α × NodeBuilder} (f : α → Option NodeHandle)
    (hdone : b.state = .accumulating → check = .ok () → b.Turn call (.ok (f done.1)) done.2) :
    b.Turn call ((b.attempt check done).1.map f) (b.attempt check done).2 := by
  unfold attempt
  split
  · exact .refused ‹_› hcall
  · have hs : b.state = .accumulating := Decidable.of_not_not ‹_›
    cases check with
    | error e => exact .failed hs hcall
    | ok u => exact hdone hs rfl

/-- A call of a builder is one of the turns. -/
theorem perform_turn (b : NodeBuilder) (c : Call) : b.Turn c (b.perform c).1 (b.perform c).2 := by
  cases c with
  | input src slot => exact attempt_turn (.input src slot) nofun (fun _ => none) .input
  | name name =>
    show b.Turn (.name name) ((b.setName name).1.map fun _ => none) (b.setName name).2
    exact attempt_turn (.name name) nofun (fun _ => none) fun hs _ => .name hs
  | attr name value => exact attempt_turn (.attr name value) nofun (fun _ => none) .attr
  | build outDTypes => exact attempt_turn (.build outDTypes) nofun some .build
  | reset => exact .reset

/-- A builder that starts has nothing staged, for the graph that it was started for. -/
theorem start_eq_ok {g : GraphDef} {op device : String} {ops : OpRegistry}
    {devices : DeviceRegistry} (h : start g op device ops devices = .ok b) :
    ∃ found, ops.getOp op = .ok found ∧ devices.has device = true ∧
      b = { graph := g, op := found, device } := by
  obtain ⟨found, hfound, h⟩ := except_bind_eq_ok.1 h
  split at h
  · cases h; exact ⟨found, hfound, ‹_›, rfl⟩
  · cases h

end NodeBuilder

/-! ## Assemblies -/

/-- A graph definition that is assembled, with the builder that holds it, if there is one. -/
inductive Assembly
  | idle (graph : GraphDef)
  | held (builder : NodeBuilder)

namespace Assembly

/-- The graph as it stands. -/
def graph : Assembly → GraphDef
  | idle g => g
  | held b => b.graph

/-- A step of an assembly. -/
inductive Step
  /-- Let go of the builder, if there is one, and start another for a node of an op on a device. -/
  | start (op device : String) (ops : OpRegistry) (devices : DeviceRegistry)
  /-- Call the builder; without a builder nothing happens. -/
  | call (call : NodeBuilder.Call)

/-- One step. Its answer holds a handle if the step has built a node. -/
def perform (a : Assembly) : Step → Except Error (Option NodeHandle) × Assembly
  | .start op device ops devices =>
    match NodeBuilder.start a.graph op device ops devices with
    | .error e => (.error e, idle a.graph)
    | .ok b => (.ok none, held b)
  | .call c =>
    match a with
    | idle g => (.ok none, idle g)
    | held b =>
      let (r, b) := b.perform c
      (r, held b)

/-- Where steps lead from an empty graph of the given identity. -/
def run (id : GraphId) (steps : List Step) : Assembly :=
  Run.after perform (idle { id }) steps

/-- A step keeps what letting go of a builder, starting one and every call of one keep. -/
theorem perform_keeps {P : Assembly → Prop} {a : Assembly} (h : P a) (s : Step)
    (letGo : ∀ b, P (held b) → P (idle b.graph))
    (start : ∀ g name device ops devices op, s = .start name device ops devices →
      ops.getOp name = .ok op → P (idle g) → P (held { graph := g, op, device }))
    (call : ∀ {b b' : NodeBuilder} {c : NodeBuilder.Call}
      {answer : Except Error (Option NodeHandle)},
      b.Turn c answer b' → P (held b) → P (held b')) :
    P (a.perform s).2 := by
  cases s with
  | start name device ops devices =>
    have hidle : P (idle a.graph) := by
      cases a with
      | idle g => exact h
      | held b => exact letGo b h
    simp only [perform]
    cases hb : NodeBuilder.start a.graph name device ops devices with
    | error e => exact hidle
    | ok b =>
      obtain ⟨op, hop, -, rfl⟩ := NodeBuilder.start_eq_ok hb
      exact start _ _ _ _ _ _ rfl hop hidle
  | call c =>
    cases a with
    | idle g => exact h
    | held b => exact call (b.perform_turn c) h

end Assembly

end Dataflow
