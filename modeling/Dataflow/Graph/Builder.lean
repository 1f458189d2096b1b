import Dataflow.Device.Registry
import Dataflow.Graph.Definition
import Dataflow.Op.Registry
import Dataflow.Run

/-!
# Building nodes

A builder stages one node of a graph and commits it when it is built. Every step of a builder that
is accumulating either succeeds or fails and leaves the builder failed; built and failed builders
refuse every step but a reset. The graph changes at a successful `build` and at no other step.
-/

namespace Dataflow

/-- A node being staged for a graph. -/
structure NodeBuilder where
  graph : GraphDef
  op : Op
  device : String
  name : Option String := none
  /-- The source and the output slot of each input so far. -/
  inputs : List (Nat × Nat) := []
  attributes : Table String AttrValue := {}
  state : BuilderState := .accumulating

namespace NodeBuilder

/-- A new builder for a node of an op on a device, if both are registered. -/
def start (g : GraphDef) (op device : String) (ops : OpRegistry) (devices : DeviceRegistry) :
    Except Error NodeBuilder := do
  let op ← ops.getOp op
  if devices.has device then .ok { graph := g, op, device } else .error (.deviceNotFound device)

/-! ## What is checked -/

/-- Whether the next input can be output `slot` of the node that `src` denotes. -/
def checkInput (b : NodeBuilder) (src : NodeHandle) (slot : Nat) : Except Error Unit :=
  match b.graph.node? src with
  | none => .error .invalidInputNode
  | some node =>
    if node.op.numOutputs ≤ slot then
      .error (.outputSlotOutOfRange node.name node.op.numOutputs slot)
    else if b.op.numInputs ≤ b.inputs.length then
      .error (.tooManyInputs b.op.name b.op.numInputs)
    else .ok ()

/-- Whether the staged node is complete with these output element types. -/
def checkBuild (b : NodeBuilder) (outDTypes : List DType) : Except Error Unit :=
  if outDTypes.length ≠ b.op.numOutputs then
    .error (.outputDTypeCountMismatch b.op.name b.op.numOutputs outDTypes.length)
  else if b.inputs.length ≠ b.op.numInputs then
    .error (.inputCountMismatch b.op.name b.op.numInputs b.inputs.length)
  else if b.attributes.size ≠ b.op.attributes.length then
    .error (.attributeCountMismatch b.op.name b.op.attributes.length b.attributes.size)
  else
    match b.op.sortedAttributes.find? fun attr => !b.attributes.contains attr with
    | some attr => .error (.missingAttribute b.op.name attr)
    | none => .ok ()

/-! ## Steps -/

/-- A step of an accumulating builder: after a failed check the builder is failed, after a
successful one the step is done. -/
def attempt {α : Type} (b : NodeBuilder) (check : Except Error Unit) (done : α × NodeBuilder) :
    Except Error α × NodeBuilder :=
  if b.state ≠ .accumulating then (.error (.builderNotAccumulating b.state), b)
  else
    match check with
    | .error e => (.error e, { b with state := .failed })
    | .ok () => (.ok done.1, done.2)

/-- Feeds the next input slot from output `slot` of the node that `src` denotes. -/
def input (b : NodeBuilder) (src : NodeHandle) (slot : Nat) : Except Error Unit × NodeBuilder :=
  b.attempt (b.checkInput src slot) ((), { b with inputs := b.inputs ++ [(src.index, slot)] })

/-- Asks for a name; the last one asked for counts. -/
def setName (b : NodeBuilder) (name : String) : Except Error Unit × NodeBuilder :=
  b.attempt (.ok ()) ((), { b with name := some name })

/-- Sets an attribute; the last value counts. -/
def setAttr (b : NodeBuilder) (name : String) (value : AttrValue) :
    Except Error Unit × NodeBuilder :=
  b.attempt (checkAttributeName name)
    ((), { b with attributes := b.attributes.insert name value })

/-- Commits the staged node to the graph, under a name that no node of the graph has yet. -/
def build (b : NodeBuilder) (outDTypes : List DType) : Except Error NodeHandle × NodeBuilder :=
  let name := b.graph.uniqueName (b.name.getD b.op.name)
  let (handle, graph) :=
    b.graph.commit b.op name b.device outDTypes b.inputs b.attributes.entries
  b.attempt (b.checkBuild outDTypes) (handle, { b with graph, attributes := {}, state := .built })

/-- Drops what is staged and starts over. -/
def reset (b : NodeBuilder) : NodeBuilder :=
  { b with name := none, inputs := [], attributes := {}, state := .accumulating }

/-! ## Calls -/

/-- A step of a builder. -/
inductive Call
  | input (src : NodeHandle) (slot : Nat)
  | name (name : String)
  | attr (name : String) (value : AttrValue)
  | build (outDTypes : List DType)
  | reset

/-- One step. Its answer holds a handle if the step has built a node. -/
def perform (b : NodeBuilder) : Call → Except Error (Option NodeHandle) × NodeBuilder
  | .input src slot => let (r, b) := b.input src slot; (r.map fun _ => none, b)
  | .name name => let (r, b) := b.setName name; (r.map fun _ => none, b)
  | .attr name value => let (r, b) := b.setAttr name value; (r.map fun _ => none, b)
  | .build outDTypes => let (r, b) := b.build outDTypes; (r.map some, b)
  | .reset => (.ok none, b.reset)

/-- After a reset a builder is a new one for the same graph, op and device. -/
theorem reset_eq (b : NodeBuilder) :
    b.reset = { graph := b.graph, op := b.op, device := b.device } := rfl

end NodeBuilder

end Dataflow
