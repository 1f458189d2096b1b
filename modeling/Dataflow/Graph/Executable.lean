import Dataflow.Device
import Dataflow.Graph.Definition

/-!
# Executable graphs

A compiled graph has the shape of the definition it comes from. Each node has a device and a kernel
of its own, and remembers which of its op's kernels was chosen.
-/

namespace Dataflow

/-- A node that can run. -/
structure Node where
  id : Nat
  name : String
  op : Op
  device : Device
  /-- The position of the chosen kernel among the kernels of the op. -/
  choice : Nat
  kernelDef : KernelDef
  kernel : Kernel
  outDTypes : List DType
  inEdges : List Nat
  outEdges : List Nat

namespace Node

/-- Runs the node's kernel on its device. -/
def compute (n : Node) : Outcome × Node :=
  let (outcome, kernel) := n.device.backend.launch n.kernel
  (outcome, { n with kernel })

/-- A node as a record. -/
def describe (n : Node) : String :=
  Text.record "Node"
    [("id", toString n.id), ("name", Text.quoted n.name), ("op", Text.quoted n.op.name),
      ("device", Text.quoted n.device.name), ("kernel", n.kernelDef.describe),
      ("in_edges", Text.numbers n.inEdges), ("out_edges", Text.numbers n.outEdges)]

end Node

/-- A graph that can run. -/
structure Graph where
  nodes : List Node := []
  edges : List Edge := []
  attributes : Attributes := {}

namespace Graph

/-- The first node of the given name. -/
def find? (g : Graph) (name : String) : Option Node :=
  g.nodes.find? (·.name == name)

/-- Runs the node at a position, if there is one. -/
def compute? (g : Graph) (index : Nat) : Option (Outcome × Graph) :=
  g.nodes[index]?.map fun n =>
    let (outcome, n) := n.compute
    (outcome, { g with nodes := g.nodes.set index n })

/-- The graph emptied. -/
def clear (_ : Graph) : Graph :=
  {}

end Graph

end Dataflow
