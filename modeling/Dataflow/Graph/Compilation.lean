import Dataflow.Device.Registry
import Dataflow.Graph.Executable
import Dataflow.Graph.Validation

/-!
# Compilation

A valid graph definition is compiled node by node: the node's device is looked up, the first of its
op's kernels is chosen that is for the device's type and has the signature of the node, and the
kernel is constructed. The signature of a node whose op has inputs is the list of the element types
that arrive at its input slots; otherwise it is the list of its output element types. Compilation
answers a whole graph or the error of the first node that fails, and in either case the
constructions that were asked for.
-/

namespace Dataflow

/-- An input with the slot it enters, put into its place among others that are sorted by slot. -/
def insertBySlot (x : Nat × DType) : List (Nat × DType) → List (Nat × DType)
  | [] => [x]
  | y :: rest => if x.1 ≤ y.1 then x :: y :: rest else y :: insertBySlot x rest

namespace GraphDef

/-- What an edge brings to its target: the slot it enters and the element type of its source. -/
def arrival? (g : GraphDef) (e : Edge) : Option (Nat × DType) := do
  let src ← g.nodes[e.src]?
  let dtype ← src.outDTypes[e.srcSlot]?
  return (e.destSlot, dtype)

/-- The element types that arrive at a node, in the order of its input slots. -/
def inputDTypes (g : GraphDef) (n : NodeDef) : List DType :=
  let edges := n.inEdges.filterMap fun i => g.edges[i]?
  let arrivals := edges.filterMap g.arrival?
  (arrivals.foldr insertBySlot []).map (·.2)

/-- Whether the kernels of a node are chosen by its outputs. -/
def byOutputs (n : NodeDef) : Bool :=
  n.op.numInputs == 0

/-- The signature that a node's kernel must have. -/
def key (g : GraphDef) (n : NodeDef) : List DType :=
  if byOutputs n then n.outDTypes else g.inputDTypes n

/-- Whether a kernel is for a type of devices and has the signature of a node. -/
def fits (g : GraphDef) (n : NodeDef) (deviceType : String) (k : KernelDef) : Bool :=
  k.deviceType == deviceType && k.signature (byOutputs n) == g.key n

/-- The first kernel that fits a node, with its position. -/
def resolveKernel (g : GraphDef) (kernels : List KernelDef) (n : NodeDef) (d : Device) :
    Except Error (Nat × KernelDef) :=
  match kernels.zipIdx.find? fun (k, _) => g.fits n d.type k with
  | some (k, position) => .ok (position, k)
  | none => .error (.kernelNotFound n.name n.op.name d.type (g.key n))

end GraphDef

/-- The device and the kernel that a node is bound to. -/
structure Binding where
  device : Device
  choice : Nat
  kernelDef : KernelDef

/-- A construction that was asked for. -/
structure Construction where
  kernelDef : KernelDef
  context : KernelContext

/-- What the construction wrote to the log. -/
def Construction.notes (c : Construction) : List Note :=
  c.kernelDef.notes c.context

namespace GraphDef

/-- The device and the kernel for a node. -/
def bind (g : GraphDef) (book : KernelBook) (r : DeviceRegistry) (n : NodeDef) :
    Except Error Binding := do
  let device ← r.getDevice n.device
  let (choice, kernelDef) ← g.resolveKernel (book.kernels n.op) n device
  return ⟨device, choice, kernelDef⟩

/-- What a node shows to the constructor of its kernel. -/
def context (g : GraphDef) (n : NodeDef) : KernelContext :=
  ⟨n.name, n.outDTypes, g.attributes⟩

/-- A node with what it is bound to and its kernel. -/
def instantiate (n : NodeDef) (b : Binding) (kernel : Kernel) : Node where
  id := n.id
  name := n.name
  op := n.op
  device := b.device
  choice := b.choice
  kernelDef := b.kernelDef
  kernel := kernel
  outDTypes := n.outDTypes
  inEdges := n.inEdges
  outEdges := n.outEdges

/-- Compiles nodes one after the other, until one fails. -/
def compileNodes (g : GraphDef) (book : KernelBook) (r : DeviceRegistry) :
    List NodeDef → List Construction × Except Error (List Node)
  | [] => ([], .ok [])
  | n :: rest =>
    match g.bind book r n with
    | .error e => ([], .error e)
    | .ok b =>
      let asked : Construction := ⟨b.kernelDef, g.context n⟩
      match b.kernelDef.construct (g.context n) with
      | .error e => ([asked], .error e)
      | .ok kernel =>
        let (more, nodes) := compileNodes g book r rest
        (asked :: more, nodes.map (instantiate n b kernel :: ·))

/-- Compiles a graph: the constructions that were asked for, and the executable graph or an
error. -/
def compile (g : GraphDef) (book : KernelBook) (r : DeviceRegistry) :
    List Construction × Except Error Graph :=
  match g.validate with
  | .error e => ([], .error e)
  | .ok _ =>
    let (asked, nodes) := g.compileNodes book r g.nodes
    (asked, nodes.map fun nodes => { nodes, edges := g.edges, attributes := g.attributes })

end GraphDef

/-- Replaces an executable graph by the compiled definition; after an error it is empty. -/
def Graph.update (target : Graph) (g : GraphDef) (book : KernelBook) (r : DeviceRegistry) :
    List Construction × Except Error Unit × Graph :=
  let cleared := target.clear
  match g.compile book r with
  | (asked, .ok graph) => (asked, .ok (), graph)
  | (asked, .error e) => (asked, .error e, cleared)

end Dataflow
