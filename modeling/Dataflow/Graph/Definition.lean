import Dataflow.Names
import Dataflow.Op

/-!
# Graph definitions

A graph definition lists nodes and edges, each addressed by its position. An edge joins an output
slot of one node to an input slot of another, and each node lists the edges that enter and leave
it. A node is found by its position, by its name, or by a handle, which is valid only in the graph
that issued it. `GraphDef.commit` is the only operation that adds a node; it expects inputs that
exist.
-/

namespace Dataflow

/-- The number that tells a graph from any other; it is counted in a machine word. -/
structure GraphId where
  value : UInt64
  deriving DecidableEq

/-- A reference to a node of one graph. -/
structure NodeHandle where
  graph : GraphId
  index : Nat
  deriving DecidableEq

/-- Output slot `srcSlot` of node `src` feeds input slot `destSlot` of node `dest`. -/
structure Edge where
  src : Nat
  srcSlot : Nat
  dest : Nat
  destSlot : Nat
  deriving DecidableEq

/-- A node: an op on a device, with the element types of its outputs. -/
structure NodeDef where
  id : Nat
  op : Op
  name : String
  /-- The name of the device on which the node is to run. -/
  device : String
  outDTypes : List DType
  /-- The edges that enter the node, in the order of its input slots. -/
  inEdges : List Nat := []
  /-- The edges that leave the node. -/
  outEdges : List Nat := []

/-- A graph as it is assembled. -/
structure GraphDef where
  id : GraphId
  nodes : List NodeDef := []
  edges : List Edge := []
  attributes : Attributes := {}
  /-- The position of each node by its name. -/
  names : Table String Nat := {}

namespace GraphDef

/-- An empty graph, and the number that the next one takes. -/
def new (number : UInt64) : GraphDef × UInt64 :=
  ({ id := ⟨number⟩ }, number + 1)

/-- Whether a handle denotes a node of the graph. -/
def isValid (g : GraphDef) (h : NodeHandle) : Bool :=
  h.graph == g.id && decide (h.index < g.nodes.length)

/-- The node that a handle denotes. -/
def node? (g : GraphDef) (h : NodeHandle) : Option NodeDef :=
  if g.isValid h then g.nodes[h.index]? else none

/-- The handle of the node at a position. -/
def handle? (g : GraphDef) (index : Nat) : Option NodeHandle :=
  if index < g.nodes.length then some ⟨g.id, index⟩ else none

/-- The handle of the node of the given name. -/
def find? (g : GraphDef) (name : String) : Option NodeHandle :=
  (g.names.get? name).map (⟨g.id, ·⟩)

/-- A name with a number behind it. -/
def suffixed (base : String) (n : Nat) : String :=
  base ++ "_" ++ toString n

/-- The first name that no node has among `base`, `base_1`, `base_2` and so on. -/
def uniqueName (g : GraphDef) (base : String) : String :=
  if g.names.contains base then suffixed base (firstFree (suffixed base) g.names.keys 1) else base

/-- The edges from `inputs`, one for each input slot of node `dest`. -/
def edgesInto (dest : Nat) (inputs : List (Nat × Nat)) : List Edge :=
  inputs.zipIdx.map fun ((src, srcSlot), destSlot) => ⟨src, srcSlot, dest, destSlot⟩

/-- The nodes after edges, numbered from `first` on, were added to the lists of their sources. -/
def linkSources (nodes : List NodeDef) (first : Nat) : List Edge → List NodeDef
  | [] => nodes
  | e :: rest =>
    linkSources (nodes.modify e.src fun n => { n with outEdges := n.outEdges ++ [first] })
      (first + 1) rest

/-- The graph with one more node, fed from `inputs`, and its attributes. The name must be free. -/
def commit (g : GraphDef) (op : Op) (name device : String) (outDTypes : List DType)
    (inputs : List (Nat × Nat)) (attributes : List (String × AttrValue)) : NodeHandle × GraphDef :=
  let id := g.nodes.length
  let added := edgesInto id inputs
  let node : NodeDef :=
    { id, op, name, device, outDTypes, inEdges := List.range' g.edges.length inputs.length }
  (⟨g.id, id⟩,
    { g with
      nodes := linkSources g.nodes g.edges.length added ++ [node]
      edges := g.edges ++ added
      attributes := attributes.foldl
        (fun a (attr, value) => a.insert (attributePath name attr) value) g.attributes
      names := g.names.insert name id })

/-- A handle is valid if it carries the identity of the graph and its index is that of a node. -/
theorem isValid_iff {g : GraphDef} {h : NodeHandle} :
    g.isValid h = true ↔ h.graph = g.id ∧ h.index < g.nodes.length := by
  simp [isValid]

end GraphDef

/-- A node as a record. -/
def NodeDef.describe (n : NodeDef) : String :=
  Text.record "NodeDef"
    [("id", toString n.id), ("op", Text.quoted n.op.name), ("name", Text.quoted n.name),
      ("device", Text.quoted n.device), ("out_dtypes", Text.listed (n.outDTypes.map DType.label)),
      ("in_edges", Text.numbers n.inEdges), ("out_edges", Text.numbers n.outEdges)]

end Dataflow
