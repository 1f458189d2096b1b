import Dataflow.Graph.Definition

/-!
# Validation

`GraphDef.validate` checks a graph definition whose fields may hold anything: first the nodes, then
the edges in order, then the number of edges that enter each node. The first defect is the answer;
otherwise the answer tells who consumes what, and where the graph begins and ends.
-/

namespace Dataflow

/-- What validation finds out about a graph. -/
structure Artifacts where
  /-- For each node, the nodes that consume its outputs, in the order of the edges and as often as
  there are edges. -/
  consumers : List (List Nat)
  /-- The nodes that no edge enters. -/
  sources : List Nat
  /-- The nodes that no edge leaves. -/
  sinks : List Nat
  deriving DecidableEq

namespace GraphDef

/-- Whether the nodes from position `index` on are numbered by their positions and name an element
type for each output. -/
def checkNodes (index : Nat) : List NodeDef → Except Error Unit
  | [] => .ok ()
  | n :: rest =>
    if n.id ≠ index then .error (.malformedGraph index (.nodeNumber n.id))
    else if n.outDTypes.length ≠ n.op.numOutputs then
      .error (.malformedGraph index
        (.outputTypes n.outDTypes.length n.op.name n.op.numOutputs))
    else checkNodes (index + 1) rest

/-- Whether the edge at position `index` joins slots that exist, feeds none of the slots in `fed`,
and is listed by both of its nodes. -/
def checkEdge (nodes : List NodeDef) (fed : List (Nat × Nat)) (index : Nat) (e : Edge) :
    Except Error Unit :=
  match nodes[e.src]?, nodes[e.dest]? with
  | none, _ => .error (.malformedGraph e.dest (.missingSource index e.src))
  | some _, none => .error (.malformedGraph e.src (.missingTarget index e.dest))
  | some src, some dest =>
    if src.op.numOutputs ≤ e.srcSlot then
      .error (.malformedGraph e.src (.outputSlot index e.srcSlot))
    else if dest.op.numInputs ≤ e.destSlot then
      .error (.malformedGraph e.dest (.inputSlot index e.destSlot))
    else if (e.dest, e.destSlot) ∈ fed then
      .error (.malformedGraph e.dest (.slotFedTwice e.destSlot))
    else if index ∉ src.outEdges ∨ index ∉ dest.inEdges then
      .error (.malformedGraph e.dest (.unlinked index))
    else .ok ()

/-- Whether the edges from position `index` on pass, when those before feed the slots in `fed`. -/
def checkEdges (nodes : List NodeDef) (fed : List (Nat × Nat)) (index : Nat) :
    List Edge → Except Error Unit
  | [] => .ok ()
  | e :: rest => do
    checkEdge nodes fed index e
    checkEdges nodes ((e.dest, e.destSlot) :: fed) (index + 1) rest

/-- Whether each node lists as many entering edges as its op has inputs. -/
def checkArity : List NodeDef → Except Error Unit
  | [] => .ok ()
  | n :: rest =>
    if n.inEdges.length ≠ n.op.numInputs then
      .error (.malformedGraph n.id (.inputEdges n.inEdges.length n.op.name n.op.numInputs))
    else checkArity rest

/-- The consumers of each of `count` nodes, gathered edge by edge. -/
def gatherConsumers (count : Nat) (edges : List Edge) : List (List Nat) :=
  edges.foldl (fun lists e => lists.modify e.src (· ++ [e.dest])) (List.replicate count [])

/-- The positions of the empty lists, counted from `index`. -/
def emptyPositions (index : Nat) : List (List Nat) → List Nat
  | [] => []
  | xs :: rest =>
    if xs.isEmpty then index :: emptyPositions (index + 1) rest
    else emptyPositions (index + 1) rest

/-- Checks the structure of a graph. -/
def validate (g : GraphDef) : Except Error Artifacts := do
  checkNodes 0 g.nodes
  checkEdges g.nodes [] 0 g.edges
  checkArity g.nodes
  let consumers := gatherConsumers g.nodes.length g.edges
  return {
    consumers
    sources := (g.nodes.filter (·.inEdges.isEmpty)).map (·.id)
    sinks := emptyPositions 0 consumers }

end GraphDef

end Dataflow
