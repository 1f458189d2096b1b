import Dataflow.Graph.Compilation
import Dataflow.Graph.Drawing
import Dataflow.Op.Catalog
import Dataflow.Session.Sample

/-!
# Blueprints

A blueprint gives the nodes and edges of a graph definition field by field, right or wrong. Its
examination shows what validation, compilation on two host devices and drawing make of it.
-/

namespace Dataflow.Session

/-- An op of a blueprint, with the signatures of its kernels. -/
structure OpSpec where
  name : String
  inputs : Nat
  outputs : Nat
  kernels : List (List DType × List DType)

/-- A node of a blueprint. -/
structure NodeSpec where
  id : Nat
  op : String
  name : String
  device : String
  outDTypes : List DType
  inEdges : List Nat
  outEdges : List Nat

/-- A graph definition given field by field. -/
structure Blueprint where
  ops : List OpSpec
  nodes : List NodeSpec
  edges : List Edge

/-- What is made of a blueprint. -/
structure Examination where
  validation : Except Error Artifacts
  result : Except Error Unit
  /-- The names of the nodes whose kernels were constructed. -/
  constructed : List String
  target : Graph
  drawing : String

namespace Blueprint

/-- The name of the registry of ops. -/
def registryName : String := "blueprint"

/-- Registers a kernel for an op. -/
def registerKernel (op : String) (c : Catalog) (signature : List DType × List DType) :
    Except Error Catalog :=
  let kernel := KernelKind.noop.kernelDef hostType signature.1 signature.2
  let (registered, c) := c.registerKernel registryName op kernel
  registered.map fun _ => c

/-- Registers an op and its kernels, the first failure ends. -/
def registerOp (c : Catalog) (spec : OpSpec) : Except Error Catalog :=
  let shapes := List.replicate spec.outputs (.ok .empty)
  match c.registerOp registryName spec.name spec.inputs shapes [] with
  | (.error e, _) => .error e
  | (.ok _, c) => spec.kernels.foldlM (registerKernel spec.name) c

/-- A node with its op. -/
def resolveNode (registry : OpRegistry) (n : NodeSpec) : Except Error NodeDef := do
  let op ← registry.getOp n.op
  return ⟨n.id, op, n.name, n.device, n.outDTypes, n.inEdges, n.outEdges⟩

/-- A registry with two devices of host memory. -/
def devices : DeviceRegistry :=
  (({} : DeviceRegistry).register hostType (.host { cpuDeviceCount := 2 })).2

/-- What is made of a blueprint, if its ops can be registered and its nodes name ops. -/
def examine (b : Blueprint) : Except Error Examination := do
  let c ← b.ops.foldlM registerOp {}
  let nodes ← b.nodes.mapM (resolveNode (c.registry registryName))
  let g : GraphDef := { id := ⟨0⟩, nodes, edges := b.edges }
  let (asked, result, target) := ({} : Graph).update g c.book devices
  return {
    validation := g.validate
    result
    constructed := asked.map (·.context.node)
    target
    drawing := g.toDot }

end Blueprint

end Dataflow.Session
