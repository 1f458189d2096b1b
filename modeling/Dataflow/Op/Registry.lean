import Dataflow.Op

/-!
# Op registries

A registry holds ops by name. Until it is frozen, ops can be registered under new names and kernels
for the ops it has; a teardown empties it and lifts the freeze. An op that was registered is not
changed by a teardown, so whoever holds it keeps it with its kernels.
-/

namespace Dataflow

/-- Ops by name. -/
structure OpRegistry where
  ops : Table String Op := {}
  frozen : Bool := false

namespace OpRegistry

/-- The op of the given name. -/
def getOp (r : OpRegistry) (name : String) : Except Error Op :=
  match r.ops.get? name with
  | some op => .ok op
  | none => .error (.opNotFound name)

/-- Whether there is an op of the given name. -/
def has (r : OpRegistry) (name : String) : Bool :=
  r.ops.contains name

/-- The names of the ops, sorted. -/
def names (r : OpRegistry) : List String :=
  sortNames r.ops.keys

/-- The registry with one more op. -/
def registerOp (r : OpRegistry) (op : Op) : Except Error OpRegistry :=
  if r.frozen then .error (.registryFrozen .op op.name)
  else if r.has op.name then .error (.duplicateOp op.name)
  else .ok { r with ops := r.ops.insert op.name op }

/-- The op that a kernel is to be registered for, if the registry is open and the kernel has as
many inputs and outputs as the op. -/
def kernelTarget (r : OpRegistry) (name : String) (kernel : KernelDef) : Except Error Op := do
  if r.frozen then .error (.registryFrozen .op name)
  else
    let op ← r.getOp name
    if op.numInputs ≠ kernel.inputs.length then
      .error (.kernelArityMismatch name .inputs op.numInputs kernel.inputs.length)
    else if op.numOutputs ≠ kernel.outputs.length then
      .error (.kernelArityMismatch name .outputs op.numOutputs kernel.outputs.length)
    else .ok op

/-- The book of kernels after a kernel is registered for the op of the given name. -/
def registerKernel (r : OpRegistry) (book : KernelBook) (name : String) (kernel : KernelDef) :
    Except Error KernelBook :=
  (r.kernelTarget name kernel).map fun op => book.push op kernel

/-- The registry, closed for registration. -/
def freeze (r : OpRegistry) : OpRegistry :=
  { r with frozen := true }

/-- The registry emptied and open again. -/
def teardown (_ : OpRegistry) : OpRegistry :=
  {}

end OpRegistry

end Dataflow
