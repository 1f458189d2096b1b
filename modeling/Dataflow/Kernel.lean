import Dataflow.Attribute.Store

/-!
# Kernels

A kernel definition implements an op for one device type and one signature of element types. For
each node that is bound to it, it constructs a kernel from what the node shows of itself
(`KernelContext`), and the kernel can then be run any number of times. Constructing and running may
write notes to a log.
-/

namespace Dataflow

/-- A note that a kernel writes to the log. -/
inductive Note
  /-- A kernel was constructed for a node. -/
  | constructed (node : String) (dtypes : List DType)
  /-- A node's kernel ran for the `count`-th time. -/
  | computed (node : String) (count : Nat)
  /-- What the constructor of a node's kernel was told about one attribute. -/
  | probed (node path : String) (reading : AttrReading)
  /-- A kernel that only looks at attributes ran. -/
  | probeRan
  /-- The attribute value that the constructor of a node's kernel asked for. -/
  | required (node : String) (value : AttrValue)

/-- What one run of a kernel answers, and what it writes to the log. -/
structure Outcome where
  result : Except Error Unit
  notes : List Note := []

/-- A kernel: what each of its runs does, and how many runs there were. -/
structure Kernel where
  outcome : Nat → Outcome
  runs : Nat := 0

/-- The next run: its outcome and the kernel after it. Runs are counted from one. -/
def Kernel.compute (k : Kernel) : Outcome × Kernel :=
  (k.outcome (k.runs + 1), { k with runs := k.runs + 1 })

/-- What a node shows to the constructor of its kernel. -/
structure KernelContext where
  node : String
  outDTypes : List DType
  attributes : Attributes

/-- What the getters answer to the constructor about one of the node's own attributes. -/
def KernelContext.reading (c : KernelContext) (name : String) : AttrReading :=
  c.attributes.reading (attributePath c.node name)

/-- An implementation of an op. -/
structure KernelDef where
  deviceType : String
  inputs : List DType
  outputs : List DType
  construct : KernelContext → Except Error Kernel
  /-- What constructing writes to the log. -/
  notes : KernelContext → List Note := fun _ => []

namespace KernelDef

/-- The element types by which a kernel is chosen: those of the inputs, or, for an op without
inputs, those of the outputs. -/
def signature (k : KernelDef) (byOutputs : Bool) : List DType :=
  if byOutputs then k.outputs else k.inputs

/-- A kernel definition as a record. -/
def describe (k : KernelDef) : String :=
  Text.record "OpKernelDef"
    [("device_type", Text.quoted k.deviceType),
      ("input_dtypes", Text.listed (k.inputs.map DType.label)),
      ("output_dtypes", Text.listed (k.outputs.map DType.label))]

end KernelDef

end Dataflow
