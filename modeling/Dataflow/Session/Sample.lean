import Dataflow.Device.Registry
import Dataflow.Kernel

/-!
# Sample backends and kernels

The backends, discoveries and kernels that a session can ask for by a description.
-/

namespace Dataflow.Session

/-! ## Errors -/

/-- An error that a sample raises. -/
inductive Failure
  | deviceNotFound
  | allocationFailed
  | invalidInputNode
  | duplicateDeviceType
  | kernelNotFound
  deriving DecidableEq

/-- The error itself. -/
def Failure.error : Failure → Error
  | deviceNotFound => .deviceNotFound "BROKEN:0"
  | allocationFailed => .allocationFailed "mock" 7
  | invalidInputNode => .invalidInputNode
  | duplicateDeviceType => .duplicateDeviceType "mock"
  | kernelNotFound => .kernelNotFound "n" "o" "D" [.int8, .double]

/-! ## Backends -/

/-- How a sample backend runs a kernel. -/
inductive Launch
  | once
  | skip
  /-- Twice, if the first run does not fail. -/
  | twice
  | fail (failure : Failure)
  deriving DecidableEq

/-- The run of a kernel. -/
def Launch.run : Launch → Kernel → Outcome × Kernel
  | once, k => k.compute
  | skip, k => ({ result := .ok () }, k)
  | twice, k =>
    match k.compute with
    | (⟨.ok (), notes⟩, k) =>
      let (second, k) := k.compute
      ({ second with notes := notes ++ second.notes }, k)
    | failed => failed
  | fail failure, k => ({ result := .error failure.error }, k)

/-- A sample backend: it keeps a journal, and hands out small blocks, as many as it may. -/
structure BackendSpec where
  status : Option Failure := none
  limit : Nat := maxWord
  /-- The number of live blocks at which requests are refused. -/
  blocks : Option Nat := none
  launch : Launch := .once

namespace BackendSpec

/-- The longest block that a sample backend hands out. -/
def maxBlockSize : Nat := 1 <<< 20

/-- Whether no block is handed out while `live` blocks are out. -/
def isFull (s : BackendSpec) (live : Nat) : Bool :=
  match s.blocks with
  | some most => most ≤ live
  | none => false

/-- The journal of a history that begins with `live` blocks out. -/
def journal (s : BackendSpec) (live : Nat) : History → List Entry
  | [] => []
  | .request asked given :: rest =>
    (if s.isFull live then .refused asked else .requested asked) ::
      s.journal (if given.isSome then live + 1 else live) rest
  | .release _ asked :: rest => .freed asked :: s.journal (live - 1) rest

/-- The backend. -/
def backend (s : BackendSpec) : Backend where
  status :=
    match s.status with
    | some failure => .error failure.error
    | none => .ok ()
  maxAllocation := s.limit
  grant := fun history asked =>
    if s.isFull history.numLive || decide (maxBlockSize < asked.size) then none
    else some (history.place asked)
  launch := s.launch.run
  journal := s.journal 0

end BackendSpec

/-! ## Discoveries -/

mutual
/-- How the devices of a type are found. -/
inductive FactorySpec
  /-- Host memory. -/
  | host (properties : Properties)
  /-- Sample backends, or a failure, after steps on the registry. -/
  | sample (during : Script) (failure : Option Failure) (backends : List BackendSpec)

/-- Steps of a discovery on the registry that runs it; a registration that fails ends the
discovery. -/
inductive Script
  | done
  | freeze (rest : Script)
  | teardown (rest : Script)
  | register (deviceType : String) (factory : FactorySpec) (rest : Script)
end

/-- What is found at the end of a sample discovery. -/
def found (failure : Option Failure) (backends : List BackendSpec) : Except Error Batch :=
  match failure with
  | some failure => .error failure.error
  | none => .ok (.ofList (backends.map BackendSpec.backend))

mutual
/-- The discovery. -/
def FactorySpec.discovery : FactorySpec → Discovery
  | .host p => .host p
  | .sample during failure backends => during.before (.finish (found failure backends))

/-- The steps followed by `last`. -/
def Script.before : Script → Discovery → Discovery
  | .done, last => last
  | .freeze rest, last => .freeze (rest.before last)
  | .teardown rest, last => .teardown (rest.before last)
  | .register deviceType factory rest, last =>
    .register deviceType factory.discovery fun
      | .ok _ => rest.before last
      | .error e => .finish (.error e)
end

/-! ## Kernels -/

/-- What a sample kernel does. -/
inductive KernelKind
  /-- Nothing. -/
  | noop
  /-- It notes its construction and counts its runs. -/
  | counter
  /-- It notes what the getters say about some paths. -/
  | probe
  /-- It cannot be constructed without an attribute `value` of this type. -/
  | need (type : AttrType)
  /-- It cannot be constructed. -/
  | failConstruct
  /-- It fails whenever it runs. -/
  | failCompute
  deriving DecidableEq

namespace KernelKind

/-- The paths that a probe asks for. -/
def probedPaths : List String := ["value", "axis", "x/value"]

/-- The node's own attribute `value`, as one of the given type. -/
def neededValue (c : KernelContext) : AttrType → Except Error AttrValue
  | .int32 => (c.reading "value").int32.map .int32
  | .int64 => (c.reading "value").int64.map .int64
  | .float => (c.reading "value").float.map .float
  | .double => (c.reading "value").double.map .double
  | .bool => (c.reading "value").bool.map .bool

/-- What a run of the kernel of a node does. -/
def outcome (kind : KernelKind) (node : String) (count : Nat) : Outcome :=
  match kind with
  | counter => { result := .ok (), notes := [.computed node count] }
  | probe => { result := .ok (), notes := [.probeRan] }
  | failCompute => { result := .error Failure.allocationFailed.error }
  | _ => { result := .ok () }

/-- The construction of a kernel. -/
def construct (kind : KernelKind) (c : KernelContext) : Except Error Kernel :=
  let kernel : Kernel := { outcome := kind.outcome c.node }
  match kind with
  | need type => (neededValue c type).map fun _ => kernel
  | failConstruct => .error Failure.kernelNotFound.error
  | _ => .ok kernel

/-- What the construction of a kernel writes to the log. -/
def notes (kind : KernelKind) (c : KernelContext) : List Note :=
  match kind with
  | counter => [.constructed c.node c.outDTypes]
  | probe => probedPaths.map fun path => .probed c.node path (c.reading path)
  | need type =>
    match neededValue c type with
    | .ok value => [.required c.node value]
    | .error _ => []
  | _ => []

/-- The kernel definition for a device type and a signature. -/
def kernelDef (kind : KernelKind) (deviceType : String) (inputs outputs : List DType) :
    KernelDef where
  deviceType := deviceType
  inputs := inputs
  outputs := outputs
  construct := kind.construct
  notes := kind.notes

end KernelKind

end Dataflow.Session
