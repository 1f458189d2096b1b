import Dataflow.DType
import Dataflow.Attribute.Value
import Dataflow.Text.Quoted

/-!
# Errors

Why an operation can fail, as one inductive type of causes. A cause holds the facts that name it;
`Error.message` is the only place where it is put into words, and `Error.kind` sorts the causes by
the part of the library they come from.
-/

namespace Dataflow

/-- The sorts of causes. -/
inductive ErrorKind
  | io
  | configuration
  | lookup
  | resolution
  | allocation
  | resize
  | validation
  deriving DecidableEq, Repr

/-- Where a node builder is in its life: nothing but a reset leads out of `built` and `failed`. -/
inductive BuilderState
  | accumulating
  | built
  | failed
  deriving DecidableEq, Repr

/-- The word for a builder's state. -/
def BuilderState.name : BuilderState → String
  | .accumulating => "accumulating"
  | .built => "built"
  | .failed => "failed"

/-- The two sides of an op on which a kernel must match it. -/
inductive Side
  | inputs
  | outputs
  deriving DecidableEq, Repr

/-- The word for a side. -/
def Side.name : Side → String
  | .inputs => "inputs"
  | .outputs => "outputs"

/-- The two kinds of registries. -/
inductive RegistryKind
  | device
  | op
  deriving DecidableEq, Repr

/-- The word for a kind of registry. -/
def RegistryKind.name : RegistryKind → String
  | .device => "device"
  | .op => "op"

/-- What can be wrong with the structure of a graph at one of its nodes. -/
inductive Defect
  /-- A node's number is not its position. -/
  | nodeNumber (id : Nat)
  /-- A node names too few or too many element types for its op's outputs. -/
  | outputTypes (given : Nat) (op : String) (outputs : Nat)
  /-- An edge leaves a node that does not exist. -/
  | missingSource (edge node : Nat)
  /-- An edge enters a node that does not exist. -/
  | missingTarget (edge node : Nat)
  /-- An edge leaves an output slot that its source's op does not have. -/
  | outputSlot (edge slot : Nat)
  /-- An edge enters an input slot that its target's op does not have. -/
  | inputSlot (edge slot : Nat)
  /-- Two edges enter one input slot. -/
  | slotFedTwice (slot : Nat)
  /-- An edge is missing from the lists of one of its two nodes. -/
  | unlinked (edge : Nat)
  /-- A node lists too few or too many entering edges for its op's inputs. -/
  | inputEdges (given : Nat) (op : String) (inputs : Nat)
  deriving DecidableEq

/-- A defect in words. -/
def Defect.message : Defect → String
  | nodeNumber id => s!"node id is {id}"
  | outputTypes given op outputs => s!"{given} output dtypes for op `{op}` with {outputs} outputs"
  | missingSource edge node => s!"edge {edge} leaves missing node {node}"
  | missingTarget edge node => s!"edge {edge} enters missing node {node}"
  | outputSlot edge slot => s!"edge {edge} leaves output slot {slot}"
  | inputSlot edge slot => s!"edge {edge} enters input slot {slot}"
  | slotFedTwice slot => s!"input slot {slot} is fed more than once"
  | unlinked edge => s!"edge {edge} is not linked from both endpoints"
  | inputEdges given op inputs => s!"{given} in-edges for op `{op}` with {inputs} inputs"

/-- Why an operation failed. -/
inductive Error
  /-- The properties file cannot be read as text. -/
  | unreadableFile (path : String)
  /-- The properties file's text does not describe properties. -/
  | unparsableFile
  /-- An environment variable does not hold a size. -/
  | invalidEnvValue (variableName value : String)
  /-- A device type is registered already. -/
  | duplicateDeviceType (deviceType : String)
  /-- The discovery of a device type's devices failed. -/
  | discoveryFailed (deviceType : String) (reason : Error)
  /-- An op of this name is registered already. -/
  | duplicateOp (op : String)
  /-- An op declares an attribute twice. -/
  | duplicateAttribute (op attr : String)
  /-- A kernel has too few or too many element types on one side. -/
  | kernelArityMismatch (op : String) (side : Side) (expected actual : Nat)
  /-- Nothing can be registered with a frozen registry. -/
  | registryFrozen (registry : RegistryKind) (name : String)
  /-- There is no device of this name. -/
  | deviceNotFound (name : String)
  /-- There is no op of this name. -/
  | opNotFound (name : String)
  /-- There is no attribute at this path. -/
  | attributeNotFound (path : String)
  /-- An attribute has another type than the one asked for. -/
  | attributeTypeMismatch (path : String) (expected actual : AttrType)
  /-- No kernel of a node's op fits its device and its element types. -/
  | kernelNotFound (node op deviceType : String) (dtypes : List DType)
  /-- A device cannot provide a block. -/
  | allocationFailed (device : String) (bytes : Nat)
  /-- A device does not accept an allocation of this length. -/
  | tensorLimit (device : String) (bytes limit : Nat)
  /-- A block to be freed is not one that the device has handed out. -/
  | unknownAllocation (device : String)
  /-- A block is freed as another element type than it was allocated for. -/
  | freeDTypeMismatch (device : String) (allocated freed : DType)
  /-- The number of elements or of bytes of a shape does not fit a word. -/
  | elementCountOverflow (shape : List Nat)
  /-- A reshape would change the length in bytes. -/
  | reshapeMismatch (current requested : Nat)
  /-- A node builder must be reset before it is used again. -/
  | builderNotAccumulating (state : BuilderState)
  /-- A handle does not denote a node of the graph. -/
  | invalidInputNode
  /-- A node has no output of this number. -/
  | outputSlotOutOfRange (node : String) (outputs slot : Nat)
  /-- A node is given more inputs than its op has. -/
  | tooManyInputs (op : String) (inputs : Nat)
  /-- A node is built with too few or too many output element types. -/
  | outputDTypeCountMismatch (op : String) (expected actual : Nat)
  /-- A node is built with too few inputs. -/
  | inputCountMismatch (op : String) (expected actual : Nat)
  /-- A node is built with too few or too many attributes. -/
  | attributeCountMismatch (op : String) (expected actual : Nat)
  /-- A node is built without an attribute that its op declares. -/
  | missingAttribute (op attr : String)
  /-- The structure of a graph is broken. -/
  | malformedGraph (node : Nat) (defect : Defect)
  /-- A list of dimensions is too long for a layout. -/
  | layoutTooLarge (max rank : Nat)
  /-- A shape and its strides differ in length. -/
  | layoutRankMismatch (shape strides : Nat)
  /-- A shape has a dimension of length zero. -/
  | zeroDimension (dim : Nat)
  /-- A view reaches beyond its storage. -/
  | mapOutOfBounds (required available : Nat)
  /-- An index does not lie inside a shape. -/
  | indexOutOfBounds (indices shape : List Nat)
  /-- A buffer is viewed as elements of another size. -/
  | elementSizeMismatch (dtype : DType) (element expected : Nat)
  /-- A buffer is viewed as elements of another type. -/
  | elementTypeMismatch (dtype requested : DType)
  /-- An attribute's name contains the separator of paths. -/
  | invalidAttributeName (attr : String)
  deriving DecidableEq

namespace Error

/-- The sort of a cause. -/
def kind : Error → ErrorKind
  | unreadableFile _ | unparsableFile | invalidEnvValue .. => .io
  | duplicateDeviceType _ | discoveryFailed .. | duplicateOp _ | duplicateAttribute ..
  | kernelArityMismatch .. | registryFrozen .. => .configuration
  | deviceNotFound _ | opNotFound _ | attributeNotFound _ | attributeTypeMismatch .. => .lookup
  | kernelNotFound .. => .resolution
  | allocationFailed .. | tensorLimit .. | unknownAllocation _ | freeDTypeMismatch ..
  | elementCountOverflow _ => .allocation
  | reshapeMismatch .. => .resize
  | builderNotAccumulating _ | invalidInputNode | outputSlotOutOfRange .. | tooManyInputs ..
  | outputDTypeCountMismatch .. | inputCountMismatch .. | attributeCountMismatch ..
  | missingAttribute .. | malformedGraph .. | layoutTooLarge .. | layoutRankMismatch ..
  | zeroDimension _ | mapOutOfBounds .. | indexOutOfBounds .. | elementSizeMismatch ..
  | elementTypeMismatch .. | invalidAttributeName _ => .validation

/-- A cause in words. -/
def message : Error → String
  | unreadableFile path => s!"properties file {path} could not be read"
  | unparsableFile => "properties JSON could not be parsed"
  | invalidEnvValue variableName value =>
    s!"environment variable {variableName} has invalid value `{value}`"
  | duplicateDeviceType deviceType =>
    s!"failed to register device type `{deviceType}`, the name already exists"
  | discoveryFailed deviceType reason =>
    s!"device discovery for type `{deviceType}` failed: {reason.message}"
  | duplicateOp op => s!"failed to register op `{op}`, the name already exists"
  | duplicateAttribute op attr =>
    s!"failed to add attribute `{attr}` to op `{op}`, it already exists"
  | kernelArityMismatch op side expected actual =>
    s!"failed to register kernel for `{op}`: number of {side.name} mismatched " ++
      s!"({expected} != {actual})"
  | registryFrozen registry name =>
    s!"{registry.name} registry is frozen, cannot register `{name}`"
  | deviceNotFound name => s!"device `{name}` does not exist"
  | opNotFound name => s!"op `{name}` does not exist"
  | attributeNotFound path => s!"attribute `{path}` does not exist"
  | attributeTypeMismatch path expected actual =>
    s!"attribute `{path}` holds {actual.name}, requested {expected.name}"
  | kernelNotFound node op deviceType dtypes =>
    s!"failed to resolve kernel for node `{node}` (op `{op}`, device type `{deviceType}`, " ++
      "dtypes " ++ Text.listed (dtypes.map DType.label) ++ ")"
  | allocationFailed device bytes => s!"{device} memory allocation failure ({bytes} bytes)"
  | tensorLimit device bytes limit =>
    s!"{device} allocation of {bytes} bytes exceeds tensor byte limit {limit}"
  | unknownAllocation device => s!"{device} does not own the block being freed"
  | freeDTypeMismatch device allocated freed =>
    s!"{device} block was allocated as {allocated.name}, freed as {freed.name}"
  | elementCountOverflow shape => s!"shape {Text.numbers shape} overflows the element count"
  | reshapeMismatch current requested =>
    s!"cannot reshape size={current} into size={requested}"
  | builderNotAccumulating state =>
    s!"node builder is {state.name}, call reset() before reusing it"
  | invalidInputNode => "source node is not valid in this graph"
  | outputSlotOutOfRange node outputs slot =>
    s!"source node `{node}` only has {outputs} outputs, slot={slot}"
  | tooManyInputs op inputs => s!"op `{op}` only has {inputs} inputs"
  | outputDTypeCountMismatch op expected actual =>
    s!"op `{op}` requires {expected} output dtypes, got {actual}"
  | inputCountMismatch op expected actual => s!"op `{op}` requires {expected} inputs, got {actual}"
  | attributeCountMismatch op expected actual =>
    s!"op `{op}` requires {expected} attributes, got {actual}"
  | missingAttribute op attr =>
    s!"op `{op}` requires attribute `{attr}` which is missing"
  | malformedGraph node defect =>
    s!"graph structure is invalid at node {node}: {defect.message}"
  | layoutTooLarge max rank => s!"only layout rank {max} is supported, got {rank}"
  | layoutRankMismatch shape strides =>
    s!"shape and stride ranks mismatched ({shape} != {strides})"
  | zeroDimension dim => s!"shape cannot have 0 dim (dimension {dim})"
  | mapOutOfBounds required available =>
    s!"view needs {required} elements but the region holds {available}"
  | indexOutOfBounds indices shape =>
    s!"index {Text.numbers indices} is out of bounds for shape {Text.numbers shape}"
  | elementSizeMismatch dtype element expected =>
    s!"bad cast, element size {element} does not match {dtype.name} size {expected}"
  | elementTypeMismatch dtype requested =>
    s!"bad cast, {dtype.name} buffer mapped as {requested.name}"
  | invalidAttributeName attr => s!"attribute name `{attr}` must not contain `/`"

end Error

end Dataflow
