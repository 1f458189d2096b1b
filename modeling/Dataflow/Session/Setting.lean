import Dataflow.Op.Catalog
import Dataflow.Session.Sample
import Dataflow.Tensor.Buffer

/-!
# The setting of a session

The registries, the memory and the things held by name that the steps of a session share, and the
steps that need no graph. A registry comes into being when it is first named. All registries of
devices number their devices in one sequence, because the devices share the memory.
-/

namespace Dataflow.Session

/-- What the steps of a session share besides graphs. -/
structure Setting where
  catalog : Catalog := {}
  /-- The number of the next device. -/
  nextDevice : Nat := 0
  deviceRegistries : Table String DeviceRegistry := {}
  heap : Heap := {}
  heldOps : Table String Op := {}
  heldDevices : Table String Device := {}
  blocks : Table String Address := {}
  buffers : Table String Buffer := {}

/-- The name of the registries that every session has. -/
def globalName : String := "global"

/-! ## Steps -/

/-- How a step finds its device. -/
inductive Selection
  /-- A device that is held by name. -/
  | held (name : String)
  /-- A device of a registry. -/
  | registered (registry device : String)

/-- The registries that a step freezes or tears down. -/
inductive Scope
  | ops (registry : String)
  | devices (registry : String)
  /-- Both global registries. -/
  | both

/-- How a step finds its op. -/
inductive OpSource
  | held (name : String)
  | registered (registry name : String)

/-- The block that a step frees. -/
inductive FreeTarget
  | block (name : String)
  | buffer (name : String)

/-- A step that needs no graph. -/
inductive SettingStep
  | ensureHost (properties : Properties)
  | freeze (scope : Scope)
  | teardown (scope : Scope)
  | registerDevice (registry deviceType : String) (factory : FactorySpec)
  | devices (registry : String) (names types : List String)
  | device (selection : Selection) (hold : Option String)
  | allocate (selection : Selection) (dtype : DType) (count : Nat) (block : String)
  | free (selection : Selection) (dtype : DType) (target : FreeTarget)
  | op (registry name : String) (inputs : Nat) (outputs : List (List Nat))
      (attributes : List String) (hold : Option String)
  | kernel (registry op deviceType : String) (inputs outputs : List DType) (kind : KernelKind)
  | ops (registry : String) (names : List String)
  | getOp (source : OpSource) (slots : List Nat)
  | buffer (selection : Selection) (dtype : DType) (shape : List Nat) (name : String)
  | bufferInfo (name : String)
  | reshape (name : String) (shape : List Nat)
  | map (name : String) (dtype : DType) (calls : List (View.Call dtype.Scalar))
  | drop (name : String)

/-! ## Answers -/

/-- A device's account after a step: the number of live blocks and their length in sum; and the
entries made during the step, those of the device that a replaced buffer was on among them. -/
structure Ledger where
  numLive : Nat
  liveBytes : Nat
  entries : List Entry

/-- An op with its kernels. -/
structure OpState where
  op : Op
  kernels : List KernelDef

/-- A device registry, as far as a step asks about it. -/
structure DeviceListing where
  registry : DeviceRegistry
  has : List Bool
  hasType : List Bool

/-- An op registry, as far as a step asks about it. -/
structure OpListing where
  registry : OpRegistry
  has : List Bool

/-- The answer to a step that needs no graph. -/
inductive SettingAnswer
  | done (result : Except Error Unit)
  | names (result : Except Error (List String))
  | devices (listing : DeviceListing)
  | device (result : Except Error (Device × Ledger))
  | allocated (result : Except Error (Except Error Unit × Ledger))
  | freed (result : Except Error (Except Error Unit × Ledger))
  | op (result : Except Error OpState)
  | ops (listing : OpListing)
  | opDetail (result : Except Error (OpState × List (Except Error Layout)))
  | buffer (result : Except Error (Except Error Buffer × Ledger))
  | bufferState (buffer : Buffer)
  | reshape (result : Except Error Unit) (buffer : Buffer)
  | map (dtype : DType) (result : Except Error (List (View.Answer dtype.Scalar)))
  | dropped (ledger : Ledger)
  /-- The step names something that is not there. -/
  | nothing

/-! ## Performing steps -/

namespace Setting

/-- The op registry of the given name. -/
def opRegistry (s : Setting) (name : String) : OpRegistry :=
  s.catalog.registry name

/-- The device registry of the given name, which numbers its next devices as any other would. -/
def deviceRegistry (s : Setting) (name : String) : DeviceRegistry :=
  { (s.deviceRegistries.get? name).getD {} with next := s.nextDevice }

/-- The setting with an op registry replaced. -/
def setOpRegistry (s : Setting) (name : String) (r : OpRegistry) : Setting :=
  { s with catalog := s.catalog.setRegistry name r }

/-- The setting with a device registry replaced. -/
def setDeviceRegistry (s : Setting) (name : String) (r : DeviceRegistry) : Setting :=
  { s with deviceRegistries := s.deviceRegistries.insert name r, nextDevice := r.next }

/-- The setting after an operation on the registries of a scope. -/
def onScope (s : Setting) (onOps : OpRegistry → OpRegistry)
    (onDevices : DeviceRegistry → DeviceRegistry) : Scope → Setting
  | .ops name => s.setOpRegistry name (onOps (s.opRegistry name))
  | .devices name => s.setDeviceRegistry name (onDevices (s.deviceRegistry name))
  | .both =>
    (s.setOpRegistry globalName (onOps (s.opRegistry globalName))).setDeviceRegistry globalName
      (onDevices (s.deviceRegistry globalName))

/-- The device that a step selects. -/
def select (s : Setting) : Selection → Except Error Device
  | .held name =>
    match s.heldDevices.get? name with
    | some d => .ok d
    | none => .error (.deviceNotFound name)
  | .registered registry device => (s.deviceRegistry registry).getDevice device

/-- A device's account now, with all entries made since the heap was `before`. -/
def ledger (s : Setting) (before : Heap) (d : Device) : Ledger where
  numLive := (s.heap.account d).numLive
  liveBytes := (s.heap.account d).liveBytes
  entries := s.heap.journal.drop before.journal.length

/-- An op with the kernels it has now. -/
def opState (s : Setting) (op : Op) : OpState :=
  ⟨op, s.catalog.book.kernels op⟩

/-- The op that a step asks about. -/
def selectOp (s : Setting) : OpSource → Except Error Op
  | .held name =>
    match s.heldOps.get? name with
    | some op => .ok op
    | none => .error (.opNotFound name)
  | .registered registry name => (s.opRegistry registry).getOp name

/-- The address of the block that a step frees. -/
def target? (s : Setting) : FreeTarget → Option Address
  | .block name => s.blocks.get? name
  | .buffer name => (s.buffers.get? name).map (·.address)

/-- Makes sure that the global registry has the devices of host memory. -/
def ensureHost (s : Setting) (p : Properties) : Except Error Unit × Setting :=
  let (r, registry) := (s.deviceRegistry globalName).ensureHost p
  (r, s.setDeviceRegistry globalName registry)

/-- Registers a type of devices. -/
def registerDevice (s : Setting) (registry deviceType : String) (factory : FactorySpec) :
    Except Error (List String) × Setting :=
  let (answer, r) := (s.deviceRegistry registry).register deviceType factory.discovery
  (answer, s.setDeviceRegistry registry r)

/-- Allocates a block under a name. -/
def allocate (s : Setting) (d : Device) (dtype : DType) (count : Nat) (block : String) :
    Except Error Unit × Setting :=
  match s.heap.allocate d dtype count with
  | (.error e, heap) => (.error e, { s with heap })
  | (.ok address, heap) => (.ok (), { s with heap, blocks := s.blocks.insert block address })

/-- Frees a block. -/
def free (s : Setting) (d : Device) (dtype : DType) (address : Address) :
    Except Error Unit × Setting :=
  let (r, heap) := s.heap.free d dtype address
  (r, { s with heap })

/-- Declares an op and registers it; it is held under a name if one is given. -/
def registerOp (s : Setting) (registry name : String) (inputs : Nat) (outputs : List (List Nat))
    (attributes : List String) (hold : Option String) : Except Error Op × Setting :=
  match s.catalog.registerOp registry name inputs (outputs.map Layout.ofDims) attributes with
  | (.error e, catalog) => (.error e, { s with catalog })
  | (.ok op, catalog) =>
    (.ok op,
      { s with
        catalog
        heldOps :=
          match hold with
          | some name => s.heldOps.insert name op
          | none => s.heldOps })

/-- Registers a kernel. -/
def registerKernel (s : Setting) (registry op : String) (kernel : KernelDef) :
    Except Error Unit × Setting :=
  let (r, catalog) := s.catalog.registerKernel registry op kernel
  (r, { s with catalog })

/-- Makes a buffer under a name, in memory that holds zeros; a buffer that had the name ends after
the new one is made. -/
def createBuffer (s : Setting) (d : Device) (dtype : DType) (shape : Layout) (name : String) :
    Except Error Buffer × Setting :=
  match Buffer.create s.heap d dtype shape fun _ => dtype.zero with
  | (.error e, heap) => (.error e, { s with heap })
  | (.ok b, heap) =>
    let heap :=
      match s.buffers.get? name with
      | some old => (old.release heap).2
      | none => heap
    (.ok b, { s with heap, buffers := s.buffers.insert name b })

/-- One step. -/
def perform (s : Setting) : SettingStep → SettingAnswer × Setting
  | .ensureHost p =>
    let (r, s) := s.ensureHost p
    (.done r, s)
  | .freeze scope => (.done (.ok ()), s.onScope OpRegistry.freeze DeviceRegistry.freeze scope)
  | .teardown scope =>
    (.done (.ok ()), s.onScope OpRegistry.teardown DeviceRegistry.teardown scope)
  | .registerDevice registry deviceType factory =>
    let (r, s) := s.registerDevice registry deviceType factory
    (.names r, s)
  | .devices registry names types =>
    let r := s.deviceRegistry registry
    (.devices ⟨r, names.map r.has, types.map r.hasType⟩, s)
  | .device selection hold =>
    match s.select selection with
    | .error e => (.device (.error e), s)
    | .ok d =>
      (.device (.ok (d, s.ledger s.heap d)),
        match hold with
        | some name => { s with heldDevices := s.heldDevices.insert name d }
        | none => s)
  | .allocate selection dtype count block =>
    match s.select selection with
    | .error e => (.allocated (.error e), s)
    | .ok d =>
      let (r, after) := s.allocate d dtype count block
      (.allocated (.ok (r, after.ledger s.heap d)), after)
  | .free selection dtype target =>
    match s.select selection, s.target? target with
    | .error e, _ => (.freed (.error e), s)
    | .ok _, none => (.nothing, s)
    | .ok d, some address =>
      let (r, after) := s.free d dtype address
      (.freed (.ok (r, after.ledger s.heap d)), after)
  | .op registry name inputs outputs attributes hold =>
    let (r, s) := s.registerOp registry name inputs outputs attributes hold
    (.op (r.map s.opState), s)
  | .kernel registry op deviceType inputs outputs kind =>
    let (r, s) := s.registerKernel registry op (kind.kernelDef deviceType inputs outputs)
    (.done r, s)
  | .ops registry names =>
    let r := s.opRegistry registry
    (.ops ⟨r, names.map r.has⟩, s)
  | .getOp source slots =>
    (.opDetail ((s.selectOp source).map fun op => (s.opState op, slots.map op.outShape)), s)
  | .buffer selection dtype shape name =>
    match s.select selection, Layout.ofDims shape with
    | .error e, _ => (.buffer (.error e), s)
    | .ok _, .error e => (.buffer (.error e), s)
    | .ok d, .ok shape =>
      let (r, after) := s.createBuffer d dtype shape name
      (.buffer (.ok (r, after.ledger s.heap d)), after)
  | .bufferInfo name =>
    match s.buffers.get? name with
    | some b => (.bufferState b, s)
    | none => (.nothing, s)
  | .reshape name shape =>
    match s.buffers.get? name with
    | none => (.nothing, s)
    | some b =>
      let (r, b) := b.reshaped shape
      (.reshape r b, { s with buffers := s.buffers.insert name b })
  | .map name dtype calls =>
    match s.buffers.get? name with
    | none => (.nothing, s)
    | some b =>
      let (r, b) := b.mapped dtype calls
      (.map dtype r, { s with buffers := s.buffers.insert name b })
  | .drop name =>
    match s.buffers.get? name with
    | none => (.nothing, s)
    | some b =>
      let after := { s with heap := (b.release s.heap).2, buffers := s.buffers.erase name }
      (.dropped (after.ledger s.heap b.device), after)

end Setting

end Dataflow.Session
