import Dataflow.Device
import Dataflow.Names
import Dataflow.Properties
import Dataflow.Table

/-!
# Device registries

A registry holds the devices of each registered type under the names `type:n`, and numbers the
devices that it enrolls, so that a device is told from one that had its name before. A type is
registered with a discovery, which may itself freeze, tear down and register with the same registry
before it yields a batch of backends or fails; so whether a type can be registered is asked before
the discovery and again after it, and only then is the batch listed and the registry changed by the
registration.
-/

namespace Dataflow

/-- A registry of devices. -/
structure DeviceRegistry where
  devices : Table String Device := {}
  /-- The registered types with the backends that their discovery yielded. -/
  factories : Table String (List Backend) := {}
  frozen : Bool := false
  /-- The number of the next device. No number is given twice, also not after a teardown. -/
  next : Nat := 0

namespace DeviceRegistry

/-- Whether there is a device of the given name. -/
def has (r : DeviceRegistry) (name : String) : Bool :=
  r.devices.contains name

/-- Whether the given type is registered. -/
def hasType (r : DeviceRegistry) (deviceType : String) : Bool :=
  r.factories.contains deviceType

/-- The device of the given name. -/
def getDevice (r : DeviceRegistry) (name : String) : Except Error Device :=
  match r.devices.get? name with
  | some d => .ok d
  | none => .error (.deviceNotFound name)

/-- The names of the devices, sorted. -/
def names (r : DeviceRegistry) : List String :=
  sortNames r.devices.keys

/-- The number of devices. -/
def numDevices (r : DeviceRegistry) : Nat :=
  r.devices.size

/-- The number of registered types. -/
def numFactories (r : DeviceRegistry) : Nat :=
  r.factories.size

/-- The registry, closed for registration. -/
def freeze (r : DeviceRegistry) : DeviceRegistry :=
  { r with frozen := true }

/-- The registry emptied and open again. Its numbering goes on, because devices may still be
held. -/
def teardown (r : DeviceRegistry) : DeviceRegistry :=
  { next := r.next }

/-- Whether a type can be registered. -/
def checkRegistrable (r : DeviceRegistry) (deviceType : String) : Except Error Unit :=
  if r.frozen then .error (.registryFrozen .device deviceType)
  else if r.hasType deviceType then .error (.duplicateDeviceType deviceType)
  else .ok ()

/-- The name of the `n`-th device of a type. -/
def deviceName (deviceType : String) (n : Nat) : String :=
  deviceType ++ ":" ++ toString n

/-- The devices that backends become: each is named by the first number that is free, and their
serial numbers go on from those of the devices before. -/
def nameDevices (r : DeviceRegistry) (deviceType : String) (backends : List Backend) :
    List Device :=
  let numbers := freeNumbers (deviceName deviceType) r.devices.keys 0 backends.length
  numbers.zipWith
    (fun n (backend, serial) => ⟨serial, deviceName deviceType n, deviceType, backend⟩)
    (backends.zipIdx r.next)

/-- The registry with a type and its devices. -/
def enroll (r : DeviceRegistry) (deviceType : String) (backends : List Backend) : DeviceRegistry :=
  { r with
    devices := (r.nameDevices deviceType backends).foldl (fun t d => t.insert d.name d) r.devices
    factories := r.factories.insert deviceType backends
    next := r.next + backends.length }

/-- The registration of a type whose discovery does `discover` with the registry: the names of the
new devices, or an error and the registry as the discovery has left it. -/
def registerBy (r : DeviceRegistry) (deviceType : String)
    (discover : DeviceRegistry → Except Error Batch × DeviceRegistry) :
    Except Error (List String) × DeviceRegistry :=
  match r.checkRegistrable deviceType with
  | .error e => (.error e, r)
  | .ok () =>
    match discover r with
    | (.error e, s) => (.error (.discoveryFailed deviceType e), s)
    | (.ok batch, s) =>
      match s.checkRegistrable deviceType with
      | .error e => (.error e, s)
      | .ok () =>
        let backends := batch.toList
        (.ok ((s.nameDevices deviceType backends).map (·.name)), s.enroll deviceType backends)

end DeviceRegistry

/-- What a discovery does with the registry that runs it, step by step, and what it yields. -/
inductive Discovery
  /-- Yield backends or fail. -/
  | finish (found : Except Error Batch)
  /-- Freeze the registry and go on. -/
  | freeze (next : Discovery)
  /-- Tear the registry down and go on. -/
  | teardown (next : Discovery)
  /-- Register another type and go on with the answer. -/
  | register (deviceType : String) (inner : Discovery)
      (next : Except Error (List String) → Discovery)

namespace Discovery

/-- The discovery as an action on the registry. -/
def run : Discovery → DeviceRegistry → Except Error Batch × DeviceRegistry
  | finish found, r => (found, r)
  | freeze next, r => next.run r.freeze
  | teardown next, r => next.run r.teardown
  | register deviceType inner next, r =>
    let (answer, s) := r.registerBy deviceType fun r => inner.run r
    (next answer).run s

/-- The discovery of host memory, with the backends that the properties ask for. -/
def host (p : Properties) : Discovery :=
  finish (.ok (hostBackends p.tensorByteLengthLimit p.cpuDeviceCount))

end Discovery

namespace DeviceRegistry

/-- The registration of a type with its discovery. -/
def register (r : DeviceRegistry) (deviceType : String) (discovery : Discovery) :
    Except Error (List String) × DeviceRegistry :=
  r.registerBy deviceType discovery.run

/-- Makes sure that the devices of host memory are registered: the properties matter only if they
are not. -/
def ensureHost (r : DeviceRegistry) (p : Properties) : Except Error Unit × DeviceRegistry :=
  if r.hasType hostType then (.ok (), r)
  else
    match r.register hostType (.host p) with
    | (.ok _, s) => (.ok (), s)
    | (.error (.duplicateDeviceType _), s) => (.ok (), s)
    | (.error e, s) => (.error e, s)

end DeviceRegistry

end Dataflow
