import Dataflow.Kernel
import Dataflow.Word

/-!
# Devices

A backend is a unit that hands out memory and runs kernels. What it answers to a request may depend
on everything that was asked of it before, so it is described by a function of its history. A
device is a backend under the number, the name and the type that a registry has given it.
-/

namespace Dataflow

/-- The memory that is asked of a backend: a length in bytes and the alignment of its address. -/
structure Request where
  size : Nat
  align : Nat
  deriving DecidableEq

/-- The request for a block, if the block and the padding behind it fit in the range of offsets. -/
def Request.of? (size align : Nat) : Option Request :=
  if size + (align - 1) ≤ maxBlock then some ⟨size, align⟩ else none

/-- Where a block of memory begins: the number of a device and an offset in its memory. -/
structure Address where
  device : Nat
  offset : Nat
  deriving DecidableEq

/-- What a device does with its backend. -/
inductive Event
  /-- It asks for memory, and is given an address or nothing. -/
  | request (asked : Request) (given : Option Address)
  /-- It gives back the block at an address, which was asked for with `asked`. -/
  | release (address : Address) (asked : Request)
  deriving DecidableEq

/-- What was done with a backend so far, the first event first. -/
abbrev History := List Event

/-- An entry that a backend makes of its own accord about an event. -/
inductive Entry
  | requested (asked : Request)
  | refused (asked : Request)
  | freed (asked : Request)
  deriving DecidableEq

/-- A unit that hands out memory and runs kernels. -/
structure Backend where
  status : Except Error Unit := .ok ()
  /-- The longest single allocation that is accepted, in bytes. -/
  maxAllocation : Nat := maxWord
  /-- Where in its memory a backend places a block that it is asked for after a history, if it
  does. -/
  grant : History → Request → Option Nat
  /-- How a kernel is run. -/
  launch : Kernel → Outcome × Kernel := Kernel.compute
  /-- The entries that the backend has made during a history. -/
  journal : History → List Entry := fun _ => []

/-- A backend with the name and the type under which it is registered. -/
structure Device where
  /-- The number that tells this device from any other, also from one that had its name before. -/
  serial : Nat
  name : String
  type : String
  backend : Backend

/-- A device as a record. -/
def Device.describe (d : Device) : String :=
  Text.record "Device" [("name", Text.quoted d.name), ("device_type", Text.quoted d.type)]

/-- The address of the block that a device is given when it asks after a history, if it is given
one. -/
def Device.grant (d : Device) (history : History) (asked : Request) : Option Address :=
  (d.backend.grant history asked).map (Address.mk d.serial)

namespace History

/-- The end of the highest block that was ever handed out. -/
def top (history : History) : Nat :=
  history.foldl (fun high event =>
    match event with
    | .request asked (some address) => max high (address.offset + asked.size)
    | _ => high) 0

/-- The number of blocks that were handed out and not given back. -/
def numLive (history : History) : Nat :=
  history.foldl (fun live event =>
    match event with
    | .request _ (some _) => live + 1
    | .request _ none => live
    | .release _ _ => live - 1) 0

/-- An aligned offset above every block that was handed out before, and above zero. -/
def place (history : History) (asked : Request) : Nat :=
  (history.top / asked.align + 1) * asked.align

end History

/-! ## Batches -/

/-- Backends by position. They are made only when the batch is listed, so a batch may be of any
length as long as nobody lists it. -/
structure Batch where
  count : Nat
  backend : Fin count → Backend

namespace Batch

/-- The backends of a list. -/
def ofList (backends : List Backend) : Batch :=
  ⟨backends.length, fun i => backends[i]⟩

/-- The backends from the first to the last. -/
def toList (b : Batch) : List Backend :=
  List.ofFn b.backend

theorem length_toList (b : Batch) : b.toList.length = b.count :=
  List.length_ofFn

/-- The batch of a list has the backends of the list. -/
theorem toList_ofList (backends : List Backend) : (ofList backends).toList = backends :=
  List.ofFn_getElem

end Batch

/-! ## Host memory -/

/-- The type of the devices of host memory. -/
def hostType : String := "CPU"

/-- The host never has this many bytes for one block. -/
def hostMemory : Nat := 1 <<< 60

/-- A backend of host memory that accepts allocations up to `limit` bytes. -/
def hostBackend (limit : Nat) : Backend where
  maxAllocation := limit
  grant := fun history asked =>
    if hostMemory ≤ asked.size then none else some (history.place asked)

/-- Some backends of host memory that accept allocations up to `limit` bytes. -/
def hostBackends (limit count : Nat) : Batch :=
  ⟨count, fun _ => hostBackend limit⟩

end Dataflow
