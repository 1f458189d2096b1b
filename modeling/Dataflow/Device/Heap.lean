import Dataflow.Device
import Dataflow.Table

/-!
# Allocations

A device keeps account of the blocks that its backend has handed out. `Device.allocate` checks a
request before the backend sees it, and `Device.free` gives back only blocks on the account, as the
element type they were allocated for. The accounts of all devices make up a heap, in which an
operation on one device leaves the account of every other one alone (`Heap.account_update`). The
heap also keeps one journal of what all the backends enter in theirs, in the order of the
operations (`Heap.journal_update`).
-/

namespace Dataflow

/-- A block on a device's account. -/
structure Block where
  dtype : DType
  /-- The length that counts: that of the elements asked for, which may be none. -/
  bytes : Nat
  asked : Request
  deriving DecidableEq

/-- The account of a device: its live blocks, their length in sum, and all that was done with its
backend. -/
structure Allocations where
  blocks : Table Address Block := {}
  liveBytes : Nat := 0
  history : History := []

/-- The number of live blocks. -/
def Allocations.numLive (a : Allocations) : Nat :=
  a.blocks.size

namespace Device

/-- The memory to ask for, and the length that counts, when `count` elements are wanted. A block of
no element still takes the room of one, so that each block has an address of its own. -/
def request (d : Device) (dtype : DType) (count : Nat) : Except Error (Request × Nat) :=
  match Word.mul? count dtype.size with
  | none => .error (.elementCountOverflow [count])
  | some bytes =>
    if d.backend.maxAllocation < bytes then
      .error (.tensorLimit d.name bytes d.backend.maxAllocation)
    else
      match Request.of? (max bytes dtype.size) dtype.size with
      | none => .error (.allocationFailed d.name bytes)
      | some asked => .ok (asked, bytes)

/-- The allocation of `count` elements. -/
def allocate (d : Device) (dtype : DType) (count : Nat) (a : Allocations) :
    Except Error Address × Allocations :=
  match d.request dtype count with
  | .error e => (.error e, a)
  | .ok (asked, bytes) =>
    let given := d.grant a.history asked
    let history := a.history ++ [.request asked given]
    match given with
    | none => (.error (.allocationFailed d.name bytes), { a with history })
    | some address =>
      (.ok address,
        { blocks := a.blocks.insert address ⟨dtype, bytes, asked⟩
          liveBytes := a.liveBytes + bytes
          history })

/-- The release of a block. -/
def free (d : Device) (dtype : DType) (address : Address) (a : Allocations) :
    Except Error Unit × Allocations :=
  match a.blocks.get? address with
  | none => (.error (.unknownAllocation d.name), a)
  | some block =>
    if block.dtype ≠ dtype then (.error (.freeDTypeMismatch d.name block.dtype dtype), a)
    else
      (.ok (),
        { blocks := a.blocks.erase address
          liveBytes := a.liveBytes - block.bytes
          history := a.history ++ [.release address block.asked] })

end Device

/-- The accounts of all devices, by their numbers. -/
structure Heap where
  accounts : Table Nat Allocations := {}
  /-- The entries that the backends have made, in the order of the operations. -/
  journal : List Entry := []

namespace Heap

/-- The account of a device. -/
def account (h : Heap) (d : Device) : Allocations :=
  (h.accounts.get? d.serial).getD {}

/-- The entries that a device's backend has made since its account was `before`. -/
def entriesSince (d : Device) (before after : Allocations) : List Entry :=
  (d.backend.journal after.history).drop (d.backend.journal before.history).length

/-- The heap after an operation on the account of one device. -/
def update {α : Type} (h : Heap) (d : Device) (f : Allocations → α × Allocations) : α × Heap :=
  let (x, a) := f (h.account d)
  (x,
    { accounts := h.accounts.insert d.serial a
      journal := h.journal ++ entriesSince d (h.account d) a })

/-- The allocation of `count` elements on a device. -/
def allocate (h : Heap) (d : Device) (dtype : DType) (count : Nat) : Except Error Address × Heap :=
  h.update d (d.allocate dtype count)

/-- The release of a block on a device. -/
def free (h : Heap) (d : Device) (dtype : DType) (address : Address) : Except Error Unit × Heap :=
  h.update d (d.free dtype address)

/-- An operation on one device leaves the account of every other one alone. -/
theorem account_update {α : Type} (h : Heap) (d d' : Device)
    (f : Allocations → α × Allocations) :
    (h.update d f).2.account d' =
      if d.serial = d'.serial then (f (h.account d)).2 else h.account d' := by
  unfold update account
  simp only [Table.get?_insert]
  split <;> rfl

/-- What a backend enters during an operation is entered in the journal. -/
theorem journal_update {α : Type} (h : Heap) (d : Device) (f : Allocations → α × Allocations) :
    (h.update d f).2.journal =
      h.journal ++ entriesSince d (h.account d) (f (h.account d)).2 := rfl

end Heap

end Dataflow
