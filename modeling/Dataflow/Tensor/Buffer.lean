import Dataflow.Device.Heap
import Dataflow.Tensor.View

/-!
# Buffers

A buffer is a block of device memory with an element type and a shape. Its number of elements is
fixed when it is made: a reshape is accepted only if the length in bytes stays the same. It is
viewed as elements of its own type, row-major under its current shape. A call that fails leaves the
buffer as it was (`reshaped`, `mapped`).
-/

namespace Dataflow

/-- Device memory under an element type and a shape. -/
structure Buffer where
  dtype : DType
  shape : Layout
  /-- The number of elements. -/
  size : Nat
  address : Address
  device : Device
  data : Cells dtype.Scalar

namespace Buffer

/-- The number of elements of a shape, if it and the length in bytes fit a word. -/
def count (dtype : DType) (shape : Layout) : Except Error Nat :=
  match shape.numElements?.filter fun n => (Word.mul? n dtype.size).isSome with
  | some n => .ok n
  | none => .error (.elementCountOverflow shape.dims)

/-- A new buffer on a device. Nothing is written to it, so it has the elements that its memory
holds. -/
def create (h : Heap) (d : Device) (dtype : DType) (shape : Layout)
    (memory : Nat → dtype.Scalar) : Except Error Buffer × Heap :=
  match count dtype shape with
  | .error e => (.error e, h)
  | .ok size =>
    let (answer, h) := h.allocate d dtype size
    (answer.map fun address => ⟨dtype, shape, size, address, d, ⟨size, memory⟩⟩, h)

/-- The end of a buffer: its block is given back, unless the device no longer has it. -/
def release (b : Buffer) (h : Heap) : Except Error Unit × Heap :=
  h.free b.device b.dtype b.address

/-- The length in bytes. -/
def numBytes (b : Buffer) : Nat :=
  b.size * b.dtype.size

/-- The buffer under a new shape of the same length. -/
def reshape (b : Buffer) (sizes : List Nat) : Except Error Buffer := do
  let shape ← Layout.ofDims sizes
  let size ← count b.dtype shape
  if b.numBytes ≠ size * b.dtype.size then
    .error (.reshapeMismatch b.numBytes (size * b.dtype.size))
  else .ok { b with shape }

/-- A reshape as a call on the buffer: its answer, and the buffer after it. -/
def reshaped (b : Buffer) (sizes : List Nat) : Except Error Unit × Buffer :=
  match b.reshape sizes with
  | .error e => (.error e, b)
  | .ok after => (.ok (), after)

/-- The row-major view of a buffer as elements of type `requested`, which must be its own type. -/
def view (b : Buffer) (requested : DType) : Except Error (View b.dtype.Scalar) :=
  if requested.size ≠ b.dtype.size then
    .error (.elementSizeMismatch b.dtype requested.size b.dtype.size)
  else if requested ≠ b.dtype then .error (.elementTypeMismatch b.dtype requested)
  else View.rowMajor b.data b.shape

/-- The buffer with what a view of it holds. -/
def write (b : Buffer) (v : View b.dtype.Scalar) : Buffer :=
  { b with data := v.cells }

/-- Calls on the view of a buffer as elements of type `requested`: their answers, and the buffer
after them. -/
def mapped (b : Buffer) (requested : DType) (calls : List (View.Call requested.Scalar)) :
    Except Error (List (View.Answer requested.Scalar)) × Buffer :=
  match b.view requested with
  | .error e => (.error e, b)
  | .ok v =>
    if same : b.dtype = requested then
      let (answers, after) := Run.both View.perform v (same ▸ calls)
      (.ok (same ▸ answers), b.write after)
    else (.ok [], b)

/-- A buffer as a record. -/
def describe (b : Buffer) : String :=
  Text.record "TensorBuffer"
    [("dtype", b.dtype.label), ("shape", b.shape.describe), ("device", Text.quoted b.device.name)]

end Buffer

end Dataflow
