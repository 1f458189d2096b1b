import Dataflow.Layout
import Dataflow.Run
import Dataflow.Tensor.Cells

/-!
# Strided views

A view reads and writes the cells of a piece of storage by indices: the cell of an index is the sum
of its components times the strides. A view is made only if its shape has no axis of length zero
and the cell of its last index exists, so every index inside the shape has a cell.
-/

namespace Dataflow

/-- Storage under a shape and strides. -/
structure View (α : Type) where
  cells : Cells α
  shape : Layout
  strides : Layout

namespace View

variable {α : Type}

/-- The cell of the last index of a shape without empty axes, if it can be computed in a word. -/
def furthest? (shape strides : List Nat) : Option Nat :=
  (shape.zip strides).foldlM
    (fun sum (dim, stride) => do
      let step ← Word.mul? (dim - 1) stride
      Word.add? sum step) 0

/-- The number of cells that a shape and strides need, or the largest word if there are more. -/
def required (shape strides : List Nat) : Nat :=
  ((furthest? shape strides).bind (Word.add? · 1)).getD maxWord

/-- The view of cells under a shape and strides. -/
def ofStrides (cells : Cells α) (shape strides : Layout) : Except Error (View α) :=
  if shape.rank ≠ strides.rank then .error (.layoutRankMismatch shape.rank strides.rank)
  else
    match shape.dims.findIdx? (· == 0) with
    | some axis => .error (.zeroDimension axis)
    | none =>
      let need := required shape.dims strides.dims
      if cells.size < need then .error (.mapOutOfBounds need cells.size)
      else .ok ⟨cells, shape, strides⟩

/-- The row-major view of cells under a shape. -/
def rowMajor (cells : Cells α) (shape : Layout) : Except Error (View α) :=
  ofStrides cells shape shape.naiveStrides

/-- Whether an index lies inside a shape: it has one component for each axis, below its length. -/
def inBounds (shape index : List Nat) : Bool :=
  index.length == shape.length && (index.zip shape).all fun (i, dim) => i < dim

/-- The sum of an index's components times the strides. -/
def dot (index strides : List Nat) : Nat :=
  ((index.zip strides).map fun (i, stride) => i * stride).foldr (· + ·) 0

/-- The cell of an index. -/
def offset (v : View α) (index : List Nat) : Except Error Nat :=
  if inBounds v.shape.dims index then .ok (dot index v.strides.dims)
  else .error (.indexOutOfBounds index v.shape.dims)

/-- The element at an index; `none` if the index has no cell. -/
def get (v : View α) (index : List Nat) : Except Error (Option α) :=
  (v.offset index).map v.cells.get?

/-- The view after a write at an index; `none` if the index has no cell. -/
def set (v : View α) (index : List Nat) (x : α) : Except Error (Option (View α)) :=
  (v.offset index).map fun i => (v.cells.set? i x).map fun cells => { v with cells }

/-! ## Calls -/

/-- A call on a view. -/
inductive Call (α : Type)
  /-- Ask for shape and strides. -/
  | info
  /-- Ask for the cell of an index. -/
  | offset (index : List Nat)
  | get (index : List Nat)
  | set (index : List Nat) (x : α)
  /-- Write an element and ask for the one that was there. -/
  | swap (index : List Nat) (x : α)
  /-- Ask for all cells. -/
  | cells

/-- The answer to a call; `none` stands for an index without a cell. -/
inductive Answer (α : Type)
  | info (shape strides : Layout)
  | offset (result : Except Error Nat)
  | element (result : Except Error (Option α))
  | written (result : Except Error (Option Unit))
  | cells (items : List α)

/-- One call. -/
def perform (v : View α) : Call α → Answer α × View α
  | .info => (.info v.shape v.strides, v)
  | .offset index => (.offset (v.offset index), v)
  | .get index => (.element (v.get index), v)
  | .set index x =>
    match v.set index x with
    | .error e => (.written (.error e), v)
    | .ok none => (.written (.ok none), v)
    | .ok (some v) => (.written (.ok (some ())), v)
  | .swap index x =>
    match v.set index x with
    | .ok (some after) => (.element (v.get index), after)
    | _ => (.element (v.get index), v)
  | .cells => (.cells v.cells.toList, v)

/-- A view of cells, row-major if no strides are given, and the answers to the calls on it. -/
def script (cells : Cells α) (shape : List Nat) (strides : Option (List Nat))
    (calls : List (Call α)) : Except Error (List (Answer α)) := do
  let shape ← Layout.ofDims shape
  let view ← match strides with
    | none => rowMajor cells shape
    | some strides => do
      let strides ← Layout.ofDims strides
      ofStrides cells shape strides
  return Run.answers perform view calls

end View

end Dataflow
