import Dataflow.Error
import Dataflow.Word

/-!
# Layouts

A layout is a short list of sizes, used for shapes and for strides. It is stored in a fixed number
of places of which the first `rank` are in use, and places not in use hold zero. So two layouts are
equal in all places just if their lists of sizes are (`Layout.dims_inj`), and the layout of given
sizes is the only one that has them (`Layout.ofDims_eq_ok_iff`).
-/

namespace Dataflow

/-- The largest number of dimensions. -/
def maxRank : Nat := 16

/-- A list of at most `maxRank` sizes. -/
structure Layout where
  entries : Vector Nat maxRank
  rank : Nat
  rank_le : rank ≤ maxRank
  /-- Places that are not in use hold zero. -/
  unused : ∀ i (hi : i < maxRank), rank ≤ i → entries[i] = 0
  deriving DecidableEq

namespace Layout

/-- The sizes in use. -/
def dims (l : Layout) : List Nat :=
  l.entries.toList.take l.rank

/-- There are as many sizes as places in use. -/
theorem length_dims (l : Layout) : l.dims.length = l.rank := by
  rw [dims, List.length_take, Vector.length_toList, Nat.min_eq_left l.rank_le]

/-- A layout has no more sizes than there is room for. -/
theorem length_dims_le (l : Layout) : l.dims.length ≤ maxRank :=
  Nat.le_trans (Nat.le_of_eq l.length_dims) l.rank_le

/-- The layout whose first places hold `sizes`. -/
def fill (sizes : List Nat) (short : sizes.length ≤ maxRank := by decide) : Layout where
  entries := Vector.ofFn fun i => sizes.getD i 0
  rank := sizes.length
  rank_le := short
  unused i hi hrest := by
    simp [List.getD_eq_getElem?_getD, List.getElem?_eq_none hrest]

/-- The layout of no dimension. -/
def empty : Layout := fill []

/-- The layout after its sizes are replaced, if they are not too many. -/
def set (_ : Layout) (sizes : List Nat) : Except Error Layout :=
  if short : sizes.length ≤ maxRank then .ok (fill sizes short)
  else .error (.layoutTooLarge maxRank sizes.length)

/-- The layout of the given sizes, if they are not too many. -/
def ofDims (sizes : List Nat) : Except Error Layout :=
  empty.set sizes

/-- The size at an axis. -/
def dim? (l : Layout) (axis : Nat) : Option Nat :=
  l.dims[axis]?

/-- The product of the sizes, multiplied from the first to the last, if no product on the way is
too large for a word. A layout of no dimension has one element. -/
def numElements? (l : Layout) : Option Nat :=
  l.dims.foldlM Word.mul? 1

/-- The number of elements, or the largest word if they cannot be counted. -/
def numElements (l : Layout) : Nat :=
  l.numElements?.getD maxWord

/-- The strides of a row-major order with the last axis fastest, and the stride of one axis
more. -/
def strideList : List Nat → List Nat × Nat
  | [] => ([], 1)
  | d :: rest =>
    let (strides, next) := strideList rest
    (next :: strides, Word.satMul next d)

/-- There is a stride for each axis. -/
theorem length_strideList (sizes : List Nat) : (strideList sizes).1.length = sizes.length := by
  induction sizes with
  | nil => rfl
  | cons d rest ih => simp [strideList, ih]

/-- The row-major strides of a shape. -/
def naiveStrides (l : Layout) : Layout :=
  fill (strideList l.dims).1 (Nat.le_trans (Nat.le_of_eq (length_strideList _)) l.length_dims_le)

/-- A layout as a list. -/
def describe (l : Layout) : String :=
  Text.numbers l.dims

/-! ## Sizes and places -/

variable {l m : Layout} {sizes : List Nat}

/-- A layout that is filled has the sizes that it was filled with. -/
@[simp]
theorem dims_fill (short : sizes.length ≤ maxRank) : (fill sizes short).dims = sizes := by
  apply List.ext_getElem
  · simp [dims, fill]; omega
  · intro i h₁ h₂
    simp [dims, fill, List.getD, List.getElem?_eq_getElem h₂]

/-- A place in use holds the size of its axis, and the others hold zero. -/
theorem getElem_entries (l : Layout) {i : Nat} (hi : i < maxRank) :
    l.entries[i] = l.dims.getD i 0 := by
  rw [List.getD_eq_getElem?_getD]
  rcases Nat.lt_or_ge i l.rank with hused | hrest
  · rw [dims, List.getElem?_take_of_lt hused]
    simp [hi]
  · have hnone := List.getElem?_eq_none (Nat.le_trans (Nat.le_of_eq l.length_dims) hrest)
    rw [l.unused i hi hrest, hnone]
    rfl

/-- Layouts are compared in every place, and in their ranks. -/
theorem eq_iff_entries :
    l = m ↔ l.rank = m.rank ∧ ∀ i (hi : i < maxRank), l.entries[i] = m.entries[i] := by
  constructor
  · rintro rfl
    exact ⟨rfl, fun _ _ => rfl⟩
  · rintro ⟨hrank, hentries⟩
    cases l
    cases m
    obtain rfl := hrank
    obtain rfl := Vector.ext hentries
    rfl

/-- The sizes determine the places. -/
theorem dims_inj : l.dims = m.dims ↔ l = m := by
  refine ⟨fun hdims => eq_iff_entries.2 ⟨?_, fun i hi => ?_⟩, congrArg dims⟩
  · rw [← l.length_dims, ← m.length_dims, hdims]
  · rw [l.getElem_entries hi, m.getElem_entries hi, hdims]

/-- The layout of given sizes is the one that has them. -/
theorem ofDims_eq_ok_iff : ofDims sizes = .ok l ↔ l.dims = sizes := by
  unfold ofDims set
  split
  · rename_i short
    rw [Except.ok.injEq, ← dims_inj, dims_fill, eq_comm]
  · rename_i long
    refine ⟨nofun, ?_⟩
    rintro rfl
    exact absurd l.length_dims_le long

end Layout

end Dataflow
