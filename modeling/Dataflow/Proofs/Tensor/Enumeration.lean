import Dataflow.Proofs.Tensor.Reach

/-!
# Enumerating a shape

The strides of a shape are capped where they outgrow a word, but then the shape needs more cells
than any storage has (`View.required_naiveStrides`). So a row-major view is made exactly if no axis
is empty and the storage has a cell for each element (`View.rowMajor_eq_ok_iff`), and its strides
are exact. The indices inside the shape, one after the other in lexicographic order (`indices`),
then have the cells `0`, `1`, `2` and so on (`View.rowMajor_numbers`).
-/

namespace Dataflow

/-! ## Strides -/

namespace Layout

/-- The stride of an axis is the product of the sizes behind it. -/
theorem getElem?_suffixProducts {sizes : List Nat} {k : Nat} (hk : k < sizes.length) :
    (suffixProducts sizes)[k]? = some (sizes.drop (k + 1)).prod := by
  induction sizes generalizing k with
  | nil => nomatch hk
  | cons d rest ih =>
    cases k with
    | zero => rfl
    | succ k => exact ih (Nat.lt_of_succ_lt_succ hk)

/-- The stride of an axis is the product of the sizes behind it, or the largest word. -/
theorem getElem?_naiveStrides {l : Layout} {k : Nat} (hk : k < l.dims.length) :
    l.naiveStrides.dims[k]? = some (min (l.dims.drop (k + 1)).prod maxWord) := by
  rw [dims_naiveStrides_eq, List.getElem?_map, getElem?_suffixProducts hk, Option.map_some]

/-- The stride before an empty axis is zero, and the one before axes of too many elements is
capped. -/
example : (fill [2, 0, maxWord, 3]).naiveStrides.dims = [0, maxWord, 3, 1] := rfl

end Layout

/-! ## Indices in lexicographic order -/

/-- The indices inside a shape, the last axis fastest. -/
def indices : List Nat → List (List Nat)
  | [] => [[]]
  | d :: rest => (List.range d).flatMap fun i => (indices rest).map (i :: ·)

/-- The indices are those inside the sizes. -/
theorem mem_indices {sizes index : List Nat} :
    index ∈ indices sizes ↔ List.Forall₂ (· < ·) index sizes := by
  induction sizes generalizing index with
  | nil => rw [indices, List.mem_singleton, List.forall₂_nil_right_iff]
  | cons d rest ih =>
    simp only [indices, List.mem_flatMap, List.mem_range, List.mem_map, ih]
    constructor
    · rintro ⟨i, hi, index, hin, rfl⟩
      exact .cons hi hin
    · rintro (_ | ⟨hi, hin⟩)
      exact ⟨_, hi, _, hin, rfl⟩

/-- The indices are listed in lexicographic order, each once. -/
theorem pairwise_indices (sizes : List Nat) : (indices sizes).Pairwise (· < ·) := by
  induction sizes with
  | nil => exact List.pairwise_singleton _ _
  | cons d rest ih =>
    rw [indices, List.pairwise_flatMap]
    constructor
    · intro i _
      rw [List.pairwise_map]
      exact ih.imp fun h => List.cons_lt_cons_iff.2 (.inr ⟨rfl, h⟩)
    · refine List.pairwise_lt_range.imp fun hij index hindex index' hindex' => ?_
      obtain ⟨_, -, rfl⟩ := List.mem_map.1 hindex
      obtain ⟨_, -, rfl⟩ := List.mem_map.1 hindex'
      exact List.cons_lt_cons_iff.2 (.inl hij)

/-- The numbers below a product, row by row. -/
theorem range_mul_eq_flatMap (d n : Nat) :
    List.range (d * n) = (List.range d).flatMap fun i => (List.range n).map (i * n + ·) := by
  induction d with
  | zero => rw [Nat.zero_mul]; rfl
  | succ d ih =>
    rw [Nat.succ_mul, List.range_add, ih, List.range_succ, List.flatMap_append,
      List.flatMap_singleton]

/-- In lexicographic order, the indices inside a shape have the positions `0`, `1`, `2` and so
on. -/
theorem map_position_indices (sizes : List Nat) :
    (indices sizes).map (position sizes) = List.range sizes.prod := by
  induction sizes with
  | nil => rfl
  | cons d rest ih =>
    rw [List.prod_cons, range_mul_eq_flatMap, ← ih, indices, List.map_flatMap]
    simp only [List.map_map, Function.comp_def, position]

namespace View

/-! ## Row-major views -/

section
variable {α : Type} {cells : Cells α} {shape : Layout}

/-- A row-major view is made if no axis is empty and the storage has a cell for each element. -/
theorem rowMajor_eq_ok_iff (hsize : cells.size < maxWord) {v : View α} :
    rowMajor cells shape = .ok v ↔
      0 ∉ shape.dims ∧ shape.dims.prod ≤ cells.size ∧ v = ⟨cells, shape, shape.naiveStrides⟩ := by
  have henough (hpos : 0 ∉ shape.dims) : shape.dims.prod ≤ cells.size ↔
      ∀ cell ∈ reach shape.dims shape.naiveStrides.dims, cell < cells.size := by
    rw [← required_le_iff hpos hsize, required_naiveStrides hpos]
    omega
  rw [rowMajor, ofStrides_eq_ok_iff hsize]
  constructor
  · rintro ⟨⟨-, hpos, hreach⟩, hv⟩
    exact ⟨hpos, (henough hpos).2 hreach, hv⟩
  · rintro ⟨hpos, hprod, hv⟩
    exact ⟨⟨(Layout.rank_naiveStrides shape).symm, hpos, (henough hpos).1 hprod⟩, hv⟩

end

/-! ## Numbering -/

/-- The cells of a view number the indices inside its shape, in lexicographic order. -/
structure Numbered {α : Type} (v : View α) : Prop where
  /-- An index inside the shape has a cell below the number of elements, -/
  exists_offset : ∀ index, List.Forall₂ (· < ·) index v.shape.dims →
    ∃ cell < v.shape.dims.prod, v.offset index = .ok cell
  /-- and each of these cells has one index. -/
  existsUnique_index : ∀ cell < v.shape.dims.prod,
    ∃! index, List.Forall₂ (· < ·) index v.shape.dims ∧ v.offset index = .ok cell
  /-- In increasing order, the indices inside the shape -/
  indices_sorted : (indices v.shape.dims).Pairwise (· < ·)
  indices_complete : ∀ index,
    index ∈ indices v.shape.dims ↔ List.Forall₂ (· < ·) index v.shape.dims
  /-- have the cells from the first to the last. -/
  map_offset : (indices v.shape.dims).map v.offset = (List.range v.shape.dims.prod).map .ok

section
variable {α : Type} {cells : Cells α} {shape : Layout}

/-- Under exact strides, the cells are the positions in the row-major order. -/
theorem numbered_rowMajor (hfits : shape.dims.prod ≤ maxWord) :
    Numbered ⟨cells, shape, shape.naiveStrides⟩ where
  exists_offset index hin := by
    have hin := inBounds_iff.2 hin
    exact ⟨_, position_lt hin, offset_eq_position hfits hin⟩
  existsUnique_index cell hcell := by
    obtain ⟨index, ⟨hin, hposition⟩, hunique⟩ := existsUnique_position hcell
    refine ⟨index, ⟨inBounds_iff.1 hin, hposition ▸ offset_eq_position hfits hin⟩, ?_⟩
    rintro index' ⟨hin', hoffset⟩
    have hin' := inBounds_iff.2 hin'
    rw [offset_eq_position hfits hin', Except.ok.injEq] at hoffset
    exact hunique index' ⟨hin', hoffset⟩
  indices_sorted := pairwise_indices _
  indices_complete _ := mem_indices
  map_offset := by
    rw [← map_position_indices, List.map_map]
    refine List.map_congr_left fun index hindex => ?_
    exact offset_eq_position hfits (inBounds_iff.2 (mem_indices.1 hindex))

/-- **Row-major views number their indices.** Each stride is the product of the sizes behind its
axis, capped at the largest word. A view is made under these strides exactly if no axis is empty
and the storage has a cell for each element, and then the indices inside the shape have the cells
below the number of elements, one each and in lexicographic order. -/
theorem rowMajor_numbers (shape : Layout) :
    (shape.naiveStrides.rank = shape.rank ∧ ∀ k < shape.rank,
      shape.naiveStrides.dims[k]? = some (min (shape.dims.drop (k + 1)).prod maxWord)) ∧
    ∀ cells : Cells α, cells.size ≤ maxBlock →
      ((∃ v, rowMajor cells shape = .ok v) ↔ 0 ∉ shape.dims ∧ shape.dims.prod ≤ cells.size) ∧
      ∀ v, rowMajor cells shape = .ok v → v = ⟨cells, shape, shape.naiveStrides⟩ ∧ v.Numbered := by
  refine ⟨⟨Layout.rank_naiveStrides shape, fun k hk => ?_⟩,
    fun cells hsize => ⟨?_, fun v hmade => ?_⟩⟩
  · exact Layout.getElem?_naiveStrides (shape.length_dims ▸ hk)
  · simp only [rowMajor_eq_ok_iff (lt_maxWord hsize), exists_and_left, exists_eq, and_true]
  · obtain ⟨-, hprod, rfl⟩ := (rowMajor_eq_ok_iff (lt_maxWord hsize)).1 hmade
    exact ⟨rfl, numbered_rowMajor (Nat.le_trans hprod (Nat.le_of_lt (lt_maxWord hsize)))⟩

/-- Two rows of three cells, in a storage with one cell more than they need. -/
theorem rowMajor_numbers_twoRows :
    (Cells.fill 7 ()).size ≤ maxBlock ∧
      Numbered (⟨.fill 7 (), .fill [2, 3], .fill [3, 1]⟩ : View Unit) :=
  have hsize : (Cells.fill 7 ()).size ≤ maxBlock := by decide
  have hviews := (rowMajor_numbers (.fill [2, 3])).2 _ hsize
  ⟨hsize, (hviews.2 ⟨.fill 7 (), .fill [2, 3], .fill [3, 1]⟩ rfl).2⟩

end

end View

end Dataflow
