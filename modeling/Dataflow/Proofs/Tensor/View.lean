import Dataflow.Proofs.Except
import Dataflow.Proofs.Tensor.RowMajor

/-!
# Views and the cells they need

A shape and strides need the cells up to that of the last index, and their number is computed
exactly as long as it fits a word (`View.required_eq`). Under the row-major strides of a shape that
is the number of its elements (`View.required_naiveStrides`), and the cell of an index is its
position (`View.offset_eq_position`). So a view of as many cells as the shape has elements is made,
unless an axis is empty (`View.rowMajor_eq_ok`, `View.rowMajor_eq_error`). A call on a view writes
one cell or none (`View.set_eq_ok_some_iff`), and a run of calls changes what the cells hold and
nothing else (`View.exists_cells_after`).
-/

namespace Dataflow.View

/-! ## Cells of indices -/

theorem dot_cons (i stride : Nat) (index strides : List Nat) :
    dot (i :: index) (stride :: strides) = i * stride + dot index strides := rfl

theorem dot_nil (index : List Nat) : dot index [] = 0 := by
  cases index <;> rfl

/-- The cell of an index under the exact strides is its position. -/
theorem dot_suffixProducts (sizes index : List Nat) :
    dot index (Layout.suffixProducts sizes) = position sizes index := by
  induction sizes generalizing index with
  | nil => cases index <;> rfl
  | cons d sizes ih =>
    cases index with
    | nil => rfl
    | cons i index => exact congrArg (i * sizes.prod + ·) (ih index)

/-! ## The last index -/

/-- One step towards the last index is computed if the sum fits a word. -/
theorem furthest?_step (sum d stride : Nat) :
    (do let step ← Word.mul? (d - 1) stride; Word.add? sum step) =
      Word.fit? (sum + (d - 1) * stride) := by
  rcases Nat.lt_or_ge maxWord ((d - 1) * stride) with hlarge | hfits
  · rw [Word.mul?, Word.fit?_eq_none_iff.2 hlarge,
      Word.fit?_eq_none_iff.2 (Nat.lt_of_lt_of_le hlarge (Nat.le_add_left ..))]
    rfl
  · rw [Word.mul?_eq_some_iff.2 ⟨rfl, hfits⟩]
    rfl

/-- A sum that outgrows a word on the way does not fit one in the end. -/
theorem foldlM_fit? (shape strides : List Nat) {sum : Nat} (hsum : sum ≤ maxWord) :
    (shape.zip strides).foldlM
        (fun sum (dim, stride) => Word.fit? (sum + (dim - 1) * stride)) sum =
      Word.fit? (sum + dot (shape.map (· - 1)) strides) := by
  induction shape generalizing strides sum with
  | nil => exact (Word.fit?_eq_some_iff.2 ⟨rfl, hsum⟩).symm
  | cons d shape ih =>
    cases strides with
    | nil =>
      rw [dot_nil]
      exact (Word.fit?_eq_some_iff.2 ⟨rfl, hsum⟩).symm
    | cons stride strides =>
      simp only [List.zip_cons_cons, List.foldlM_cons, List.map_cons, dot_cons, ← Nat.add_assoc]
      rcases Nat.lt_or_ge maxWord (sum + (d - 1) * stride) with hlarge | hfits
      · rw [Word.fit?_eq_none_iff.2 hlarge,
          Word.fit?_eq_none_iff.2 (Nat.lt_of_lt_of_le hlarge (Nat.le_add_right ..))]
        rfl
      · rw [Word.fit?_eq_some_iff.2 ⟨rfl, hfits⟩]
        exact ih strides hfits

/-- The steps to the last index are added up exactly, if their sum fits a word. -/
theorem furthest?_eq (shape strides : List Nat) :
    furthest? shape strides = Word.fit? (dot (shape.map (· - 1)) strides) := by
  simp only [furthest?, furthest?_step]
  rw [foldlM_fit? shape strides (Nat.zero_le _), Nat.zero_add]

/-- A shape needs the cells up to that of its last index, as far as they can be counted. -/
theorem required_eq (shape strides : List Nat) :
    required shape strides = min (dot (shape.map (· - 1)) strides + 1) maxWord := by
  rw [required, furthest?_eq]
  unfold Word.add? Word.fit?
  split
  · rw [Option.bind_some]
    split
    · rw [Option.getD_some]; omega
    · rw [Option.getD_none]; omega
  · rw [Option.bind_none, Option.getD_none]; omega

/-- Without empty axes, the cells up to that of the last index are as many as the elements, as far
as they can be counted, although the strides are capped. -/
theorem dot_last_capped {sizes : List Nat} (hpos : 0 ∉ sizes) :
    min (dot (sizes.map (· - 1)) ((Layout.suffixProducts sizes).map (min · maxWord)) + 1) maxWord =
      min sizes.prod maxWord := by
  induction sizes with
  | nil => rfl
  | cons d rest ih =>
    rw [List.mem_cons, not_or] at hpos
    obtain ⟨d, rfl⟩ := Nat.exists_eq_succ_of_ne_zero (Ne.symm hpos.1)
    have hrest := ih hpos.2
    rw [List.map_cons, Layout.suffixProducts, List.map_cons, dot_cons, List.prod_cons,
      Nat.succ_sub_one, Nat.succ_mul]
    rcases Nat.lt_or_ge rest.prod maxWord with hlt | hge
    · rw [Nat.min_eq_left (Nat.le_of_lt hlt)] at hrest ⊢
      omega
    -- the stride is capped, but the axes behind it alone have more elements than can be counted
    · rw [Nat.min_eq_right hge] at hrest ⊢
      omega

/-- A shape needs as many row-major cells as it has elements. -/
theorem required_naiveStrides {shape : Layout} (hpos : 0 ∉ shape.dims) :
    required shape.dims shape.naiveStrides.dims = min shape.dims.prod maxWord := by
  rw [required_eq, Layout.dims_naiveStrides_eq, dot_last_capped hpos]

/-! ## Row-major views -/

section
variable {α : Type} {cells : Cells α} {shape : Layout}

/-- No empty axis is found just if there is none. -/
theorem findIdx?_zero_eq_none {sizes : List Nat} :
    sizes.findIdx? (· == 0) = none ↔ 0 ∉ sizes := by
  rw [List.findIdx?_eq_none_iff]
  simp only [beq_eq_false_iff_ne]
  exact ⟨fun h hmem => h 0 hmem rfl, fun h d hd heq => h (heq ▸ hd)⟩

/-- No view is made of a shape with an empty axis. -/
theorem rowMajor_eq_error (hzero : 0 ∈ shape.dims) :
    ∃ axis, rowMajor cells shape = .error (.zeroDimension axis) := by
  rw [rowMajor, ofStrides, if_neg (not_not_intro (Layout.rank_naiveStrides shape).symm)]
  cases hfirst : shape.dims.findIdx? (· == 0) with
  | none => exact absurd hzero (findIdx?_zero_eq_none.1 hfirst)
  | some axis => exact ⟨axis, rfl⟩

/-- The view of as many cells as a shape without empty axes has elements. -/
theorem rowMajor_eq_ok (hpos : 0 ∉ shape.dims)
    (hsize : cells.size = shape.dims.prod) (hfits : shape.dims.prod ≤ maxWord) :
    rowMajor cells shape = .ok ⟨cells, shape, shape.naiveStrides⟩ := by
  have hneed : required shape.dims shape.naiveStrides.dims = cells.size := by
    rw [required_naiveStrides hpos, Nat.min_eq_left hfits, hsize]
  rw [rowMajor, ofStrides, if_neg (not_not_intro (Layout.rank_naiveStrides shape).symm),
    findIdx?_zero_eq_none.2 hpos]
  simp only [hneed, Nat.lt_irrefl, if_false]

/-- The cell of an index inside a shape is its position. -/
theorem offset_eq_position (hfits : shape.dims.prod ≤ maxWord)
    {index : List Nat} (hin : inBounds shape.dims index = true) :
    offset ⟨cells, shape, shape.naiveStrides⟩ index = .ok (position shape.dims index) := by
  rw [offset, if_pos hin, Layout.dims_naiveStrides (zero_notMem_of_inBounds hin) hfits,
    dot_suffixProducts]

end

/-! ## Writes -/

variable {α : Type}

/-- What a write to a view does: it changes the cell of the index. -/
theorem set_eq_ok_some_iff {v after : View α} {index : List Nat} {x : α} :
    v.set index x = .ok (some after) ↔ ∃ cell cells, v.offset index = .ok cell ∧
      v.cells.set? cell x = some cells ∧ after = { v with cells } := by
  rw [View.set, except_map_eq_ok]
  simp only [Option.map_eq_some_iff]
  constructor
  · rintro ⟨cell, hcell, cells, hcells, rfl⟩
    exact ⟨cell, cells, hcell, hcells, rfl⟩
  · rintro ⟨cell, cells, hcell, hcells, rfl⟩
    exact ⟨cell, hcell, cells, hcells, rfl⟩

/-- A write changes the elements of the storage and not its size. -/
theorem exists_cells_of_set {v after : View α} {index : List Nat} {x : α}
    (h : v.set index x = .ok (some after)) :
    ∃ cells, after = { v with cells } ∧ cells.size = v.cells.size := by
  obtain ⟨cell, cells, -, hcells, rfl⟩ := set_eq_ok_some_iff.1 h
  exact ⟨cells, rfl, Cells.size_of_set? hcells⟩

/-- A call changes what the cells hold and nothing else. -/
theorem exists_cells_perform (v : View α) (call : Call α) :
    ∃ cells, (v.perform call).2 = { v with cells } ∧ cells.size = v.cells.size := by
  cases call with
  | info => exact ⟨v.cells, rfl, rfl⟩
  | offset index => exact ⟨v.cells, rfl, rfl⟩
  | get index => exact ⟨v.cells, rfl, rfl⟩
  | cells => exact ⟨v.cells, rfl, rfl⟩
  | set index x =>
    rw [perform]
    split
    · exact ⟨v.cells, rfl, rfl⟩
    · exact ⟨v.cells, rfl, rfl⟩
    · exact exists_cells_of_set ‹_›
  | swap index x =>
    rw [perform]
    split
    · exact exists_cells_of_set ‹_›
    · exact ⟨v.cells, rfl, rfl⟩

/-- Calls change the elements of the storage and nothing else about a view. -/
theorem exists_cells_after (v : View α) (calls : List (Call α)) :
    ∃ cells, Run.after perform v calls = { v with cells } ∧ cells.size = v.cells.size := by
  refine Run.after_induction
    (P := fun after => ∃ cells, after = { v with cells } ∧ cells.size = v.cells.size)
    calls ⟨v.cells, rfl, rfl⟩ ?_
  rintro _ call ⟨cells, rfl, hsize⟩
  obtain ⟨cells', hafter, hsize'⟩ := exists_cells_perform { v with cells } call
  exact ⟨cells', hafter, hsize'.trans hsize⟩

/-- Calls do not change the size of the storage. -/
theorem size_cells_after (v : View α) (calls : List (Call α)) :
    (Run.after perform v calls).cells.size = v.cells.size := by
  obtain ⟨cells, hafter, hsize⟩ := exists_cells_after v calls
  rw [hafter, hsize]

end Dataflow.View
