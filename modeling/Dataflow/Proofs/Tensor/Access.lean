import Dataflow.Proofs.Tensor.Reach

/-!
# Reading and writing through a view

An index has a cell exactly if it is inside the shape of the view. Its components times the strides
are then added up without leaving the words, and the cell exists, so it is read and written
(`View.Admits`). Every other index is refused, and the view stays as it is (`View.Rejects`). A view
that was made keeps this whatever is called on it (`View.Sound.after`, `View.guarded_after`).
-/

namespace Dataflow.View

variable {α : Type} {v : View α} {index : List Nat}

/-! ## Views that were made -/

/-- The shape and the strides of a view fit its storage. -/
structure Sound (v : View α) : Prop where
  fits : Fits v.cells.size v.shape v.strides
  size_le : v.cells.size ≤ maxBlock

/-- A view that was made is sound. -/
theorem sound_of_ofStrides {cells : Cells α} {shape strides : Layout}
    (hsize : cells.size ≤ maxBlock) (hmade : ofStrides cells shape strides = .ok v) : v.Sound := by
  obtain ⟨hfits, rfl⟩ := (ofStrides_eq_ok_iff (lt_maxWord hsize)).1 hmade
  exact ⟨hfits, hsize⟩

/-- No call makes a view unsound. -/
theorem Sound.after (h : v.Sound) (calls : List (Call α)) : (Run.after perform v calls).Sound := by
  obtain ⟨cells, hafter, hsize⟩ := exists_cells_after v calls
  rw [hafter]
  exact ⟨hsize ▸ h.fits, hsize ▸ h.size_le⟩

/-! ## The cell of an index -/

/-- An index outside of the shape has no offset, and the error cites the index and the shape. -/
theorem offset_eq_error (hout : ¬ List.Forall₂ (· < ·) index v.shape.dims) :
    v.offset index = .error (.indexOutOfBounds index v.shape.dims) :=
  if_neg fun hin => hout (inBounds_iff.1 hin)

/-- An index inside the shape has the offset that the strides tell, and no other index has one. -/
theorem offset_eq_ok_iff {cell : Nat} :
    v.offset index = .ok cell ↔
      List.Forall₂ (· < ·) index v.shape.dims ∧ dot index v.strides.dims = cell := by
  by_cases hin : List.Forall₂ (· < ·) index v.shape.dims
  · rw [offset, if_pos (inBounds_iff.2 hin), Except.ok.injEq]
    exact (and_iff_right hin).symm
  · rw [offset_eq_error hin]
    simp only [reduceCtorEq, hin, false_and]

/-- The index has this cell, and whatever is called at it succeeds. -/
structure Admits (v : View α) (index : List Nat) (cell : Nat) : Prop where
  /-- The cell is the sum of the components times the strides. No product outgrows a word, -/
  sum_eq : (List.zipWith (· * ·) index v.strides.dims).sum = cell
  product_le : ∀ product ∈ List.zipWith (· * ·) index v.strides.dims, product ≤ maxWord
  /-- nor does any sum on the way. -/
  partialSum_le : ∀ k, ((List.zipWith (· * ·) index v.strides.dims).take k).sum ≤ maxWord
  cell_lt : cell < v.cells.size
  get_eq : v.perform (.get index) = (.element (.ok (some (v.cells.read cell))), v)
  /-- A value is written to the cell, also if the one before is asked for. -/
  written : ∀ x, ∃ cells, v.cells.set? cell x = some cells ∧
    v.perform (.set index x) = (.written (.ok (some ())), { v with cells }) ∧
    v.perform (.swap index x) = (.element (.ok (some (v.cells.read cell))), { v with cells })

/-- Whatever is called at the index is answered by the same error, and leaves the view as it is. -/
structure Rejects (v : View α) (index : List Nat) : Prop where
  offset_eq :
    v.perform (.offset index) = (.offset (.error (.indexOutOfBounds index v.shape.dims)), v)
  get_eq : v.perform (.get index) = (.element (.error (.indexOutOfBounds index v.shape.dims)), v)
  set_eq : ∀ x, v.perform (.set index x) =
    (.written (.error (.indexOutOfBounds index v.shape.dims)), v)
  swap_eq : ∀ x, v.perform (.swap index x) =
    (.element (.error (.indexOutOfBounds index v.shape.dims)), v)

/-- An index inside the shape has a cell of the storage. -/
theorem Sound.admits (h : v.Sound) {cell : Nat} (hoffset : v.offset index = .ok cell) :
    v.Admits index cell := by
  obtain ⟨hin, hdot⟩ := offset_eq_ok_iff.1 hoffset
  rw [dot_eq_sum] at hdot
  have hlt : cell < v.cells.size := h.fits.reach_lt cell ⟨index, hin, hdot⟩
  have hword : cell ≤ maxWord := Nat.le_of_lt (Nat.lt_trans hlt (lt_maxWord h.size_le))
  have hget : v.get index = .ok (some (v.cells.read cell)) := by
    rw [View.get, hoffset, Except.map, Cells.get?_eq_some_iff.2 ⟨hlt, rfl⟩]
  refine ⟨hdot, fun product hproduct => ?_, fun k => ?_, hlt, ?_, fun x => ?_⟩
  · refine Nat.le_trans ?_ (hdot ▸ hword)
    exact List.single_le_sum (fun _ _ => Nat.zero_le _) product hproduct
  · refine Nat.le_trans ?_ (hdot ▸ hword)
    exact (List.take_sublist k _).sum_le_sum fun _ _ => Nat.zero_le _
  · rw [perform, hget]
  · obtain ⟨cells, hcells⟩ : ∃ cells, v.cells.set? cell x = some cells := ⟨_, if_pos hlt⟩
    have hset := set_eq_ok_some_iff.2 ⟨cell, cells, hoffset, hcells, rfl⟩
    exact ⟨cells, hcells, by rw [perform, hset], by rw [perform, hset, hget]⟩

/-- An index outside the shape is refused. -/
theorem rejects_of_not_inside (hout : ¬ List.Forall₂ (· < ·) index v.shape.dims) :
    v.Rejects index := by
  have hoffset := offset_eq_error hout
  refine ⟨?_, ?_, fun x => ?_, fun x => ?_⟩
  · rw [perform, hoffset]
  · rw [perform, View.get, hoffset, Except.map]
  · rw [perform, View.set, hoffset, Except.map]
  · rw [perform, View.get, View.set, hoffset, Except.map, Except.map]

/-! ## Guarded access -/

/-- A view that no access leads outside of its storage. -/
structure Guarded (v : View α) : Prop where
  /-- The indices with a cell are those with one component for each axis, below its length. -/
  offset_isOk_iff : ∀ index, (∃ cell, v.offset index = .ok cell) ↔
    List.Forall₂ (· < ·) index v.shape.dims
  admits : ∀ index cell, v.offset index = .ok cell → v.Admits index cell
  rejects : ∀ index, ¬ List.Forall₂ (· < ·) index v.shape.dims → v.Rejects index

/-- A sound view guards its storage. -/
theorem Sound.guarded (h : v.Sound) : v.Guarded where
  offset_isOk_iff index := by simp only [offset_eq_ok_iff, exists_and_left, exists_eq', and_true]
  admits index cell hoffset := h.admits hoffset
  rejects index hout := rejects_of_not_inside hout

/-- **Access never leaves the storage.** After any calls on a view that was made, an index has a
cell just if it is inside the shape; the cell is computed in words and exists, and other indices
are refused. -/
theorem guarded_after {cells : Cells α} {shape strides : Layout} {made : View α}
    (hmade : ofStrides cells shape strides = .ok made ∨ rowMajor cells shape = .ok made)
    (hsize : cells.size ≤ maxBlock) (calls : List (Call α)) :
    let later := Run.after perform made calls
    later.shape = shape ∧ later.cells.size = cells.size ∧ later.Guarded := by
  obtain ⟨strides, hmade⟩ : ∃ strides, ofStrides cells shape strides = .ok made :=
    hmade.elim (fun h => ⟨strides, h⟩) fun h => ⟨shape.naiveStrides, h⟩
  have hsound := (sound_of_ofStrides hsize hmade).after calls
  obtain ⟨-, rfl⟩ := (ofStrides_eq_ok_iff (lt_maxWord hsize)).1 hmade
  obtain ⟨later, hafter, hlater⟩ := exists_cells_after ⟨cells, shape, strides⟩ calls
  rw [hafter] at hsound ⊢
  exact ⟨rfl, hlater, hsound.guarded⟩

/-- Two rows that are as far apart as a storage of the greatest size allows. -/
def farApart : View Nat :=
  ⟨.fill maxBlock 0, .fill [2, 3], .fill [maxBlock - 3, 1]⟩

/-- The view guards its storage after a write to its last cell and a read outside of its shape. -/
theorem guarded_after_farApart :
    ofStrides farApart.cells farApart.shape farApart.strides = .ok farApart ∧
      farApart.cells.size ≤ maxBlock ∧
      (Run.after perform farApart [.set [1, 2] 7, .get [2, 0]]).Guarded :=
  have hmade : ofStrides farApart.cells farApart.shape farApart.strides = .ok farApart := rfl
  ⟨hmade, Nat.le_refl _, (guarded_after (.inl hmade) (Nat.le_refl _) _).2.2⟩

end Dataflow.View
