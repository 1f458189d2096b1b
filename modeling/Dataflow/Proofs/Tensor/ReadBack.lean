import Dataflow.Proofs.Tensor.Access

/-!
# Reading back what was written

Under strides of any kind several indices may have one cell, and some cells may have no index. What
calls write is the list of their values with the indices (`View.writes`), and what they write to
one cell are the values at the indices that have it (`View.written`). After a run of calls each
cell has the last value that was written to it, or what it had before if there is none
(`View.Sound.read_after`). So an index reads the last value written at any index of the same cell,
and the storage differs in written cells only.

Under the row-major strides no two indices share a cell, and an index reads what was last written
at the index itself (`View.remembers_after`).
-/

namespace Dataflow.View

variable {α : Type} {v : View α}

/-! ## What calls write -/

/-- The index and the value of a call that writes. -/
def Call.write? : Call α → Option (List Nat × α)
  | .set index x | .swap index x => some (index, x)
  | .info | .offset _ | .get _ | .cells => none

/-- The values that calls write, with their indices, one after the other. -/
def writes (calls : List (Call α)) : List (List Nat × α) :=
  calls.filterMap Call.write?

/-- The values that calls write to a cell: those at the indices that have it. -/
def written (v : View α) (calls : List (Call α)) (cell : Nat) : List α :=
  ((writes calls).filter fun w => v.offset w.1 = .ok cell).map (·.2)

/-- The values that calls write at an index. -/
def writtenAt (calls : List (Call α)) (index : List Nat) : List α :=
  ((writes calls).filter fun w => w.1 = index).map (·.2)

/-- What the last call writes to a cell comes behind what was written before. -/
theorem written_concat (v : View α) (calls : List (Call α)) (call : Call α) (cell : Nat) :
    v.written (calls ++ [call]) cell = v.written calls cell ++ v.written [call] cell := by
  simp [written, writes]

/-- A call that writes changes the cell of its index, and nothing if the index has no cell. -/
theorem Sound.perform_write (h : v.Sound) {call : Call α} {index : List Nat} {x : α}
    (hwrite : call.write? = some (index, x)) :
    (∃ cell cells, v.offset index = .ok cell ∧ v.cells.set? cell x = some cells ∧
      (v.perform call).2 = { v with cells }) ∨
    ((∀ cell, v.offset index ≠ .ok cell) ∧ (v.perform call).2 = v) := by
  have hcall : call = .set index x ∨ call = .swap index x := by
    cases call with
    | set _ _ => cases hwrite; exact .inl rfl
    | swap _ _ => cases hwrite; exact .inr rfl
    | info | offset | get | cells => cases hwrite
  by_cases hin : List.Forall₂ (· < ·) index v.shape.dims
  · left
    have hoffset := offset_eq_ok_iff.2 ⟨hin, rfl⟩
    obtain ⟨cells, hcells, hset, hswap⟩ := (h.admits hoffset).written x
    refine ⟨_, cells, hoffset, hcells, ?_⟩
    rcases hcall with rfl | rfl
    · rw [hset]
    · rw [hswap]
  · right
    refine ⟨fun cell hoffset => hin (offset_eq_ok_iff.1 hoffset).1, ?_⟩
    have hrejects := rejects_of_not_inside hin
    rcases hcall with rfl | rfl
    · rw [hrejects.set_eq]
    · rw [hrejects.swap_eq]

/-- After a call, a cell has the value that the call writes to it, or what it had before. -/
theorem Sound.read_perform (h : v.Sound) (call : Call α) (cell : Nat) :
    (v.perform call).2.cells.read cell = (v.written [call] cell).getLastD (v.cells.read cell) := by
  cases hwrite : call.write? with
  | none =>
    have hnone : v.written [call] cell = [] := by simp [written, writes, hwrite]
    rw [hnone, List.getLastD_nil]
    cases call with
    | info | offset | get | cells => rfl
    | set | swap => cases hwrite
  | some w =>
    obtain ⟨index, x⟩ := w
    have hwritten : v.written [call] cell = if v.offset index = .ok cell then [x] else [] := by
      simp only [written, writes, List.filterMap_cons, hwrite, List.filterMap_nil]
      split <;> simp_all
    rw [hwritten]
    obtain ⟨cell', cells, hoffset, hcells, hafter⟩ | ⟨hnone, hafter⟩ := h.perform_write hwrite
    · rw [hafter, Cells.read_of_set? hcells, hoffset]
      by_cases hcell : cell = cell'
      · simp [hcell]
      · simp [hcell, Ne.symm hcell]
    · rw [hafter, if_neg (hnone cell), List.getLastD_nil]

/-- After a run of calls, a cell has the last value that was written to it, or what it had
before. -/
theorem Sound.read_after (h : v.Sound) (calls : List (Call α)) (cell : Nat) :
    (Run.after perform v calls).cells.read cell =
      (v.written calls cell).getLastD (v.cells.read cell) := by
  induction calls using List.reverseRecOn with
  | nil => rfl
  | append_singleton calls call ih =>
    have hsound := h.after calls
    obtain ⟨cells, hafter, -⟩ := exists_cells_after v calls
    -- cells have changed, but the indices still have the same ones
    have hwritten : (Run.after perform v calls).written [call] cell = v.written [call] cell := by
      rw [hafter]
      rfl
    rw [Run.after_append, written_concat, List.getLastD_eq_getLast?, List.getLast?_append]
    have hstep := hsound.read_perform call cell
    rw [hwritten, ih, List.getLastD_eq_getLast?, List.getLastD_eq_getLast?] at hstep
    refine Eq.trans hstep ?_
    cases (v.written [call] cell).getLast? <;> rfl

/-! ## Row-major strides -/

/-- A storage that a shape fits under its row-major strides has a cell for each element. -/
theorem Sound.prod_le_of_naive (h : v.Sound)
    (hnaive : v.strides.dims = v.shape.naiveStrides.dims) :
    v.shape.dims.prod ≤ maxWord := by
  have hsize := lt_maxWord h.size_le
  have henough := (required_le_iff h.fits.pos hsize).2 h.fits.reach_lt
  rw [hnaive, required_naiveStrides h.fits.pos] at henough
  omega

/-- Under row-major strides the cell of an index is its position. -/
theorem Sound.offset_of_naive (h : v.Sound) (hnaive : v.strides.dims = v.shape.naiveStrides.dims)
    {index : List Nat} (hin : List.Forall₂ (· < ·) index v.shape.dims) :
    v.offset index = .ok (position v.shape.dims index) := by
  have hposition : offset ⟨v.cells, v.shape, v.shape.naiveStrides⟩ index =
      .ok (position v.shape.dims index) :=
    offset_eq_position (h.prod_le_of_naive hnaive) (inBounds_iff.2 hin)
  rwa [offset, ← hnaive] at hposition

/-- Under row-major strides no two indices have the same cell. -/
theorem Sound.eq_of_offset_eq (h : v.Sound) (hnaive : v.strides.dims = v.shape.naiveStrides.dims)
    {index index' : List Nat} (hin : List.Forall₂ (· < ·) index v.shape.dims)
    (hin' : List.Forall₂ (· < ·) index' v.shape.dims) (heq : v.offset index = v.offset index') :
    index = index' := by
  rw [h.offset_of_naive hnaive hin, h.offset_of_naive hnaive hin', Except.ok.injEq] at heq
  have hunique := existsUnique_position (position_lt (inBounds_iff.2 hin'))
  exact hunique.unique ⟨inBounds_iff.2 hin, heq⟩ ⟨inBounds_iff.2 hin', rfl⟩

/-- Under row-major strides what is written to the cell of an index is written at the index. -/
theorem Sound.written_of_naive (h : v.Sound) (hnaive : v.strides.dims = v.shape.naiveStrides.dims)
    {index : List Nat} {cell : Nat} (hoffset : v.offset index = .ok cell) (calls : List (Call α)) :
    v.written calls cell = writtenAt calls index := by
  have hin := (offset_eq_ok_iff.1 hoffset).1
  have hsame : ∀ w ∈ writes calls, decide (v.offset w.1 = .ok cell) = decide (w.1 = index) := by
    intro w _
    refine decide_eq_decide.2 ⟨fun hw => ?_, fun hw => hw ▸ hoffset⟩
    have hin' := (offset_eq_ok_iff.1 hw).1
    exact h.eq_of_offset_eq hnaive hin' hin (hw.trans hoffset.symm)
  rw [written, writtenAt, List.filter_congr hsame]

/-! ## Runs -/

/-- What a view reads and stores after a run of calls. -/
structure Remembers (v : View α) (calls : List (Call α)) (later : View α) : Prop where
  shape_eq : later.shape = v.shape
  strides_eq : later.strides = v.strides
  /-- An index inside the shape reads what was last written to its cell, or what the cell had
  before. -/
  get_eq : ∀ index, List.Forall₂ (· < ·) index v.shape.dims →
    ∃ cell, v.offset index = .ok cell ∧
      later.get index = .ok (some ((v.written calls cell).getLastD (v.cells.read cell)))
  /-- So does each cell of the storage, with or without an index. -/
  toList_eq : later.cells.toList =
    (List.range v.cells.size).map fun cell => (v.written calls cell).getLastD (v.cells.read cell)
  /-- A cell that differs was written. -/
  changed : ∀ cell, later.cells.toList[cell]? ≠ v.cells.toList[cell]? →
    ∃ w ∈ writes calls, v.offset w.1 = .ok cell
  /-- Under row-major strides no two indices inside the shape have the same cell, -/
  apart : v.strides.dims = v.shape.naiveStrides.dims →
    ∀ index index', List.Forall₂ (· < ·) index v.shape.dims →
      List.Forall₂ (· < ·) index' v.shape.dims → v.offset index = v.offset index' → index = index'
  /-- and an index reads what was last written at the index itself. -/
  get_own : v.strides.dims = v.shape.naiveStrides.dims →
    ∀ index cell, v.offset index = .ok cell →
      later.get index = .ok (some ((writtenAt calls index).getLastD (v.cells.read cell)))

/-- The storage after a run of calls. -/
theorem Sound.toList_after (h : v.Sound) (calls : List (Call α)) :
    (Run.after perform v calls).cells.toList =
      (List.range v.cells.size).map fun cell =>
        (v.written calls cell).getLastD (v.cells.read cell) := by
  rw [Cells.toList, size_cells_after]
  exact List.map_congr_left fun cell _ => h.read_after calls cell

/-- An index reads its cell. -/
theorem Sound.get_after (h : v.Sound) (calls : List (Call α)) {index : List Nat} {cell : Nat}
    (hoffset : v.offset index = .ok cell) :
    (Run.after perform v calls).get index =
      .ok (some ((v.written calls cell).getLastD (v.cells.read cell))) := by
  have hlt : cell < (Run.after perform v calls).cells.size :=
    Nat.lt_of_lt_of_eq (h.admits hoffset).cell_lt (size_cells_after v calls).symm
  have hsame : (Run.after perform v calls).offset index = .ok cell := by
    obtain ⟨cells, hafter, -⟩ := exists_cells_after v calls
    rw [hafter]
    exact hoffset
  rw [View.get, hsame, Except.map, Cells.get?_eq_some_iff.2 ⟨hlt, h.read_after calls cell⟩]

/-- A sound view remembers what is written to it. -/
theorem Sound.remembers (h : v.Sound) (calls : List (Call α)) :
    v.Remembers calls (Run.after perform v calls) where
  shape_eq := by
    obtain ⟨cells, hafter, -⟩ := exists_cells_after v calls
    rw [hafter]
  strides_eq := by
    obtain ⟨cells, hafter, -⟩ := exists_cells_after v calls
    rw [hafter]
  get_eq index hin :=
    have hoffset := offset_eq_ok_iff.2 ⟨hin, rfl⟩
    ⟨_, hoffset, h.get_after calls hoffset⟩
  toList_eq := h.toList_after calls
  changed cell hdiffers := by
    by_contra hnone
    have hempty : v.written calls cell = [] := by
      rw [written, List.map_eq_nil_iff, List.filter_eq_nil_iff]
      exact fun w hw hoffset => hnone ⟨w, hw, of_decide_eq_true hoffset⟩
    refine hdiffers ?_
    rw [h.toList_after, Cells.toList, List.getElem?_map, List.getElem?_map]
    cases hcell : (List.range v.cells.size)[cell]? with
    | none => rfl
    | some i =>
      obtain ⟨-, rfl⟩ := List.getElem?_eq_some_iff.1 hcell
      simp [hempty]
  apart hnaive _ _ := h.eq_of_offset_eq hnaive
  get_own hnaive index cell hoffset := by
    rw [h.get_after calls hoffset, h.written_of_naive hnaive hoffset]

/-- **Reading back.** After any calls on a view that was made, under whatever strides, an index
reads the last value that was written at any index of the same cell, or what the storage had there
from the start. Cells that differ from the start were written, and under row-major strides a write
is seen at its own index only. -/
theorem remembers_after {cells : Cells α} {shape strides : Layout} {made : View α}
    (hmade : ofStrides cells shape strides = .ok made) (hsize : cells.size ≤ maxBlock)
    (calls : List (Call α)) :
    made = ⟨cells, shape, strides⟩ ∧ made.Remembers calls (Run.after perform made calls) := by
  have hsound := sound_of_ofStrides hsize hmade
  exact ⟨((ofStrides_eq_ok_iff (lt_maxWord hsize)).1 hmade).2, hsound.remembers calls⟩

/-- Two windows of two cells that overlap, and a cell that is skipped. -/
def overlapping : View Nat :=
  ⟨.ofArray #[10, 11, 12, 13] 0, .fill [2, 2], .fill [1, 1]⟩

/-- What is written at one index of the shared cell is read at the other. -/
theorem remembers_after_overlapping :
    ofStrides overlapping.cells overlapping.shape overlapping.strides = .ok overlapping ∧
      overlapping.cells.size ≤ maxBlock ∧
      overlapping.Remembers [.set [0, 1] 7, .swap [1, 0] 8, .set [2, 0] 9]
        (Run.after perform overlapping [.set [0, 1] 7, .swap [1, 0] 8, .set [2, 0] 9]) ∧
      overlapping.written [.set [0, 1] 7, .swap [1, 0] 8, .set [2, 0] 9] 1 = [7, 8] :=
  have hmade :
      ofStrides overlapping.cells overlapping.shape overlapping.strides = .ok overlapping :=
    rfl
  have hsize : overlapping.cells.size ≤ maxBlock := by decide
  ⟨hmade, hsize, (remembers_after hmade hsize _).2, by decide⟩

end Dataflow.View
