import Mathlib.Algebra.BigOperators.Group.List.Basic
import Mathlib.Algebra.Order.BigOperators.GroupWithZero.List
import Dataflow.Tensor.View

/-!
# Row-major order

The elements of a shape are numbered in row-major order (`position`): the numbers of the indices
inside a shape are those below the product of its sizes, each of them once
(`existsUnique_position`). The strides of a shape are the products of the sizes behind each axis,
capped at the largest word (`Layout.strideList_eq`), and exact if no axis is empty and the product
of all sizes fits a word (`Layout.dims_naiveStrides`).
-/

namespace Dataflow

namespace Layout

/-! ## Counting elements -/

/-- A product that is found is exact, and fits a word if its start does. -/
theorem foldlM_mul?_eq_some {sizes : List Nat} {start n : Nat}
    (h : sizes.foldlM Word.mul? start = some n) :
    n = start * sizes.prod ∧ (start ≤ maxWord → n ≤ maxWord) := by
  induction sizes generalizing start with
  | nil =>
    obtain rfl : start = n := Option.some.inj h
    exact ⟨(Nat.mul_one start).symm, id⟩
  | cons d rest ih =>
    obtain ⟨m, hm, hrest⟩ := Option.bind_eq_some_iff.1 h
    obtain ⟨rfl, hfits⟩ := Word.mul?_eq_some_iff.1 hm
    obtain ⟨rfl, hbound⟩ := ih hrest
    exact ⟨by rw [List.prod_cons, Nat.mul_assoc], fun _ => hbound hfits⟩

/-- A number of elements that can be counted is the product of the sizes. -/
theorem numElements?_eq_some {l : Layout} {n : Nat} (h : l.numElements? = some n) :
    n = l.dims.prod ∧ n ≤ maxWord :=
  have ⟨hprod, hbound⟩ := foldlM_mul?_eq_some h
  ⟨by rw [hprod, Nat.one_mul], hbound (by decide)⟩

/-! ## Strides -/

/-- The products of the sizes behind each axis. -/
def suffixProducts : List Nat → List Nat
  | [] => []
  | _ :: rest => rest.prod :: suffixProducts rest

/-- A product of which one factor was capped is capped where the exact product is. -/
theorem satMul_min (a b : Nat) : Word.satMul (min a maxWord) b = min (b * a) maxWord := by
  rw [Word.satMul_eq_min, Nat.mul_comm b a]
  cases b with
  | zero => rfl
  | succ b =>
    rcases Nat.le_total a maxWord with h | h
    · rw [Nat.min_eq_left h]
    · have hcap : maxWord ≤ maxWord * (b + 1) := Nat.le_mul_of_pos_right _ (Nat.succ_pos b)
      have hbeyond : maxWord ≤ a * (b + 1) := Nat.le_trans hcap (Nat.mul_le_mul_right _ h)
      rw [Nat.min_eq_right h, Nat.min_eq_right hcap, Nat.min_eq_right hbeyond]

/-- The strides are the products of the sizes behind each axis, and the stride of one axis more is
the product of all, each of them capped. -/
theorem strideList_eq (sizes : List Nat) : strideList sizes =
    ((suffixProducts sizes).map (min · maxWord), min sizes.prod maxWord) := by
  induction sizes with
  | nil => rfl
  | cons d rest ih =>
    simp only [strideList, ih, satMul_min, suffixProducts, List.map_cons, List.prod_cons]

/-- Without an empty axis no stride is larger than the number of elements. -/
theorem le_prod_of_mem_suffixProducts {sizes : List Nat} (hpos : 0 ∉ sizes) {s : Nat}
    (hs : s ∈ suffixProducts sizes) : s ≤ sizes.prod := by
  induction sizes with
  | nil => nomatch hs
  | cons d rest ih =>
    have hd : 0 < d := Nat.pos_of_ne_zero fun h => hpos (h ▸ List.mem_cons_self)
    have hle : rest.prod ≤ d * rest.prod := Nat.le_mul_of_pos_left _ hd
    rw [List.prod_cons]
    rcases List.mem_cons.1 hs with rfl | hs
    · exact hle
    · exact Nat.le_trans (ih (fun h => hpos (List.mem_cons_of_mem d h)) hs) hle

/-- The strides of a shape are the products of the sizes behind each axis, each of them capped. -/
theorem dims_naiveStrides_eq (l : Layout) :
    l.naiveStrides.dims = (suffixProducts l.dims).map (min · maxWord) := by
  rw [naiveStrides, dims_fill, strideList_eq]

/-- The strides of a shape without empty axes whose elements can be counted. -/
theorem dims_naiveStrides {l : Layout} (hpos : 0 ∉ l.dims) (hfits : l.dims.prod ≤ maxWord) :
    l.naiveStrides.dims = suffixProducts l.dims := by
  have huncapped : ∀ s ∈ suffixProducts l.dims, min s maxWord = id s := fun s hs =>
    Nat.min_eq_left (Nat.le_trans (le_prod_of_mem_suffixProducts hpos hs) hfits)
  rw [dims_naiveStrides_eq, List.map_congr_left huncapped, List.map_id]

/-- The strides are as many as the sizes. -/
theorem rank_naiveStrides (l : Layout) : l.naiveStrides.rank = l.rank := by
  rw [← length_dims, naiveStrides, dims_fill, length_strideList, length_dims]

end Layout

/-! ## Positions -/

/-- The position of an index in the row-major order of a shape, the last axis fastest. -/
def position : (sizes index : List Nat) → Nat
  | _ :: sizes, i :: index => i * sizes.prod + position sizes index
  | _, _ => 0

/-- An index is inside of a shape if its first component is inside of the first axis, and the rest
of the others. -/
theorem inBounds_cons {d i : Nat} {sizes index : List Nat} :
    View.inBounds (d :: sizes) (i :: index) = true ↔ i < d ∧ View.inBounds sizes index = true := by
  simp only [View.inBounds, List.length_cons, List.zip_cons_cons, List.all_cons, Bool.and_eq_true,
    beq_iff_eq, decide_eq_true_eq, Nat.add_right_cancel_iff]
  exact and_left_comm

/-- A shape with an index inside has no empty axis. -/
theorem zero_notMem_of_inBounds {sizes index : List Nat} (h : View.inBounds sizes index = true) :
    0 ∉ sizes := by
  induction sizes generalizing index with
  | nil => exact List.not_mem_nil
  | cons d sizes ih =>
    cases index with
    | nil => nomatch h
    | cons i index =>
      obtain ⟨hi, hrest⟩ := inBounds_cons.1 h
      rw [List.mem_cons, not_or]
      exact ⟨by omega, ih hrest⟩

/-- The position of an index inside a shape is below the product of the sizes. -/
theorem position_lt {sizes index : List Nat} (h : View.inBounds sizes index = true) :
    position sizes index < sizes.prod := by
  induction sizes generalizing index with
  | nil => exact Nat.one_pos
  | cons d sizes ih =>
    cases index with
    | nil => nomatch h
    | cons i index =>
      obtain ⟨hi, hrest⟩ := inBounds_cons.1 h
      calc position (d :: sizes) (i :: index)
          < i * sizes.prod + sizes.prod := Nat.add_lt_add_left (ih hrest) _
        _ = (i + 1) * sizes.prod := (Nat.succ_mul i _).symm
        _ ≤ d * sizes.prod := Nat.mul_le_mul_right _ hi
        _ = (d :: sizes).prod := List.prod_cons.symm

/-- Each position below the product of the sizes is that of one index inside the shape. -/
theorem existsUnique_position {sizes : List Nat} {p : Nat} (hp : p < sizes.prod) :
    ∃! index, View.inBounds sizes index = true ∧ position sizes index = p := by
  induction sizes generalizing p with
  | nil =>
    obtain rfl : p = 0 := Nat.lt_one_iff.1 hp
    refine ⟨[], ⟨rfl, rfl⟩, fun index ⟨hin, _⟩ => ?_⟩
    cases index with
    | nil => rfl
    | cons i index => nomatch hin
  | cons d sizes ih =>
    rw [List.prod_cons] at hp
    have hpos : 0 < sizes.prod := Nat.pos_of_mul_pos_left (Nat.zero_lt_of_lt hp)
    -- the first component is the quotient, and the others are those of the remainder
    obtain ⟨rest, ⟨hin, hrest⟩, huniq⟩ := ih (Nat.mod_lt p hpos)
    refine ⟨p / sizes.prod :: rest, ⟨inBounds_cons.2 ⟨?_, hin⟩, ?_⟩,
      fun index ⟨hin', hindex⟩ => ?_⟩
    · exact Nat.div_lt_of_lt_mul (by rwa [Nat.mul_comm])
    · rw [position, hrest, Nat.mul_comm, Nat.div_add_mod]
    · cases index with
      | nil => nomatch hin'
      | cons i index =>
        obtain ⟨-, hin'⟩ := inBounds_cons.1 hin'
        have hlt := position_lt hin'
        rw [position] at hindex
        have hquot : p / sizes.prod = i := by
          rw [← hindex, Nat.mul_comm, Nat.mul_add_div hpos, Nat.div_eq_of_lt hlt, Nat.add_zero]
        have hmod : position sizes index = p % sizes.prod := by
          rw [← hindex, Nat.mul_comm, Nat.mul_add_mod, Nat.mod_eq_of_lt hlt]
        rw [hquot, huniq index ⟨hin', hmod⟩]

end Dataflow
