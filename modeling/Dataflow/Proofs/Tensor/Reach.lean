import Mathlib
import Dataflow.Proofs.Tensor.View

/-!
# The cells that a shape reaches

Under strides, the indices inside a shape reach cells whose numbers are exact sums, however large
(`View.reach`). The last index reaches the greatest of them (`View.isGreatest_reach`), so a storage
has all of them just if it has as many cells as the shape is computed to need
(`View.required_le_iff`). The number needed is capped at the largest word, which no storage has: it
has at most `maxBlock` cells. So a view is made of shape and strides exactly if all cells reached
exist, and there is one reason for every refusal (`View.Refuses`, `View.ofStrides_decides`).
-/

namespace Dataflow.View

/-! ## Indices inside a shape -/

/-- An index is inside a shape if each component is below the length of its axis. -/
theorem inBounds_iff {shape index : List Nat} :
    inBounds shape index = true ↔ List.Forall₂ (· < ·) index shape := by
  induction shape generalizing index with
  | nil =>
    cases index with
    | nil => exact iff_of_true rfl .nil
    | cons i index => exact iff_of_false nofun nofun
  | cons d shape ih =>
    cases index with
    | nil => exact iff_of_false nofun nofun
    | cons i index => rw [inBounds_cons, List.forall₂_cons, ih]

/-- The last index of a shape without empty axes is inside. -/
theorem forall₂_last {shape : List Nat} (hpos : 0 ∉ shape) :
    List.Forall₂ (· < ·) (shape.map (· - 1)) shape := by
  induction shape with
  | nil => exact .nil
  | cons d shape ih =>
    rw [List.mem_cons, not_or] at hpos
    exact .cons (Nat.sub_one_lt (Ne.symm hpos.1)) (ih hpos.2)

/-! ## Cells reached -/

/-- The cells of the indices inside a shape: the exact sums of the components times the strides. -/
def reach (shape strides : List Nat) : Set Nat :=
  {cell | ∃ index, List.Forall₂ (· < ·) index shape ∧
    (List.zipWith (· * ·) index strides).sum = cell}

/-- The offset of an index is the sum of its components times their strides. -/
theorem dot_eq_sum (index strides : List Nat) :
    dot index strides = (List.zipWith (· * ·) index strides).sum := by
  rw [dot, List.sum, List.map_zip_eq_zipWith]
  rfl

/-- No index inside a shape has a greater cell than the last one. -/
theorem dot_le_dot_last {shape index : List Nat} (hin : List.Forall₂ (· < ·) index shape)
    (strides : List Nat) : dot index strides ≤ dot (shape.map (· - 1)) strides := by
  induction hin generalizing strides with
  | nil => exact Nat.le_refl _
  | cons hi _ ih =>
    cases strides with
    | nil => simp only [dot_nil, Nat.le_refl]
    | cons stride strides =>
      rw [List.map_cons, dot_cons, dot_cons]
      exact Nat.add_le_add (Nat.mul_le_mul_right stride (Nat.le_sub_one_of_lt hi)) (ih strides)

/-- The last index reaches the greatest cell. -/
theorem isGreatest_reach {shape : List Nat} (hpos : 0 ∉ shape) (strides : List Nat) :
    IsGreatest (reach shape strides) (dot (shape.map (· - 1)) strides) := by
  refine ⟨⟨_, forall₂_last hpos, (dot_eq_sum _ _).symm⟩, ?_⟩
  rintro cell ⟨index, hin, rfl⟩
  rw [← dot_eq_sum]
  exact dot_le_dot_last hin strides

/-- A storage of cells that can be counted in a word has as many as a shape needs if it has all
that the shape reaches. -/
theorem required_le_iff {shape strides : List Nat} {size : Nat} (hpos : 0 ∉ shape)
    (hsize : size < maxWord) :
    required shape strides ≤ size ↔ ∀ cell ∈ reach shape strides, cell < size := by
  have hgreatest := isGreatest_reach hpos strides
  rw [required_eq]
  constructor
  · intro hle cell hcell
    have := hgreatest.2 hcell
    omega
  · intro hall
    have := hall _ hgreatest.1
    omega

/-! ## Views that are made -/

/-- The cells of a block of memory can be counted in a word, and one more. -/
theorem lt_maxWord {size : Nat} (hsize : size ≤ maxBlock) : size < maxWord :=
  Nat.lt_of_le_of_lt hsize (by decide)

/-- Shape and strides fit a storage of `size` cells: it has all the cells that the shape
reaches. -/
structure Fits (size : Nat) (shape strides : Layout) : Prop where
  rank_eq : shape.rank = strides.rank
  pos : 0 ∉ shape.dims
  reach_lt : ∀ cell ∈ reach shape.dims strides.dims, cell < size

/-- Why shape and strides do not fit a storage of `size` cells. -/
inductive Refuses (size : Nat) (shape strides : Layout) : Error → Prop
  /-- Shape and strides differ in rank. -/
  | rankMismatch (hrank : shape.rank ≠ strides.rank) :
      Refuses size shape strides (.layoutRankMismatch shape.rank strides.rank)
  /-- The ranks agree, and `axis` is the first empty axis. -/
  | zeroDimension {axis : Nat} (hrank : shape.rank = strides.rank)
      (hzero : shape.dims[axis]? = some 0)
      (hfirst : ∀ before < axis, shape.dims[before]? ≠ some 0) :
      Refuses size shape strides (.zeroDimension axis)
  /-- The ranks agree, no axis is empty, and the furthest cell reached does not exist. -/
  | outOfBounds {furthest : Nat} (hrank : shape.rank = strides.rank) (hpos : 0 ∉ shape.dims)
      (hfurthest : IsGreatest (reach shape.dims strides.dims) furthest)
      (hbeyond : size ≤ furthest) :
      Refuses size shape strides (.mapOutOfBounds (min (furthest + 1) maxWord) size)

/-- The first empty axis is found. -/
theorem findIdx?_zero_eq_some_iff {sizes : List Nat} {axis : Nat} :
    sizes.findIdx? (· == 0) = some axis ↔
      sizes[axis]? = some 0 ∧ ∀ before < axis, sizes[before]? ≠ some 0 := by
  rw [List.findIdx?_eq_some_iff_getElem, List.getElem?_eq_some_iff]
  simp only [beq_iff_eq]
  constructor
  · rintro ⟨haxis, hzero, hfirst⟩
    exact ⟨⟨haxis, hzero⟩, fun before hlt h =>
      hfirst before hlt (List.getElem?_eq_some_iff.1 h).2⟩
  · rintro ⟨⟨haxis, hzero⟩, hfirst⟩
    exact ⟨haxis, hzero, fun before hlt h =>
      hfirst before hlt (List.getElem?_eq_some_iff.2 ⟨_, h⟩)⟩

/-- Shape and strides fit, or there is a reason why they do not. -/
theorem fits_or_refuses (size : Nat) (shape strides : Layout) :
    Fits size shape strides ∨ ∃ e, Refuses size shape strides e := by
  by_cases hrank : shape.rank = strides.rank
  · cases hfirst : shape.dims.findIdx? (· == 0) with
    | some axis =>
      obtain ⟨hzero, hfirst⟩ := findIdx?_zero_eq_some_iff.1 hfirst
      exact .inr ⟨_, .zeroDimension hrank hzero hfirst⟩
    | none =>
      have hpos := findIdx?_zero_eq_none.1 hfirst
      have hgreatest := isGreatest_reach hpos strides.dims
      rcases Nat.lt_or_ge (dot (shape.dims.map (· - 1)) strides.dims) size with hlt | hbeyond
      · exact .inl ⟨hrank, hpos, fun cell hcell => Nat.lt_of_le_of_lt (hgreatest.2 hcell) hlt⟩
      · exact .inr ⟨_, .outOfBounds hrank hpos hgreatest hbeyond⟩
  · exact .inr ⟨_, .rankMismatch hrank⟩

variable {α : Type} {cells : Cells α} {shape strides : Layout}

/-- A view is made of shape and strides that fit. -/
theorem Fits.ofStrides_eq (h : Fits cells.size shape strides) (hsize : cells.size < maxWord) :
    ofStrides cells shape strides = .ok ⟨cells, shape, strides⟩ := by
  have henough := (required_le_iff h.pos hsize).2 h.reach_lt
  rw [ofStrides, if_neg (not_not_intro h.rank_eq), findIdx?_zero_eq_none.2 h.pos]
  exact if_neg (Nat.not_lt_of_le henough)

/-- No view is made for one of the reasons, which is then the answer. -/
theorem Refuses.ofStrides_eq {e : Error} (h : Refuses cells.size shape strides e)
    (hsize : cells.size < maxWord) : ofStrides cells shape strides = .error e := by
  rw [ofStrides]
  cases h with
  | rankMismatch hrank => exact if_pos hrank
  | zeroDimension hrank hzero hfirst =>
    rw [if_neg (not_not_intro hrank), findIdx?_zero_eq_some_iff.2 ⟨hzero, hfirst⟩]
  | @outOfBounds furthest hrank hpos hfurthest hbeyond =>
    obtain rfl := hfurthest.unique (isGreatest_reach hpos strides.dims)
    rw [if_neg (not_not_intro hrank), findIdx?_zero_eq_none.2 hpos, ← required_eq]
    refine if_pos ?_
    rw [required_eq]
    omega

/-- A view is made if its shape and strides fit the storage. -/
theorem ofStrides_eq_ok_iff (hsize : cells.size < maxWord) {v : View α} :
    ofStrides cells shape strides = .ok v ↔
      Fits cells.size shape strides ∧ v = ⟨cells, shape, strides⟩ := by
  rcases fits_or_refuses cells.size shape strides with hfits | ⟨reason, hrefuses⟩
  · rw [hfits.ofStrides_eq hsize, Except.ok.injEq, eq_comm]
    exact (and_iff_right hfits).symm
  · have herror := hrefuses.ofStrides_eq hsize
    refine iff_of_false (herror ▸ nofun) fun ⟨hfits, _⟩ => ?_
    rw [hfits.ofStrides_eq hsize] at herror
    nomatch herror

/-- A view is refused for the first fault of its shape and strides. -/
theorem ofStrides_eq_error_iff (hsize : cells.size < maxWord) {e : Error} :
    ofStrides cells shape strides = .error e ↔ Refuses cells.size shape strides e := by
  refine ⟨fun h => ?_, fun h => h.ofStrides_eq hsize⟩
  rcases fits_or_refuses cells.size shape strides with hfits | ⟨reason, hrefuses⟩
  · rw [hfits.ofStrides_eq hsize] at h
    nomatch h
  · rw [hrefuses.ofStrides_eq hsize, Except.error.injEq] at h
    exact h ▸ hrefuses

/-- **A view is made exactly of what fits.** The answer is the view of the storage under shape and
strides if they fit, and otherwise the one reason why they do not. -/
theorem ofStrides_decides (hsize : cells.size ≤ maxBlock) :
    (∀ v, ofStrides cells shape strides = .ok v ↔
        Fits cells.size shape strides ∧ v = ⟨cells, shape, strides⟩) ∧
      ∀ e, ofStrides cells shape strides = .error e ↔ Refuses cells.size shape strides e := by
  have hword : cells.size < maxWord := lt_maxWord hsize
  exact ⟨fun v => ofStrides_eq_ok_iff hword, fun e => ofStrides_eq_error_iff hword⟩

/-- Two rows and two columns under strides of half the words: the furthest cell is one that no word
holds, so its number is capped. -/
theorem ofStrides_decides_beyondWord :
    (Cells.fill 6 ()).size ≤ maxBlock ∧
      Refuses 6 (.fill [2, 2]) (.fill [2 ^ 63, 2 ^ 63]) (.mapOutOfBounds maxWord 6) :=
  have hsize : (Cells.fill 6 ()).size ≤ maxBlock := by decide
  ⟨hsize, ((ofStrides_decides hsize).2 _).1 rfl⟩

/-- A unit axis reaches no further, whatever its stride. -/
example : ofStrides (.fill 6 ()) (.fill [1, 6]) (.fill [maxWord, 1]) =
    .ok ⟨.fill 6 (), .fill [1, 6], .fill [maxWord, 1]⟩ := rfl

end Dataflow.View
