import Dataflow.Proofs.Device.Account
import Dataflow.Proofs.Tensor.Buffer

/-!
# Counting the elements of a shape

The sizes of a shape are multiplied from the first to the last, and the count ends at the first
product that outgrows a word, also when an axis behind is empty. So what decides is the product of
the sizes before the first empty axis (`Layout.numElements?_eq`): shapes without an empty axis are
counted exactly, and in any order of their sizes, but a shape of no element is not if the sizes
before its empty axis are too large (`Layout.counts_iff`). No buffer is made of such a shape, or
reshaped to it.
-/

namespace Dataflow

namespace Layout

/-! ## The count -/

/-- The sizes before the first empty axis. -/
def beforeEmpty (sizes : List Nat) : List Nat :=
  sizes.takeWhile (· ≠ 0)

/-- Without an empty axis all sizes stand before it. -/
theorem beforeEmpty_eq_self {sizes : List Nat} (hpos : 0 ∉ sizes) : beforeEmpty sizes = sizes := by
  rw [beforeEmpty, List.takeWhile_eq_self_iff]
  intro d hd
  exact decide_eq_true fun hzero => hpos (hzero ▸ hd)

/-- The sizes before an empty axis are positive, and so is their product. -/
theorem prod_beforeEmpty_pos (sizes : List Nat) : 0 < (beforeEmpty sizes).prod := by
  refine Nat.pos_of_ne_zero fun hzero => ?_
  have hmem := List.mem_takeWhile_imp (List.prod_eq_zero_iff.1 hzero)
  simp at hmem

/-- Behind an empty axis nothing outgrows a word. -/
theorem foldlM_mul?_zero (sizes : List Nat) : sizes.foldlM Word.mul? 0 = some 0 := by
  induction sizes with
  | nil => rfl
  | cons d rest ih =>
    have hstep : Word.mul? 0 d = some 0 := Word.mul?_eq_some_iff.2 ⟨(Nat.zero_mul d).symm, by simp⟩
    rw [List.foldlM_cons, hstep]
    exact ih

/-- The product is built up to the first empty axis, and must fit a word until there. -/
theorem foldlM_mul?_eq (sizes : List Nat) {start : Nat} (hstart : start ≤ maxWord) :
    sizes.foldlM Word.mul? start =
      if start * (beforeEmpty sizes).prod ≤ maxWord then some (start * sizes.prod) else none := by
  induction sizes generalizing start with
  | nil => simp [beforeEmpty, hstart]
  | cons d rest ih =>
    rw [List.foldlM_cons]
    by_cases hd : d = 0
    · subst hd
      have hstep : Word.mul? start 0 = some 0 := Word.mul?_eq_some_iff.2 ⟨rfl, Nat.zero_le _⟩
      rw [hstep]
      simp [beforeEmpty, hstart, foldlM_mul?_zero]
    · have hcons : beforeEmpty (d :: rest) = d :: beforeEmpty rest :=
        List.takeWhile_cons_of_pos (decide_eq_true hd)
      rw [hcons, List.prod_cons, List.prod_cons, ← Nat.mul_assoc, ← Nat.mul_assoc]
      rcases Nat.lt_or_ge maxWord (start * d) with hlarge | hfits
      · have hbeyond : maxWord < start * d * (beforeEmpty rest).prod :=
          Nat.lt_of_lt_of_le hlarge (Nat.le_mul_of_pos_right _ (prod_beforeEmpty_pos rest))
        rw [Word.mul?, Word.fit?_eq_none_iff.2 hlarge, if_neg (Nat.not_le_of_lt hbeyond)]
        rfl
      · rw [Word.mul?_eq_some_iff.2 ⟨rfl, hfits⟩]
        exact ih hfits

/-- The elements are counted if the sizes before the first empty axis have a product that fits a
word. -/
theorem numElements?_eq (l : Layout) : l.numElements? =
    if (beforeEmpty l.dims).prod ≤ maxWord then some l.dims.prod else none := by
  rw [numElements?, foldlM_mul?_eq l.dims (by decide), Nat.one_mul, Nat.one_mul]

/-! ## Exact counts -/

/-- The number of elements is the product of the sizes, if this fits a word. -/
structure Counts (l : Layout) : Prop where
  some_iff : ∀ p, l.numElements? = some p ↔ p = l.dims.prod ∧ p ≤ maxWord
  none_iff : l.numElements? = none ↔ maxWord < l.dims.prod
  numElements_eq : l.numElements = min l.dims.prod maxWord

/-- A layout counts its elements if the checked count is the product wherever this fits a word. -/
theorem counts_of_numElements?_eq {l : Layout} (h : l.numElements? = Word.fit? l.dims.prod) :
    l.Counts where
  some_iff p := by
    rw [h, Word.fit?_eq_some_iff]
    constructor
    · rintro ⟨rfl, hfits⟩
      exact ⟨rfl, hfits⟩
    · rintro ⟨rfl, hfits⟩
      exact ⟨rfl, hfits⟩
  none_iff := by rw [h, Word.fit?_eq_none_iff]
  numElements_eq := by
    rw [numElements, h]
    unfold Word.fit?
    split
    · rw [Option.getD_some]; omega
    · rw [Option.getD_none]; omega

/-- A shape without an empty axis is counted exactly. -/
theorem counts_of_pos {l : Layout} (hpos : 0 ∉ l.dims) : l.Counts := by
  refine counts_of_numElements?_eq ?_
  rw [numElements?_eq, beforeEmpty_eq_self hpos]
  rfl

/-- A shape of no element is counted exactly if the sizes before its empty axis are not too
large. -/
theorem counts_of_le {l : Layout} (hzero : 0 ∈ l.dims)
    (hfits : (beforeEmpty l.dims).prod ≤ maxWord) :
    l.Counts := by
  refine counts_of_numElements?_eq ?_
  rw [numElements?_eq, if_pos hfits, List.prod_eq_zero_iff.2 hzero]
  rfl

/-- If the sizes before an empty axis are too large together, there is no count. -/
theorem numElements?_eq_none_of_lt {l : Layout} (hlarge : maxWord < (beforeEmpty l.dims).prod) :
    l.numElements? = none := by
  rw [numElements?_eq, if_neg (Nat.not_le_of_lt hlarge)]

/-- Elements are miscounted only where there are none, behind sizes that are too large together. -/
theorem counts_iff {l : Layout} :
    l.Counts ↔ (0 ∈ l.dims → (beforeEmpty l.dims).prod ≤ maxWord) := by
  by_cases hzero : 0 ∈ l.dims
  · refine ⟨fun hcounts _ => Nat.le_of_not_lt fun hlarge => ?_, fun hfits => ?_⟩
    · have hoverflow := hcounts.none_iff.1 (numElements?_eq_none_of_lt hlarge)
      rw [List.prod_eq_zero_iff.2 hzero] at hoverflow
      omega
    · exact counts_of_le hzero (hfits hzero)
  · exact iff_of_true (counts_of_pos hzero) fun h => absurd h hzero

/-- A shape that is not counted exactly has no element, and is taken for one of too many. -/
theorem prod_eq_zero_of_not_counts {l : Layout} (h : ¬ l.Counts) :
    l.dims.prod = 0 ∧ l.numElements? = none ∧ l.numElements = maxWord := by
  rw [counts_iff, Classical.not_imp, Nat.not_le] at h
  have hnone := numElements?_eq_none_of_lt h.2
  refine ⟨List.prod_eq_zero_iff.2 h.1, hnone, ?_⟩
  rw [numElements, hnone]
  rfl

/-- Exact counts do not depend on the order of the sizes. -/
theorem Counts.perm {l m : Layout} (hl : l.Counts) (hm : m.Counts) (hperm : m.dims.Perm l.dims) :
    m.numElements? = l.numElements? ∧ m.numElements = l.numElements := by
  refine ⟨Option.ext fun p => ?_, ?_⟩
  · rw [hm.some_iff, hl.some_iff, hperm.prod_eq]
  · rw [hm.numElements_eq, hl.numElements_eq, hperm.prod_eq]

end Layout

/-! ## Shapes that are refused -/

/-- Elements whose length in bytes fits a word are not too many for a device. -/
theorem Device.Allocates.ne_overflow {d : Device} {dtype : DType} {count : Nat}
    {a a' : Allocations} {e : Error} (h : d.Allocates dtype count a (.error e) a')
    (hfits : count * dtype.size ≤ maxWord) (sizes : List Nat) :
    e ≠ .elementCountOverflow sizes := by
  rintro rfl
  cases h with
  | refused hrequest =>
    rw [request, Word.mul?_eq_some_iff.2 ⟨rfl, hfits⟩] at hrequest
    dsimp only at hrequest
    split at hrequest
    · nomatch hrequest
    · split at hrequest <;> nomatch hrequest

namespace Buffer

variable {heap : Heap} {d : Device} {dtype : DType} {shape : Layout} {memory : Nat → dtype.Scalar}

/-- A shape whose elements are not counted is named in the error. -/
theorem count_eq_error {e : Error} (h : count dtype shape = .error e) :
    e = .elementCountOverflow shape.dims := by
  unfold count at h
  split at h
  · nomatch h
  · exact (Except.error.inj h).symm

/-- A new buffer has too many elements just if those of its shape are not counted. -/
theorem create_overflow_iff :
    (∃ sizes, (create heap d dtype shape memory).1 = .error (.elementCountOverflow sizes)) ↔
      ¬ ∃ n, count dtype shape = .ok n := by
  unfold create
  cases hcount : count dtype shape with
  | error e =>
    refine iff_of_true ⟨shape.dims, ?_⟩ nofun
    exact congrArg Except.error (count_eq_error hcount)
  | ok size =>
    refine iff_of_false ?_ (not_not_intro ⟨size, rfl⟩)
    rintro ⟨sizes, herror⟩
    have hallocate : (d.allocate dtype size (heap.account d)).1 =
        .error (.elementCountOverflow sizes) :=
      except_map_eq_error.1 herror
    have hends := d.allocate_allocates dtype size (heap.account d)
    rw [hallocate] at hends
    exact hends.ne_overflow (count_eq_ok_iff.1 hcount).2 sizes rfl

/-- So has a reshaped one. -/
theorem reshape_overflow_iff {b : Buffer} {dims : List Nat} (h : Layout.ofDims dims = .ok shape) :
    (∃ sizes, b.reshape dims = .error (.elementCountOverflow sizes)) ↔
      ¬ ∃ n, count b.dtype shape = .ok n := by
  have hreshape : b.reshape dims = count b.dtype shape >>= fun n =>
      if b.numBytes ≠ n * b.dtype.size then .error (.reshapeMismatch b.numBytes (n * b.dtype.size))
      else .ok { b with shape } := by
    rw [reshape, h]
    rfl
  simp only [hreshape, except_bind_eq_error]
  cases hcount : count b.dtype shape with
  | error e => exact iff_of_true ⟨shape.dims, .inl (congrArg _ (count_eq_error hcount))⟩ nofun
  | ok size =>
    refine iff_of_false ?_ (not_not_intro ⟨size, rfl⟩)
    rintro ⟨sizes, hnone | ⟨n, -, hlast⟩⟩
    · nomatch hnone
    · split at hlast <;> nomatch hlast

/-- The elements of a shape of no element are counted just if it is counted exactly. -/
theorem exists_count_iff (hzero : 0 ∈ shape.dims) :
    (∃ n, count dtype shape = .ok n) ↔ shape.Counts := by
  constructor
  · rintro ⟨n, hcount⟩
    refine Layout.counts_of_le hzero (Nat.le_of_not_lt fun hlarge => ?_)
    rw [count_eq_ok_iff, Layout.numElements?_eq_none_of_lt hlarge] at hcount
    nomatch hcount.1
  · intro hcounts
    have hprod : 0 = shape.dims.prod := (List.prod_eq_zero_iff.2 hzero).symm
    exact ⟨0, count_eq_ok_iff.2 ⟨(hcounts.some_iff 0).2 ⟨hprod, Nat.zero_le _⟩, by simp⟩⟩

end Buffer

namespace Layout

/-- **When the elements of a shape are counted exactly.** Their number is the product of the sizes,
if this fits a word, unless an axis is empty and the sizes before the first such axis have a
product that does not fit. Then they are not counted although there are none, and no buffer is made
of the shape or reshaped to it. Two orders of the same sizes are counted alike if both are counted
exactly or neither is. -/
theorem counts_and_refusals (l : Layout) :
    (l.Counts ↔ (0 ∈ l.dims → (beforeEmpty l.dims).prod ≤ maxWord)) ∧
    (¬ l.Counts → l.dims.prod = 0 ∧ l.numElements? = none ∧ l.numElements = maxWord) ∧
    (∀ m : Layout, m.dims.Perm l.dims → (m.Counts ↔ l.Counts) →
      m.numElements? = l.numElements? ∧ m.numElements = l.numElements) ∧
    (0 ∈ l.dims →
      (∀ heap d dtype memory, (∃ sizes, (Buffer.create heap d dtype l memory).1 =
        .error (.elementCountOverflow sizes)) ↔ ¬ l.Counts) ∧
      ∀ (b : Buffer) dims, ofDims dims = .ok l →
        ((∃ sizes, b.reshape dims = .error (.elementCountOverflow sizes)) ↔ ¬ l.Counts)) := by
  refine ⟨counts_iff, prod_eq_zero_of_not_counts, fun m hperm hsame => ?_, fun hzero => ⟨?_, ?_⟩⟩
  · by_cases hl : l.Counts
    · exact hl.perm (hsame.2 hl) hperm
    · obtain ⟨-, hnone, hmax⟩ := prod_eq_zero_of_not_counts hl
      obtain ⟨-, hnone', hmax'⟩ := prod_eq_zero_of_not_counts fun hm => hl (hsame.1 hm)
      exact ⟨hnone'.trans hnone.symm, hmax'.trans hmax.symm⟩
  · intro heap d dtype memory
    rw [Buffer.create_overflow_iff, Buffer.exists_count_iff hzero]
  · intro b dims hdims
    rw [Buffer.reshape_overflow_iff hdims, Buffer.exists_count_iff hzero]

/-- The sizes before an empty axis are multiplied first, and their product fits no word. With the
empty axis in front, no element is counted. -/
theorem not_counts_emptyLast :
    ¬ (fill [maxWord, 2, 0]).Counts ∧ (fill [maxWord, 2, 0]).dims.prod = 0 ∧
      (fill [maxWord, 2, 0]).numElements? = none ∧ (fill [maxWord, 2, 0]).numElements = maxWord ∧
      (fill [0, maxWord, 2]).numElements? = some 0 ∧
      (Buffer.create {} ⟨0, "CPU:0", "CPU", hostBackend maxWord⟩ .float (fill [maxWord, 2, 0])
        fun _ => 0).1 = .error (.elementCountOverflow [maxWord, 2, 0]) := by
  refine ⟨fun hcounts => ?_, rfl, rfl, rfl, rfl, rfl⟩
  have hoverflow : maxWord < 0 := hcounts.none_iff.1 rfl
  omega

end Layout

end Dataflow
