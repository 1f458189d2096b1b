import Dataflow.Layout.Call
import Dataflow.Proofs.Tensor.RowMajor

/-!
# Canonical layouts

Two layouts are compared in all their places, also in those that are not in use. This compares
their lists of sizes, because the places not in use hold zero (`Layout.dims_inj`).

A program that holds a layout replaces it by a new one, calls it, and goes on with what it has when
a call fails. The sizes after such a step are those that the step leaves of a plain list
(`Layout.dims_step`). So after any steps a layout is told from another by its sizes alone
(`Layout.eq_iff_dims_run`).
-/

namespace Dataflow.Layout

variable {l : Layout} {sizes : List Nat}

/-! ## Steps -/

/-- A step of a program that holds a layout. -/
inductive Step
  /-- A new layout of these sizes takes the place of the one that is held. -/
  | new (sizes : List Nat)
  | call (call : Call)

/-- The layout held after a step. No layout is made of too many sizes. -/
def step (l : Layout) : Step → Layout
  | .new sizes =>
    match ofDims sizes with
    | .ok made => made
    | .error _ => l
  | .call call => (l.perform call).2

/-- The layout held after some steps, when the first one that is held has no dimension. -/
def run (steps : List Step) : Layout :=
  steps.foldl step empty

/-- What a step makes of a list of sizes. -/
def Step.replace (sizes : List Nat) : Step → List Nat
  | .new others | .call (.set others) => if others.length ≤ maxRank then others else sizes
  | .call .strides => (suffixProducts sizes).map (min · maxWord)
  | .call .clear => []
  | .call (.dim _) | .call (.equals _) => sizes

/-- New sizes that are too many are refused, and the layout stays as it is. -/
theorem perform_set_of_lt (l : Layout) (h : maxRank < sizes.length) :
    l.perform (.set sizes) = (.set (.error (.layoutTooLarge maxRank sizes.length)) l, l) := by
  rw [perform, set, dif_neg (Nat.not_le_of_lt h)]

/-- Sizes for which there is room replace those of a layout. -/
theorem perform_set_of_le (l : Layout) (h : sizes.length ≤ maxRank) :
    l.perform (.set sizes) = (.set (.ok ()) (fill sizes h), fill sizes h) := by
  rw [perform, set, dif_pos h]

/-- A new layout and new sizes for the one that is held come to the same. -/
theorem step_new (l : Layout) (sizes : List Nat) :
    l.step (.new sizes) = l.step (.call (.set sizes)) := by
  rcases Nat.lt_or_ge maxRank sizes.length with hmany | hfew
  · rw [step, step, perform_set_of_lt l hmany, ofDims, set, dif_neg (Nat.not_le_of_lt hmany)]
  · rw [step, step, perform_set_of_le l hfew, ofDims_eq_ok_iff.2 (dims_fill hfew)]

/-- Setting sizes replaces those before, if there is room for them. -/
theorem dims_step_set (l : Layout) (sizes : List Nat) :
    (l.step (.call (.set sizes))).dims = if sizes.length ≤ maxRank then sizes else l.dims := by
  rcases Nat.lt_or_ge maxRank sizes.length with hmany | hfew
  · rw [step, perform_set_of_lt l hmany, if_neg (Nat.not_le_of_lt hmany)]
  · rw [step, perform_set_of_le l hfew, if_pos hfew, dims_fill]

/-- The sizes after a step are those that the step leaves of a list. -/
theorem dims_step (l : Layout) (s : Step) : (l.step s).dims = s.replace l.dims := by
  cases s with
  | new sizes =>
    rw [step_new]
    exact l.dims_step_set sizes
  | call call =>
    cases call with
    | set sizes => exact l.dims_step_set sizes
    | strides => exact dims_naiveStrides_eq l
    | clear => exact dims_fill _
    | dim | equals => rfl

/-- The sizes after a list of steps are those that the steps leave, one after the other. -/
theorem dims_foldl_step (l : Layout) (steps : List Step) :
    (steps.foldl step l).dims = steps.foldl Step.replace l.dims := by
  induction steps generalizing l with
  | nil => rfl
  | cons s rest ih => rw [List.foldl_cons, List.foldl_cons, ih, dims_step]

/-- The steps of a run tell the sizes after it. -/
theorem dims_run (steps : List Step) : (run steps).dims = steps.foldl Step.replace [] := by
  have hempty : empty.dims = [] := dims_fill _
  rw [run, dims_foldl_step, hempty]

/-! ## Comparisons -/

/-- A layout answers whether its sizes are the given ones. -/
theorem perform_equals (l : Layout) (hfew : sizes.length ≤ maxRank) :
    (l.perform (.equals sizes)).1 = .equals (.ok (decide (sizes = l.dims))) := by
  have hsame : fill sizes hfew = l ↔ sizes = l.dims := by
    rw [← dims_inj, dims_fill]
  rw [perform, ofDims_eq_ok_iff.2 (dims_fill hfew), ← decide_eq_decide.2 hsame]
  rfl

/-- **What tells layouts apart.** After any steps a layout has at most `maxRank` sizes, those that
the same steps leave of a plain list, and holds zero in the places not in use. So the comparison of
all places, and of the ranks, finds two layouts equal just if their sizes are the same, as does the
comparison with a new layout. New sizes that are too many are refused, and the layout stays as it
is. -/
theorem eq_iff_dims_run (steps others : List Step) :
    let l := run steps
    let m := run others
    l.rank ≤ maxRank ∧ (∀ i (hi : i < maxRank), l.rank ≤ i → l.entries[i] = 0) ∧
    l.dims = steps.foldl Step.replace [] ∧
    (l = m ↔ l.dims = m.dims) ∧
    (l.rank = m.rank ∧ (∀ i (hi : i < maxRank), l.entries[i] = m.entries[i]) ↔ l.dims = m.dims) ∧
    (∀ sizes : List Nat, sizes.length ≤ maxRank →
      (l.perform (.equals sizes)).1 = .equals (.ok (decide (sizes = l.dims)))) ∧
    ∀ sizes : List Nat, maxRank < sizes.length →
      l.perform (.set sizes) = (.set (.error (.layoutTooLarge maxRank sizes.length)) l, l) := by
  intro l m
  refine ⟨l.rank_le, l.unused, dims_run steps, dims_inj.symm, ?_, ?_, ?_⟩
  · rw [← eq_iff_entries]
    exact dims_inj.symm
  · intro sizes
    exact l.perform_equals
  · intro sizes
    exact l.perform_set_of_lt

/-- Longer contents leave nothing behind, and neither do sizes that are refused. -/
example : run [.new [5, 5, 5], .call (.set (.replicate 17 1)), .call (.set [2, 6])] =
    run [.new [2, 6]] := by
  decide

end Dataflow.Layout
