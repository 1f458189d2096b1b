/-!
# Storage cells

The cells of a piece of storage, as their number and what each of them holds. Only cells that exist
can be read and written (`get?`, `set?`); a write changes one cell and no other (`read_of_set?`).
-/

namespace Dataflow

/-- Storage of `size` cells. -/
structure Cells (α : Type) where
  size : Nat
  read : Nat → α

namespace Cells

variable {α : Type}

/-- Cells that all hold one value. -/
def fill (size : Nat) (x : α) : Cells α :=
  ⟨size, fun _ => x⟩

/-- The cells that hold the items of a list. -/
def ofArray (xs : Array α) (default : α) : Cells α :=
  ⟨xs.size, fun i => xs.getD i default⟩

/-- What the cells hold, from the first to the last. -/
def toList (c : Cells α) : List α :=
  (List.range c.size).map c.read

/-- What a cell holds, if it exists. -/
def get? (c : Cells α) (i : Nat) : Option α :=
  if i < c.size then some (c.read i) else none

/-- The cells after a write to one of them, if it exists. -/
def set? (c : Cells α) (i : Nat) (x : α) : Option (Cells α) :=
  if i < c.size then some { c with read := fun j => if j = i then x else c.read j } else none

/-- A cell is read if it exists. -/
theorem get?_eq_some_iff {c : Cells α} {i : Nat} {x : α} :
    c.get? i = some x ↔ i < c.size ∧ c.read i = x := by
  unfold get?
  split
  · simp_all
  · simp only [reduceCtorEq, false_iff]; omega

/-- Writing a cell does not change how many there are. -/
theorem size_of_set? {c c' : Cells α} {i : Nat} {x : α} (h : c.set? i x = some c') :
    c'.size = c.size := by
  unfold set? at h
  split at h <;> cases h
  rfl

/-- Writing a cell changes this cell and no other. -/
theorem read_of_set? {c c' : Cells α} {i : Nat} {x : α} (h : c.set? i x = some c') (j : Nat) :
    c'.read j = if j = i then x else c.read j := by
  unfold set? at h
  split at h <;> cases h
  rfl

end Cells

end Dataflow
