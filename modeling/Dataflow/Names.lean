/-!
# Names

Two things that are done to lists of names: `sortNames` puts them in the order of their code
points, and `firstFree` finds the first number that makes a name of a numbered family free. Of the
first `taken.length + 1` members of a family of different names one is free, so no more need to be
tried.
-/

namespace Dataflow

/-- A sorted list of names with one more in its place. -/
def insertName (name : String) : List String → List String
  | [] => [name]
  | n :: rest => if name ≤ n then name :: n :: rest else n :: insertName name rest

/-- The names in the order of their code points. -/
def sortNames (names : List String) : List String :=
  names.foldr insertName []

/-- The first number from `n` on whose name is not taken. -/
def firstFree (name : Nat → String) (taken : List String) (n : Nat) : Nat :=
  n + (List.range (taken.length + 1)).findIdx fun i => decide (name (n + i) ∉ taken)

/-- The numbers that `count` names take one after the other, each the first from `n` on that is
free. -/
def freeNumbers (name : Nat → String) (taken : List String) (n : Nat) : Nat → List Nat
  | 0 => []
  | count + 1 =>
    let k := firstFree name taken n
    k :: freeNumbers name taken (k + 1) count

/-! ## Sorting -/

/-- Putting a name into its place among others loses none and adds no other. -/
theorem perm_insertName (name : String) (names : List String) :
    (insertName name names).Perm (name :: names) := by
  induction names with
  | nil => exact .refl _
  | cons n rest ih =>
    unfold insertName
    split
    · exact .refl _
    · exact (ih.cons n).trans (.swap name n rest)

/-- Sorting keeps every name as often as it is there. -/
theorem perm_sortNames (names : List String) : (sortNames names).Perm names := by
  induction names with
  | nil => exact .refl _
  | cons n rest ih => exact (perm_insertName n (sortNames rest)).trans (ih.cons n)

/-- Sorting names neither loses one nor adds one. -/
theorem mem_sortNames {a : String} {names : List String} : a ∈ sortNames names ↔ a ∈ names :=
  (perm_sortNames names).mem_iff

/-- Sorting names keeps each as often as it is there. -/
theorem length_sortNames (names : List String) : (sortNames names).length = names.length :=
  (perm_sortNames names).length_eq

/-- A name that is put into its place leaves the names in order. -/
theorem pairwise_insertName {name : String} {names : List String}
    (h : names.Pairwise (· ≤ ·)) : (insertName name names).Pairwise (· ≤ ·) := by
  induction names with
  | nil => exact List.pairwise_singleton _ _
  | cons n rest ih =>
    obtain ⟨least, sorted⟩ := List.pairwise_cons.1 h
    unfold insertName
    split
    · rename_i le
      refine List.pairwise_cons.2 ⟨fun a ha => ?_, h⟩
      rcases List.mem_cons.1 ha with rfl | ha
      · exact le
      · exact String.le_trans le (least a ha)
    · rename_i nle
      refine List.pairwise_cons.2 ⟨fun a ha => ?_, ih sorted⟩
      rcases List.mem_cons.1 ((perm_insertName name rest).mem_iff.1 ha) with rfl | ha
      · exact (String.le_total a n).resolve_left nle
      · exact least a ha

/-- Sorting puts the names in order. -/
theorem pairwise_sortNames (names : List String) : (sortNames names).Pairwise (· ≤ ·) := by
  induction names with
  | nil => exact List.Pairwise.nil
  | cons n rest ih => exact pairwise_insertName ih

end Dataflow
