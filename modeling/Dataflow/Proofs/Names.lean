import Mathlib
import Dataflow.Device.Registry
import Dataflow.Graph.Definition

/-!
# Free names

Scanning a numbered family of different names comes to an end: `firstFree` answers the first number
whose name is not taken (`firstFree_notMem`, `mem_of_lt_firstFree`), and `freeNumbers` answers as
many numbers as are asked for, in increasing order, all with names that are free. The two families
of names are those of devices (`deviceName_injective`) and of nodes (`suffixed_injective`).
-/

namespace Dataflow

section scan
variable {name : Nat → String}

/-- More names than are taken have a free one among them. -/
theorem exists_notMem_of_injective (hname : Function.Injective name) (taken : List String)
    (n : Nat) : ∃ i ∈ List.range (taken.length + 1), name (n + i) ∉ taken := by
  by_contra hall
  simp only [not_exists, not_and, Decidable.not_not] at hall
  have hnodup : ((List.range (taken.length + 1)).map fun i => name (n + i)).Nodup :=
    List.nodup_range.map fun _ _ h => Nat.add_left_cancel (hname h)
  have hsub : (List.range (taken.length + 1)).map (fun i => name (n + i)) ⊆ taken := by
    intro s hs
    obtain ⟨i, hi, rfl⟩ := List.mem_map.1 hs
    exact hall i hi
  have hle := (List.subperm_of_subset hnodup hsub).length_le
  rw [List.length_map, List.length_range] at hle
  exact Nat.not_succ_le_self _ hle

/-- The scan starts at the number that it is given. -/
theorem le_firstFree (name : Nat → String) (taken : List String) (n : Nat) :
    n ≤ firstFree name taken n :=
  Nat.le_add_right ..

/-- One of the first numbers is free, since there are more of them than there are taken names. -/
theorem findIdx_lt_length (hname : Function.Injective name) (taken : List String) (n : Nat) :
    ((List.range (taken.length + 1)).findIdx fun i => decide (name (n + i) ∉ taken)) <
      (List.range (taken.length + 1)).length := by
  obtain ⟨i, hi, hfree⟩ := exists_notMem_of_injective hname taken n
  exact List.findIdx_lt_length_of_exists ⟨i, hi, decide_eq_true hfree⟩

/-- No more names are passed over than are taken. -/
theorem firstFree_le (hname : Function.Injective name) (taken : List String) (n : Nat) :
    firstFree name taken n ≤ n + taken.length := by
  have hlt := findIdx_lt_length hname taken n
  rw [List.length_range] at hlt
  exact Nat.add_le_add_left (Nat.le_of_lt_succ hlt) n

/-- The name of the first free number is free. -/
theorem firstFree_notMem (hname : Function.Injective name) (taken : List String) (n : Nat) :
    name (firstFree name taken n) ∉ taken := by
  have hfound := List.findIdx_getElem (w := findIdx_lt_length hname taken n)
  rw [List.getElem_range] at hfound
  exact of_decide_eq_true hfound

/-- The names of the numbers before the first free one are taken. -/
theorem mem_of_lt_firstFree {taken : List String} {n i : Nat} (hle : n ≤ i)
    (hlt : i < firstFree name taken n) : name i ∈ taken := by
  unfold firstFree at hlt
  have hi := List.not_of_lt_findIdx (Nat.sub_lt_left_of_lt_add hle hlt)
  simpa [List.getElem_range, Nat.add_sub_cancel' hle] using hi

/-- A number whose name is free is found at once. -/
theorem firstFree_eq_self {taken : List String} {n : Nat} (h : name n ∉ taken) :
    firstFree name taken n = n := by
  unfold firstFree
  rw [List.range_succ_eq_map, List.findIdx_cons, Nat.add_zero, decide_eq_true h]
  rfl

/-- There are as many free numbers as are asked for. -/
theorem length_freeNumbers (name : Nat → String) (taken : List String) (n count : Nat) :
    (freeNumbers name taken n count).length = count := by
  induction count generalizing n with
  | zero => rfl
  | succ count ih => simp [freeNumbers, ih]

/-- The numbers that are found start where the scan does, and their names are free. -/
theorem freeNumbers_free (hname : Function.Injective name) {taken : List String} {n count k : Nat}
    (hk : k ∈ freeNumbers name taken n count) : n ≤ k ∧ name k ∉ taken := by
  induction count generalizing n with
  | zero => cases hk
  | succ count ih =>
    rw [freeNumbers] at hk
    rcases List.mem_cons.1 hk with rfl | hk
    · exact ⟨le_firstFree .., firstFree_notMem hname taken n⟩
    · obtain ⟨hle, hfree⟩ := ih hk
      exact ⟨Nat.le_trans (le_firstFree ..) (Nat.le_of_succ_le hle), hfree⟩

/-- If no name is taken, the numbers that are found are the next ones. -/
theorem freeNumbers_eq_range' {taken : List String} {n count : Nat}
    (h : ∀ i, n ≤ i → name i ∉ taken) : freeNumbers name taken n count = List.range' n count := by
  induction count generalizing n with
  | zero => rfl
  | succ count ih =>
    rw [freeNumbers, firstFree_eq_self (h n (Nat.le_refl n)), List.range'_succ,
      ih fun i hi => h i (Nat.le_of_succ_le hi)]

/-- The numbers that are found increase. -/
theorem pairwise_freeNumbers (hname : Function.Injective name) (taken : List String)
    (n count : Nat) : (freeNumbers name taken n count).Pairwise (· < ·) := by
  induction count generalizing n with
  | zero => exact List.Pairwise.nil
  | succ count ih =>
    rw [freeNumbers]
    exact List.pairwise_cons.2 ⟨fun _ hk => (freeNumbers_free hname hk).1, ih _⟩

/-- The names that are found are different. -/
theorem nodup_map_freeNumbers (hname : Function.Injective name) (taken : List String)
    (n count : Nat) : ((freeNumbers name taken n count).map name).Nodup :=
  List.Nodup.map hname ((pairwise_freeNumbers hname taken n count).imp Nat.ne_of_lt)

end scan

/-! ## The families -/

/-- Devices of one type with different numbers have different names. -/
theorem DeviceRegistry.deviceName_injective (deviceType : String) :
    Function.Injective (deviceName deviceType) := fun _ _ h =>
  Nat.repr_injective ((String.append_right_inj _).1 h)

/-- Different numbers behind a name make different names. -/
theorem GraphDef.suffixed_injective (base : String) : Function.Injective (suffixed base) :=
  fun _ _ h => Nat.repr_injective ((String.append_right_inj _).1 h)

/-- No node has the name that is found for a new node. -/
theorem GraphDef.uniqueName_notMem (g : GraphDef) (base : String) :
    g.uniqueName base ∉ g.names.keys := by
  unfold uniqueName
  split
  · exact firstFree_notMem (suffixed_injective base) _ 1
  · rwa [← Table.contains_iff]

end Dataflow
