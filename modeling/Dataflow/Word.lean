/-!
# Sizes in machine words

Sizes, counts and offsets are natural numbers; the operations here say what becomes of one that no
longer fits a word of 64 bits. The checked operations `mul?` and `add?` answer `none` exactly when
the result does not fit (`mul?_eq_some_iff`, `add?_eq_some_iff`), and `satMul` caps it
(`satMul_eq_min`).
-/

namespace Dataflow

/-- The largest size a machine word holds. -/
def maxWord : Nat := UInt64.size - 1

/-- No block of memory is longer than this many bytes, so that offsets inside it can be negated. -/
def maxBlock : Nat := maxWord / 2

namespace Word

/-- The number itself if it fits a word. -/
def fit? (n : Nat) : Option Nat :=
  if n ≤ maxWord then some n else none

/-- The product of two sizes, if it fits a word. -/
def mul? (a b : Nat) : Option Nat :=
  fit? (a * b)

/-- The sum of two sizes, if it fits a word. -/
def add? (a b : Nat) : Option Nat :=
  fit? (a + b)

/-- The product of two sizes, or the largest word if the product is larger. -/
def satMul (a b : Nat) : Nat :=
  (mul? a b).getD maxWord

/-- A number that fits a word is taken as it is. -/
theorem fit?_eq_some_iff {n m : Nat} : fit? n = some m ↔ m = n ∧ n ≤ maxWord := by
  unfold fit?
  split
  · simp_all [eq_comm]
  · simp only [reduceCtorEq, false_iff]; omega

/-- A number that is too large for a word is not taken. -/
theorem fit?_eq_none_iff {n : Nat} : fit? n = none ↔ maxWord < n := by
  unfold fit?
  split <;> simp_all

/-- A product is answered if it fits a word. -/
theorem mul?_eq_some_iff {a b m : Nat} : mul? a b = some m ↔ m = a * b ∧ a * b ≤ maxWord :=
  fit?_eq_some_iff

/-- A sum is answered if it fits a word. -/
theorem add?_eq_some_iff {a b m : Nat} : add? a b = some m ↔ m = a + b ∧ a + b ≤ maxWord :=
  fit?_eq_some_iff

/-- A product that is too large is cut down to the largest word. -/
theorem satMul_eq_min (a b : Nat) : satMul a b = min (a * b) maxWord := by
  unfold satMul mul? fit?
  split
  · simp only [Option.getD_some]; omega
  · simp only [Option.getD_none]; omega

end Word

end Dataflow
