import Dataflow.Word

/-!
# Reading a number from text

`trim` removes Unicode white space at both ends, and `readWord?` reads a size: an optional plus
sign and at least one ASCII digit, any number of leading zeros, of a value that fits a word.
-/

namespace Dataflow.Text

/-- White space as Unicode defines it (`White_Space`). -/
def isBlank (c : Char) : Bool :=
  let n := c.toNat
  (0x9 ≤ n && n ≤ 0xD) || n == 0x20 || n == 0x85 || n == 0xA0 || n == 0x1680 ||
    (0x2000 ≤ n && n ≤ 0x200A) || n == 0x2028 || n == 0x2029 || n == 0x202F || n == 0x205F ||
    n == 0x3000

/-- The text without the white space at its two ends. -/
def trim (cs : List Char) : List Char :=
  ((cs.dropWhile isBlank).reverse.dropWhile isBlank).reverse

/-- The value of an ASCII digit. -/
def digit? (c : Char) : Option Nat :=
  if '0' ≤ c ∧ c ≤ '9' then some (c.toNat - '0'.toNat) else none

/-- The number that a list of digits denotes, read after the digits of `value`. -/
def readDigits? (value : Nat) : List Char → Option Nat
  | [] => some value
  | c :: rest => do
    let d ← digit? c
    readDigits? (10 * value + d) rest

/-- The number that a nonempty list of digits denotes. -/
def readNat? : List Char → Option Nat
  | [] => none
  | cs => readDigits? 0 cs

/-- The size that a text denotes, of at most one plus sign and then digits. -/
def readWord? (cs : List Char) : Option Nat := do
  let n ← readNat? (match cs with
    | '+' :: rest => rest
    | rest => rest)
  Word.fit? n

end Dataflow.Text
