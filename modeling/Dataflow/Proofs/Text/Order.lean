import Mathlib
import Dataflow.Names

/-!
# The order of texts

Texts are ordered by the code points of their characters. This is also the order of their bytes in
UTF-8: of two characters the one with the greater code has the greater byte where their encodings
differ first (`Text.encode_append_lt`), so the first characters that differ decide
(`Text.bytes_lt_bytes`). The first of sorted names that is looked for is therefore the least one in
the order of bytes (`find?_sortNames_eq_some_iff`).
-/

namespace Dataflow.Text

/-- The bytes of a text in UTF-8. -/
def bytes (s : String) : List UInt8 :=
  s.toUTF8.data.toList

/-- The bytes of a text are those of its characters, one after the other. -/
theorem bytes_eq_flatMap (s : String) : bytes s = s.toList.flatMap String.utf8EncodeChar := by
  rw [bytes, String.toUTF8_eq_toByteArray, ← String.utf8Encode_toList]
  simp [List.utf8Encode]

/-- Code points stay below the end of the Unicode range. -/
theorem toNat_val_lt (c : Char) : c.val.toNat < 0x110000 := by
  have hvalid := c.valid
  simp only [UInt32.isValidChar, Nat.isValidChar] at hvalid
  omega

/-- Bytes are ordered as their numbers are. -/
theorem ofNat_lt_ofNat {a b : Nat} (ha : a < 256) (hb : b < 256) :
    UInt8.ofNat a < UInt8.ofNat b ↔ a < b := by
  rw [UInt8.lt_iff_toNat_lt, UInt8.toNat_ofNat', UInt8.toNat_ofNat', Nat.mod_eq_of_lt ha,
    Nat.mod_eq_of_lt hb]

/-- Bytes are told apart by their numbers. -/
theorem ofNat_eq_ofNat {a b : Nat} (ha : a < 256) (hb : b < 256) :
    UInt8.ofNat a = UInt8.ofNat b ↔ a = b := by
  rw [← UInt8.toNat_inj, UInt8.toNat_ofNat', UInt8.toNat_ofNat', Nat.mod_eq_of_lt ha,
    Nat.mod_eq_of_lt hb]

/-- Of two numbers the smaller has the smaller leading digits, or the same and a smaller last
digit. -/
theorem digits_lt {m n : Nat} (h : m < n) :
    m / 64 < n / 64 ∨ m / 64 = n / 64 ∧ m % 64 < n % 64 := by
  omega

/-- The encodings of two characters differ first in a byte that is greater for the greater code. -/
theorem encode_append_lt {c d : Char} (hlt : c < d) (cs ds : List UInt8) :
    String.utf8EncodeChar c ++ cs < String.utf8EncodeChar d ++ ds := by
  have hcode : c.val.toNat < d.val.toNat := hlt
  have hd := toNat_val_lt d
  simp only [String.utf8EncodeChar]
  generalize c.val.toNat = m at *
  generalize d.val.toNat = n at *
  have hlast := digits_lt hcode
  have hthird (h : m / 64 < n / 64) := digits_lt h
  have hsecond (h : m / 64 / 64 < n / 64 / 64) := digits_lt h
  simp only [Nat.div_div_eq_div_mul] at hthird hsecond
  have hmlead : m / 262144 % 8 = m / 262144 := Nat.mod_eq_of_lt (by omega)
  have hnlead : n / 262144 % 8 = n / 262144 := Nat.mod_eq_of_lt (by omega)
  -- a longer encoding starts with a greater byte; in one of the same length, the bytes hold the
  -- digits
  split_ifs
  all_goals
    simp (disch := omega) only [List.cons_append, List.nil_append, List.cons_lt_cons_iff,
      ofNat_lt_ofNat, ofNat_eq_ofNat]
    omega

/-- Texts are ordered by their characters as they are by their bytes. -/
theorem flatMap_encode_lt {cs ds : List Char} (hlt : cs < ds) :
    cs.flatMap String.utf8EncodeChar < ds.flatMap String.utf8EncodeChar := by
  induction ds generalizing cs with
  | nil => exact absurd hlt (List.not_lt_nil cs)
  | cons d ds ih =>
    cases cs with
    | nil =>
      obtain ⟨b, bs, hbytes⟩ := List.exists_cons_of_ne_nil (String.utf8EncodeChar_ne_nil (c := d))
      rw [List.flatMap_nil, List.flatMap_cons, hbytes]
      exact List.nil_lt_cons _ _
    | cons c cs =>
      rw [List.flatMap_cons, List.flatMap_cons]
      rcases List.cons_lt_cons_iff.1 hlt with hcode | ⟨rfl, hrest⟩
      · exact encode_append_lt hcode _ _
      · exact List.append_left_lt (ih hrest)

/-- A text that comes first in the order of its characters comes first in that of its bytes. -/
theorem bytes_lt_bytes {s t : String} (hlt : s < t) : bytes s < bytes t := by
  rw [bytes_eq_flatMap, bytes_eq_flatMap]
  exact flatMap_encode_lt (String.lt_iff_toList_lt.1 hlt)

end Dataflow.Text

namespace Dataflow

/-- A name that is found among sorted names comes before all others that could have been found. -/
theorem bytes_lt_of_find?_sortNames {p : String → Bool} {names : List String} {a : String}
    (hfind : (sortNames names).find? p = some a) {b : String} (hb : b ∈ names) (hp : p b = true)
    (hne : b ≠ a) : Text.bytes a < Text.bytes b := by
  obtain ⟨-, before, after, hsplit, hbefore⟩ := List.find?_eq_some_iff_append.1 hfind
  have hsorted := pairwise_sortNames names
  rw [← mem_sortNames, hsplit] at hb
  rw [hsplit] at hsorted
  have hafter : b ∈ after := by
    rcases List.mem_append.1 hb with hb | hb
    · have hnot := hbefore b hb
      simp [hp] at hnot
    · exact (List.mem_cons.1 hb).resolve_left hne
  have hle : a ≤ b := (List.pairwise_cons.1 (List.pairwise_append.1 hsorted).2.1).1 b hafter
  exact Text.bytes_lt_bytes (Std.lt_of_le_of_ne hle hne.symm)

/-- The name that is found among sorted names is the least in the order of bytes. -/
theorem find?_sortNames_eq_some_iff {p : String → Bool} {names : List String} {a : String} :
    (sortNames names).find? p = some a ↔
      a ∈ names ∧ p a = true ∧ ∀ b ∈ names, p b = true → b ≠ a → Text.bytes a < Text.bytes b := by
  constructor
  · intro hfind
    refine ⟨mem_sortNames.1 (List.mem_of_find?_eq_some hfind), List.find?_some hfind, ?_⟩
    exact fun b hb hp hne => bytes_lt_of_find?_sortNames hfind hb hp hne
  · rintro ⟨ha, hp, hleast⟩
    cases hfind : (sortNames names).find? p with
    | none => exact absurd hp (List.find?_eq_none.1 hfind a (mem_sortNames.2 ha))
    | some b =>
      by_cases hne : b = a
      · rw [hne]
      · have hb := mem_sortNames.1 (List.mem_of_find?_eq_some hfind)
        have hlt := hleast b hb (List.find?_some hfind) hne
        have hgt := bytes_lt_of_find?_sortNames hfind ha hp (Ne.symm hne)
        exact absurd hgt (List.lt_asymm hlt)

end Dataflow
