import Mathlib.Data.List.DropRight
import Mathlib.Data.Nat.Digits.Defs
import Dataflow.Proofs.Text.Decimal

/-!
# Texts that spell a size

A numeral is at most one plus sign and then one or more ASCII digits, whose value is the sum of the
digits by their places. A text spells a number if it is a numeral of the number but for the white
space around it. These are the texts from which a size is read (`readWord?_trim_eq_some_iff`), and
they have a normal form: the number in decimal, behind any zeros and at most one plus sign, with
any white space around it (`spells_iff_padded`).
-/

namespace Dataflow.Text

/-- The text is nothing but white space. -/
def Blank (cs : List Char) : Prop :=
  ∀ c ∈ cs, isBlank c = true

/-- The number that digits denote by their places, the most significant digit first. -/
def placeValue (digits : List Char) : Nat :=
  Nat.ofDigits 10 (digits.reverse.map fun c => c.toNat - '0'.toNat)

/-- The text is one or more ASCII digits that denote the number. -/
structure Digits (cs : List Char) (n : Nat) : Prop where
  ne_nil : cs ≠ []
  isDigit : ∀ c ∈ cs, c.isDigit = true
  value : placeValue cs = n

/-- The text is at most one plus sign and then digits that denote the number. -/
inductive Numeral : List Char → Nat → Prop
  | unsigned {digits n} (h : Digits digits n) : Numeral digits n
  | signed {digits n} (h : Digits digits n) : Numeral ('+' :: digits) n

/-- The text is a numeral of the number but for the white space around it. -/
def Spells (cs : List Char) (n : Nat) : Prop :=
  ∃ before numeral after, Blank before ∧ Blank after ∧ Numeral numeral n ∧
    cs = before ++ numeral ++ after

/-! ## Digits -/

/-- The digits are ten characters in a row. -/
theorem toNat_of_isDigit {c : Char} (h : c.isDigit = true) : 48 ≤ c.toNat ∧ c.toNat ≤ 57 := by
  simpa [Char.isDigit, UInt32.le_iff_toNat_le] using h

/-- A last digit makes ten times the number before it, and itself. -/
theorem placeValue_concat (digits : List Char) (c : Char) :
    placeValue (digits ++ [c]) = 10 * placeValue digits + (c.toNat - '0'.toNat) := by
  rw [placeValue, placeValue, List.reverse_concat, List.map_cons, Nat.ofDigits_cons, Nat.add_comm]

/-- Reading the digits from the left sums them by their places. -/
theorem ofDigitChars_eq_placeValue (digits : List Char) :
    Nat.ofDigitChars 10 digits 0 = placeValue digits := by
  induction digits using List.reverseRecOn with
  | nil => rfl
  | append_singleton digits c ih =>
    rw [Nat.ofDigitChars_append, Nat.ofDigitChars_cons, Nat.ofDigitChars_nil, ih,
      placeValue_concat]

/-- A number is read from digits, as their place value. -/
theorem readNat?_eq_some_iff {cs : List Char} {n : Nat} : readNat? cs = some n ↔ Digits cs n := by
  constructor
  · intro h
    have hne : cs ≠ [] := by
      rintro rfl
      nomatch h
    rw [readNat?_eq_of_ne_nil hne] at h
    have hdigits := isDigit_of_readDigits? h
    rw [readDigits?_eq hdigits, ofDigitChars_eq_placeValue] at h
    exact ⟨hne, hdigits, Option.some.inj h⟩
  · rintro ⟨hne, hdigits, rfl⟩
    rw [readNat?_eq_of_ne_nil hne, readDigits?_eq hdigits, ofDigitChars_eq_placeValue]

/-- A word is read from a numeral whose number fits one. -/
theorem readWord?_eq_some_iff {cs : List Char} {n : Nat} :
    readWord? cs = some n ↔ Numeral cs n ∧ n ≤ maxWord := by
  unfold readWord?
  simp only [Option.bind_eq_bind, Option.bind_eq_some_iff, readNat?_eq_some_iff,
    Word.fit?_eq_some_iff]
  constructor
  · rintro ⟨_, hdigits, rfl, hfits⟩
    split at hdigits
    · exact ⟨.signed hdigits, hfits⟩
    · exact ⟨.unsigned hdigits, hfits⟩
  · rintro ⟨hnumeral, hfits⟩
    refine ⟨n, ?_, rfl, hfits⟩
    cases hnumeral with
    | signed hdigits => exact hdigits
    | unsigned hdigits =>
      split
      · exact absurd (hdigits.isDigit _ List.mem_cons_self) (by decide)
      · exact hdigits

/-! ## White space -/

/-- A digit is not blank. -/
theorem isBlank_eq_false_of_isDigit {c : Char} (h : c.isDigit = true) : isBlank c = false := by
  have hrange := toNat_of_isDigit h
  simp only [isBlank, Bool.or_eq_false_iff, Bool.and_eq_false_iff, decide_eq_false_iff_not,
    beq_eq_false_iff_ne]
  omega

/-- There is no white space in a numeral. -/
theorem Numeral.isBlank_eq_false {cs : List Char} {n : Nat} (h : Numeral cs n) :
    ∀ c ∈ cs, isBlank c = false := by
  cases h with
  | unsigned hdigits => exact fun c hc => isBlank_eq_false_of_isDigit (hdigits.isDigit c hc)
  | signed hdigits =>
    exact List.forall_mem_cons.2
      ⟨by decide, fun c hc => isBlank_eq_false_of_isDigit (hdigits.isDigit c hc)⟩

/-- A numeral is not empty. -/
theorem Numeral.ne_nil {cs : List Char} {n : Nat} (h : Numeral cs n) : cs ≠ [] := by
  cases h with
  | unsigned hdigits => exact hdigits.ne_nil
  | signed hdigits => exact List.cons_ne_nil _ _

/-- A text is what is left of it between white space. -/
theorem exists_eq_append_trim (cs : List Char) :
    ∃ before after, Blank before ∧ Blank after ∧ cs = before ++ trim cs ++ after := by
  refine ⟨cs.takeWhile isBlank, (cs.dropWhile isBlank).rtakeWhile isBlank,
    fun _ => List.mem_takeWhile_imp, fun _ => List.mem_rtakeWhile_imp, ?_⟩
  have hright : trim cs ++ (cs.dropWhile isBlank).rtakeWhile isBlank = cs.dropWhile isBlank :=
    List.rdropWhile_append_rtakeWhile
  rw [List.append_assoc, hright, List.takeWhile_append_dropWhile]

/-- Dropping blanks stops at the first character that is not blank. -/
theorem dropWhile_isBlank_append {before cs : List Char} (hbefore : Blank before) (hne : cs ≠ [])
    (hcs : ∀ c ∈ cs, isBlank c = false) (rest : List Char) :
    (before ++ (cs ++ rest)).dropWhile isBlank = cs ++ rest := by
  rw [List.dropWhile_append_of_pos hbefore]
  obtain ⟨c, cs, rfl⟩ := List.exists_cons_of_ne_nil hne
  exact List.dropWhile_cons_of_neg (by simp [hcs c List.mem_cons_self])

/-- A text without white space is what is left of it between white space. -/
theorem trim_append {before cs after : List Char} (hbefore : Blank before) (hafter : Blank after)
    (hne : cs ≠ []) (hcs : ∀ c ∈ cs, isBlank c = false) : trim (before ++ cs ++ after) = cs := by
  have hleft : (before ++ cs ++ after).dropWhile isBlank = cs ++ after := by
    rw [List.append_assoc]
    exact dropWhile_isBlank_append hbefore hne hcs after
  -- The white space behind the text is in front of the reversed text.
  have hright : (after.reverse ++ (cs.reverse ++ [])).dropWhile isBlank = cs.reverse ++ [] :=
    dropWhile_isBlank_append (fun c hc => hafter c (List.mem_reverse.1 hc))
      (mt List.reverse_eq_nil_iff.1 hne) (fun c hc => hcs c (List.mem_reverse.1 hc)) []
  rw [List.append_nil] at hright
  rw [trim, hleft, List.reverse_append, hright, List.reverse_reverse]

/-- A text spells a number if it is a numeral of it after trimming. -/
theorem spells_iff_trim {cs : List Char} {n : Nat} : Spells cs n ↔ Numeral (trim cs) n := by
  constructor
  · rintro ⟨before, numeral, after, hbefore, hafter, hnumeral, rfl⟩
    rw [trim_append hbefore hafter hnumeral.ne_nil hnumeral.isBlank_eq_false]
    exact hnumeral
  · intro hnumeral
    obtain ⟨before, after, hbefore, hafter, hcs⟩ := exists_eq_append_trim cs
    exact ⟨before, trim cs, after, hbefore, hafter, hnumeral, hcs⟩

/-- A size is read from the texts that spell one. -/
theorem readWord?_trim_eq_some_iff {cs : List Char} {n : Nat} :
    readWord? (trim cs) = some n ↔ Spells cs n ∧ n ≤ maxWord := by
  rw [readWord?_eq_some_iff, spells_iff_trim]

/-! ## The normal form -/

/-- A digit is its value in decimal. -/
theorem toDigits_of_isDigit {c : Char} (h : c.isDigit = true) :
    c.toNat - '0'.toNat < 10 ∧ Nat.toDigits 10 (c.toNat - '0'.toNat) = [c] := by
  have hrange := toNat_of_isDigit h
  have hlt : c.toNat - 48 < 10 := by omega
  have hchar : (c.toNat - 48).digitChar = c := by
    rw [← Char.toNat_inj, Nat.toNat_digitChar_of_lt_ten hlt]
    omega
  exact ⟨hlt, (Nat.toDigits_of_lt_base hlt).trans (congrArg ([·]) hchar)⟩

/-- Digits are their value in decimal behind zeros. -/
theorem exists_eq_replicate_append {digits : List Char} (hne : digits ≠ [])
    (h : ∀ c ∈ digits, c.isDigit = true) :
    ∃ zeros, digits = List.replicate zeros '0' ++ Nat.toDigits 10 (placeValue digits) := by
  induction digits using List.reverseRecOn with
  | nil => exact absurd rfl hne
  | append_singleton digits c ih =>
    obtain ⟨hdigits, hc⟩ := List.forall_mem_append.1 h
    obtain ⟨hlt, hdigit⟩ := toDigits_of_isDigit (hc c List.mem_cons_self)
    rw [placeValue_concat]
    rcases Nat.eq_zero_or_pos (placeValue digits) with hzero | hpos
    · -- The last digit is the value, and there are only zeros in front of it.
      rw [hzero, Nat.mul_zero, Nat.zero_add, hdigit]
      by_cases hnil : digits = []
      · exact ⟨0, by rw [hnil]; rfl⟩
      · obtain ⟨zeros, hzeros⟩ := ih hnil hdigits
        rw [hzero] at hzeros
        refine ⟨zeros + 1, ?_⟩
        rw [List.replicate_succ', hzeros]
        rfl
    · have hnil : digits ≠ [] := by
        rintro rfl
        exact absurd hpos (by decide)
      obtain ⟨zeros, hzeros⟩ := ih hnil hdigits
      refine ⟨zeros, ?_⟩
      rw [← Nat.toDigits_append_toDigits (by decide) hpos hlt, hdigit, ← List.append_assoc,
        ← hzeros]

/-- Zeros in front do not change a number. -/
theorem placeValue_padded (zeros n : Nat) :
    placeValue (List.replicate zeros '0' ++ (toString n).toList) = n := by
  have hzeros : Nat.ofDigitChars 10 (List.replicate zeros '0') 0 = 0 := by
    induction zeros with
    | zero => rfl
    | succ zeros ih => exact ih
  rw [← ofDigitChars_eq_placeValue, Nat.ofDigitChars_append, hzeros, Nat.toString_eq_repr,
    Nat.toList_repr, Nat.ofDigitChars_ten_toDigits]

/-- The digits of a number are its text behind any number of zeros. -/
theorem digits_iff_padded {cs : List Char} {n : Nat} :
    Digits cs n ↔ ∃ zeros, cs = List.replicate zeros '0' ++ (toString n).toList := by
  constructor
  · rintro ⟨hne, hdigits, rfl⟩
    rw [Nat.toString_eq_repr, Nat.toList_repr]
    exact exists_eq_replicate_append hne hdigits
  · rintro ⟨zeros, rfl⟩
    refine ⟨List.append_ne_nil_of_right_ne_nil _ (toList_toString_ne_nil n), ?_,
      placeValue_padded zeros n⟩
    refine List.forall_mem_append.2 ⟨fun c hc => ?_, fun _ => isDigit_of_mem_toString⟩
    rw [List.eq_of_mem_replicate hc]
    rfl

/-- The texts that spell a number are the number in decimal, behind any zeros and at most one plus
sign, with any white space around it. -/
theorem spells_iff_padded {cs : List Char} {n : Nat} :
    Spells cs n ↔ ∃ before sign zeros after, Blank before ∧ Blank after ∧
      (sign = [] ∨ sign = ['+']) ∧
      cs = before ++ (sign ++ (List.replicate zeros '0' ++ (toString n).toList)) ++ after := by
  constructor
  · rintro ⟨before, numeral, after, hbefore, hafter, hnumeral, rfl⟩
    cases hnumeral with
    | unsigned hdigits =>
      obtain ⟨zeros, rfl⟩ := digits_iff_padded.1 hdigits
      exact ⟨before, [], zeros, after, hbefore, hafter, .inl rfl, rfl⟩
    | signed hdigits =>
      obtain ⟨zeros, rfl⟩ := digits_iff_padded.1 hdigits
      exact ⟨before, ['+'], zeros, after, hbefore, hafter, .inr rfl, rfl⟩
  · rintro ⟨before, sign, zeros, after, hbefore, hafter, hsign, rfl⟩
    have hdigits : Digits _ n := digits_iff_padded.2 ⟨zeros, rfl⟩
    rcases hsign with rfl | rfl
    · exact ⟨before, _, after, hbefore, hafter, .unsigned hdigits, rfl⟩
    · exact ⟨before, _, after, hbefore, hafter, .signed hdigits, rfl⟩

end Dataflow.Text
