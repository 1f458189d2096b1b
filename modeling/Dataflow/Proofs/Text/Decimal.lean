import Dataflow.Text.Unsigned

/-!
# Numbers in decimal

A number written in decimal is read back, alone (`readNat?_toString`) and in front of a text that
does not go on with a digit (`takeNat?_toString`).
-/

namespace Dataflow.Text

/-- A number is written with digits only. -/
theorem isDigit_of_mem_toString {n : Nat} {c : Char} (h : c ∈ (toString n).toList) :
    c.isDigit = true := by
  rw [Nat.toString_eq_repr, Nat.toList_repr] at h
  exact Nat.isDigit_of_mem_toDigits (by decide) (by decide) h

/-- The text of a number has digits only. -/
theorem notMem_toString {c : Char} (hc : c.isDigit = false) (n : Nat) :
    c ∉ (toString n).toList := by
  intro hmem
  rw [isDigit_of_mem_toString hmem] at hc
  nomatch hc

/-- The text of a number is not empty. -/
theorem toList_toString_ne_nil (n : Nat) : (toString n).toList ≠ [] := by
  rw [Nat.toString_eq_repr, Nat.toList_repr]
  exact Nat.toDigits_ne_nil

/-- A digit is read as its distance from the digit zero. -/
theorem digit?_of_isDigit {c : Char} (h : c.isDigit = true) :
    digit? c = some (c.toNat - '0'.toNat) := by
  simp only [Char.isDigit, Bool.and_eq_true, decide_eq_true_eq] at h
  exact if_pos h

/-- Digits are read as the number that they write in base ten. -/
theorem readDigits?_eq {cs : List Char} (h : ∀ c ∈ cs, c.isDigit = true) (value : Nat) :
    readDigits? value cs = some (Nat.ofDigitChars 10 cs value) := by
  induction cs generalizing value with
  | nil => rfl
  | cons c cs ih =>
    rw [readDigits?, digit?_of_isDigit (h c List.mem_cons_self), Nat.ofDigitChars_cons]
    exact ih (fun d hd => h d (List.mem_cons_of_mem c hd)) _

/-- Nothing but a digit is read as one. -/
theorem isDigit_of_digit? {c : Char} {d : Nat} (h : digit? c = some d) : c.isDigit = true := by
  unfold digit? at h
  split at h
  · next hc => simpa [Char.isDigit, Char.le_def] using hc
  · nomatch h

/-- Only digits are read. -/
theorem isDigit_of_readDigits? {cs : List Char} {value n : Nat}
    (h : readDigits? value cs = some n) :
    ∀ c ∈ cs, c.isDigit = true := by
  induction cs generalizing value with
  | nil => nofun
  | cons c cs ih =>
    obtain ⟨d, hd, hrest⟩ := Option.bind_eq_some_iff.1 h
    exact List.forall_mem_cons.2 ⟨isDigit_of_digit? hd, ih hrest⟩

/-- A text that is not empty is read digit by digit. -/
theorem readNat?_eq_of_ne_nil {cs : List Char} (h : cs ≠ []) : readNat? cs = readDigits? 0 cs := by
  cases cs with
  | nil => exact absurd rfl h
  | cons c cs => rfl

/-- A number is read back. -/
theorem readNat?_toString (n : Nat) : readNat? (toString n).toList = some n := by
  rw [readNat?_eq_of_ne_nil (toList_toString_ne_nil n),
    readDigits?_eq fun _ => isDigit_of_mem_toString, Nat.toString_eq_repr, Nat.toList_repr,
    Nat.ofDigitChars_ten_toDigits]

/-- The number with which a text starts, and what follows its digits. -/
def takeNat? (cs : List Char) : Option (Nat × List Char) :=
  (readNat? (cs.takeWhile Char.isDigit)).map (·, cs.dropWhile Char.isDigit)

/-- A number is read back in front of a piece of text that does not start with a digit. -/
theorem takeNat?_toString (n : Nat) {piece : List Char}
    (h : piece.head?.any (fun c => !c.isDigit) = true) (rest : List Char) :
    takeNat? ((toString n).toList ++ (piece ++ rest)) = some (n, piece ++ rest) := by
  have hdigits : ∀ d ∈ (toString n).toList, d.isDigit = true := fun _ => isDigit_of_mem_toString
  cases piece with
  | nil => nomatch h
  | cons c piece =>
    have hstop : ¬c.isDigit = true := by simpa using h
    rw [List.cons_append, takeNat?, List.takeWhile_append_of_pos hdigits,
      List.dropWhile_append_of_pos hdigits, List.takeWhile_cons_of_neg hstop,
      List.dropWhile_cons_of_neg hstop, List.append_nil, readNat?_toString, Option.map_some]

end Dataflow.Text
