import Dataflow.Json.Basic

/-!
# The tokens of a JSON text

`Json.tokens?` cuts a text into brackets, separators and scalars; it answers `none` if some part of
the text is none of these.
-/

namespace Dataflow.Json

/-- A piece of a JSON text. -/
inductive Token
  | beginArray
  | endArray
  | beginObject
  | endObject
  | comma
  | colon
  | scalar (value : Json)

/-! ## Strings -/

/-- What one place of a string literal denotes: a character, or a unit of UTF-16 given by its
number. -/
inductive Piece
  | char (c : Char)
  | unit (n : Nat)

/-- The value of a hexadecimal digit. -/
def hexDigit? (c : Char) : Option Nat :=
  if '0' ≤ c ∧ c ≤ '9' then some (c.toNat - '0'.toNat)
  else if 'a' ≤ c ∧ c ≤ 'f' then some (c.toNat - 'a'.toNat + 10)
  else if 'A' ≤ c ∧ c ≤ 'F' then some (c.toNat - 'A'.toNat + 10)
  else none

/-- The unit of UTF-16 that four hexadecimal digits denote. -/
def unit? (a b c d : Char) : Option Piece := do
  let a ← hexDigit? a
  let b ← hexDigit? b
  let c ← hexDigit? c
  let d ← hexDigit? d
  return .unit (((a * 16 + b) * 16 + c) * 16 + d)

/-- The character that a letter after a backslash denotes. -/
def escape? : Char → Option Char
  | '"' => some '"'
  | '\\' => some '\\'
  | '/' => some '/'
  | 'b' => some (Char.ofNat 8)
  | 'f' => some (Char.ofNat 12)
  | 'n' => some '\n'
  | 'r' => some '\r'
  | 't' => some '\t'
  | _ => none

/-- The pieces of a string after its opening quote, and what follows its closing quote. A control
character must be escaped. -/
def readString? : List Char → Option (List Piece × List Char)
  | [] => none
  | '"' :: rest => some ([], rest)
  | '\\' :: 'u' :: a :: b :: c :: d :: rest => do
    let u ← unit? a b c d
    let (pieces, rest) ← readString? rest
    return (u :: pieces, rest)
  | '\\' :: e :: rest => do
    let c ← escape? e
    let (pieces, rest) ← readString? rest
    return (.char c :: pieces, rest)
  | c :: rest =>
    if c.toNat < 32 ∨ c = '\\' then none
    else do
      let (pieces, rest) ← readString? rest
      return (.char c :: pieces, rest)

/-- Whether a unit is the first half of a surrogate pair. -/
def isHighHalf (n : Nat) : Bool :=
  0xD800 ≤ n && n < 0xDC00

/-- Whether a unit is the second half of a surrogate pair. -/
def isLowHalf (n : Nat) : Bool :=
  0xDC00 ≤ n && n < 0xE000

/-- The characters that the pieces of a string denote, if no half of a surrogate pair stands
alone. -/
def decode? : List Piece → Option (List Char)
  | [] => some []
  | .char c :: rest => (decode? rest).map (c :: ·)
  | .unit n :: rest =>
    if isHighHalf n then
      match rest with
      | .unit m :: rest =>
        if isLowHalf m then
          (decode? rest).map (Char.ofNat (0x10000 + (n - 0xD800) * 0x400 + (m - 0xDC00)) :: ·)
        else none
      | _ => none
    else if isLowHalf n then none
    else (decode? rest).map (Char.ofNat n :: ·)

/-- Reading a string uses up its closing quote at least, so the reader of values comes to an
end. -/
theorem length_readString? {cs rest : List Char} {pieces : List Piece}
    (h : readString? cs = some (pieces, rest)) : rest.length < cs.length := by
  fun_induction readString? cs generalizing pieces with
  | case1 => simp at h
  | case2 => simp_all
  | case3 a b c d rest' ih =>
    simp only [Option.bind_eq_bind, Option.bind_eq_some_iff] at h
    obtain ⟨_, _, ⟨p, r⟩, h₁, h₂⟩ := h
    cases h₂
    have := ih h₁
    simp only [List.length_cons] at *; omega
  | case4 e rest' _ ih =>
    simp only [Option.bind_eq_bind, Option.bind_eq_some_iff] at h
    obtain ⟨_, _, ⟨p, r⟩, h₁, h₂⟩ := h
    cases h₂
    have := ih h₁
    simp only [List.length_cons] at *; omega
  | case5 => simp at h
  | case6 c rest' _ _ _ _ ih =>
    simp only [Option.bind_eq_bind, Option.bind_eq_some_iff] at h
    obtain ⟨⟨p, r⟩, h₁, h₂⟩ := h
    cases h₂
    have := ih h₁
    simp only [List.length_cons] at *; omega

/-! ## Numbers -/

/-- The digits at the front of a text, and the rest. -/
def spanDigits (cs : List Char) : List Char × List Char :=
  (cs.takeWhile Char.isDigit, cs.dropWhile Char.isDigit)

/-- Whether a text begins with a fraction, and what follows it: `none` if a point has no digit
behind it. -/
def skipFraction? : List Char → Option (Bool × List Char)
  | '.' :: rest => if (spanDigits rest).1.isEmpty then none else some (true, (spanDigits rest).2)
  | cs => some (false, cs)

/-- The text after a sign, if it begins with one. -/
def skipSign : List Char → List Char
  | '+' :: rest => rest
  | '-' :: rest => rest
  | cs => cs

/-- Whether a text begins with an exponent, and what follows it: `none` if it has no digit. -/
def skipExponent? : List Char → Option (Bool × List Char)
  | c :: rest =>
    if c = 'e' ∨ c = 'E' then
      let digits := skipSign rest
      if (spanDigits digits).1.isEmpty then none else some (true, (spanDigits digits).2)
    else some (false, c :: rest)
  | [] => some (false, [])

/-- The value of a list of decimal digits. -/
def ofDigits (cs : List Char) : Nat :=
  cs.foldl (fun n c => 10 * n + (c.toNat - '0'.toNat)) 0

/-- Whether digits are the whole part of a number: only a lone zero begins with zero. -/
def isWhole : List Char → Bool
  | [] => false
  | [_] => true
  | c :: _ => c != '0'

/-- An unsigned number at the front of a text, and the rest. -/
def readNumber? (cs : List Char) : Option (Json × List Char) :=
  if isWhole (spanDigits cs).1 then do
    let (fraction, rest) ← skipFraction? (spanDigits cs).2
    let (exponent, rest) ← skipExponent? rest
    return (if fraction || exponent then .number else .natural (ofDigits (spanDigits cs).1), rest)
  else none

/-- The digits in front and what follows them make up the text. -/
theorem length_spanDigits (cs : List Char) :
    (spanDigits cs).1.length + (spanDigits cs).2.length = cs.length := by
  rw [← List.length_append]
  exact congrArg List.length List.takeWhile_append_dropWhile

/-- Skipping a sign leaves no more than there was. -/
theorem length_skipSign_le (cs : List Char) : (skipSign cs).length ≤ cs.length := by
  unfold skipSign
  split <;> simp

/-- Skipping a fraction leaves no more than there was. -/
theorem length_skipFraction? {cs rest : List Char} {present : Bool}
    (h : skipFraction? cs = some (present, rest)) : rest.length ≤ cs.length := by
  unfold skipFraction? at h
  split at h
  · rename_i tail
    split at h
    · cases h
    · cases h
      have := length_spanDigits tail
      simp only [List.length_cons]; omega
  · cases h; exact Nat.le_refl _

/-- Skipping an exponent leaves no more than there was. -/
theorem length_skipExponent? {cs rest : List Char} {present : Bool}
    (h : skipExponent? cs = some (present, rest)) : rest.length ≤ cs.length := by
  unfold skipExponent? at h
  split at h
  · rename_i c tail
    split at h
    · simp only at h
      split at h
      · cases h
      · cases h
        have h₁ := length_spanDigits (skipSign tail)
        have h₂ := length_skipSign_le tail
        simp only [List.length_cons]; omega
    · cases h; exact Nat.le_refl _
  · cases h; exact Nat.le_refl _

/-- The whole part of a number has a digit. -/
theorem length_pos_of_isWhole {cs : List Char} (h : isWhole cs = true) : 0 < cs.length := by
  cases cs with
  | nil => cases h
  | cons => exact Nat.succ_pos _

/-- Reading a number uses up a digit at least, so the reader of values comes to an end. -/
theorem length_readNumber? {cs rest : List Char} {v : Json}
    (h : readNumber? cs = some (v, rest)) : rest.length < cs.length := by
  unfold readNumber? at h
  split at h
  · rename_i whole
    simp only [Option.bind_eq_bind, Option.bind_eq_some_iff] at h
    obtain ⟨⟨_, _⟩, h₁, ⟨_, _⟩, h₂, h₃⟩ := h
    cases h₃
    have := length_pos_of_isWhole whole
    have := length_spanDigits cs
    have := length_skipFraction? h₁
    have := length_skipExponent? h₂
    simp only at *; omega
  · cases h

/-! ## Tokens -/

/-- White space between tokens. -/
def isSpace (c : Char) : Bool :=
  c == ' ' || c == '\n' || c == '\t' || c == '\r'

/-- The tokens of a text. -/
def tokens? : List Char → Option (List Token)
  | [] => some []
  | '[' :: rest => (tokens? rest).map (.beginArray :: ·)
  | ']' :: rest => (tokens? rest).map (.endArray :: ·)
  | '\x7b' :: rest => (tokens? rest).map (.beginObject :: ·)
  | '\x7d' :: rest => (tokens? rest).map (.endObject :: ·)
  | ',' :: rest => (tokens? rest).map (.comma :: ·)
  | ':' :: rest => (tokens? rest).map (.colon :: ·)
  | 'n' :: 'u' :: 'l' :: 'l' :: rest => (tokens? rest).map (.scalar .null :: ·)
  | 't' :: 'r' :: 'u' :: 'e' :: rest => (tokens? rest).map (.scalar (.bool true) :: ·)
  | 'f' :: 'a' :: 'l' :: 's' :: 'e' :: rest => (tokens? rest).map (.scalar (.bool false) :: ·)
  | '"' :: rest =>
    match h : readString? rest with
    | some (pieces, after) =>
      have := length_readString? h
      (tokens? after).map (.scalar (.text ((decode? pieces).map String.ofList)) :: ·)
    | none => none
  | '-' :: rest =>
    match h : readNumber? rest with
    | some (_, after) =>
      have := length_readNumber? h
      (tokens? after).map (.scalar .number :: ·)
    | none => none
  | c :: rest =>
    if isSpace c then tokens? rest
    else
      match h : readNumber? (c :: rest) with
      | some (v, after) =>
        have := length_readNumber? h
        (tokens? after).map (.scalar v :: ·)
      | none => none
termination_by cs => cs.length
decreasing_by all_goals simp only [List.length_cons] at *; omega

end Dataflow.Json
