import Dataflow.Properties
import Dataflow.Proofs.Except
import Dataflow.Proofs.Text.Numeral

/-!
# Properties from environment variables

A variable that is set has to spell a size: a numeral of a number that fits a word, with any white
space around it. The properties are overridden exactly if every variable that is set does; each
such variable then decides its field and leaves the other one as it was. Otherwise the error names
the first variable that does not, and quotes its text as it is
(`Properties.withEnvironment_decides`).
-/

namespace Dataflow.Properties

/-- The text spells a size that fits a word. -/
def SpellsSize (text : String) (n : Nat) : Prop :=
  Text.Spells text.toList n ∧ n ≤ maxWord

/-- The text spells some size. -/
def Sized (text : String) : Prop :=
  ∃ n, SpellsSize text n

/-- What the value of a variable makes of its field: if the variable is set, the size that it
spells. -/
def Overrides : Option String → Nat → Nat → Prop
  | none, before, after => after = before
  | some text, _, after => SpellsSize text after

/-! ## One variable -/

section
variable (variableName : String) {text : String} {value : Option String}

/-- A text that spells a size overrides with it. -/
theorem override?_of_spells {n : Nat} (h : SpellsSize text n) :
    override? variableName (some text) = .ok (some n) := by
  rw [override?, Text.readWord?_trim_eq_some_iff.2 h]

/-- A text that spells no size is refused, and the error cites it as it stands. -/
theorem override?_of_not_sized (h : ¬Sized text) :
    override? variableName (some text) = .error (.invalidEnvValue variableName text) := by
  have hnone : Text.readWord? (Text.trim text.toList) = none :=
    Option.eq_none_iff_forall_ne_some.2 fun n hn => h ⟨n, Text.readWord?_trim_eq_some_iff.1 hn⟩
  rw [override?, hnone]

/-- A variable is accepted if it is not set or spells a size. -/
theorem exists_override?_iff :
    (∃ n?, override? variableName value = .ok n?) ↔ ∀ text, value = some text → Sized text := by
  constructor
  · rintro ⟨n?, h⟩ text rfl
    by_contra hsized
    rw [override?_of_not_sized variableName hsized] at h
    nomatch h
  · intro h
    cases value with
    | none => exact ⟨none, rfl⟩
    | some text =>
      obtain ⟨n, hn⟩ := h text rfl
      exact ⟨some n, override?_of_spells variableName hn⟩

/-- A variable that is accepted decides its field. -/
theorem overrides_iff {before after : Nat} : Overrides value before after ↔
    ∃ n?, override? variableName value = .ok n? ∧ n?.getD before = after := by
  cases value with
  | none =>
    constructor
    · rintro rfl
      exact ⟨none, rfl, rfl⟩
    · rintro ⟨_, ⟨⟩, rfl⟩
      rfl
  | some text =>
    constructor
    · intro h
      exact ⟨some after, override?_of_spells variableName h, rfl⟩
    · rintro ⟨n?, h, rfl⟩
      obtain ⟨n, hn⟩ := (exists_override?_iff variableName).1 ⟨n?, h⟩ text rfl
      rw [override?_of_spells variableName hn] at h
      cases h
      exact hn

/-- A variable is refused if it is set to a text that spells no size. -/
theorem override?_eq_error_iff {e : Error} : override? variableName value = .error e ↔
    ∃ text, value = some text ∧ ¬Sized text ∧ e = .invalidEnvValue variableName text := by
  constructor
  · intro h
    obtain ⟨text, rfl, hsized⟩ : ∃ text, value = some text ∧ ¬Sized text := by
      by_contra hall
      push Not at hall
      obtain ⟨n?, hok⟩ := (exists_override?_iff variableName).2 hall
      rw [hok] at h
      nomatch h
    rw [override?_of_not_sized variableName hsized] at h
    exact ⟨text, rfl, hsized, (Except.error.inj h).symm⟩
  · rintro ⟨text, rfl, hsized, rfl⟩
    exact override?_of_not_sized variableName hsized

end

/-! ## Both variables -/

variable {p q : Properties} {env : Environment}

/-- The environment is accepted if both variables are, and each overrides its own field. -/
theorem withEnvironment_eq_ok_iff : p.withEnvironment env = .ok q ↔
    (∃ limit, override? limitVariable env.limit = .ok limit ∧
      limit.getD p.tensorByteLengthLimit = q.tensorByteLengthLimit) ∧
    ∃ count, override? countVariable env.count = .ok count ∧
      count.getD p.cpuDeviceCount = q.cpuDeviceCount := by
  simp only [withEnvironment, except_bind_eq_ok]
  constructor
  · rintro ⟨limit, hlimit, count, hcount, ⟨⟩⟩
    exact ⟨⟨limit, hlimit, rfl⟩, count, hcount, rfl⟩
  · rintro ⟨⟨limit, hlimit, hl⟩, count, hcount, hc⟩
    refine ⟨limit, hlimit, count, hcount, ?_⟩
    rw [hl, hc]
    rfl

/-- The limit is looked at first, and the count only if the limit is accepted. -/
theorem withEnvironment_eq_error_iff {e : Error} : p.withEnvironment env = .error e ↔
    override? limitVariable env.limit = .error e ∨
      (∃ limit, override? limitVariable env.limit = .ok limit) ∧
        override? countVariable env.count = .error e := by
  simp only [withEnvironment, except_bind_eq_error, pure, Except.pure, reduceCtorEq, and_false,
    exists_false, or_false, exists_and_right]

/-- **Which environments override the properties.** The result exists if and only if every variable
that is set spells a size that fits a word. It has these sizes in the fields of the set variables
and is otherwise the same. If there is none, the error names the limit if this is set and spells no
size, and the number of devices otherwise, with the text as it is. A size in decimal is read back
from any white space around it. -/
theorem withEnvironment_decides (p : Properties) (env : Environment) :
    ((∃ q, p.withEnvironment env = .ok q) ↔
      (∀ text, env.limit = some text → Sized text) ∧
        ∀ text, env.count = some text → Sized text) ∧
    (∀ q, p.withEnvironment env = .ok q ↔
      Overrides env.limit p.tensorByteLengthLimit q.tensorByteLengthLimit ∧
        Overrides env.count p.cpuDeviceCount q.cpuDeviceCount) ∧
    (∀ e, p.withEnvironment env = .error e ↔
      (∃ text, env.limit = some text ∧ ¬Sized text ∧
        e = .invalidEnvValue "GRAPHLOOM_TENSOR_LIMIT" text) ∨
      (∀ text, env.limit = some text → Sized text) ∧ ∃ text, env.count = some text ∧
        ¬Sized text ∧ e = .invalidEnvValue "GRAPHLOOM_CPU_DEVICES" text) ∧
    ∀ n ≤ maxWord, ∀ before after : List Char, Text.Blank before → Text.Blank after →
      ∀ variableName, override? variableName
        (some (String.ofList (before ++ (toString n).toList ++ after))) = .ok (some n) := by
  refine ⟨?_, fun q => ?_, fun e => ?_, ?_⟩
  · -- each variable is looked at by itself, and the result has the size of each
    rw [← exists_override?_iff limitVariable, ← exists_override?_iff countVariable]
    constructor
    · rintro ⟨q, hq⟩
      obtain ⟨⟨limit, hlimit, -⟩, count, hcount, -⟩ := withEnvironment_eq_ok_iff.1 hq
      exact ⟨⟨limit, hlimit⟩, count, hcount⟩
    · rintro ⟨⟨limit, hlimit⟩, count, hcount⟩
      let q : Properties := ⟨limit.getD p.tensorByteLengthLimit, count.getD p.cpuDeviceCount⟩
      exact ⟨q, withEnvironment_eq_ok_iff.2 ⟨⟨limit, hlimit, rfl⟩, count, hcount, rfl⟩⟩
  · rw [withEnvironment_eq_ok_iff, ← overrides_iff, ← overrides_iff]
  · rw [withEnvironment_eq_error_iff, exists_override?_iff, override?_eq_error_iff,
      override?_eq_error_iff]
    rfl
  · intro n hn before after hbefore hafter variableName
    refine override?_of_spells variableName ⟨?_, hn⟩
    rw [String.toList_ofList]
    exact Text.spells_iff_padded.2 ⟨before, [], 0, after, hbefore, hafter, .inl rfl, rfl⟩

/-- The limit is read from behind zeros; the negative number of devices is refused. -/
example : withEnvironment {} ⟨some " +007
", some "-1"⟩ =
    .error (.invalidEnvValue "GRAPHLOOM_CPU_DEVICES" "-1") := by
  decide +kernel

end Dataflow.Properties
