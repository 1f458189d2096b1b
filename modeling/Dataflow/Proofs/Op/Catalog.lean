import Dataflow.Op.Catalog
import Dataflow.Proofs.Except
import Dataflow.Run

/-!
# Registering ops and kernels

A catalog numbers the ops that are registered, so an op is told by its serial number also after a
teardown of its registry (`Catalog.Issued.unique`). What a step can do to a catalog, and what it
answers, is said once, by `Catalog.Turn`. Every step keeps the kernels of an op such that they have
as many inputs and outputs as the op (`Catalog.Sound`).
-/

namespace Dataflow

namespace Catalog

/-- A step on a registry of a catalog. -/
inductive Step
  | op (registry name : String) (numInputs : Nat) (shapes : List (Except Error Layout))
    (attributes : List String)
  | kernel (registry op : String) (kernel : KernelDef)
  | freeze (registry : String)
  | teardown (registry : String)

/-- One step. Its answer holds an op if the step has registered one. -/
def perform (c : Catalog) : Step → Except Error (Option Op) × Catalog
  | .op registry name numInputs shapes attributes =>
    let (r, c) := c.registerOp registry name numInputs shapes attributes
    (r.map some, c)
  | .kernel registry op kernel =>
    let (r, c) := c.registerKernel registry op kernel
    (r.map fun _ => none, c)
  | .freeze registry => (.ok none, c.setRegistry registry (c.registry registry).freeze)
  | .teardown registry => (.ok none, c.setRegistry registry (c.registry registry).teardown)

/-- Where steps lead from a catalog without ops. -/
def run (steps : List Step) : Catalog :=
  Run.after perform {} steps

/-! ## What a step does to a catalog -/

variable {c c' : Catalog} {s : Step} {answer : Except Error (Option Op)}

/-- A declared op has the serial number and the name that it was declared with. -/
theorem declare_eq_ok {serial numInputs : Nat} {name : String}
    {shapes : List (Except Error Layout)} {attributes : List String} {op : Op}
    (h : Op.declare serial name numInputs shapes attributes = .ok op) :
    op.serial = serial ∧ op.name = name ∧ op.numInputs = numInputs ∧ op.shapes = shapes := by
  obtain ⟨attributes, -, h⟩ := except_bind_eq_ok.1 h
  cases h
  exact ⟨rfl, rfl, rfl, rfl⟩

/-- An op can be registered with an open registry that has no op of the name. -/
theorem registerOp_eq_ok_iff {r r' : OpRegistry} {op : Op} :
    r.registerOp op = .ok r' ↔
      r.frozen = false ∧ r.has op.name = false ∧
        r' = { r with ops := r.ops.insert op.name op } := by
  unfold OpRegistry.registerOp
  by_cases hf : r.frozen = true
  · simp [hf]
  · by_cases hd : r.has op.name = true
    · simp [hf, hd]
    · simp [hf, hd, eq_comm]

/-- A kernel can be registered for an op of an open registry if it has as many inputs and
outputs. -/
theorem kernelTarget_eq_ok_iff {r : OpRegistry} {name : String} {kernel : KernelDef} {op : Op} :
    r.kernelTarget name kernel = .ok op ↔
      r.frozen = false ∧ r.getOp name = .ok op ∧ kernel.inputs.length = op.numInputs ∧
        kernel.outputs.length = op.numOutputs := by
  unfold OpRegistry.kernelTarget
  by_cases hf : r.frozen = true
  · simp [hf]
  · rw [if_neg hf, except_bind_eq_ok]
    constructor
    · rintro ⟨found, hfound, h⟩
      split at h
      · cases h
      · rename_i hin
        split at h
        · cases h
        · rename_i hout
          cases h
          exact ⟨Bool.eq_false_iff.2 hf, hfound, (Decidable.of_not_not hin).symm,
            (Decidable.of_not_not hout).symm⟩
    · rintro ⟨-, hfound, hin, hout⟩
      exact ⟨op, hfound, by simp [hin, hout]⟩

/-- What a step answers, and the catalog after it. -/
inductive Turn (c : Catalog) : Step → Except Error (Option Op) → Catalog → Prop
  /-- The registration is refused. -/
  | refused {step : Step} {e : Error} : Turn c step (.error e) c
  | op {registry name : String} {numInputs : Nat} {shapes : List (Except Error Layout)}
      {attributes : List String} {op : Op} :
      Op.declare c.issued.length name numInputs shapes attributes = .ok op →
      (c.registry registry).frozen = false → (c.registry registry).has op.name = false →
      Turn c (.op registry name numInputs shapes attributes) (.ok (some op))
        { c.setRegistry registry
            { c.registry registry with ops := (c.registry registry).ops.insert op.name op } with
          issued := c.issued ++ [op] }
  | kernel {registry name : String} {op : Op} {kernel : KernelDef} :
      (c.registry registry).frozen = false → (c.registry registry).getOp name = .ok op →
      kernel.inputs.length = op.numInputs → kernel.outputs.length = op.numOutputs →
      Turn c (.kernel registry name kernel) (.ok none) { c with book := c.book.push op kernel }
  | freeze {registry : String} :
      Turn c (.freeze registry) (.ok none) (c.setRegistry registry (c.registry registry).freeze)
  | teardown {registry : String} :
      Turn c (.teardown registry) (.ok none)
        (c.setRegistry registry (c.registry registry).teardown)

/-- A step of a catalog is one of the turns. -/
theorem perform_turn (c : Catalog) (s : Step) : c.Turn s (c.perform s).1 (c.perform s).2 := by
  cases s with
  | op registry name numInputs shapes attributes =>
    simp only [perform, registerOp]
    split
    · exact .refused
    · rename_i op r h
      obtain ⟨op', hop, h⟩ := except_bind_eq_ok.1 h
      obtain ⟨r', hr, h⟩ := except_bind_eq_ok.1 h
      cases h
      obtain ⟨hopen, hfresh, rfl⟩ := registerOp_eq_ok_iff.1 hr
      exact .op hop hopen hfresh
  | kernel registry name kernel =>
    simp only [perform, registerKernel]
    split
    · exact .refused
    · rename_i book h
      obtain ⟨op, hop, rfl⟩ := except_map_eq_ok.1 h
      obtain ⟨hopen, hfound, hin, hout⟩ := kernelTarget_eq_ok_iff.1 hop
      exact .kernel hopen hfound hin hout
  | freeze registry => exact .freeze
  | teardown registry => exact .teardown

/-! ## Ops and their kernels -/

/-- The op was registered, whether or not a registry still has it. -/
def Issued (c : Catalog) (op : Op) : Prop :=
  c.issued[op.serial]? = some op

/-- Ops that were registered are told apart by their serial numbers. -/
theorem Issued.unique {op op' : Op} (h : c.Issued op) (h' : c.Issued op')
    (hserial : op.serial = op'.serial) : op = op' := by
  unfold Issued at h h'
  rw [hserial, h', Option.some.injEq] at h
  exact h.symm

/-- The serial number of an op that was issued is below the next one. -/
theorem Issued.serial_lt {op : Op} (h : c.Issued op) : op.serial < c.issued.length :=
  (List.getElem?_eq_some_iff.1 h).1

/-- Registering another op leaves an op registered. -/
theorem Issued.append {op op' : Op} (h : c.Issued op) :
    Issued { c with issued := c.issued ++ [op'] } op :=
  (List.getElem?_append_left h.serial_lt).trans h

/-- An op that was registered stays so. -/
theorem Turn.issued (hturn : c.Turn s answer c') {op : Op} (h : c.Issued op) : c'.Issued op := by
  cases hturn with
  | refused | kernel | freeze | teardown => exact h
  | op => exact h.append

/-- What holds of the ops and kernels of every catalog. -/
structure Sound (c : Catalog) : Prop where
  /-- A registry has ops that were registered, each under its name. -/
  registered : ∀ registry name op, (c.registry registry).ops.get? name = some op →
    c.Issued op ∧ op.name = name
  /-- A kernel of an op has as many inputs and outputs as the op. -/
  arity : ∀ op, c.Issued op → ∀ k ∈ c.book.kernels op,
    k.inputs.length = op.numInputs ∧ k.outputs.length = op.numOutputs
  /-- There are no kernels for serial numbers that no op has yet. -/
  fresh : ∀ op : Op, c.issued.length ≤ op.serial → c.book.kernels op = []

/-- The empty catalog is sound. -/
theorem sound_empty : Sound {} where
  registered _ _ _ h := nomatch h
  arity _ h := nomatch h
  fresh _ _ := rfl

/-- An op that a registry answers was registered. -/
theorem Sound.issued_of_getOp (h : c.Sound) {registry name : String} {op : Op}
    (hop : (c.registry registry).getOp name = .ok op) : c.Issued op := by
  unfold OpRegistry.getOp at hop
  split at hop
  · cases hop
    exact (h.registered _ _ _ ‹_›).1
  · cases hop

/-- Setting a registry keeps a catalog sound if the ops that the registry has were registered. -/
theorem Sound.setRegistry (h : c.Sound) {registry : String} {r : OpRegistry}
    (hr : ∀ name op, r.ops.get? name = some op → c.Issued op ∧ op.name = name) :
    (c.setRegistry registry r).Sound where
  registered registry' name op hop := by
    rw [registry_setRegistry] at hop
    split at hop
    · exact hr name op hop
    · exact h.registered registry' name op hop
  arity := h.arity
  fresh := h.fresh

/-- A new op has no kernels yet, so it keeps a catalog sound. -/
theorem Sound.issue (h : c.Sound) (op : Op) : Sound { c with issued := c.issued ++ [op] } where
  registered registry name op' hop := by
    obtain ⟨hissued, hname⟩ := h.registered registry name op' hop
    exact ⟨hissued.append, hname⟩
  arity op' hop k hk := by
    rcases Nat.lt_or_ge op'.serial c.issued.length with hlt | hge
    · exact h.arity op' ((List.getElem?_append_left hlt).symm.trans hop) k hk
    · change k ∈ c.book.kernels op' at hk
      rw [h.fresh op' hge] at hk
      cases hk
  fresh op' hle := by
    rw [List.length_append] at hle
    exact h.fresh op' (Nat.le_of_succ_le hle)

/-- A kernel that has as many inputs and outputs as its op keeps a catalog sound. -/
theorem Sound.push (h : c.Sound) {op : Op} (hop : c.Issued op) {kernel : KernelDef}
    (hin : kernel.inputs.length = op.numInputs) (hout : kernel.outputs.length = op.numOutputs) :
    Sound { c with book := c.book.push op kernel } where
  registered := h.registered
  arity op' hop' k hk := by
    rw [KernelBook.kernels_push] at hk
    split at hk
    · obtain rfl := hop.unique hop' ‹_›
      rcases List.mem_append.1 hk with hk | hk
      · exact h.arity op hop k hk
      · obtain rfl := List.mem_singleton.1 hk
        exact ⟨hin, hout⟩
    · exact h.arity op' hop' k hk
  fresh op' hle := by
    rw [KernelBook.kernels_push, if_neg]
    · exact h.fresh op' hle
    · exact Nat.ne_of_lt (Nat.lt_of_lt_of_le hop.serial_lt hle)

/-- A step keeps a catalog sound. -/
theorem Turn.sound (hturn : c.Turn s answer c') (h : c.Sound) : c'.Sound := by
  cases hturn with
  | refused => exact h
  | @op registry _ _ _ _ op hop =>
    have hnew : (c.issued ++ [op])[op.serial]? = some op := by
      rw [(declare_eq_ok hop).1, List.getElem?_concat_length]
    refine (h.issue op).setRegistry fun name op' hop => ?_
    rw [Table.get?_insert] at hop
    split at hop
    · cases hop
      exact ⟨hnew, ‹_›⟩
    · exact (h.issue op).registered registry name op' hop
  | kernel _ hfound hin hout => exact h.push (h.issued_of_getOp hfound) hin hout
  | freeze => exact h.setRegistry fun name op hop => h.registered _ name op hop
  | teardown =>
    refine h.setRegistry fun name op hop => ?_
    cases hop

/-- Every run leads to a sound catalog. -/
theorem sound_run (steps : List Step) : (run steps).Sound :=
  Run.after_induction steps sound_empty fun c s h => (c.perform_turn s).sound h

end Catalog

end Dataflow
