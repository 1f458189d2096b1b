import Mathlib
import Dataflow.Proofs.Op.Catalog

/-!
# The kernels of an op

A run of registrations tells the kernels of each op: those whose registration under the op's name
has succeeded while a registry had this very op under the name (`Catalog.credited`). So they are in
the order of their registration, whether or not a registry still has the op.

An op is in one registry at most (`Catalog.Exclusive`). A teardown of this registry retires it
(`Catalog.Retired`): no registry has it any more, whatever is registered under its name afterwards,
and its kernels stay as they are.
-/

namespace Dataflow.Catalog

variable {c c' : Catalog} {s : Step} {answer : Except Error (Option Op)} {op : Op}

/-! ## Kernels by registrations -/

/-- The kernel that a step with its answer adds to an op: one that was registered under the name of
the op while the registry had this op. -/
def credit (c : Catalog) (op : Op) : Step → Except Error (Option Op) → List KernelDef
  | .kernel registry name kernel, .ok _ =>
    if name = op.name ∧
        ((c.registry registry).ops.get? name).map (·.serial) = some op.serial then [kernel]
    else []
  | _, _ => []

/-- The kernels that steps add to an op, one after the other. -/
def credited (op : Op) : Catalog → List Step → List KernelDef
  | _, [] => []
  | c, s :: rest => c.credit op s (c.perform s).1 ++ credited op (c.perform s).2 rest

/-- What the last step credits to an op comes behind what was credited before. -/
theorem credited_concat (op : Op) (c : Catalog) (steps : List Step) (s : Step) :
    credited op c (steps ++ [s]) =
      credited op c steps ++
        (Run.after perform c steps).credit op s ((Run.after perform c steps).perform s).1 := by
  induction steps generalizing c with
  | nil => exact List.append_nil _
  | cons first rest ih =>
    rw [List.cons_append, credited, ih, credited, List.append_assoc]
    rfl

/-- A run of steps and one more is the run of the steps, and then the step. -/
theorem run_concat (steps : List Step) (s : Step) :
    run (steps ++ [s]) = ((run steps).perform s).2 :=
  Run.after_append ..

/-- The op of a name is the one that is entered under it. -/
theorem getOp_eq_ok_iff {r : OpRegistry} {name : String} :
    r.getOp name = .ok op ↔ r.ops.get? name = some op := by
  unfold OpRegistry.getOp
  cases r.ops.get? name <;> simp

/-- No other op has the serial number of this one. -/
def Only (c : Catalog) (op : Op) : Prop :=
  ∀ op', c.Issued op' → op'.serial = op.serial → op' = op

theorem Issued.only (h : c.Issued op) : c.Only op := fun _ h' => h'.unique h

/-- A step adds to the kernels of an op what it is credited with. -/
theorem Turn.kernels {s : Step} {answer : Except Error (Option Op)} (hturn : c.Turn s answer c')
    (h : c.Sound) (honly : c.Only op) :
    c'.book.kernels op = c.book.kernels op ++ c.credit op s answer := by
  cases hturn with
  | refused => cases s <;> exact (List.append_nil _).symm
  | op | freeze | teardown => exact (List.append_nil _).symm
  | @kernel registry name target kernel _ hfound =>
    have hget := getOp_eq_ok_iff.1 hfound
    obtain ⟨hissued, hname⟩ := h.registered registry name target hget
    rw [KernelBook.kernels_push, credit, hget, Option.map_some]
    by_cases hserial : target.serial = op.serial
    · obtain rfl := honly target hissued hserial
      rw [if_pos rfl, if_pos ⟨hname.symm, rfl⟩]
    · rw [if_neg hserial, if_neg fun hboth => hserial (Option.some.inj hboth.2), List.append_nil]

/-- The kernels of an op are those that the run is credited with. -/
theorem kernels_run (steps : List Step) (honly : (run steps).Only op) :
    (run steps).book.kernels op = credited op {} steps := by
  induction steps using List.reverseRecOn with
  | nil => rfl
  | append_singleton steps s ih =>
    rw [run_concat] at honly ⊢
    have hbefore : (run steps).Only op := fun op' hop' =>
      honly op' (((run steps).perform_turn s).issued hop')
    rw [credited_concat, ((run steps).perform_turn s).kernels (sound_run steps) hbefore,
      ih hbefore]
    rfl

/-- A step that fails changes nothing. -/
theorem eq_of_error {s : Step} {e : Error} (h : (c.perform s).1 = .error e) :
    (c.perform s).2 = c := by
  have hturn := c.perform_turn s
  rw [h] at hturn
  generalize (c.perform s).2 = c' at hturn ⊢
  cases hturn with
  | refused => rfl

/-! ## Ops that no registry has any more -/

/-- A registry has an op under a name. -/
def Registered (c : Catalog) (registry name : String) (op : Op) : Prop :=
  (c.registry registry).ops.get? name = some op

/-- An op is in one registry at most. -/
def Exclusive (c : Catalog) : Prop :=
  ∀ registry registry' name name' op, c.Registered registry name op →
    c.Registered registry' name' op → registry = registry'

/-- The op was registered, but no registry has it. -/
structure Retired (c : Catalog) (op : Op) : Prop where
  issued : c.Issued op
  gone : ∀ registry name, ¬ c.Registered registry name op

/-- What is registered after a registry was set is there, or in another registry as before. -/
theorem registered_setRegistry {registry registry' name : String} {r : OpRegistry}
    (h : (c.setRegistry registry r).Registered registry' name op) :
    registry' = registry ∧ r.ops.get? name = some op ∨
      registry' ≠ registry ∧ c.Registered registry' name op := by
  rw [Registered, registry_setRegistry] at h
  split at h
  · exact .inl ⟨Eq.symm ‹_›, h⟩
  · exact .inr ⟨Ne.symm ‹_›, h⟩

/-- After a step the registries have no ops but those that they had, and a new one in one of
them. -/
theorem Turn.registered_cases (hturn : c.Turn s answer c') :
    ∃ home, ∀ registry name op, c'.Registered registry name op →
      c.Registered registry name op ∨ registry = home ∧ op.serial = c.issued.length := by
  cases hturn with
  | refused | kernel => exact ⟨"", fun _ _ _ h => .inl h⟩
  | @op home _ _ _ _ new hop =>
    refine ⟨home, fun registry name op h => ?_⟩
    have h : (c.setRegistry home { c.registry home with
      ops := (c.registry home).ops.insert new.name new }).Registered registry name op := h
    rcases registered_setRegistry h with ⟨rfl, h⟩ | ⟨-, h⟩
    · rw [Table.get?_insert] at h
      split at h
      · cases h
        exact .inr ⟨rfl, (declare_eq_ok hop).1⟩
      · exact .inl h
    · exact .inl h
  | freeze =>
    refine ⟨"", fun registry name op h => .inl ?_⟩
    rcases registered_setRegistry h with ⟨rfl, h⟩ | ⟨-, h⟩
    · exact h
    · exact h
  | teardown =>
    refine ⟨"", fun registry name op h => .inl ?_⟩
    rcases registered_setRegistry h with ⟨rfl, h⟩ | ⟨-, h⟩
    · cases h
    · exact h

/-- A step registers no op with two registries. -/
theorem Turn.exclusive (hturn : c.Turn s answer c') (hsound : c.Sound) (h : c.Exclusive) :
    c'.Exclusive := by
  obtain ⟨home, hcases⟩ := hturn.registered_cases
  have hold : ∀ registry name op, c.Registered registry name op → op.serial < c.issued.length :=
    fun registry name op hop => (hsound.registered registry name op hop).1.serial_lt
  intro registry registry' name name' op hop hop'
  rcases hcases _ _ _ hop with hop | ⟨hhome, hnew⟩ <;>
    rcases hcases _ _ _ hop' with hop' | ⟨hhome', hnew'⟩
  · exact h _ _ _ _ _ hop hop'
  · exact absurd hnew' (Nat.ne_of_lt (hold _ _ _ hop))
  · exact absurd hnew (Nat.ne_of_lt (hold _ _ _ hop'))
  · rw [hhome, hhome']

/-- After every run each op is in one registry at most. -/
theorem exclusive_run (steps : List Step) : (run steps).Exclusive := by
  let P (c : Catalog) : Prop := c.Sound ∧ c.Exclusive
  have hrun : P (run steps) :=
    Run.after_induction steps ⟨sound_empty, fun _ _ _ _ _ hop => nomatch hop⟩
      fun c s h => ⟨(c.perform_turn s).sound h.1, (c.perform_turn s).exclusive h.1 h.2⟩
  exact hrun.2

/-- A teardown retires the ops of its registry. -/
theorem Exclusive.retired (h : c.Exclusive) (hsound : c.Sound) {registry name : String}
    (hop : c.Registered registry name op) :
    (c.setRegistry registry (c.registry registry).teardown).Retired op where
  issued := (hsound.registered registry name op hop).1
  gone registry' name' hop' := by
    rcases registered_setRegistry hop' with ⟨-, hop'⟩ | ⟨hne, hop'⟩
    · cases hop'
    · exact hne (h _ _ _ _ _ hop' hop)

/-- A step leaves an op retired. -/
theorem Turn.retired (hturn : c.Turn s answer c') (h : c.Retired op) : c'.Retired op where
  issued := hturn.issued h.issued
  gone registry name hop := by
    obtain ⟨home, hcases⟩ := hturn.registered_cases
    rcases hcases _ _ _ hop with hop | ⟨-, hnew⟩
    · exact h.gone _ _ hop
    · exact Nat.ne_of_lt h.issued.serial_lt hnew

/-- A step leaves the kernels of a retired op as they are. -/
theorem Turn.kernels_retired (hturn : c.Turn s answer c') (hsound : c.Sound) (h : c.Retired op) :
    c'.book.kernels op = c.book.kernels op := by
  cases hturn with
  | refused | op | freeze | teardown => rfl
  | @kernel registry name target _ _ hfound =>
    rw [KernelBook.kernels_push, if_neg]
    intro hserial
    have htarget := (hsound.issued_of_getOp hfound).unique h.issued hserial
    exact h.gone registry name (htarget ▸ getOp_eq_ok_iff.1 hfound)

/-- Nothing that is done afterwards changes the kernels of a retired op or registers it again. -/
theorem Retired.run (h : c.Retired op) (hsound : c.Sound) (steps : List Step) :
    (Run.after perform c steps).Retired op ∧
      (Run.after perform c steps).book.kernels op = c.book.kernels op := by
  let P (c' : Catalog) : Prop :=
    c'.Sound ∧ c'.Retired op ∧ c'.book.kernels op = c.book.kernels op
  have hrun : P (Run.after perform c steps) :=
    Run.after_induction steps ⟨hsound, h, rfl⟩ fun c' s ⟨hsound', h', hkernels⟩ =>
      have hturn := c'.perform_turn s
      ⟨hturn.sound hsound', hturn.retired h', (hturn.kernels_retired hsound' h').trans hkernels⟩
  exact hrun.2

/-- **Kernels are listed as they were registered.** After every run an op is registered under its
name, and the kernels of an op, whether or not it is still registered, are those whose registration
under its name has succeeded while it was the registered one, in this order; each has as many
inputs and outputs as the op. A registration that fails changes nothing. After a teardown, whatever
is done, the ops that the registry had keep their kernels as they are and are not registered
again. -/
theorem kernels_credited (steps : List Step) :
    (∀ registry name op, (run steps).Registered registry name op →
      (run steps).Issued op ∧ op.name = name) ∧
    (∀ op, (run steps).Issued op →
      (run steps).book.kernels op = credited op {} steps ∧
        ∀ k ∈ (run steps).book.kernels op,
          k.inputs.length = op.numInputs ∧ k.outputs.length = op.numOutputs) ∧
    (∀ s e, ((run steps).perform s).1 = .error e → ((run steps).perform s).2 = run steps) ∧
    ∀ registry name old, (run steps).Registered registry name old →
      ∀ more, (run (steps ++ .teardown registry :: more)).Retired old ∧
        (run (steps ++ .teardown registry :: more)).book.kernels old =
          (run steps).book.kernels old := by
  have hsound := sound_run steps
  refine ⟨hsound.registered, fun op hop => ⟨kernels_run steps hop.only, hsound.arity op hop⟩,
    fun s e => eq_of_error, fun registry name old hold more => ?_⟩
  -- no other registry has the op, so the teardown retires it for good
  have hretired := (exclusive_run steps).retired hsound hold
  have hteardown := ((run steps).perform_turn (.teardown registry)).sound hsound
  have hafter : run (steps ++ .teardown registry :: more) =
      Run.after perform
        ((run steps).setRegistry registry ((run steps).registry registry).teardown) more :=
    Run.after_append ..
  rw [hafter]
  exact hretired.run hteardown more

end Dataflow.Catalog
