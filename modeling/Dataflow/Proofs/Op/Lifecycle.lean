import Dataflow.Proofs.Op.Kernels

/-!
# Frozen and new registries of ops

A frozen registry takes neither ops nor kernels (`Catalog.Closed`). So until it is torn down it
stays as it is, and so do the kernels of its ops, whatever is done with other registries
(`Catalog.Keeps`): an op is in one registry at most, so no other registry can add kernels to it.

What a registry answers depends on nothing but its ops, the kernels and the number of ops that were
issued. So two registries that have the same ops answer the same steps alike (`Catalog.Twin`), and
a registry that was torn down answers as a new one does.
-/

namespace Dataflow.Catalog

variable {c c' : Catalog} {registry other : String}

/-! ## Frozen registries -/

/-- The registry takes neither ops nor kernels. -/
structure Closed (c : Catalog) (registry : String) : Prop where
  op : ∀ name numInputs shapes attributes op,
    Op.declare c.issued.length name numInputs shapes attributes = .ok op →
    c.perform (.op registry name numInputs shapes attributes) =
      (.error (.registryFrozen .op name), c)
  kernel : ∀ name kernel,
    c.perform (.kernel registry name kernel) = (.error (.registryFrozen .op name), c)

/-- A frozen registry of a catalog is closed: registering with it fails. -/
theorem closed_of_frozen (h : (c.registry registry).frozen = true) : c.Closed registry where
  op name numInputs shapes attributes op hop := by
    have hname := (declare_eq_ok hop).2.1
    have hregister : (c.registry registry).registerOp op = .error (.registryFrozen .op name) := by
      rw [OpRegistry.registerOp, if_pos h, hname]
    simp [perform, registerOp, hop, hregister, Except.map, Bind.bind, Except.bind]
  kernel name kernel := by
    have hregister : (c.registry registry).registerKernel c.book name kernel =
        .error (.registryFrozen .op name) := by
      rw [OpRegistry.registerKernel, OpRegistry.kernelTarget, if_pos h]
      rfl
    simp [perform, registerKernel, hregister, Except.map]

/-- The registry stays as it is, and so do the kernels of its ops. -/
structure Keeps (c : Catalog) (registry : String) (c' : Catalog) : Prop where
  same : c'.registry registry = c.registry registry
  kernels : ∀ name op, c.Registered registry name op → c'.book.kernels op = c.book.kernels op

theorem Keeps.refl (c : Catalog) (registry : String) : c.Keeps registry c :=
  ⟨rfl, fun _ _ _ => rfl⟩

/-- What is kept twice is kept. -/
theorem Keeps.trans {c'' : Catalog} (h : c.Keeps registry c') (h' : c'.Keeps registry c'') :
    c.Keeps registry c'' where
  same := h'.same.trans h.same
  kernels name op hop := by
    have hop' : c'.Registered registry name op := by
      rw [Registered, h.same]
      exact hop
    exact (h'.kernels name op hop').trans (h.kernels name op hop)

/-- Setting another registry changes neither this one nor any kernels. -/
theorem keeps_setRegistry (hne : other ≠ registry) (r : OpRegistry) :
    c.Keeps registry (c.setRegistry other r) where
  same := by rw [registry_setRegistry, if_neg hne]
  kernels _ _ _ := rfl

/-- A step leaves a frozen registry as it is, unless it tears the registry down. -/
theorem Turn.keeps {s : Step} {answer : Except Error (Option Op)} (hturn : c.Turn s answer c')
    (hsound : c.Sound) (hexclusive : c.Exclusive) (h : (c.registry registry).frozen = true)
    (hup : s ≠ .teardown registry) : c.Keeps registry c' := by
  have hne : ∀ home, (c.registry home).frozen = false → home ≠ registry := by
    rintro home hopen rfl
    rw [h] at hopen
    cases hopen
  cases hturn with
  | refused => exact .refl ..
  | op _ hopen =>
    have hkeeps := keeps_setRegistry (c := c) (hne _ hopen)
    exact ⟨(hkeeps _).same, fun _ _ _ => rfl⟩
  | kernel hopen hfound =>
    refine ⟨rfl, fun name op hop => ?_⟩
    rw [KernelBook.kernels_push, if_neg]
    -- The kernel's op would be in this registry and in an open one as well.
    intro hserial
    have hissued := (hsound.registered _ _ _ hop).1
    have htarget := (hsound.issued_of_getOp hfound).unique hissued hserial
    rw [htarget, getOp_eq_ok_iff] at hfound
    exact hne _ hopen (hexclusive _ _ _ _ _ hfound hop)
  | @freeze home =>
    by_cases hhome : home = registry
    · subst hhome
      refine ⟨?_, fun _ _ _ => rfl⟩
      rw [registry_setRegistry, if_pos rfl, OpRegistry.freeze, ← h]
    · exact keeps_setRegistry hhome _
  | teardown =>
    exact keeps_setRegistry (fun hhome => hup (congrArg Step.teardown hhome)) _

/-- Until it is torn down, a frozen registry stays as it is. -/
theorem keeps_after {before : List Step} (h : ((run before).registry registry).frozen = true)
    {during : List Step} (hup : .teardown registry ∉ during) :
    (run before).Keeps registry (run (before ++ during)) := by
  induction during using List.reverseRecOn with
  | nil =>
    rw [List.append_nil]
    exact .refl ..
  | append_singleton during s ih =>
    rw [List.mem_append, List.mem_singleton, not_or] at hup
    have hkeeps := ih hup.1
    rw [← List.append_assoc, run_concat]
    refine hkeeps.trans (((run (before ++ during)).perform_turn s).keeps (sound_run _)
      (exclusive_run _) ?_ (Ne.symm hup.2))
    rw [hkeeps.same]
    exact h

/-! ## New registries -/

/-- The step on another registry. -/
def Step.on (registry : String) : Step → Step
  | .op _ name numInputs shapes attributes => .op registry name numInputs shapes attributes
  | .kernel _ name definition => .kernel registry name definition
  | .freeze _ => .freeze registry
  | .teardown _ => .teardown registry

/-- A registry of the one catalog has the same ops as one of the other, with the same kernels. -/
structure Twin (registry other : String) (c c' : Catalog) : Prop where
  issued : c.issued = c'.issued
  book : c.book = c'.book
  same : c.registry registry = c'.registry other

/-- Setting both registries alike leaves them twins. -/
theorem Twin.setRegistry (h : Twin registry other c c') (r : OpRegistry) :
    Twin registry other (c.setRegistry registry r) (c'.setRegistry other r) where
  issued := h.issued
  book := h.book
  same := by rw [registry_setRegistry, registry_setRegistry, if_pos rfl, if_pos rfl]

/-- Registries with the same ops answer a step alike, and have the same ops after it. -/
theorem Twin.perform (h : Twin registry other c c') (s : Step) :
    (c.perform (s.on registry)).1 = (c'.perform (s.on other)).1 ∧
      Twin registry other (c.perform (s.on registry)).2 (c'.perform (s.on other)).2 := by
  cases s with
  | op _ name numInputs shapes attributes =>
    simp only [Step.on, Catalog.perform, registerOp, h.issued, h.same]
    split
    · exact ⟨rfl, h⟩
    · have htwin := h.setRegistry
      exact ⟨rfl, ⟨rfl, h.book, (htwin _).same⟩⟩
  | kernel _ name kernel =>
    simp only [Step.on, Catalog.perform, registerKernel, h.book, h.same]
    split
    · exact ⟨rfl, h⟩
    · exact ⟨rfl, ⟨h.issued, rfl, h.same⟩⟩
  | freeze =>
    have htwin := h.setRegistry (c.registry registry).freeze
    refine ⟨rfl, ?_⟩
    show Twin registry other (c.setRegistry registry (c.registry registry).freeze)
      (c'.setRegistry other (c'.registry other).freeze)
    rwa [← h.same]
  | teardown => exact ⟨rfl, h.setRegistry _⟩

/-- Registries with the same ops answer a run alike. -/
theorem Twin.run (h : Twin registry other c c') (steps : List Step) :
    Run.answers Catalog.perform c (steps.map (·.on registry)) =
        Run.answers Catalog.perform c' (steps.map (·.on other)) ∧
      Twin registry other (Run.after Catalog.perform c (steps.map (·.on registry)))
        (Run.after Catalog.perform c' (steps.map (·.on other))) := by
  induction steps generalizing c c' with
  | nil => exact ⟨rfl, h⟩
  | cons s rest ih =>
    obtain ⟨hanswer, hnext⟩ := h.perform s
    obtain ⟨hanswers, hafter⟩ := ih hnext
    refine ⟨?_, hafter⟩
    rw [List.map_cons, List.map_cons, Run.answers, Run.answers, hanswer, hanswers]

/-- A registry that was torn down has no ops and is open. -/
theorem registry_teardown (before : List Step) (registry : String) :
    (Catalog.run (before ++ [.teardown registry])).registry registry = {} := by
  rw [run_concat]
  exact (registry_setRegistry ..).trans (if_pos rfl)

/-- A registry that was torn down is like one that is new. -/
theorem twin_teardown {before : List Step} (hnew : (Catalog.run before).registry other = {}) :
    Twin registry other (Catalog.run (before ++ [.teardown registry])) (Catalog.run before) where
  issued := by
    rw [run_concat]
    rfl
  book := by
    rw [run_concat]
    rfl
  same := (registry_teardown before registry).trans hnew.symm

end Dataflow.Catalog
