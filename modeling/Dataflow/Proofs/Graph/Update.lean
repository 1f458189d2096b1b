import Dataflow.Proofs.Graph.Compilation

/-!
# All or nothing

A node that is compiled becomes a node of the executable graph, or it fails at the first of three
steps: its device is missing, no kernel fits, or the constructor of the chosen kernel refuses
(`GraphDef.Fails`). Compilation goes through the nodes in order and stops at the first that fails
(`GraphDef.compileNodes_append`, `GraphDef.compileNodes_of_fails`). So the constructions that were
asked for are those of the nodes before it, and its own only if it got that far.

An executable graph that is updated ends up as the compiled graph or empty, whatever it was before
(`Graph.update_allOrNothing`).
-/

namespace Dataflow

namespace GraphDef

section
variable {g : GraphDef} {book : KernelBook} {r : DeviceRegistry} {n : NodeDef} {m : Node}
  {e : Error}

/-- The construction that was asked for when node `n` became node `m`. -/
def constructionOf (g : GraphDef) (n : NodeDef) (m : Node) : Construction :=
  ⟨m.kernelDef, g.context n⟩

/-- Node `n` fails to compile with an error, after it has asked for the given constructions. -/
inductive Fails (g : GraphDef) (book : KernelBook) (r : DeviceRegistry) (n : NodeDef) :
    Error → List Construction → Prop
  /-- There is no device of the name that the node asks for. -/
  | device : r.has n.device = false → Fails g book r n (.deviceNotFound n.device) []
  /-- No kernel of the node's op fits the device and the node. -/
  | kernel {d : Device} : r.getDevice n.device = .ok d →
      (∀ k ∈ book.kernels n.op, g.fits n d.type k = false) →
      Fails g book r n (.kernelNotFound n.name n.op.name d.type (g.key n)) []
  /-- The kernel that is chosen cannot be constructed. -/
  | construction {b : Binding} {e : Error} : g.bind book r n = .ok b →
      b.kernelDef.construct (g.context n) = .error e →
      Fails g book r n e [⟨b.kernelDef, g.context n⟩]

/-- A node that is not bound fails before it asks for a construction. -/
theorem fails_of_bind (h : g.bind book r n = .error e) : g.Fails book r n e [] := by
  rcases except_bind_eq_error.1 h with hd | ⟨d, hd, h⟩
  · unfold DeviceRegistry.getDevice at hd
    split at hd
    · cases hd
    · rename_i hnone
      cases hd
      exact .device (by simp [DeviceRegistry.has, Table.contains, hnone])
  · rcases except_bind_eq_error.1 h with hk | ⟨⟨p, k⟩, -, h⟩
    · obtain ⟨hnone, rfl⟩ := resolveKernel_eq_error_iff.1 hk
      exact .kernel hd hnone
    · cases h

/-- A node that fails before it asks for a construction is not bound. -/
theorem Fails.bind_eq_error (h : g.Fails book r n e []) : g.bind book r n = .error e := by
  cases h with
  | device hnone =>
    refine except_bind_eq_error.2 (.inl ?_)
    simp only [DeviceRegistry.has, Table.contains, Option.isSome_eq_false_iff,
      Option.isNone_iff_eq_none] at hnone
    rw [DeviceRegistry.getDevice, hnone]
  | kernel hd hnone =>
    exact except_bind_eq_error.2 (.inr ⟨_, hd,
      except_bind_eq_error.2 (.inl (resolveKernel_eq_error_iff.2 ⟨hnone, rfl⟩))⟩)

/-- A node compiles, or it fails. -/
theorem compiles_or_fails (g : GraphDef) (book : KernelBook) (r : DeviceRegistry) (n : NodeDef) :
    (∃ m, g.Compiles book r n m) ∨ ∃ e own, g.Fails book r n e own := by
  cases hb : g.bind book r n with
  | error e => exact .inr ⟨e, [], fails_of_bind hb⟩
  | ok b =>
    cases hk : b.kernelDef.construct (g.context n) with
    | error e => exact .inr ⟨e, _, .construction hb hk⟩
    | ok kernel => exact .inl ⟨_, b, kernel, hb, hk, rfl⟩

/-! ## Up to the first failure -/

/-- The nodes of a list all compile, or there is a first one that fails. -/
theorem forall_compiles_or_first_fails (g : GraphDef) (book : KernelBook) (r : DeviceRegistry)
    (nodes : List NodeDef) :
    (∃ ms, List.Forall₂ (g.Compiles book r) nodes ms) ∨
      ∃ before n after ms e own, nodes = before ++ n :: after ∧
        List.Forall₂ (g.Compiles book r) before ms ∧ g.Fails book r n e own := by
  induction nodes with
  | nil => exact .inl ⟨[], .nil⟩
  | cons n rest ih =>
    rcases compiles_or_fails g book r n with ⟨m, hm⟩ | ⟨e, own, he⟩
    · rcases ih with ⟨ms, hms⟩ | ⟨before, n', after, ms, e, own, rfl, hms, he⟩
      · exact .inl ⟨m :: ms, .cons hm hms⟩
      · exact .inr ⟨n :: before, n', after, m :: ms, e, own, rfl, .cons hm hms, he⟩
    · exact .inr ⟨[], n, rest, [], e, own, rfl, .nil, he⟩

/-- A node that compiles asks for its construction, and the others follow. -/
theorem compileNodes_cons (h : g.Compiles book r n m) (rest : List NodeDef) :
    g.compileNodes book r (n :: rest) =
      (g.constructionOf n m :: (g.compileNodes book r rest).1,
        (g.compileNodes book r rest).2.map (m :: ·)) := by
  obtain ⟨b, kernel, hb, hk, rfl⟩ := h
  rw [compileNodes]
  simp only [hb, hk]
  rfl

/-- Nodes that compile ask for their constructions in order, one each, and the others follow. -/
theorem compileNodes_append {before : List NodeDef} {ms : List Node}
    (h : List.Forall₂ (g.Compiles book r) before ms) (rest : List NodeDef) :
    g.compileNodes book r (before ++ rest) =
      (List.zipWith g.constructionOf before ms ++ (g.compileNodes book r rest).1,
        (g.compileNodes book r rest).2.map (ms ++ ·)) := by
  induction h with
  | nil => cases h : (g.compileNodes book r rest).2 <;> simp [Except.map, ← h]
  | cons hm _ ih =>
    rw [List.cons_append, compileNodes_cons hm, ih]
    cases (g.compileNodes book r rest).2 <;> rfl

/-- A node that fails ends the compilation. -/
theorem compileNodes_of_fails {own : List Construction} (h : g.Fails book r n e own)
    (rest : List NodeDef) : g.compileNodes book r (n :: rest) = (own, .error e) := by
  rw [compileNodes]
  cases h with
  | device hnone => rw [(Fails.device hnone).bind_eq_error]
  | kernel hd hnone => rw [(Fails.kernel hd hnone).bind_eq_error]
  | construction hb hk => simp only [hb, hk]

/-- A graph that compiles asks for the construction of each node's kernel. -/
theorem compile_eq_of_ok {graph : Graph} (h : (g.compile book r).2 = .ok graph) :
    g.compile book r = (List.zipWith g.constructionOf g.nodes graph.nodes, .ok graph) := by
  refine Prod.ext ?_ h
  obtain ⟨hg, hnodes, -⟩ := compile_eq_ok_iff.1 h
  obtain ⟨found, hv⟩ := isOk_validate_iff.2 hg
  have hall := compileNodes_append hnodes []
  rw [List.append_nil] at hall
  rw [compile, hv]
  dsimp only
  rw [hall]
  exact List.append_nil _

end

end GraphDef

/-! ## Updates -/

/-- An update passes on what compilation answers, and leaves the compiled graph or an empty one. -/
theorem Graph.update_eq (target : Graph) (g : GraphDef) (book : KernelBook) (r : DeviceRegistry) :
    target.update g book r =
      ((g.compile book r).1,
        match (g.compile book r).2 with
        | .ok graph => (.ok (), graph)
        | .error e => (.error e, ⟨[], [], {}⟩)) := by
  unfold Graph.update
  split
  · rename_i h
    simp only [h]
  · rename_i h
    simp only [h]
    rfl

/-- **An update is all or nothing.** Whatever the executable graph was, after an update that
succeeds it is what the definition compiles to, and after one that fails it has no nodes, no edges
and no attributes. A definition that is not valid asks for no construction. Otherwise each node
asks for one, in the order of the nodes, up to the first node that fails: its error is the answer,
and it asks for a construction itself only if this is what fails. -/
theorem Graph.update_allOrNothing (target : Graph) (g : GraphDef) (book : KernelBook)
    (r : DeviceRegistry) :
    (target.update g book r =
      ((g.compile book r).1,
        match (g.compile book r).2 with
        | .ok graph => (.ok (), graph)
        | .error e => (.error e, ⟨[], [], {}⟩))) ∧
    match g.validate with
    | .error e => target.update g book r = ([], .error e, ⟨[], [], {}⟩)
    | .ok _ =>
      (∃ ms, List.Forall₂ (g.Compiles book r) g.nodes ms ∧
        target.update g book r =
          (List.zipWith g.constructionOf g.nodes ms, .ok (), ⟨ms, g.edges, g.attributes⟩)) ∨
      ∃ before n after ms e own, g.nodes = before ++ n :: after ∧
        List.Forall₂ (g.Compiles book r) before ms ∧ g.Fails book r n e own ∧
        target.update g book r =
          (List.zipWith g.constructionOf before ms ++ own, .error e, ⟨[], [], {}⟩) := by
  refine ⟨Graph.update_eq target g book r, ?_⟩
  rw [Graph.update_eq, GraphDef.compile]
  cases g.validate with
  | error e => rfl
  | ok found =>
    rcases GraphDef.forall_compiles_or_first_fails g book r g.nodes with
      ⟨ms, hms⟩ | ⟨before, n, after, ms, e, own, hnodes, hms, he⟩
    · -- every node compiles
      have hall := GraphDef.compileNodes_append hms []
      rw [List.append_nil] at hall
      refine .inl ⟨ms, hms, ?_⟩
      simp only [hall]
      simp [GraphDef.compileNodes, Except.map]
    · -- node `n` is the first that fails
      have hfirst := GraphDef.compileNodes_append hms (n :: after)
      rw [GraphDef.compileNodes_of_fails he, ← hnodes] at hfirst
      refine .inr ⟨before, n, after, ms, e, own, hnodes, hms, he, ?_⟩
      simp only [hfirst]
      rfl

end Dataflow
