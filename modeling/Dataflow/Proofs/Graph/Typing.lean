import Dataflow.Proofs.Graph.Compilation

/-!
# Typing of executable graphs

In an executable graph each kernel should take what its edges bring (`Graph.Typed`), and each node
should have its own op, the device that was asked for, and a kernel that is registered for the op
and for the type of the device (`Bound`). Compiling a well-formed graph yields both, if the kernels
of its ops have as many inputs as the ops (`GraphDef.WellFormed.typed`).
-/

namespace Dataflow

/-- Node `m` of an executable graph is bound as node `n` of a definition asks: to a registered
kernel of its own op, which is for the type of the device, and to the device of the name that was
asked for. -/
structure Bound (book : KernelBook) (r : DeviceRegistry) (n : NodeDef) (m : Node) : Prop where
  op : m.op = n.op
  outDTypes : m.outDTypes = n.outDTypes
  device : r.getDevice n.device = .ok m.device
  kernel : (book.kernels m.op)[m.choice]? = some m.kernelDef
  deviceType : m.kernelDef.deviceType = m.device.type

/-- The kernels of an executable graph agree with its edges. -/
structure Graph.Typed (graph : Graph) : Prop where
  /-- The kernel that an edge feeds takes at this slot the element type that the edge brings. -/
  carried : ∀ e ∈ graph.edges, ∃ src dest t,
    graph.nodes[e.src]? = some src ∧ graph.nodes[e.dest]? = some dest ∧
      src.outDTypes[e.srcSlot]? = some t ∧ dest.kernelDef.inputs[e.destSlot]? = some t
  /-- One edge feeds each input slot of a kernel. -/
  covered : ∀ i (m : Node), graph.nodes[i]? = some m → ∀ k < m.kernelDef.inputs.length,
    ∃! j : Nat, ∃ e : Edge, graph.edges[j]? = some e ∧ e.dest = i ∧ e.destSlot = k
  /-- The kernel of a node whose op has no inputs has the outputs of the node. -/
  sources : ∀ m ∈ graph.nodes, m.op.numInputs = 0 → m.kernelDef.outputs = m.outDTypes

/-! ## One node -/

/-- Each element of the second list has its partner at the same place of the first. -/
theorem forall₂_getElem?_right {α β : Type} {R : α → β → Prop} {as : List α} {bs : List β}
    (h : List.Forall₂ R as bs) {i : Nat} {b : β} (hb : bs[i]? = some b) :
    ∃ a, as[i]? = some a ∧ R a b := by
  induction h generalizing i with
  | nil => cases hb
  | @cons a b' as bs hab _ ih =>
    cases i with
    | zero => cases hb; exact ⟨a, rfl, hab⟩
    | succ i => exact ih hb

/-- Each element of the first list has its partner at the same place of the second. -/
theorem forall₂_getElem?_left {α β : Type} {R : α → β → Prop} {as : List α} {bs : List β}
    (h : List.Forall₂ R as bs) {i : Nat} {a : α} (ha : as[i]? = some a) :
    ∃ b, bs[i]? = some b ∧ R a b :=
  forall₂_getElem?_right h.flip ha

namespace GraphDef

section node
variable {g : GraphDef} {book : KernelBook} {r : DeviceRegistry} {n : NodeDef} {m : Node}

/-- What a node that compiles is bound to. -/
theorem Compiles.bound (h : g.Compiles book r n m) : Bound book r n m := by
  obtain ⟨b, kernel, hb, -, rfl⟩ := h
  obtain ⟨hdevice, hkernel⟩ := bind_eq_ok_iff.1 hb
  obtain ⟨hchoice, hfits, -⟩ := resolveKernel_eq_ok_iff.1 hkernel
  exact ⟨rfl, rfl, hdevice, hchoice, (fits_iff.1 hfits).1⟩

/-- The kernel of a node that compiles has the signature of the node. -/
theorem Compiles.signature (h : g.Compiles book r n m) :
    m.kernelDef.signature (byOutputs n) = g.key n := by
  obtain ⟨b, kernel, hb, -, rfl⟩ := h
  obtain ⟨-, hkernel⟩ := bind_eq_ok_iff.1 hb
  obtain ⟨-, hfits, -⟩ := resolveKernel_eq_ok_iff.1 hkernel
  exact (fits_iff.1 hfits).2

/-- If the op of a node has inputs, the kernel takes what arrives at the node. -/
theorem Compiles.inputs (h : g.Compiles book r n m) (hin : 0 < n.op.numInputs) :
    m.kernelDef.inputs = g.inputDTypes n := by
  have hby : byOutputs n = false := by
    simpa [byOutputs] using Nat.ne_of_gt hin
  simpa [key, KernelDef.signature, hby] using h.signature

/-- If the op of a node has no inputs, the kernel has the outputs of the node. -/
theorem Compiles.outputs (h : g.Compiles book r n m) (hin : n.op.numInputs = 0) :
    m.kernelDef.outputs = m.outDTypes := by
  have hby : byOutputs n = true := by
    simpa [byOutputs] using hin
  rw [h.bound.outDTypes]
  simpa [key, KernelDef.signature, hby] using h.signature

end node

/-! ## The whole graph -/

/-- Compiling a well-formed graph binds its nodes as they ask and yields kernels that agree with
its edges. -/
theorem WellFormed.typed {g : GraphDef} {book : KernelBook} {r : DeviceRegistry} {graph : Graph}
    (h : g.WellFormed)
    (harity : ∀ n ∈ g.nodes, ∀ k ∈ book.kernels n.op, k.inputs.length = n.op.numInputs)
    (hc : (g.compile book r).2 = .ok graph) :
    List.Forall₂ (Bound book r) g.nodes graph.nodes ∧ graph.Typed := by
  obtain ⟨-, hnodes, hedges, -⟩ := compile_eq_ok_iff.1 hc
  refine ⟨hnodes.imp fun _ _ hm => hm.bound, ?_, ?_, ?_⟩
  · intro e he
    rw [hedges] at he
    obtain ⟨hforward, hlast⟩ := h.forward e he
    have hd : g.nodes[e.dest]? = some g.nodes[e.dest] := List.getElem?_eq_getElem hlast
    have hserved := h.consistent.served (h.fed hd)
    obtain ⟨src, t, hsrc, ht⟩ := h.consistent.exists_source he
    obtain ⟨s, hs, hcs⟩ := forall₂_getElem?_left hnodes hsrc
    obtain ⟨d, hd', hcd⟩ := forall₂_getElem?_left hnodes hd
    obtain ⟨j, hj⟩ := List.getElem?_of_mem he
    have hslot := (h.consistent.entering hd ⟨e, hj, rfl, rfl⟩).1
    refine ⟨s, d, t, hs, hd', hcs.bound.outDTypes ▸ ht, ?_⟩
    -- the kernel has the signature of the node, which has at each place what arrives there
    rw [hcd.inputs (Nat.zero_lt_of_lt hslot), hserved.getElem?_inputDTypes]
    exact ⟨hslot, e, he, rfl, rfl, src, hsrc, ht⟩
  · intro i m hm k hk
    obtain ⟨n, hn, hcm⟩ := forall₂_getElem?_right hnodes hm
    have hkernel := hcm.bound.kernel
    rw [hcm.bound.op] at hkernel
    rw [harity n (List.mem_of_getElem? hn) _ (List.mem_of_getElem? hkernel)] at hk
    rw [hedges]
    exact (h.fed hn).slots k hk
  · intro m hm hin
    obtain ⟨i, hm⟩ := List.getElem?_of_mem hm
    obtain ⟨n, -, hcm⟩ := forall₂_getElem?_right hnodes hm
    rw [hcm.bound.op] at hin
    exact hcm.outputs hin

end GraphDef

end Dataflow
