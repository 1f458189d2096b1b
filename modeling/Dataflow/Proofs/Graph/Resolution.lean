import Dataflow.Proofs.Device.Depot
import Dataflow.Proofs.Workshop

/-!
# Resolving kernels

The kernel of a node is the first in the order of registration that is for the type of the node's
device and has the signature that the node asks for. In a graph whose input slots are all fed
(`GraphDef.Wired`) this signature is told without looking at the lists of entering edges: it names
the outputs of the node if its op has no inputs, and otherwise what arrives at each of its input
slots (`GraphDef.IsKey`). So the order in which nodes list their entering edges does not matter
(`GraphDef.Reordered`), and `GraphDef.resolveKernel_first` says which kernel is chosen and which
error is answered without mentioning how the signature is put together.

A graph that validation accepts is wired if its nodes are fed as their ops ask
(`GraphDef.Consistent.wired`), and so are the graphs that builders have assembled.
-/

namespace Dataflow

namespace GraphDef

/-- A graph whose nodes name an element type for each output of their ops and are fed as their ops
ask, by edges that leave output slots. -/
structure Wired (g : GraphDef) : Prop where
  outputs : ∀ n ∈ g.nodes, n.outDTypes.length = n.op.numOutputs
  fed : ∀ i (n : NodeDef), g.nodes[i]? = some n → g.Fed i n
  sources : ∀ i (n : NodeDef), g.nodes[i]? = some n → ∀ k < n.op.numInputs, ∀ e ∈ g.edges,
    e.dest = i → e.destSlot = k → g.HasOutput e.src e.srcSlot

/-- The element types that the kernel of node `i` must have: those of the node's outputs if its op
has no inputs, and otherwise those that arrive at its input slots. -/
structure IsKey (g : GraphDef) (i : Nat) (n : NodeDef) (key : List DType) : Prop where
  outputs : n.op.numInputs = 0 → key = n.outDTypes
  length : 0 < n.op.numInputs → key.length = n.op.numInputs
  inputs : ∀ k < n.op.numInputs, ∀ t, key[k]? = some t ↔ g.Arrives i k t

/-- Graph `g'` is graph `g`, except that its nodes may list their entering edges in another
order. -/
structure Reordered (g g' : GraphDef) : Prop where
  edges : g'.edges = g.edges
  nodes : List.Forall₂
    (fun n n' : NodeDef => n'.inEdges.Perm n.inEdges ∧ n' = { n with inEdges := n'.inEdges })
    g.nodes g'.nodes

end GraphDef

/-- A kernel that is for a type of devices and has the element types of `key` on the side by which
the kernels of an op are chosen. -/
def KernelDef.Matches (k : KernelDef) (op : Op) (deviceType : String) (key : List DType) : Prop :=
  k.deviceType = deviceType ∧ (if op.numInputs = 0 then k.outputs else k.inputs) = key

namespace GraphDef

variable {g g' : GraphDef} {i : Nat} {n n' : NodeDef}

/-! ## The signature of a node -/

/-- In a wired graph an element type arrives at every input slot. -/
theorem Wired.served (h : g.Wired) (hn : g.nodes[i]? = some n) : g.Served i n := by
  refine (h.fed i n hn).served fun k hk e he hdest hslot => ?_
  obtain ⟨src, hsrc, hout⟩ := h.sources i n hn k hk e he hdest hslot
  rw [← h.outputs src (List.mem_of_getElem? hsrc)] at hout
  exact ⟨src, _, hsrc, List.getElem?_eq_getElem hout⟩

/-- A graph that validation accepts is wired as soon as its nodes are fed as their ops ask: that
their outputs have element types and that edges leave output slots is part of what validation
checks. -/
theorem Consistent.wired (h : g.Consistent)
    (hfed : ∀ i (n : NodeDef), g.nodes[i]? = some n → g.Fed i n) : g.Wired where
  outputs n hn := by
    obtain ⟨i, hi⟩ := List.getElem?_of_mem hn
    exact (h.nodes i n hi).2
  fed := hfed
  sources _ _ _ _ _ e he _ _ := by
    obtain ⟨j, hj⟩ := List.getElem?_of_mem he
    obtain ⟨src, -, hsrc, -, hslot, -⟩ := h.linked j e hj
    exact ⟨src, hsrc, hslot⟩

/-- In a well-formed graph every input slot is fed. -/
theorem WellFormed.wired (h : g.WellFormed) : g.Wired :=
  h.consistent.wired fun _ _ hn => h.fed hn

/-- The signature that is put together for a node is the one that the edges tell. -/
theorem isKey_key (h : g.Served i n) : g.IsKey i n (g.key n) where
  outputs hzero := by
    simp [key, byOutputs, hzero]
  length hpos := by
    rw [key, byOutputs, if_neg (by simpa using Nat.ne_of_gt hpos), h.length_inputDTypes]
  inputs k hk t := by
    have hpos := Nat.zero_lt_of_lt hk
    rw [key, byOutputs, if_neg (by simpa using Nat.ne_of_gt hpos), h.getElem?_inputDTypes,
      and_iff_right hk]

/-- A kernel fits a node just if it matches the signature of the node. -/
theorem fits_eq_true_iff {deviceType : String} {k : KernelDef} :
    g.fits n deviceType k = true ↔ k.Matches n.op deviceType (g.key n) := by
  rw [fits_iff, KernelDef.Matches, KernelDef.signature, byOutputs]
  simp only [beq_iff_eq]

/-! ## The order of the entering edges -/

/-- Pairs whose first parts are the numbers below `count` are sorted by them in one way. -/
theorem insertionSort_map_snd_congr {α : Type} {xs ys : List (Nat × α)} {count : Nat}
    (hxs : (xs.map (·.1)).Perm (List.range count)) (hperm : ys.Perm xs) :
    (ys.insertionSort (·.1 ≤ ·.1)).map (·.2) = (xs.insertionSort (·.1 ≤ ·.1)).map (·.2) := by
  have hys := (hperm.map (·.1)).trans hxs
  refine List.ext_getElem? fun k => Option.ext fun x => ?_
  rw [getElem?_insertionSort_map_snd hys, getElem?_insertionSort_map_snd hxs, hperm.mem_iff]

/-- An edge brings the same in whichever order nodes list their entering edges. -/
theorem Reordered.arrival?_eq (h : g.Reordered g') (e : Edge) : g'.arrival? e = g.arrival? e := by
  unfold arrival?
  cases hsrc : g.nodes[e.src]? with
  | none =>
    rw [List.getElem?_eq_none_iff, h.nodes.length_eq, ← List.getElem?_eq_none_iff] at hsrc
    rw [hsrc]
  | some src =>
    obtain ⟨src', hsrc', -, hsame⟩ := forall₂_getElem?_left h.nodes hsrc
    rw [hsrc', hsame]
    rfl

/-- The signature of a node does not depend on the order of the entering edges. -/
theorem Reordered.key_eq (h : g.Reordered g') (hserved : g.Served i n)
    (hperm : n'.inEdges.Perm n.inEdges) (hsame : n' = { n with inEdges := n'.inEdges }) :
    g'.key n' = g.key n := by
  have harrivals : (g'.arrivals n').Perm (g.arrivals n) := by
    simp only [arrivals, h.edges, h.arrival?_eq]
    exact hperm.filterMap _
  have hinputs : g'.inputDTypes n' = g.inputDTypes n := by
    rw [inputDTypes_eq, inputDTypes_eq]
    exact insertionSort_map_snd_congr hserved.perm_arrivals harrivals
  rw [key, key, hinputs, hsame]
  rfl

/-- Which kernel is chosen does not depend on the order of the entering edges. -/
theorem Reordered.resolveKernel_eq (h : g.Reordered g') (hserved : g.Served i n)
    (hperm : n'.inEdges.Perm n.inEdges) (hsame : n' = { n with inEdges := n'.inEdges })
    (kernels : List KernelDef) (d : Device) :
    g'.resolveKernel kernels n' d = g.resolveKernel kernels n d := by
  have hop : n'.op = n.op := by rw [hsame]
  have hname : n'.name = n.name := by rw [hsame]
  exact resolveKernel_congr hop hname (h.key_eq hserved hperm hsame) kernels d

/-! ## The kernel of a node -/

/-- **The first kernel of the right signature is chosen.** In a graph whose input slots are all fed
there is a signature for each node, of which the lists of entering edges tell nothing that the
edges do not: with any device and any kernels, the kernel that is chosen matches it, and none that
was registered earlier does; if none matches, the error names the signature. Listing the entering
edges in another order changes neither. -/
theorem resolveKernel_first (h : g.Wired) (hn : g.nodes[i]? = some n) (kernels : List KernelDef)
    (d : Device) :
    ∃ key, g.IsKey i n key ∧
      (∀ p k, g.resolveKernel kernels n d = .ok (p, k) ↔
        kernels[p]? = some k ∧ k.Matches n.op d.type key ∧
          ∀ q < p, ∀ k', kernels[q]? = some k' → ¬ k'.Matches n.op d.type key) ∧
      (∀ e, g.resolveKernel kernels n d = .error e ↔
        (∀ k ∈ kernels, ¬ k.Matches n.op d.type key) ∧
          e = .kernelNotFound n.name n.op.name d.type key) ∧
      ∀ g' n', g.Reordered g' → g'.nodes[i]? = some n' →
        g'.resolveKernel kernels n' d = g.resolveKernel kernels n d := by
  have hserved := h.served hn
  refine ⟨g.key n, isKey_key hserved, fun p k => ?_, fun e => ?_, fun g' n' hg' hn' => ?_⟩
  · simp only [resolveKernel_eq_ok_iff, ← fits_eq_true_iff, Bool.not_eq_true]
  · simp only [resolveKernel_eq_error_iff, ← fits_eq_true_iff, Bool.not_eq_true]
  · obtain ⟨m, hm, hperm, hsame⟩ := forall₂_getElem?_right hg'.nodes hn'
    obtain rfl : n = m := Option.some.inj (hn.symm.trans hm)
    exact hg'.resolveKernel_eq hserved hperm hsame kernels d

/-- Steps that build two nodes which feed a third, the second node its first input. -/
def mergeSteps : List Workshop.Step := [
  .catalog (.op "ops" "const" 0 [Layout.ofDims [1]] []),
  .catalog (.op "ops" "add" 2 [Layout.ofDims [1]] []),
  .start "ops" "const" "CPU:0" oneDevice,
  .call (.build [.float]),
  .start "ops" "const" "CPU:0" oneDevice,
  .call (.build [.double]),
  .start "ops" "add" "CPU:0" oneDevice,
  .call (.input ⟨⟨0⟩, 1⟩ 0),
  .call (.input ⟨⟨0⟩, 0⟩ 0),
  .call (.build [.double])]

/-- The graph that these steps build. -/
def mergeGraph : GraphDef :=
  (Workshop.run ⟨0⟩ mergeSteps).assembly.graph

/-- A graph, with all lists of entering edges turned round. -/
def turned (g : GraphDef) : GraphDef :=
  { g with nodes := g.nodes.map fun n => { n with inEdges := n.inEdges.reverse } }

/-- Turning round the lists of entering edges puts them in another order. -/
theorem reordered_turned (g : GraphDef) : g.Reordered g.turned where
  edges := rfl
  nodes := List.forall₂_map_right_iff.2 (List.forall₂_same.2 fun _ _ => ⟨List.reverse_perm _, rfl⟩)

/-- Kernels of which the last two have the signature of the third node and are for its device. -/
def mergeKernels : List KernelDef := [
  { Workshop.idleKernel [.double, .float] [.double] with deviceType := "GPU" },
  Workshop.idleKernel [.float, .double] [.double],
  Workshop.idleKernel [.double, .float] [.double],
  Workshop.idleKernel [.double, .float] [.double]]

/-- The third kernel is chosen for the third node, whichever entering edge the node lists first. -/
theorem resolveKernel_first_merge :
    ∃ n n' k, mergeGraph.nodes[2]? = some n ∧ mergeGraph.turned.nodes[2]? = some n' ∧
      n.inEdges = [0, 1] ∧ n'.inEdges = [1, 0] ∧ n.op.numInputs = 2 ∧
      mergeGraph.resolveKernel mergeKernels n Depot.hostDevice = .ok (2, k) ∧
      mergeGraph.turned.resolveKernel mergeKernels n' Depot.hostDevice = .ok (2, k) := by
  have hwired : mergeGraph.Wired := (Workshop.sound_run ⟨0⟩ mergeSteps).assembly.graph.wired
  refine ⟨_, _, _, rfl, rfl, rfl, rfl, rfl, rfl, ?_⟩
  obtain ⟨key, -, -, -, hturned⟩ :=
    resolveKernel_first hwired (i := 2) rfl mergeKernels Depot.hostDevice
  exact hturned _ _ mergeGraph.reordered_turned rfl

end GraphDef

end Dataflow
