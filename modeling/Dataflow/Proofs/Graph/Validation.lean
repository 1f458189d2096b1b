import Mathlib
import Dataflow.Graph.Compilation
import Dataflow.Proofs.Graph.WellFormed

/-!
# What validation establishes

Validation accepts exactly the graphs in which the checks of nodes, edges and arities hold
(`GraphDef.Consistent`, `GraphDef.isOk_validate_iff`). Every graph that builders assemble is among
them, so compiling such a graph never ends in validation.

An accepted graph feeds each input slot at most once. Validation counts the edges that a node
lists, but does not compare the list with the edges that enter the node, so a slot can go without
an edge. No slot does if there are as many edges as there are slots
(`GraphDef.Consistent.fed_iff_length_edges`).
-/

namespace Dataflow

/-- The input slot that an edge feeds. -/
def Edge.target (e : Edge) : Nat × Nat :=
  (e.dest, e.destSlot)

namespace GraphDef

/-! ## The checks one by one -/

/-- An edge joins slots that exist, and both of its nodes list it at its position. -/
def Linked (nodes : List NodeDef) (j : Nat) (e : Edge) : Prop :=
  ∃ src dest, nodes[e.src]? = some src ∧ nodes[e.dest]? = some dest ∧
    e.srcSlot < src.op.numOutputs ∧ e.destSlot < dest.op.numInputs ∧
    j ∈ src.outEdges ∧ j ∈ dest.inEdges

/-- What holds at every position of a list holds at its head, and at every position behind it. -/
theorem forall_getElem?_cons {α : Type} {P : Nat → α → Prop} {a : α} {as : List α} :
    (∀ i x, (a :: as)[i]? = some x → P i x) ↔
      P 0 a ∧ ∀ i x, as[i]? = some x → P (i + 1) x := by
  constructor
  · exact fun h => ⟨h 0 a rfl, fun i x hx => h (i + 1) x hx⟩
  · rintro ⟨hhead, htail⟩ i x hx
    cases i with
    | zero => cases hx; exact hhead
    | succ i => exact htail i x hx

/-- The nodes pass if each is numbered by its position and names its outputs' element types. -/
theorem checkNodes_eq_ok_iff {index : Nat} {nodes : List NodeDef} :
    checkNodes index nodes = .ok () ↔
      ∀ i (n : NodeDef), nodes[i]? = some n →
        n.id = index + i ∧ n.outDTypes.length = n.op.numOutputs := by
  induction nodes generalizing index with
  | nil => simp [checkNodes]
  | cons n rest ih =>
    rw [forall_getElem?_cons, checkNodes]
    simp only [← Nat.add_assoc, Nat.add_zero, Nat.add_right_comm index _ 1]
    by_cases hid : n.id = index
    · by_cases hout : n.outDTypes.length = n.op.numOutputs
      · simp [hid, hout, ih]
      · simp [hid, hout]
    · simp [hid]

/-- An edge passes if it is linked and feeds a slot that is not fed yet. -/
theorem checkEdge_eq_ok_iff {nodes : List NodeDef} {fed : List (Nat × Nat)} {j : Nat} {e : Edge} :
    checkEdge nodes fed j e = .ok () ↔ Linked nodes j e ∧ e.target ∉ fed := by
  unfold checkEdge Linked Edge.target
  cases hs : nodes[e.src]? with
  | none => simp
  | some src =>
    cases hd : nodes[e.dest]? with
    | none => simp
    | some dest => grind

/-- The edges pass if each is linked and no two of them, nor one of them and an edge before, feed
the same slot. -/
theorem checkEdges_eq_ok_iff {nodes : List NodeDef} {fed : List (Nat × Nat)} {index : Nat}
    {edges : List Edge} :
    checkEdges nodes fed index edges = .ok () ↔
      (∀ j (e : Edge), edges[j]? = some e → Linked nodes (index + j) e) ∧
        (edges.map Edge.target).Nodup ∧ ∀ e ∈ edges, e.target ∉ fed := by
  induction edges generalizing fed index with
  | nil => simp [checkEdges]
  | cons e rest ih =>
    have htail : ((e.dest, e.destSlot) :: fed) = e.target :: fed := rfl
    rw [checkEdges, except_bind_eq_ok, forall_getElem?_cons, htail, List.map_cons, List.nodup_cons,
      List.forall_mem_cons]
    simp only [ih, List.mem_cons, List.mem_map, not_or, ← Nat.add_assoc, Nat.add_zero,
      Nat.add_right_comm index _ 1]
    constructor
    · rintro ⟨⟨⟩, hhead, hrest, hnodup, hapart⟩
      obtain ⟨hlink, hfresh⟩ := checkEdge_eq_ok_iff.1 hhead
      exact ⟨⟨hlink, hrest⟩, ⟨fun ⟨e', he', heq⟩ => (hapart e' he').1 heq, hnodup⟩, hfresh,
        fun e' he' => (hapart e' he').2⟩
    · rintro ⟨⟨hlink, hrest⟩, ⟨hapart, hnodup⟩, hfresh, hfreshRest⟩
      exact ⟨(), checkEdge_eq_ok_iff.2 ⟨hlink, hfresh⟩, hrest, hnodup,
        fun e' he' => ⟨fun heq => hapart ⟨e', he', heq⟩, hfreshRest e' he'⟩⟩

/-- The arities pass if each node lists as many entering edges as its op has inputs. -/
theorem checkArity_eq_ok_iff {nodes : List NodeDef} :
    checkArity nodes = .ok () ↔ ∀ n ∈ nodes, n.inEdges.length = n.op.numInputs := by
  induction nodes with
  | nil => simp [checkArity]
  | cons n rest ih =>
    unfold checkArity
    by_cases hin : n.inEdges.length = n.op.numInputs
    · simp [hin, ih]
    · simp [hin]

/-! ## Consistent graphs -/

/-- The structure that validation asks of a graph. -/
structure Consistent (g : GraphDef) : Prop where
  /-- A node is numbered by its position, and names an element type for each output. -/
  nodes : ∀ i (n : NodeDef), g.nodes[i]? = some n →
    n.id = i ∧ n.outDTypes.length = n.op.numOutputs
  /-- An edge joins slots that exist and is listed by both of its nodes. -/
  linked : ∀ j (e : Edge), g.edges[j]? = some e → Linked g.nodes j e
  /-- No two edges feed the same slot. -/
  targets : (g.edges.map Edge.target).Nodup
  /-- A node lists as many entering edges as its op has inputs. -/
  arity : ∀ n ∈ g.nodes, n.inEdges.length = n.op.numInputs

/-- Validation accepts the consistent graphs. -/
theorem isOk_validate_iff {g : GraphDef} : (∃ found, g.validate = .ok found) ↔ g.Consistent := by
  have hok : (∃ found, g.validate = .ok found) ↔
      checkNodes 0 g.nodes = .ok () ∧ checkEdges g.nodes [] 0 g.edges = .ok () ∧
        checkArity g.nodes = .ok () := by
    unfold validate
    constructor
    · rintro ⟨found, h⟩
      obtain ⟨⟨⟩, hn, h⟩ := except_bind_eq_ok.1 h
      obtain ⟨⟨⟩, he, h⟩ := except_bind_eq_ok.1 h
      obtain ⟨⟨⟩, ha, -⟩ := except_bind_eq_ok.1 h
      exact ⟨hn, he, ha⟩
    · rintro ⟨hn, he, ha⟩
      rw [hn, he, ha]
      exact ⟨_, rfl⟩
  rw [hok, checkNodes_eq_ok_iff, checkEdges_eq_ok_iff, checkArity_eq_ok_iff]
  simp only [Nat.zero_add, List.not_mem_nil, not_false_eq_true, implies_true, and_true]
  exact ⟨fun ⟨hn, ⟨hl, ht⟩, ha⟩ => ⟨hn, hl, ht, ha⟩,
    fun h => ⟨h.nodes, ⟨h.linked, h.targets⟩, h.arity⟩⟩

/-- In a well-formed graph the target of an edge lists it at the slot that it feeds. -/
theorem WellFormed.inEdges_target {g : GraphDef} (h : g.WellFormed) {j : Nat} {e : Edge}
    (he : g.edges[j]? = some e) :
    ∃ n, g.nodes[e.dest]? = some n ∧ n.inEdges[e.destSlot]? = some j ∧
      e.destSlot < n.op.numInputs := by
  have hlt : e.dest < g.nodes.length := (h.forward e (List.mem_of_getElem? he)).2
  have hn : g.nodes[e.dest]? = some g.nodes[e.dest] := List.getElem?_eq_getElem hlt
  have hin := (h.entering _ _ hn e.destSlot j).2 ⟨e, he, rfl, rfl⟩
  refine ⟨_, hn, hin, ?_⟩
  rw [← h.inputs _ (List.mem_of_getElem? hn)]
  exact (List.getElem?_eq_some_iff.1 hin).1

/-- A well-formed graph is consistent. -/
theorem WellFormed.consistent {g : GraphDef} (h : g.WellFormed) : g.Consistent where
  nodes i n hn := ⟨h.numbered i n hn, h.outputs n (List.mem_of_getElem? hn)⟩
  linked j e he := by
    obtain ⟨src, hsrc, hslot⟩ := h.slots e (List.mem_of_getElem? he)
    obtain ⟨dest, hdest, hin, hlt⟩ := h.inEdges_target he
    exact ⟨src, dest, hsrc, hdest, hslot, hlt, ((h.leaving _ _ hsrc).2 j).2 ⟨e, he, rfl⟩,
      List.mem_of_getElem? hin⟩
  targets := by
    rw [List.nodup_iff_getElem?_ne_getElem?]
    intro i j hij hj heq
    rw [List.length_map] at hj
    have hi : g.edges[i]? = some g.edges[i] := List.getElem?_eq_getElem (Nat.lt_trans hij hj)
    have hj : g.edges[j]? = some g.edges[j] := List.getElem?_eq_getElem hj
    simp only [List.getElem?_map, hi, hj, Option.map_some, Option.some.injEq, Edge.target,
      Prod.mk.injEq] at heq
    -- the target lists one edge at the slot, and both edges are listed there
    obtain ⟨n, hn, hin, -⟩ := h.inEdges_target hi
    obtain ⟨n', hn', hin', -⟩ := h.inEdges_target hj
    rw [heq.1, hn', Option.some.injEq] at hn
    rw [heq.2, ← hn, hin', Option.some.injEq] at hin
    exact Nat.ne_of_lt hij hin.symm
  arity := h.inputs

/-! ## Slots that are fed -/

/-- The edges that enter node `i`. -/
def feeders (g : GraphDef) (i : Nat) : List Nat :=
  g.edges.findIdxs (·.dest == i)

/-- The slots that edges feed at node `i`. -/
def fedSlots (g : GraphDef) (i : Nat) : List Nat :=
  (g.edges.filter (·.dest == i)).map (·.destSlot)

/-- Every input slot of the graph, with its node. -/
def inputSlots (g : GraphDef) : List (Nat × Nat) :=
  g.nodes.zipIdx.flatMap fun (n, i) => (List.range n.op.numInputs).map (i, ·)

/-- Node `n` at position `i` is fed as its op asks: one edge enters each input slot, and the node
lists each edge that enters a slot of its op once, and no other. In a consistent graph every edge
that enters the node is among them (`Consistent.entering`). -/
structure Fed (g : GraphDef) (i : Nat) (n : NodeDef) : Prop where
  slots : ∀ k < n.op.numInputs, ∃! j, g.Enters j i k
  once : n.inEdges.Nodup
  listed : ∀ j, j ∈ n.inEdges ↔ ∃ k < n.op.numInputs, g.Enters j i k

/-- The feeders of a node are the edges that enter it. -/
theorem mem_feeders {g : GraphDef} {i j : Nat} : j ∈ g.feeders i ↔ ∃ k, g.Enters j i k := by
  unfold feeders Enters
  rw [List.mem_findIdxs_iff_exists_getElem_pos]
  constructor
  · rintro ⟨hj, hdest⟩
    exact ⟨_, _, List.getElem?_eq_getElem hj, by simpa using hdest, rfl⟩
  · rintro ⟨k, e, he, hdest, -⟩
    obtain ⟨hj, rfl⟩ := List.getElem?_eq_some_iff.1 he
    exact ⟨hj, by simpa using hdest⟩

/-- The fed slots of a node are those that some edge enters. -/
theorem mem_fedSlots {g : GraphDef} {i k : Nat} : k ∈ g.fedSlots i ↔ ∃ j, g.Enters j i k := by
  unfold fedSlots Enters
  simp only [List.mem_map, List.mem_filter, beq_iff_eq]
  constructor
  · rintro ⟨e, ⟨he, hdest⟩, hslot⟩
    obtain ⟨j, hj⟩ := List.getElem?_of_mem he
    exact ⟨j, e, hj, hdest, hslot⟩
  · rintro ⟨j, e, he, hdest, hslot⟩
    exact ⟨e, ⟨List.mem_of_getElem? he, hdest⟩, hslot⟩

/-- Each feeder feeds one slot. -/
theorem length_feeders (g : GraphDef) (i : Nat) :
    (g.feeders i).length = (g.fedSlots i).length := by
  simp [feeders, fedSlots, List.countP_eq_length_filter]

/-- The targets of the edges are the slots that are entered. -/
theorem mem_map_target {g : GraphDef} {i k : Nat} :
    (i, k) ∈ g.edges.map Edge.target ↔ ∃ j, g.Enters j i k := by
  rw [List.mem_map]
  constructor
  · rintro ⟨e, he, heq⟩
    obtain ⟨j, hj⟩ := List.getElem?_of_mem he
    exact ⟨j, e, hj, (Prod.mk.inj heq).1, (Prod.mk.inj heq).2⟩
  · rintro ⟨j, e, he, rfl, rfl⟩
    exact ⟨e, List.mem_of_getElem? he, rfl⟩

/-- The input slots of the graph are those of the ops of its nodes. -/
theorem mem_inputSlots {g : GraphDef} {i k : Nat} :
    (i, k) ∈ g.inputSlots ↔ ∃ n, g.nodes[i]? = some n ∧ k < n.op.numInputs := by
  simp only [inputSlots, List.mem_flatMap, List.mem_map, List.mem_range, Prod.mk.injEq]
  constructor
  · rintro ⟨⟨n, i⟩, hn, k, hk, rfl, rfl⟩
    exact ⟨n, List.mk_mem_zipIdx_iff_getElem?.1 hn, hk⟩
  · rintro ⟨n, hn, hk⟩
    exact ⟨(n, i), List.mk_mem_zipIdx_iff_getElem?.2 hn, k, hk, rfl, rfl⟩

/-- Each input slot is listed once. -/
theorem nodup_inputSlots (g : GraphDef) : g.inputSlots.Nodup := by
  have hpos : (g.nodes.zipIdx.map (·.2)).Nodup := by
    rw [List.zipIdx_map_snd]
    exact List.nodup_range'
  refine List.nodup_flatMap.2 ⟨fun p _ => ?_, (List.pairwise_map.1 hpos).imp fun hne => ?_⟩
  · exact List.nodup_range.map fun _ _ h => (Prod.mk.inj h).2
  · intro s h₁ h₂
    obtain ⟨_, -, rfl⟩ := List.mem_map.1 h₁
    obtain ⟨_, -, h⟩ := List.mem_map.1 h₂
    exact hne (Prod.mk.inj h).1.symm

/-- There are as many input slots as the ops of the nodes have inputs. -/
theorem length_inputSlots (g : GraphDef) :
    g.inputSlots.length = (g.nodes.map (·.op.numInputs)).sum := by
  rw [inputSlots, List.length_flatMap]
  simp only [List.length_map, List.length_range]
  rw [← List.zipIdx_map_fst 0 g.nodes, List.map_map, List.zipIdx_map_fst]
  rfl

section consistent
variable {g : GraphDef} {i : Nat} {n : NodeDef}

/-- No two edges enter the same slot. -/
theorem Consistent.enters_unique (h : g.Consistent) {j j' k : Nat} (hj : g.Enters j i k)
    (hj' : g.Enters j' i k) : j = j' := by
  obtain ⟨e, he, rfl, rfl⟩ := hj
  obtain ⟨e', he', hdest, hslot⟩ := hj'
  have hlt : j < (g.edges.map Edge.target).length := by
    rw [List.length_map]
    exact (List.getElem?_eq_some_iff.1 he).1
  refine (List.getElem?_inj hlt h.targets).1 ?_
  simp [he, he', Edge.target, hdest, hslot]

/-- An edge that enters a node feeds one of its slots, and the node lists the edge. -/
theorem Consistent.entering (h : g.Consistent) (hn : g.nodes[i]? = some n) {j k : Nat}
    (hj : g.Enters j i k) : k < n.op.numInputs ∧ j ∈ n.inEdges := by
  obtain ⟨e, he, rfl, rfl⟩ := hj
  obtain ⟨src, dest, -, hdest, -, hslot, -, hlisted⟩ := h.linked j e he
  rw [hn, Option.some.injEq] at hdest
  exact hdest ▸ ⟨hslot, hlisted⟩

/-- In a consistent graph no slot is fed twice. -/
theorem Consistent.nodup_fedSlots (h : g.Consistent) (i : Nat) : (g.fedSlots i).Nodup := by
  have hsub : ((g.edges.filter (·.dest == i)).map Edge.target).Nodup :=
    h.targets.sublist (List.filter_sublist.map _)
  have hpair : (g.edges.filter (·.dest == i)).map Edge.target = (g.fedSlots i).map (i, ·) := by
    rw [fedSlots, List.map_map]
    refine List.map_congr_left fun e he => ?_
    simp [Edge.target, beq_iff_eq.1 (List.mem_filter.1 he).2]
  rw [hpair] at hsub
  exact hsub.of_map _

/-- A node lists no fewer edges than enter it. -/
theorem Consistent.feeders_subperm (h : g.Consistent) (hn : g.nodes[i]? = some n) :
    (g.feeders i).Subperm n.inEdges := by
  refine List.subperm_of_subset List.nodup_findIdxs fun j hj => ?_
  obtain ⟨k, hk⟩ := mem_feeders.1 hj
  exact (h.entering hn hk).2

/-- The fed slots of a node are among the input slots of its op. -/
theorem Consistent.fedSlots_subperm (h : g.Consistent) (hn : g.nodes[i]? = some n) :
    (g.fedSlots i).Subperm (List.range n.op.numInputs) := by
  refine List.subperm_of_subset (h.nodup_fedSlots i) fun k hk => ?_
  obtain ⟨j, hj⟩ := mem_fedSlots.1 hk
  exact List.mem_range.2 (h.entering hn hj).1

/-- A node is fed as its op asks if as many edges enter it as its op has inputs. -/
theorem Consistent.fed_of_length_le (h : g.Consistent) (hn : g.nodes[i]? = some n)
    (hle : n.op.numInputs ≤ (g.feeders i).length) : g.Fed i n := by
  have hin : (g.feeders i).Perm n.inEdges := by
    refine (h.feeders_subperm hn).perm_of_length_le ?_
    rw [h.arity n (List.mem_of_getElem? hn)]
    exact hle
  have hslots : (g.fedSlots i).Perm (List.range n.op.numInputs) := by
    refine (h.fedSlots_subperm hn).perm_of_length_le ?_
    rw [List.length_range, ← length_feeders]
    exact hle
  refine ⟨fun k hk => ?_, hin.nodup List.nodup_findIdxs, fun j => ?_⟩
  · obtain ⟨j, hj⟩ := mem_fedSlots.1 (hslots.mem_iff.2 (List.mem_range.2 hk))
    exact ⟨j, hj, fun j' hj' => h.enters_unique hj' hj⟩
  · rw [← hin.mem_iff, mem_feeders]
    exact exists_congr fun k => (and_iff_right_of_imp fun hj => (h.entering hn hj).1).symm

/-- A node is fed as its op asks if some edge enters each slot. -/
theorem Consistent.fed_of_slots (h : g.Consistent) (hn : g.nodes[i]? = some n)
    (hall : ∀ k < n.op.numInputs, ∃ j, g.Enters j i k) : g.Fed i n := by
  refine h.fed_of_length_le hn ?_
  have hsub : (List.range n.op.numInputs).Subperm (g.fedSlots i) :=
    List.subperm_of_subset List.nodup_range fun k hk =>
      mem_fedSlots.2 (hall k (List.mem_range.1 hk))
  have := hsub.length_le
  rwa [List.length_range, ← length_feeders] at this

/-- A node is fed as its op asks if it lists edges that enter it only, and each once. -/
theorem Consistent.fed_iff_inEdges (h : g.Consistent) (hn : g.nodes[i]? = some n) :
    g.Fed i n ↔ n.inEdges.Nodup ∧ ∀ j ∈ n.inEdges, ∃ k, g.Enters j i k := by
  constructor
  · intro hfed
    refine ⟨hfed.once, fun j hj => ?_⟩
    obtain ⟨k, -, hk⟩ := (hfed.listed j).1 hj
    exact ⟨k, hk⟩
  · rintro ⟨hnodup, hall⟩
    refine h.fed_of_length_le hn ?_
    rw [← h.arity n (List.mem_of_getElem? hn)]
    exact (List.subperm_of_subset hnodup fun j hj => mem_feeders.2 (hall j hj)).length_le

/-- All nodes are fed as their ops ask if there are as many edges as input slots. -/
theorem Consistent.fed_iff_length_edges (h : g.Consistent) :
    (∀ i (n : NodeDef), g.nodes[i]? = some n → g.Fed i n) ↔
      g.edges.length = (g.nodes.map (·.op.numInputs)).sum := by
  have hsub : (g.edges.map Edge.target).Subperm g.inputSlots := by
    refine List.subperm_of_subset h.targets fun p hp => ?_
    obtain ⟨e, he, rfl⟩ := List.mem_map.1 hp
    obtain ⟨j, hj⟩ := List.getElem?_of_mem he
    obtain ⟨-, dest, -, hdest, -, hslot, -⟩ := h.linked j e hj
    exact mem_inputSlots.2 ⟨dest, hdest, hslot⟩
  rw [← length_inputSlots, ← List.length_map Edge.target]
  constructor
  · intro hfed
    refine Nat.le_antisymm hsub.length_le ?_
    refine (List.subperm_of_subset g.nodup_inputSlots fun p hp => ?_).length_le
    obtain ⟨n, hn, hk⟩ := mem_inputSlots.1 (show (p.1, p.2) ∈ g.inputSlots from hp)
    exact (mem_map_target (i := p.1)).2 ((hfed p.1 n hn).slots p.2 hk).exists
  · intro hlen i n hn
    have hperm := hsub.perm_of_length_le (Nat.le_of_eq hlen.symm)
    exact h.fed_of_slots hn fun k hk =>
      mem_map_target.1 (hperm.mem_iff.2 (mem_inputSlots.2 ⟨n, hn, hk⟩))

end consistent

/-! ## What an accepted graph feeds -/

/-- **When validation establishes that every input slot is fed exactly once.** In an accepted graph
no slot is fed twice, and each node lists the edges that enter it. A node is fed as its op asks
just if it lists them once each and lists nothing else, and all nodes are just if there are as many
edges as input slots. -/
theorem validate_fed_iff {g : GraphDef} {found : Artifacts} (h : g.validate = .ok found) :
    ((∀ i (n : NodeDef), g.nodes[i]? = some n → g.Fed i n) ↔
        g.edges.length = (g.nodes.map (·.op.numInputs)).sum) ∧
      ∀ i (n : NodeDef), g.nodes[i]? = some n →
        (∀ k j j', g.Enters j i k → g.Enters j' i k → j = j') ∧
        (∀ k j, g.Enters j i k → k < n.op.numInputs ∧ j ∈ n.inEdges) ∧
        (g.Fed i n ↔ n.inEdges.Nodup ∧ ∀ j ∈ n.inEdges, ∃ k, g.Enters j i k) := by
  have hc := isOk_validate_iff.1 ⟨found, h⟩
  refine ⟨hc.fed_iff_length_edges, fun i n hn => ⟨fun k j j' => hc.enters_unique, ?_, ?_⟩⟩
  · exact fun k j => hc.entering hn
  · exact hc.fed_iff_inEdges hn

/-- A node without inputs that feeds the first slot of a node with `arity` inputs, which lists the
entering edges `listed`. -/
def feedFirst (arity : Nat) (listed : List Nat) : GraphDef where
  id := ⟨0⟩
  nodes := [
    { id := 0, op := ⟨0, "const", 0, [], [Layout.ofDims [1]]⟩, name := "a", device := "CPU:0"
      outDTypes := [.float], outEdges := [0] },
    { id := 1, op := ⟨1, "add", arity, [], [Layout.ofDims [1]]⟩, name := "b", device := "CPU:0"
      outDTypes := [.float], inEdges := listed }]
  edges := [⟨0, 0, 1, 0⟩]

/-- With one input, all nodes are fed as their ops ask. -/
theorem fed_feedFirst_one :
    (feedFirst 1 [0]).validate = .ok ⟨[[1], []], [0], [1]⟩ ∧
      ∀ i (n : NodeDef), (feedFirst 1 [0]).nodes[i]? = some n → (feedFirst 1 [0]).Fed i n :=
  ⟨rfl, (validate_fed_iff (g := feedFirst 1 [0]) rfl).1.2 rfl⟩

/-- With two inputs and the one edge listed twice, the graph is accepted, and no edge enters the
second slot. -/
theorem validate_unfedSlot :
    (feedFirst 2 [0, 0]).validate = .ok ⟨[[1], []], [0], [1]⟩ ∧
      ∃ n, (feedFirst 2 [0, 0]).nodes[1]? = some n ∧ 1 < n.op.numInputs ∧
        ∀ j, ¬ (feedFirst 2 [0, 0]).Enters j 1 1 := by
  refine ⟨rfl, _, rfl, Nat.lt_succ_self 1, ?_⟩
  rintro j ⟨e, he, -, hslot⟩
  obtain rfl := List.mem_singleton.1 (List.mem_of_getElem? he)
  cases hslot

end GraphDef

end Dataflow
