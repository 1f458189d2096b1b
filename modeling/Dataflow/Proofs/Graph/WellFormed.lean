import Mathlib.Data.List.Nodup
import Mathlib.Logic.Relation
import Dataflow.Proofs.Graph.Assembly

/-!
# Well-formed graph definitions

In a graph definition that builders have assembled, the two lists of edges that each node keeps
mirror the graph's list of edges (`GraphDef.WellFormed`). The empty graph is well formed, and a
commit keeps a graph well formed if its inputs are outputs of nodes that exist
(`GraphDef.WellFormed.commit`). That is what a builder has staged at any time
(`NodeBuilder.Staged`), so every run of an assembly keeps both (`Assembly.sound_run`).

Edges lead from earlier nodes to later ones, so no node depends on itself
(`GraphDef.WellFormed.acyclic`).
-/

namespace Dataflow

/-- A node with more leaving edges at the end of its list. -/
def NodeDef.link (n : NodeDef) (edges : List Nat) : NodeDef :=
  { n with outEdges := n.outEdges ++ edges }

namespace GraphDef

/-- Edge `j` enters input slot `slot` of node `i`. -/
def Enters (g : GraphDef) (j i slot : Nat) : Prop :=
  ∃ e, g.edges[j]? = some e ∧ e.dest = i ∧ e.destSlot = slot

/-- Edge `j` leaves node `i`. -/
def Leaves (g : GraphDef) (j i : Nat) : Prop :=
  ∃ e, g.edges[j]? = some e ∧ e.src = i

/-- There is a node `i`, and it has an output slot `slot`. -/
def HasOutput (g : GraphDef) (i slot : Nat) : Prop :=
  ∃ n, g.nodes[i]? = some n ∧ slot < n.op.numOutputs

/-- An edge leads from node `i` to node `j`. -/
def Feeds (g : GraphDef) (i j : Nat) : Prop :=
  ∃ e ∈ g.edges, e.src = i ∧ e.dest = j

/-- The shape of a graph that builders have assembled. -/
structure WellFormed (g : GraphDef) : Prop where
  /-- A node's number is its position. -/
  numbered : ∀ i (n : NodeDef), g.nodes[i]? = some n → n.id = i
  /-- A node names an element type for each output of its op. -/
  outputs : ∀ n ∈ g.nodes, n.outDTypes.length = n.op.numOutputs
  /-- A node lists as many entering edges as its op has inputs. -/
  inputs : ∀ n ∈ g.nodes, n.inEdges.length = n.op.numInputs
  /-- The entering edge that is listed at a slot is the one and only edge into that slot. -/
  entering : ∀ i (n : NodeDef), g.nodes[i]? = some n →
    ∀ k j, n.inEdges[k]? = some j ↔ g.Enters j i k
  /-- The leaving edges are listed in increasing order, all of them and no others. -/
  leaving : ∀ i (n : NodeDef), g.nodes[i]? = some n →
    n.outEdges.Pairwise (· < ·) ∧ ∀ j, j ∈ n.outEdges ↔ g.Leaves j i
  /-- An edge leads from an earlier node to a later one. -/
  forward : ∀ e ∈ g.edges, e.src < e.dest ∧ e.dest < g.nodes.length
  /-- An edge leaves an output slot that its source has. -/
  slots : ∀ e ∈ g.edges, g.HasOutput e.src e.srcSlot

/-- The empty graph is well formed. -/
theorem wellFormed_empty (id : GraphId) : WellFormed { id } := by
  constructor <;> simp

/-- No chain of edges leads from a node back to itself. -/
theorem WellFormed.acyclic {g : GraphDef} (h : g.WellFormed) (i : Nat) :
    ¬ Relation.TransGen g.Feeds i i := by
  have hlt : ∀ a b, Relation.TransGen g.Feeds a b → a < b := by
    intro a b hab
    induction hab with
    | single he =>
      obtain ⟨e, hmem, rfl, rfl⟩ := he
      exact (h.forward e hmem).1
    | tail _ he ih =>
      obtain ⟨e, hmem, rfl, rfl⟩ := he
      exact Nat.lt_trans ih (h.forward e hmem).1
  exact fun hii => Nat.lt_irrefl i (hlt i i hii)

/-! ## A commit, node by node and edge by edge -/

section commit
variable {g : GraphDef} {op : Op} {name device : String} {outDTypes : List DType}
  {inputs : List (Nat × Nat)} {attributes : List (String × AttrValue)}

/-- The nodes after edges were linked: each has gained the edges that leave it. -/
theorem getElem?_linkSources (nodes : List NodeDef) (first : Nat) (es : List Edge) (i : Nat) :
    (linkSources nodes first es)[i]? =
      nodes[i]?.map (·.link (es.findIdxs (·.src == i) first)) := by
  induction es generalizing nodes first with
  | nil => simp [linkSources, NodeDef.link]
  | cons e rest ih =>
    rw [linkSources, ih, List.getElem?_modify, List.findIdxs_cons, Option.map_eq_map,
      Option.map_map]
    by_cases he : e.src = i
    · simp [he, Function.comp_def, NodeDef.link]
    · simp [he, Function.comp_def]

/-- Linking edges to their sources neither adds a node nor drops one. -/
theorem length_linkSources (nodes : List NodeDef) (first : Nat) (es : List Edge) :
    (linkSources nodes first es).length = nodes.length := by
  induction es generalizing nodes first with
  | nil => rfl
  | cons e rest ih => rw [linkSources, ih, List.length_modify]

/-- The edges into a node, slot by slot. -/
theorem getElem?_edgesInto (dest : Nat) (inputs : List (Nat × Nat)) (k : Nat) :
    (edgesInto dest inputs)[k]? = inputs[k]?.map fun p => ⟨p.1, p.2, dest, k⟩ := by
  simp [edgesInto, List.getElem?_map, List.getElem?_zipIdx, Function.comp_def]

/-- A commit adds one node. -/
theorem length_nodes_commit :
    (g.commit op name device outDTypes inputs attributes).2.nodes.length = g.nodes.length + 1 := by
  simp [commit, length_linkSources]

/-- A commit leaves every node in its place, and links it to the new edges that leave it. -/
theorem getElem?_nodes_commit {i : Nat} (hi : i < g.nodes.length) :
    (g.commit op name device outDTypes inputs attributes).2.nodes[i]? =
      g.nodes[i]?.map
        (·.link ((edgesInto g.nodes.length inputs).findIdxs (·.src == i) g.edges.length)) := by
  have hlen : i < (linkSources g.nodes g.edges.length
      (edgesInto g.nodes.length inputs)).length := by
    rw [length_linkSources]; exact hi
  rw [commit, List.getElem?_append_left hlen, getElem?_linkSources]

/-- The node that a commit adds. -/
theorem getElem?_nodes_commit_self :
    (g.commit op name device outDTypes inputs attributes).2.nodes[g.nodes.length]? =
      some
        { id := g.nodes.length
          op, name, device, outDTypes
          inEdges := List.range' g.edges.length inputs.length } := by
  simp [commit, length_linkSources]

/-- A node of the graph after a commit was there before, or is the one that was added. -/
theorem nodes_commit_cases {i : Nat} {n : NodeDef}
    (h : (g.commit op name device outDTypes inputs attributes).2.nodes[i]? = some n) :
    (∃ m, g.nodes[i]? = some m ∧
      n = m.link ((edgesInto g.nodes.length inputs).findIdxs (·.src == i) g.edges.length)) ∨
    (i = g.nodes.length ∧
      n = { id := i, op, name, device, outDTypes
            inEdges := List.range' g.edges.length inputs.length }) := by
  have hi : i < g.nodes.length + 1 := by
    rw [← length_nodes_commit]
    exact (List.getElem?_eq_some_iff.1 h).1
  rcases Nat.lt_succ_iff_lt_or_eq.1 hi with hlt | rfl
  · rw [getElem?_nodes_commit hlt] at h
    obtain ⟨m, hm, rfl⟩ := Option.map_eq_some_iff.1 h
    exact .inl ⟨m, hm, rfl⟩
  · rw [getElem?_nodes_commit_self] at h
    cases h
    exact .inr ⟨rfl, rfl⟩

/-- An output that a node has is still there after a commit. -/
theorem HasOutput.commit {i slot : Nat} (h : g.HasOutput i slot) :
    (g.commit op name device outDTypes inputs attributes).2.HasOutput i slot := by
  obtain ⟨n, hn, hslot⟩ := h
  have hc : (g.commit op name device outDTypes inputs attributes).2.nodes[i]? = _ :=
    getElem?_nodes_commit (List.getElem?_eq_some_iff.1 hn).1
  rw [hn] at hc
  exact ⟨_, hc, hslot⟩

/-- An edge of the graph after a commit was there before, or feeds an input of the added node. -/
theorem edges_commit_cases {j : Nat} {e : Edge}
    (h : (g.commit op name device outDTypes inputs attributes).2.edges[j]? = some e) :
    g.edges[j]? = some e ∨
    ∃ k p, j = g.edges.length + k ∧ inputs[k]? = some p ∧ e = ⟨p.1, p.2, g.nodes.length, k⟩ := by
  change (g.edges ++ edgesInto g.nodes.length inputs)[j]? = some e at h
  rcases Nat.lt_or_ge j g.edges.length with hlt | hge
  · rw [List.getElem?_append_left hlt] at h
    exact .inl h
  · rw [List.getElem?_append_right hge, getElem?_edgesInto] at h
    obtain ⟨p, hp, rfl⟩ := Option.map_eq_some_iff.1 h
    exact .inr ⟨j - g.edges.length, p, by omega, hp, rfl⟩

/-- A commit leaves every edge in its place. -/
theorem edges_commit_of_some {j : Nat} {e : Edge} (h : g.edges[j]? = some e) :
    (g.commit op name device outDTypes inputs attributes).2.edges[j]? = some e := by
  change (g.edges ++ edgesInto g.nodes.length inputs)[j]? = some e
  rw [List.getElem?_append_left (List.getElem?_eq_some_iff.1 h).1, h]

/-- The added edges enter the added node alone. -/
theorem enters_commit_of_lt {j i k : Nat} (hi : i < g.nodes.length) :
    (g.commit op name device outDTypes inputs attributes).2.Enters j i k ↔ g.Enters j i k := by
  constructor
  · rintro ⟨e, he, rfl, rfl⟩
    rcases edges_commit_cases he with he | ⟨_, _, -, -, rfl⟩
    · exact ⟨e, he, rfl, rfl⟩
    · exact absurd hi (Nat.lt_irrefl _)
  · rintro ⟨e, he, hdest, hslot⟩
    exact ⟨e, edges_commit_of_some he, hdest, hslot⟩

/-- The edges into the added node are the added edges, one for each input in order. -/
theorem enters_commit_self {j k : Nat} (hold : ∀ e ∈ g.edges, e.dest < g.nodes.length) :
    (List.range' g.edges.length inputs.length)[k]? = some j ↔
      (g.commit op name device outDTypes inputs attributes).2.Enters j g.nodes.length k := by
  constructor
  · intro hk
    obtain ⟨hlt, rfl⟩ := List.getElem?_eq_some_iff.1 hk
    rw [List.length_range'] at hlt
    refine ⟨⟨inputs[k].1, inputs[k].2, g.nodes.length, k⟩, ?_, rfl, rfl⟩
    change (g.edges ++ edgesInto g.nodes.length inputs)[_]? = _
    rw [List.getElem_range', List.getElem?_append_right (by omega), getElem?_edgesInto]
    simp [hlt]
  · rintro ⟨e, he, hdest, rfl⟩
    rcases edges_commit_cases he with he | ⟨k, p, rfl, hp, rfl⟩
    · exact absurd hdest (Nat.ne_of_lt (hold e (List.mem_of_getElem? he)))
    · have hlt : k < inputs.length := (List.getElem?_eq_some_iff.1 hp).1
      simp [List.getElem?_range' hlt]

/-- The edges that leave a node after a commit: those from before, then the added ones. -/
theorem leaves_commit {j i : Nat} :
    (g.commit op name device outDTypes inputs attributes).2.Leaves j i ↔
      g.Leaves j i ∨
        j ∈ (edgesInto g.nodes.length inputs).findIdxs (·.src == i) g.edges.length := by
  rw [List.mem_findIdxs_iff_getElem_sub_pos]
  constructor
  · rintro ⟨e, he, rfl⟩
    rcases edges_commit_cases he with he | ⟨k, p, rfl, hp, rfl⟩
    · exact .inl ⟨e, he, rfl⟩
    · have hlt : k < inputs.length := (List.getElem?_eq_some_iff.1 hp).1
      have hk := getElem?_edgesInto g.nodes.length inputs k
      rw [hp] at hk
      obtain ⟨hk, hval⟩ := List.getElem?_eq_some_iff.1 hk
      refine .inr ⟨Nat.le_add_right .., ?_⟩
      simp only [Nat.add_sub_cancel_left]
      exact ⟨hk, by simp [hval]⟩
  · rintro (⟨e, he, rfl⟩ | ⟨hle, hlt, hsrc⟩)
    · exact ⟨e, edges_commit_of_some he, rfl⟩
    · refine ⟨_, ?_, by simpa using hsrc⟩
      change (g.edges ++ edgesInto g.nodes.length inputs)[j]? = _
      rw [List.getElem?_append_right hle, List.getElem?_eq_getElem hlt]

/-- A commit keeps a graph well formed if its inputs are outputs of nodes that exist, one for each
input of the op, and there is an element type for each output. -/
theorem WellFormed.commit (h : g.WellFormed) (hout : outDTypes.length = op.numOutputs)
    (hin : inputs.length = op.numInputs) (hsrc : ∀ p ∈ inputs, g.HasOutput p.1 p.2) :
    (g.commit op name device outDTypes inputs attributes).2.WellFormed where
  numbered i n hn := by
    rcases nodes_commit_cases hn with ⟨m, hm, rfl⟩ | ⟨rfl, rfl⟩
    · exact h.numbered i m hm
    · rfl
  outputs n hn := by
    obtain ⟨i, hn⟩ := List.getElem?_of_mem hn
    rcases nodes_commit_cases hn with ⟨m, hm, rfl⟩ | ⟨rfl, rfl⟩
    · exact h.outputs m (List.mem_of_getElem? hm)
    · exact hout
  inputs n hn := by
    obtain ⟨i, hn⟩ := List.getElem?_of_mem hn
    rcases nodes_commit_cases hn with ⟨m, hm, rfl⟩ | ⟨rfl, rfl⟩
    · exact h.inputs m (List.mem_of_getElem? hm)
    · rw [List.length_range', hin]
  entering i n hn k j := by
    rcases nodes_commit_cases hn with ⟨m, hm, rfl⟩ | ⟨rfl, rfl⟩
    · rw [enters_commit_of_lt (List.getElem?_eq_some_iff.1 hm).1]
      exact h.entering i m hm k j
    · exact enters_commit_self fun e he => (h.forward e he).2
  leaving i n hn := by
    rcases nodes_commit_cases hn with ⟨m, hm, rfl⟩ | ⟨rfl, rfl⟩
    · obtain ⟨hsorted, hmem⟩ := h.leaving i m hm
      refine ⟨List.pairwise_append.2 ⟨hsorted, List.pairwise_findIdxs, ?_⟩, fun j => ?_⟩
      · -- an old edge comes before all the added ones
        intro a ha b hb
        obtain ⟨e, he, -⟩ := (hmem a).1 ha
        exact Nat.lt_of_lt_of_le (List.getElem?_eq_some_iff.1 he).1
          (List.ge_of_mem_findIdxs b hb)
      · rw [leaves_commit, ← hmem j]
        exact List.mem_append
    · -- no edge leaves the new node: the old edges leave old nodes, and so do the added ones
      refine ⟨List.Pairwise.nil, fun j => ?_⟩
      simp only [List.not_mem_nil, false_iff]
      rintro ⟨e, he, hsame⟩
      rcases edges_commit_cases he with he | ⟨k, p, -, hp, rfl⟩
      · have := h.forward e (List.mem_of_getElem? he)
        omega
      · obtain ⟨m, hm, -⟩ := hsrc p (List.mem_of_getElem? hp)
        exact absurd hsame (Nat.ne_of_lt (List.getElem?_eq_some_iff.1 hm).1)
  forward e he := by
    rw [length_nodes_commit]
    obtain ⟨j, he⟩ := List.getElem?_of_mem he
    rcases edges_commit_cases he with he | ⟨k, p, -, hp, rfl⟩
    · have := h.forward e (List.mem_of_getElem? he)
      omega
    · obtain ⟨m, hm, -⟩ := hsrc p (List.mem_of_getElem? hp)
      exact ⟨(List.getElem?_eq_some_iff.1 hm).1, Nat.lt_succ_self _⟩
  slots e he := by
    obtain ⟨j, he⟩ := List.getElem?_of_mem he
    rcases edges_commit_cases he with he | ⟨k, p, -, hp, rfl⟩
    · exact (h.slots e (List.mem_of_getElem? he)).commit
    · exact (hsrc p (List.mem_of_getElem? hp)).commit

end commit

end GraphDef

/-! ## Builders and runs -/

/-- What a builder has staged can be committed: each input is an output of a node of the graph. -/
def NodeBuilder.Staged (b : NodeBuilder) : Prop :=
  ∀ p ∈ b.inputs, b.graph.HasOutput p.1 p.2

/-- What the check of an input accepts is an output of a node of the graph. -/
theorem NodeBuilder.hasOutput_of_checkInput {b : NodeBuilder} {src : NodeHandle} {slot : Nat}
    (h : b.checkInput src slot = .ok ()) : b.graph.HasOutput src.index slot := by
  obtain ⟨⟨n, hn, hslot⟩, -⟩ := checkInput_eq_ok_iff.1 h
  unfold GraphDef.node? at hn
  split at hn
  · exact ⟨n, hn, hslot⟩
  · cases hn

/-- A call keeps the graph well formed, and what is staged fit to be committed. -/
theorem NodeBuilder.Turn.keeps_wellFormed {b b' : NodeBuilder} {call : NodeBuilder.Call}
    {answer : Except Error (Option NodeHandle)} (hturn : b.Turn call answer b')
    (hg : b.graph.WellFormed) (hs : b.Staged) : b'.graph.WellFormed ∧ b'.Staged := by
  cases hturn with
  | refused | failed | name | attr => exact ⟨hg, hs⟩
  | input _ hcheck =>
    refine ⟨hg, fun p hp => ?_⟩
    rcases List.mem_append.1 hp with hp | hp
    · exact hs p hp
    · obtain rfl := List.mem_singleton.1 hp
      exact hasOutput_of_checkInput (b := b) hcheck
  | build _ hcheck =>
    obtain ⟨hout, hin, -⟩ := checkBuild_eq_ok_iff.1 hcheck
    exact ⟨hg.commit hout hin hs, fun p hp => (hs p hp).commit⟩
  | reset => exact ⟨hg, fun p hp => nomatch hp⟩

namespace Assembly

/-- An assembly whose graph is well formed, and whose builder has staged what can be committed. -/
def Sound : Assembly → Prop
  | idle g => g.WellFormed
  | held b => b.graph.WellFormed ∧ b.Staged

/-- The graph of a sound assembly is well formed. -/
theorem Sound.graph {a : Assembly} (h : a.Sound) : a.graph.WellFormed := by
  cases a with
  | idle g => exact h
  | held b => exact h.1

/-- A step keeps an assembly sound. -/
theorem Sound.perform {a : Assembly} (h : a.Sound) (s : Step) : (a.perform s).2.Sound :=
  perform_keeps h s (fun _ hb => hb.1) (fun _ _ _ _ _ _ _ _ hg => ⟨hg, fun _ hp => nomatch hp⟩)
    fun hturn hb => hturn.keeps_wellFormed hb.1 hb.2

/-- Every run leads to a sound assembly. -/
theorem sound_run (id : GraphId) (steps : List Step) : (run id steps).Sound :=
  Run.after_induction steps (GraphDef.wellFormed_empty id) fun _ s h => h.perform s

/-- **Builders keep a graph well formed.** After every run of builders on one graph, each of whose
steps may succeed or fail, the lists of edges at the nodes mirror the list of edges, the graph has
no cycle, and the inputs that are staged, which a build looks up without a check, are there. -/
theorem wellFormed_run (id : GraphId) (steps : List Step) :
    (run id steps).graph.WellFormed ∧
      (∀ i, ¬ Relation.TransGen (run id steps).graph.Feeds i i) ∧
      ∀ b, run id steps = held b → ∀ p ∈ b.inputs, b.graph.HasOutput p.1 p.2 := by
  have h := sound_run id steps
  refine ⟨h.graph, h.graph.acyclic, fun b hb => ?_⟩
  rw [hb] at h
  exact h.2

end Assembly

end Dataflow
