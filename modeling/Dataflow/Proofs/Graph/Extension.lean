import Dataflow.Proofs.Graph.Atomicity
import Dataflow.Proofs.Graph.Attributes

/-!
# Builds only add to a graph

A build changes what it does not own: each source of the new node gets the edges that leave it, and
the edges, the attributes and the names of all nodes are in tables that the graph has once. What
was there before is left as it was, in its place (`GraphDef.Extends`). A commit does so if it
writes to new paths under a free name (`GraphDef.extends_commit`), and every step of a workshop
does (`Workshop.extends_perform`).

The signature of a node is told by its entering edges and their sources, which an extension keeps.
So a node finds the same device and the same kernel, or fails in the same way, however the graph
goes on to be built (`Workshop.builds_only_extend`).
-/

namespace Dataflow

namespace GraphDef

/-! ## Extensions -/

/-- Graph `g'` is graph `g` with more behind it. -/
structure Extends (g g' : GraphDef) : Prop where
  id : g'.id = g.id
  /-- A node stays as it is, but that its list of leaving edges goes on with the new edges that it
  feeds. -/
  nodes : ∀ (i : Nat) (n : NodeDef), g.nodes[i]? = some n →
    ∃ new, g'.nodes[i]? = some (n.link new) ∧ new.Pairwise (· < ·) ∧
      ∀ j, j ∈ new ↔ g.edges.length ≤ j ∧ g'.Leaves j i
  edges : g.edges <+: g'.edges
  /-- A new edge enters a new node. -/
  entering : ∀ (j : Nat) (e : Edge), g.edges.length ≤ j → g'.edges[j]? = some e →
    g.nodes.length ≤ e.dest
  attributes : ∀ path value, g.attributes.get? path = some value →
    g'.attributes.get? path = some value
  names : ∀ name i, g.names.get? name = some i → g'.names.get? name = some i

variable {g g' g'' : GraphDef} {i : Nat} {n : NodeDef}

theorem Extends.refl (g : GraphDef) : g.Extends g where
  id := rfl
  nodes i n hn := by
    refine ⟨[], by rw [hn, NodeDef.link, List.append_nil], List.Pairwise.nil, fun j => ?_⟩
    simp only [List.not_mem_nil, false_iff]
    rintro ⟨hle, e, he, -⟩
    exact absurd (List.getElem?_eq_some_iff.1 he).1 (Nat.not_lt.2 hle)
  edges := List.prefix_rfl
  entering _ _ hle he := absurd (List.getElem?_eq_some_iff.1 he).1 (Nat.not_lt.2 hle)
  attributes _ _ h := h
  names _ _ h := h

/-- An edge stays in its place. -/
theorem Extends.getElem?_edges (h : g.Extends g') {j : Nat} {e : Edge}
    (he : g.edges[j]? = some e) :
    g'.edges[j]? = some e := by
  obtain ⟨more, hmore⟩ := h.edges
  rw [← hmore, List.getElem?_append_left (List.getElem?_eq_some_iff.1 he).1, he]

/-- An extension has no fewer nodes. -/
theorem Extends.length_nodes_le (h : g.Extends g') : g.nodes.length ≤ g'.nodes.length := by
  refine Nat.le_of_not_lt fun hlt => ?_
  obtain ⟨_, hn, -⟩ := h.nodes _ _ (List.getElem?_eq_getElem hlt)
  exact absurd (List.getElem?_eq_some_iff.1 hn).1 (Nat.lt_irrefl _)

/-- An edge that was there leaves the node that it left. -/
theorem Extends.leaves_iff (h : g.Extends g') {j : Nat} (hj : j < g.edges.length) :
    g'.Leaves j i ↔ g.Leaves j i := by
  have he := List.getElem?_eq_getElem hj
  unfold Leaves
  rw [h.getElem?_edges he, he]

/-- An extension of an extension is an extension: edges that were added later leave the former
lists of a node as initial parts. -/
theorem Extends.trans (h : g.Extends g') (h' : g'.Extends g'') : g.Extends g'' where
  id := h'.id.trans h.id
  nodes i n hn := by
    obtain ⟨new, hn', hnew, hmem⟩ := h.nodes i n hn
    obtain ⟨newer, hn'', hnewer, hmem'⟩ := h'.nodes i _ hn'
    have hlen := h.edges.length_le
    refine ⟨new ++ newer, ?_, List.pairwise_append.2 ⟨hnew, hnewer, fun a ha b hb => ?_⟩,
      fun j => ?_⟩
    · rw [hn'', NodeDef.link, NodeDef.link, NodeDef.link, List.append_assoc]
    · obtain ⟨e, he, -⟩ := ((hmem a).1 ha).2
      exact Nat.lt_of_lt_of_le (List.getElem?_eq_some_iff.1 he).1 ((hmem' b).1 hb).1
    · -- An edge from the first of the new ones on was added by one extension or by the other.
      rw [List.mem_append, hmem, hmem']
      rcases Nat.lt_or_ge j g'.edges.length with hlt | hge
      · rw [h'.leaves_iff hlt]
        exact or_iff_left fun hj => Nat.not_le.2 hlt hj.1
      · rw [or_iff_right fun hj => ?_]
        · exact and_congr_left fun _ => ⟨hlen.trans, fun _ => hge⟩
        · obtain ⟨-, e, he, -⟩ := hj
          exact absurd (List.getElem?_eq_some_iff.1 he).1 (Nat.not_lt.2 hge)
  edges := h.edges.trans h'.edges
  entering j e hle he := by
    rcases Nat.lt_or_ge j g'.edges.length with hlt | hge
    · have hsame := h'.getElem?_edges (List.getElem?_eq_getElem hlt)
      rw [he] at hsame
      exact h.entering j e hle (hsame ▸ List.getElem?_eq_getElem hlt)
    · exact h.length_nodes_le.trans (h'.entering j e hge he)
  attributes _ _ hget := h'.attributes _ _ (h.attributes _ _ hget)
  names _ _ hget := h'.names _ _ (h.names _ _ hget)

/-- A commit under a free name, which writes to new paths only, extends the graph. -/
theorem extends_commit {op : Op} {name device : String} {outDTypes : List DType}
    {inputs : List (Nat × Nat)} {attributes : Table String AttrValue}
    (hname : name ∉ g.names.keys)
    (hfresh : ∀ attr ∈ attributes.keys, attributePath name attr ∉ g.attributes.table.keys) :
    g.Extends (g.commit op name device outDTypes inputs attributes.entries).2 where
  id := rfl
  nodes i n hn := by
    refine ⟨(edgesInto g.nodes.length inputs).findIdxs (·.src == i) g.edges.length, ?_,
      List.pairwise_findIdxs, fun j => ?_⟩
    · rw [getElem?_nodes_commit (List.getElem?_eq_some_iff.1 hn).1, hn, Option.map_some]
    · -- of the edges from the first added one on, those that leave the node are added to its list
      rw [leaves_commit]
      refine ⟨fun hj => ⟨List.ge_of_mem_findIdxs j hj, .inr hj⟩, ?_⟩
      rintro ⟨hle, ⟨e, he, -⟩ | hj⟩
      · exact absurd (List.getElem?_eq_some_iff.1 he).1 (Nat.not_lt.2 hle)
      · exact hj
  edges := List.prefix_append _ _
  entering j e hle he := by
    rcases edges_commit_cases he with he | ⟨_, _, -, -, rfl⟩
    · exact absurd (List.getElem?_eq_some_iff.1 he).1 (Nat.not_lt.2 hle)
    · exact Nat.le_refl _
  attributes path value hget := by
    rw [Attributes.get?, Table.get?_eq_some_iff] at hget ⊢
    rw [entries_commit hfresh]
    exact List.mem_append_left _ hget
  names other i hget := by
    show (g.names.insert name g.nodes.length).get? other = some i
    rw [Table.get?_insert, if_neg, hget]
    rintro rfl
    exact hname (Table.mem_keys_of_get? hget)

/-! ## What a node is bound to -/

/-- An edge brings the same to its target. -/
theorem Extends.arrival?_eq (h : g.Extends g') {e : Edge} {src : NodeDef}
    (hsrc : g.nodes[e.src]? = some src) : g'.arrival? e = g.arrival? e := by
  obtain ⟨_, hsrc', -⟩ := h.nodes _ _ hsrc
  unfold arrival?
  rw [hsrc, hsrc']
  rfl

/-- What arrives at a node still does, and nothing else. -/
theorem Extends.arrivals_eq (h : g.Extends g') (hg : g.WellFormed) (hn : g.nodes[i]? = some n)
    (new : List Nat) : g'.arrivals (n.link new) = g.arrivals n := by
  refine List.filterMap_congr fun j hj => ?_
  obtain ⟨k, hk⟩ := List.getElem?_of_mem hj
  obtain ⟨e, he, -⟩ := (hg.entering i n hn k j).1 hk
  obtain ⟨src, hsrc, -⟩ := hg.slots e (List.mem_of_getElem? he)
  rw [h.getElem?_edges he, he, Option.bind_some, Option.bind_some, h.arrival?_eq hsrc]

/-- A node keeps its signature. -/
theorem Extends.key_eq (h : g.Extends g') (hg : g.WellFormed) (hn : g.nodes[i]? = some n)
    (new : List Nat) : g'.key (n.link new) = g.key n := by
  have hinputs : g'.inputDTypes (n.link new) = g.inputDTypes n := by
    rw [inputDTypes_eq, inputDTypes_eq, h.arrivals_eq hg hn]
  rw [key, key, hinputs]
  rfl

/-- A node is bound to the same device and the same kernel, or fails in the same way. -/
theorem Extends.bind_eq (h : g.Extends g') (hg : g.WellFormed) (hn : g.nodes[i]? = some n)
    (new : List Nat) (book : KernelBook) (r : DeviceRegistry) :
    g'.bind book r (n.link new) = g.bind book r n := by
  have hkernel : ∀ kernels d,
      g'.resolveKernel kernels (n.link new) d = g.resolveKernel kernels n d :=
    resolveKernel_congr rfl rfl (h.key_eq hg hn new)
  unfold bind
  simp only [hkernel]
  rfl

end GraphDef

/-! ## Runs -/

namespace Workshop

/-- A call of a builder extends the graph, as long as the table of attributes is what the trace
tells. -/
theorem Recorded.extends_call {b b' : NodeBuilder} {call : NodeBuilder.Call}
    {answer : Except Error (Option NodeHandle)} {records : List Record}
    (h : Recorded b.graph records) (hturn : b.Turn call answer b') (hnamed : b.graph.Named)
    (huses : (Assembly.held b).Uses Op.Declared) : b.graph.Extends b'.graph := by
  cases hturn with
  | refused | failed | input | name | attr | reset => exact .refl _
  | build _ hcheck =>
    have hname := b.graph.uniqueName_notMem (b.name.getD b.op.name)
    exact GraphDef.extends_commit hname (h.fresh_of_checkBuild hnamed huses hname hcheck)

/-- So does every step of the workshop. -/
theorem Recorded.extends_turn {w : Workshop} {step : Step}
    {answer : Except Error (Option NodeHandle)} {a : Assembly} {records : List Record}
    (h : Recorded w.assembly.graph records) (hturn : w.Turn step answer a)
    (hnamed : w.assembly.graph.Named) (huses : w.assembly.Uses Op.Declared) :
    w.assembly.graph.Extends a.graph := by
  cases hturn with
  | catalog | refused | started => exact .refl _
  | ignored hidle =>
    rw [hidle]
    exact .refl _
  | called hheld hcall =>
    rw [hheld] at h hnamed huses ⊢
    exact h.extends_call hcall hnamed huses

/-- A step after a run extends the graph. -/
theorem extends_perform (id : GraphId) (steps : List Step) (step : Step) :
    (run id steps).assembly.graph.Extends ((run id steps).perform step).2.assembly.graph :=
  (recorded_run id steps).extends_turn ((run id steps).perform_turn step) (named_run id steps)
    (declared_run id steps)

/-- Further steps extend the graph. -/
theorem extends_append (id : GraphId) (steps more : List Step) :
    (run id steps).assembly.graph.Extends (run id (steps ++ more)).assembly.graph := by
  induction more using List.reverseRecOn with
  | nil =>
    rw [List.append_nil]
    exact .refl _
  | append_singleton more step ih =>
    rw [← List.append_assoc, run_concat]
    exact ih.trans (extends_perform id (steps ++ more) step)

/-- A call that answers a handle appends a node to the graph. -/
theorem appends_of_answer {w : Workshop} {call : NodeBuilder.Call} {handle : NodeHandle}
    (h : (w.perform (.call call)).1 = .ok (some handle)) :
    w.assembly.graph.Appends handle (w.perform (.call call)).2.assembly.graph := by
  have hturn := w.perform_turn (.call call)
  rw [h] at hturn
  generalize (w.perform (.call call)).2.assembly = a at hturn
  cases hturn with
  | called hheld hcall =>
    rw [hheld]
    cases hcall with
    | build => exact GraphDef.appends_commit

/-- **Builds only add to a graph.** A build that answers a handle appends one node, and leaves the
rest of the graph in its place: every node but for the new edges that leave it, every edge, every
attribute under its path and every name. The same holds of all further steps together, whatever
they are. So with any kernels and any devices, a node finds the device and the kernel that it has
found before, or fails with the same error. -/
theorem builds_only_extend (id : GraphId) (steps : List Step) :
    let g := (run id steps).assembly.graph
    (∀ outDTypes handle,
      ((run id steps).perform (.call (.build outDTypes))).1 = .ok (some handle) →
        let g' := ((run id steps).perform (.call (.build outDTypes))).2.assembly.graph
        g.Appends handle g' ∧ g.Extends g') ∧
      ∀ more : List Step,
        let g' := (run id (steps ++ more)).assembly.graph
        g.Extends g' ∧
          ∀ (i : Nat) (n : NodeDef), g.nodes[i]? = some n →
            ∃ n', g'.nodes[i]? = some n' ∧
              ∀ book r, g'.bind book r n' = g.bind book r n := by
  intro g
  refine ⟨fun outDTypes handle h => ⟨appends_of_answer h, extends_perform id steps _⟩,
    fun more => ?_⟩
  have hext := extends_append id steps more
  refine ⟨hext, fun i n hn => ?_⟩
  obtain ⟨new, hn', -⟩ := hext.nodes i n hn
  exact ⟨n.link new, hn', hext.bind_eq (sound_run id steps).assembly.graph hn new⟩

end Workshop

end Dataflow
