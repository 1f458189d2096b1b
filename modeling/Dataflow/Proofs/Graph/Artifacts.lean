import Mathlib.Data.List.Sort
import Dataflow.Proofs.Graph.Validation

/-!
# What validation finds out

Validation accepts the consistent graphs, and its answer is told by their nodes and edges
(`Artifacts.Describes`): the consumers of a node are the targets of the edges that leave it, the
sources are the nodes whose ops have no inputs, and the sinks are the nodes that no edge leaves.
Sources and sinks come in increasing order, so a graph has one such answer only
(`Artifacts.Describes.unique`), and `GraphDef.validate_describes` says when validation succeeds and
with what.
-/

namespace Dataflow

/-- What validation tells of a graph that it accepts. -/
structure Artifacts.Describes (found : Artifacts) (g : GraphDef) : Prop where
  length_consumers : found.consumers.length = g.nodes.length
  /-- The consumers of a node are the targets of the edges that leave it, edge by edge. -/
  consumers : ∀ i < g.nodes.length,
    found.consumers[i]? = some ((g.edges.filter (·.src == i)).map (·.dest))
  /-- All lists of consumers together have an entry for each edge. -/
  length_flatten : found.consumers.flatten.length = g.edges.length
  sources_lt : found.sources.Pairwise (· < ·)
  /-- The sources are the nodes whose ops have no inputs. -/
  mem_sources : ∀ i, i ∈ found.sources ↔ ∃ n, g.nodes[i]? = some n ∧ n.op.numInputs = 0
  sinks_lt : found.sinks.Pairwise (· < ·)
  /-- The sinks are the nodes that no edge leaves. -/
  mem_sinks : ∀ i, i ∈ found.sinks ↔ i < g.nodes.length ∧ ∀ j, ¬ g.Leaves j i

/-- A graph is described in one way only. -/
theorem Artifacts.Describes.unique {found found' : Artifacts} {g : GraphDef}
    (h : found.Describes g) (h' : found'.Describes g) : found = found' := by
  have hconsumers : found.consumers = found'.consumers := by
    refine List.ext_getElem? fun i => ?_
    rcases Nat.lt_or_ge i g.nodes.length with hi | hi
    · rw [h.consumers i hi, h'.consumers i hi]
    · rw [List.getElem?_eq_none (h.length_consumers ▸ hi),
        List.getElem?_eq_none (h'.length_consumers ▸ hi)]
  -- an increasing list is told by its members
  have hsources : found.sources = found'.sources :=
    h.sources_lt.eq_of_mem_iff h'.sources_lt fun i =>
      (h.mem_sources i).trans (h'.mem_sources i).symm
  have hsinks : found.sinks = found'.sinks :=
    h.sinks_lt.eq_of_mem_iff h'.sinks_lt fun i => (h.mem_sinks i).trans (h'.mem_sinks i).symm
  cases found
  cases found'
  rw [Artifacts.mk.injEq]
  exact ⟨hconsumers, hsources, hsinks⟩

namespace GraphDef

/-! ## Consumers -/

/-- The lists of consumers after more edges. -/
def addConsumers (lists : List (List Nat)) (edges : List Edge) : List (List Nat) :=
  edges.foldl (fun lists e => lists.modify e.src (· ++ [e.dest])) lists

theorem addConsumers_cons (lists : List (List Nat)) (e : Edge) (rest : List Edge) :
    addConsumers lists (e :: rest) = addConsumers (lists.modify e.src (· ++ [e.dest])) rest := rfl

/-- Gathering consumers neither adds a node nor drops one. -/
theorem length_addConsumers (lists : List (List Nat)) (edges : List Edge) :
    (addConsumers lists edges).length = lists.length := by
  induction edges generalizing lists with
  | nil => rfl
  | cons e rest ih => rw [addConsumers_cons, ih, List.length_modify]

/-- Each list has gained the targets of the edges that leave its node. -/
theorem getElem?_addConsumers (lists : List (List Nat)) (edges : List Edge) (i : Nat) :
    (addConsumers lists edges)[i]? =
      lists[i]?.map (· ++ (edges.filter (·.src == i)).map (·.dest)) := by
  induction edges generalizing lists with
  | nil => simp [addConsumers]
  | cons e rest ih =>
    rw [addConsumers_cons, ih, List.getElem?_modify, Option.map_eq_map, Option.map_map]
    by_cases he : e.src = i
    · simp [he, Function.comp_def]
    · simp [he, Function.comp_def]

/-- A consumer that is added is one more in all. -/
theorem length_flatten_modify {lists : List (List Nat)} {i : Nat} (hi : i < lists.length)
    (x : Nat) :
    (lists.modify i (· ++ [x])).flatten.length = lists.flatten.length + 1 := by
  induction lists generalizing i with
  | nil => nomatch hi
  | cons xs lists ih =>
    cases i with
    | zero =>
      simp only [List.modify_zero_cons, List.flatten_cons, List.length_append,
        List.length_singleton]
      omega
    | succ i =>
      have hrest := ih (Nat.lt_of_succ_lt_succ hi)
      simp only [List.modify_succ_cons, List.flatten_cons, List.length_append]
      omega

/-- If all sources exist, each edge adds one consumer; an edge from elsewhere would add none. -/
theorem length_flatten_addConsumers {lists : List (List Nat)} {edges : List Edge}
    (hsrc : ∀ e ∈ edges, e.src < lists.length) :
    (addConsumers lists edges).flatten.length = lists.flatten.length + edges.length := by
  induction edges generalizing lists with
  | nil => rfl
  | cons e rest ih =>
    obtain ⟨he, hrest⟩ := List.forall_mem_cons.1 hsrc
    rw [← List.length_modify (· ++ [e.dest]) lists e.src] at hrest
    rw [addConsumers_cons, ih hrest, length_flatten_modify he, List.length_cons]
    omega

/-- There is a list of consumers for each node. -/
theorem length_gatherConsumers (count : Nat) (edges : List Edge) :
    (gatherConsumers count edges).length = count :=
  (length_addConsumers _ edges).trans List.length_replicate

/-- The consumers of a node are the targets of the edges that leave it. -/
theorem getElem?_gatherConsumers {count i : Nat} (hi : i < count) (edges : List Edge) :
    (gatherConsumers count edges)[i]? = some ((edges.filter (·.src == i)).map (·.dest)) := by
  refine (getElem?_addConsumers _ edges i).trans ?_
  rw [List.getElem?_replicate_of_lt hi, Option.map_some, List.nil_append]

/-! ## Sources and sinks -/

/-- The positions of the empty lists are those that the library's search finds. -/
theorem emptyPositions_eq_findIdxs (index : Nat) (lists : List (List Nat)) :
    emptyPositions index lists = lists.findIdxs List.isEmpty index := by
  induction lists generalizing index with
  | nil => rfl
  | cons xs rest ih => rw [emptyPositions, List.findIdxs_cons, ih]

/-- The empty lists are found at their positions. -/
theorem mem_emptyPositions {lists : List (List Nat)} {i : Nat} :
    i ∈ emptyPositions 0 lists ↔ lists[i]? = some [] := by
  rw [emptyPositions_eq_findIdxs, List.mem_findIdxs_iff_exists_getElem_pos,
    List.getElem?_eq_some_iff]
  simp only [List.isEmpty_iff]

/-- A node without outgoing edges is one that no edge leaves. -/
theorem filter_src_eq_nil_iff {g : GraphDef} {i : Nat} :
    g.edges.filter (·.src == i) = [] ↔ ∀ j, ¬ g.Leaves j i := by
  simp only [List.filter_eq_nil_iff, beq_iff_eq]
  constructor
  · rintro hnone j ⟨e, he, hsrc⟩
    exact hnone e (List.mem_of_getElem? he) hsrc
  · intro hnone e he hsrc
    obtain ⟨j, hj⟩ := List.getElem?_of_mem he
    exact hnone j ⟨e, hj, hsrc⟩

/-- The nodes without consumers are those that no edge leaves. -/
theorem mem_sinks_iff {g : GraphDef} {i : Nat} :
    i ∈ emptyPositions 0 (gatherConsumers g.nodes.length g.edges) ↔
      i < g.nodes.length ∧ ∀ j, ¬ g.Leaves j i := by
  rw [mem_emptyPositions]
  rcases Nat.lt_or_ge i g.nodes.length with hi | hi
  · rw [getElem?_gatherConsumers hi, Option.some.injEq, List.map_eq_nil_iff, filter_src_eq_nil_iff]
    exact (and_iff_right hi).symm
  · rw [List.getElem?_eq_none ((length_gatherConsumers _ g.edges).le.trans hi)]
    exact iff_of_false nofun fun h => Nat.not_lt_of_le hi h.1

/-- The nodes of a consistent graph are numbered in order. -/
theorem Consistent.map_id {g : GraphDef} (h : g.Consistent) :
    g.nodes.map (·.id) = List.range g.nodes.length := by
  refine List.ext_getElem (by simp) fun i hi hi' => ?_
  rw [List.length_map] at hi
  simpa using (h.nodes i _ (List.getElem?_eq_getElem hi)).1

/-- A node of a consistent graph lists no entering edge if its op has no inputs. -/
theorem Consistent.mem_sources_iff {g : GraphDef} (h : g.Consistent) {i : Nat} :
    i ∈ (g.nodes.filter (·.inEdges.isEmpty)).map (·.id) ↔
      ∃ n, g.nodes[i]? = some n ∧ n.op.numInputs = 0 := by
  simp only [List.mem_map, List.mem_filter, List.isEmpty_iff]
  constructor
  · rintro ⟨n, ⟨hn, hempty⟩, rfl⟩
    obtain ⟨i, hi⟩ := List.getElem?_of_mem hn
    refine ⟨n, ?_, ?_⟩
    · rw [(h.nodes i n hi).1, hi]
    · rw [← h.arity n hn, hempty, List.length_nil]
  · rintro ⟨n, hn, hnone⟩
    have hmem := List.mem_of_getElem? hn
    refine ⟨n, ⟨hmem, ?_⟩, (h.nodes i n hn).1⟩
    rw [← List.length_eq_zero_iff, h.arity n hmem, hnone]

/-! ## The answer of validation -/

/-- What validation answers for a graph that it accepts. -/
def findings (g : GraphDef) : Artifacts where
  consumers := gatherConsumers g.nodes.length g.edges
  sources := (g.nodes.filter (·.inEdges.isEmpty)).map (·.id)
  sinks := emptyPositions 0 (gatherConsumers g.nodes.length g.edges)

/-- Validation answers what there is to be found, if it accepts the graph. -/
theorem eq_findings_of_validate {g : GraphDef} {found : Artifacts} (h : g.validate = .ok found) :
    found = g.findings := by
  unfold validate at h
  obtain ⟨-, -, h⟩ := except_bind_eq_ok.1 h
  obtain ⟨-, -, h⟩ := except_bind_eq_ok.1 h
  obtain ⟨-, -, h⟩ := except_bind_eq_ok.1 h
  exact (Except.ok.inj h).symm

/-- Of a consistent graph, validation tells what is so. -/
theorem Consistent.describes {g : GraphDef} (h : g.Consistent) : g.findings.Describes g where
  length_consumers := length_gatherConsumers _ _
  consumers i hi := getElem?_gatherConsumers hi g.edges
  length_flatten := by
    refine (length_flatten_addConsumers fun e he => ?_).trans ?_
    · obtain ⟨j, hj⟩ := List.getElem?_of_mem he
      obtain ⟨src, -, hsrc, -⟩ := h.linked j e hj
      rw [List.length_replicate]
      exact (List.getElem?_eq_some_iff.1 hsrc).1
    · rw [List.flatten_replicate_nil, List.length_nil, Nat.zero_add]
  sources_lt := by
    have hsub : ((g.nodes.filter (·.inEdges.isEmpty)).map (·.id)).Sublist
        (List.range g.nodes.length) :=
      h.map_id ▸ List.filter_sublist.map _
    exact List.pairwise_lt_range.sublist hsub
  mem_sources i := h.mem_sources_iff
  sinks_lt := by
    rw [findings, emptyPositions_eq_findIdxs]
    exact List.pairwise_findIdxs
  mem_sinks i := mem_sinks_iff

/-- **Validation accepts the consistent graphs, and describes them.** It answers for every
consistent graph, and for no other, and its answer is the one description of the graph. -/
theorem validate_describes (g : GraphDef) :
    ((∃ found, g.validate = .ok found) ↔ g.Consistent) ∧
      ∀ found, g.validate = .ok found ↔ g.Consistent ∧ found.Describes g := by
  refine ⟨isOk_validate_iff, fun found => ⟨fun h => ?_, fun ⟨hc, hdescribes⟩ => ?_⟩⟩
  · have hc := isOk_validate_iff.1 ⟨found, h⟩
    exact ⟨hc, eq_findings_of_validate h ▸ hc.describes⟩
  · obtain ⟨found', h⟩ := isOk_validate_iff.2 hc
    rw [h, hdescribes.unique hc.describes, eq_findings_of_validate h]

/-- A node that feeds itself is accepted; it is neither a source nor a sink. -/
example : validate
    { id := ⟨0⟩
      nodes := [{ id := 0, op := ⟨0, "neg", 1, [], [Layout.ofDims [1]]⟩, name := "a"
                  device := "CPU:0", outDTypes := [.float], inEdges := [0], outEdges := [0] }]
      edges := [⟨0, 0, 0, 0⟩] } = .ok ⟨[[0]], [], []⟩ := rfl

end GraphDef

end Dataflow
