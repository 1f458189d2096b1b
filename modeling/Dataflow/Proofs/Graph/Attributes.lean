import Dataflow.Proofs.Graph.Naming
import Dataflow.Proofs.Graph.Staging
import Dataflow.Proofs.Op.Declaration

/-!
# The attributes of a graph

The attributes of all nodes are in one table, and a node's name may be anything. Its entries are
exactly those that the trace of a run tells: for each node and each attribute of its op, the path
has the value that was staged when the node was built (`Workshop.Recorded`). A commit writes to new
paths only, since a path tells the node's name (`attributePath_inj`) and the name is new; so no
build overwrites an entry (`Workshop.attributes_run`).
-/

namespace Dataflow

/-! ## One commit -/

namespace GraphDef

/-- A commit enters the attributes of its node behind the others, if their paths are new. -/
theorem entries_commit {g : GraphDef} {op : Op} {name device : String} {outDTypes : List DType}
    {inputs : List (Nat × Nat)} {attributes : Table String AttrValue}
    (hfresh : ∀ attr ∈ attributes.keys, attributePath name attr ∉ g.attributes.table.keys) :
    (g.commit op name device outDTypes inputs attributes.entries).2.attributes.table.entries =
      g.attributes.table.entries ++
        attributes.entries.map fun e => (attributePath name e.1, e.2) := by
  have hinj : Function.Injective (attributePath name) := fun _ _ h =>
    (String.append_right_inj _).1 h
  have hdistinct : (attributes.entries.map fun e => attributePath name e.1).Nodup := by
    have hkeys := attributes.nodup_keys.map hinj
    rwa [Table.keys, List.map_map] at hkeys
  rw [commit, Attributes.table_foldl_insert]
  exact Table.entries_foldl_insert _ _ _ hdistinct fun e he =>
    hfresh e.1 (List.mem_map_of_mem he)

end GraphDef

/-- A builder that passes the check of a build has staged the attributes of its op. -/
theorem NodeBuilder.mem_keys_iff {b : NodeBuilder} {outDTypes : List DType} (hop : b.op.Declared)
    (h : b.checkBuild outDTypes = .ok ()) (attr : String) :
    attr ∈ b.attributes.keys ↔ attr ∈ b.op.attributes := by
  obtain ⟨-, -, hsize, hcontains⟩ := checkBuild_eq_ok_iff.1 h
  have hsub : b.op.attributes ⊆ b.attributes.keys := fun attr hattr =>
    Table.contains_iff.1 (hcontains attr hattr)
  have hperm : b.op.attributes.Perm b.attributes.keys :=
    (List.subperm_of_subset hop.nodup hsub).perm_of_length_le
      (by rw [← Table.size_eq_length_keys, hsize])
  exact hperm.mem_iff.symm

/-! ## The table and the trace -/

namespace Workshop

/-- The table of attributes is what the trace tells. -/
structure Recorded (g : GraphDef) (records : List Record) : Prop where
  /-- An entry has the value with which a node was built, under the path of an attribute of its
  op. -/
  entries : ∀ path value, (path, value) ∈ g.attributes.table.entries ↔
    ∃ i name op attr, g.labels[i]? = some (name, op) ∧ attr ∈ op.attributes ∧
      path = attributePath name attr ∧ Given records i attr value
  /-- A node was built with a value for each attribute of its op. -/
  complete : ∀ i name op attr, g.labels[i]? = some (name, op) → attr ∈ op.attributes →
    ∃ value, Given records i attr value
  size : g.attributes.table.size = (g.labels.map fun label => label.2.attributes.length).sum
  /-- The nodes that were built are in the graph. -/
  built : ∀ i attr value, Given records i attr value → i < g.labels.length

variable {g : GraphDef} {records : List Record} {record : Record}

/-- The empty graph has no attribute, and the empty trace tells of none. -/
theorem recorded_empty (id : GraphId) : Recorded { id } [] := by
  have hnone : ∀ i attr value, ¬ Given [] i attr value := by
    rintro i attr value ⟨before, _, _, after, hnil, -⟩
    cases before <;> cases hnil
  exact ⟨fun path value => ⟨nofun, fun ⟨_, _, _, _, h, _⟩ => nomatch h⟩, nofun, rfl,
    fun i attr value h => absurd h (hnone i attr value)⟩

/-- A step that builds no node tells nothing about attributes. -/
theorem Recorded.skip (h : Recorded g records)
    (hrecord : ∀ outDTypes handle, record ≠ (.call (.build outDTypes), .ok (some handle))) :
    Recorded g (records ++ [record]) := by
  have hgiven : ∀ i attr value,
      Given (records ++ [record]) i attr value ↔ Given records i attr value := by
    intro i attr value
    rw [given_concat]
    refine ⟨fun hg => hg.resolve_right ?_, .inl⟩
    rintro ⟨outDTypes, handle, hbuild, -⟩
    exact hrecord outDTypes handle hbuild
  exact ⟨by simpa only [hgiven] using h.entries, by simpa only [hgiven] using h.complete, h.size,
    by simpa only [hgiven] using h.built⟩

/-- A path with a new name in front has no entry. -/
theorem Recorded.notMem_keys (h : Recorded g records)
    (hops : ∀ label ∈ g.labels, label.2.Declared) (hnamed : g.Named)
    {name attr : String} (hname : name ∉ g.names.keys) (hattr : '/' ∉ attr.toList) :
    attributePath name attr ∉ g.attributes.table.keys := by
  intro hmem
  obtain ⟨⟨path, value⟩, hentry, rfl⟩ := List.mem_map.1 hmem
  obtain ⟨i, name', op, attr', hlabel, hattr', hpath, -⟩ := (h.entries _ value).1 hentry
  have hslash := (hops _ (List.mem_of_getElem? hlabel)).noSlash
  obtain ⟨rfl, -⟩ := attributePath_inj hattr (hslash attr' hattr') hpath
  exact hname (Table.mem_keys_of_get? ((hnamed name i).2 ⟨op, hlabel⟩))

/-- The entries after a build, if those of its node are behind the others. -/
theorem Recorded.entries_build (h : Recorded g records) {op : Op} {name : String}
    {attributes : Table String AttrValue}
    (hkeys : ∀ attr, attr ∈ attributes.keys ↔ attr ∈ op.attributes)
    (hstaged : ∀ attr, attributes.get? attr = staged attr records) {outDTypes : List DType}
    {handle : NodeHandle} (hhandle : handle.index = g.labels.length) (path : String)
    (value : AttrValue) :
    (path, value) ∈
        g.attributes.table.entries ++
          attributes.entries.map (fun e => (attributePath name e.1, e.2)) ↔
      ∃ i name' op' attr, (g.labels ++ [(name, op)])[i]? = some (name', op') ∧
        attr ∈ op'.attributes ∧ path = attributePath name' attr ∧
          Given (records ++ [(.call (.build outDTypes), .ok (some handle))]) i attr value := by
  simp only [List.mem_append, h.entries, given_build, getElem?_concat_eq_some_iff, hhandle]
  constructor
  · rintro (⟨i, name', op', attr, hlabel, hattr, rfl, hvalue⟩ | hnew)
    · exact ⟨i, name', op', attr, .inl hlabel, hattr, rfl, .inl hvalue⟩
    · obtain ⟨⟨attr, value⟩, hmem, heq⟩ := List.mem_map.1 hnew
      cases heq
      have hget := Table.get?_eq_some_iff.2 hmem
      have hattr := (hkeys attr).1 (Table.mem_keys_of_get? hget)
      exact ⟨_, name, op, attr, .inr ⟨rfl, rfl⟩, hattr, rfl,
        .inr ⟨rfl, (hstaged attr).symm.trans hget⟩⟩
  · -- The nodes before the new one were given their values before, and the new one has its own.
    rintro ⟨i, name', op', attr, hlabel | ⟨rfl, hlabel⟩, hattr, rfl, hvalue⟩
    · have hlt := (List.getElem?_eq_some_iff.1 hlabel).1
      have hold := hvalue.resolve_right fun hi => Nat.ne_of_lt hlt hi.1
      exact .inl ⟨i, name', op', attr, hlabel, hattr, rfl, hold⟩
    · cases hlabel
      have hnew := hvalue.resolve_left fun hold => Nat.lt_irrefl _ (h.built _ _ _ hold)
      have hget := Table.get?_eq_some_iff.1 ((hstaged attr).trans hnew.2)
      exact .inr (List.mem_map.2 ⟨(attr, value), hget, rfl⟩)

/-- A build writes to new paths only. -/
theorem Recorded.fresh_of_checkBuild {b : NodeBuilder} {name : String} {outDTypes : List DType}
    (h : Recorded b.graph records) (hnamed : b.graph.Named)
    (huses : (Assembly.held b).Uses Op.Declared) (hname : name ∉ b.graph.names.keys)
    (hcheck : b.checkBuild outDTypes = .ok ()) :
    ∀ attr ∈ b.attributes.keys, attributePath name attr ∉ b.graph.attributes.table.keys := by
  intro attr hattr
  have hslash := huses.1.noSlash attr ((b.mem_keys_iff huses.1 hcheck attr).1 hattr)
  exact h.notMem_keys (List.forall_mem_map.2 huses.2) hnamed hname hslash

/-- A build records the attributes that are staged. -/
theorem Recorded.build {b : NodeBuilder} {name : String} {outDTypes : List DType}
    (h : Recorded b.graph records) (hnamed : b.graph.Named)
    (huses : (Assembly.held b).Uses Op.Declared)
    (hstaged : ∀ attr, b.attributes.get? attr = staged attr records)
    (hname : name ∉ b.graph.names.keys) (hcheck : b.checkBuild outDTypes = .ok ()) :
    Recorded
      (b.graph.commit b.op name b.device outDTypes b.inputs b.attributes.entries).2
      (records ++
        [(.call (.build outDTypes), .ok (some ⟨b.graph.id, b.graph.nodes.length⟩))]) := by
  have hhandle : b.graph.nodes.length = b.graph.labels.length := (List.length_map _).symm
  have hkeys := b.mem_keys_iff huses.1 hcheck
  have hfresh := h.fresh_of_checkBuild hnamed huses hname hcheck
  refine ⟨fun path value => ?_, ?_, ?_, ?_⟩
  · rw [GraphDef.entries_commit hfresh, GraphDef.labels_commit]
    exact h.entries_build hkeys hstaged hhandle path value
  · intro i name' op attr hlabel hattr
    rw [GraphDef.labels_commit] at hlabel
    simp only [given_build, hhandle]
    rcases getElem?_concat_eq_some_iff.1 hlabel with hold | ⟨rfl, hnew⟩
    · obtain ⟨value, hvalue⟩ := h.complete i name' op attr hold hattr
      exact ⟨value, .inl hvalue⟩
    · cases hnew
      have hcontains := Table.contains_iff.2 ((hkeys attr).2 hattr)
      obtain ⟨value, hvalue⟩ := Option.isSome_iff_exists.1 hcontains
      exact ⟨value, .inr ⟨rfl, (hstaged attr).symm.trans hvalue⟩⟩
  · have hsize := (NodeBuilder.checkBuild_eq_ok_iff.1 hcheck).2.2.1
    have hold := h.size
    rw [Table.size] at hsize hold ⊢
    rw [GraphDef.entries_commit hfresh, GraphDef.labels_commit, List.length_append,
      List.length_map, hsize, hold, List.map_append, List.sum_append, List.map_singleton,
      List.sum_singleton]
  · intro i attr value hvalue
    rw [GraphDef.labels_commit, List.length_append, List.length_singleton]
    rcases given_build.1 hvalue with hold | ⟨rfl, -⟩
    · exact Nat.lt_succ_of_lt (h.built i attr value hold)
    · exact Nat.lt_succ_of_le (Nat.le_of_eq hhandle)

/-- Every call of a builder is recorded. -/
theorem Recorded.call {b b' : NodeBuilder} {call : NodeBuilder.Call}
    {answer : Except Error (Option NodeHandle)} (h : Recorded b.graph records)
    (hturn : b.Turn call answer b') (hnamed : b.graph.Named)
    (huses : (Assembly.held b).Uses Op.Declared) (hstages : Stages records (.held b)) :
    Recorded b'.graph (records ++ [(.call call, answer)]) := by
  cases hturn with
  | refused | failed | input | name | attr | reset => exact h.skip (by rintro _ _ ⟨⟩)
  | build hs hcheck =>
    have hstaged := hstages b rfl (by rw [hs]; nofun)
    exact h.build hnamed huses hstaged (b.graph.uniqueName_notMem _) hcheck

/-- Every step is recorded. -/
theorem Recorded.turn {w : Workshop} {step : Step} {answer : Except Error (Option NodeHandle)}
    {a : Assembly} (h : Recorded w.assembly.graph records) (hturn : w.Turn step answer a)
    (hnamed : w.assembly.graph.Named) (huses : w.assembly.Uses Op.Declared)
    (hstages : Stages records w.assembly) : Recorded a.graph (records ++ [(step, answer)]) := by
  cases hturn with
  | catalog | refused | started => exact h.skip (by rintro _ _ ⟨⟩)
  | ignored hidle =>
    rw [hidle] at h
    exact h.skip (by rintro _ _ ⟨⟩)
  | called hheld hcall =>
    rw [hheld] at h hnamed huses hstages
    exact h.call hcall hnamed huses hstages

/-! ## Runs -/

/-- The table of attributes is what the trace tells, after every run. -/
theorem recorded_run (id : GraphId) (steps : List Step) :
    Recorded (run id steps).assembly.graph (trace id steps) := by
  induction steps using List.reverseRecOn with
  | nil => exact recorded_empty id
  | append_singleton steps step ih =>
    rw [trace_concat, run_concat]
    exact ih.turn ((run id steps).perform_turn step) (named_run id steps) (declared_run id steps)
      (stages_run id steps)

/-- A graph stores the values with which its nodes were built. -/
structure Stores (records : List Record) (g : GraphDef) : Prop where
  /-- There is a value under a path if it is the path of an attribute of a node, and then it is the
  value that was last staged for the attribute before the node was built. -/
  get?_iff : ∀ path value, g.attributes.get? path = some value ↔
    ∃ i, ∃ n : NodeDef, ∃ attr, g.nodes[i]? = some n ∧ attr ∈ n.op.attributes ∧
      path = attributePath n.name attr ∧ Given records i attr value
  /-- Each attribute of a node has been given a value. -/
  given : ∀ (i : Nat) (n : NodeDef) (attr : String), g.nodes[i]? = some n →
    attr ∈ n.op.attributes → ∃ value, Given records i attr value
  /-- No two attributes of nodes have the same path. -/
  apart : ∀ (i j : Nat) (n m : NodeDef) (attr attr' : String), g.nodes[i]? = some n →
    g.nodes[j]? = some m → attr ∈ n.op.attributes → attr' ∈ m.op.attributes →
    attributePath n.name attr = attributePath m.name attr' → i = j ∧ attr = attr'
  size : g.attributes.table.size = (g.nodes.map fun n => n.op.attributes.length).sum
  /-- The typed getters answer a value of their own type, and name the types otherwise. -/
  reads : ∀ path value, g.attributes.get? path = some value → g.attributes.Reads path value

/-- A table of attributes that is recorded reads as the nodes of the graph ask. -/
theorem Recorded.stores (h : Recorded g records) (hnamed : g.Named)
    (hops : ∀ n ∈ g.nodes, n.op.Declared) : Stores records g where
  get?_iff path value := by
    rw [Attributes.get?, Table.get?_eq_some_iff, h.entries]
    simp only [GraphDef.getElem?_labels]
    constructor
    · rintro ⟨i, _, _, attr, ⟨n, hn, rfl, rfl⟩, hattr, hpath, hgiven⟩
      exact ⟨i, n, attr, hn, hattr, hpath, hgiven⟩
    · rintro ⟨i, n, attr, hn, hattr, hpath, hgiven⟩
      exact ⟨i, n.name, n.op, attr, ⟨n, hn, rfl, rfl⟩, hattr, hpath, hgiven⟩
  given i n attr hn :=
    h.complete i n.name n.op attr (GraphDef.getElem?_labels.2 ⟨n, hn, rfl, rfl⟩)
  apart i j n m attr attr' hn hm hattr hattr' hpath := by
    have hslash := (hops n (List.mem_of_getElem? hn)).noSlash attr hattr
    have hslash' := (hops m (List.mem_of_getElem? hm)).noSlash attr' hattr'
    obtain ⟨hname, rfl⟩ := attributePath_inj hslash hslash' hpath
    have hi := GraphDef.getElem?_labels.2 ⟨n, hn, hname, rfl⟩
    have hj := GraphDef.getElem?_labels.2 ⟨m, hm, rfl, rfl⟩
    exact ⟨hnamed.unique hi hj, rfl⟩
  size := by
    rw [h.size, GraphDef.labels, List.map_map]
    rfl
  reads _ _ hget := Attributes.reads_of_get? hget

/-- **No attribute is lost or mistaken.** After every run the graph stores, under a path that no
two of them share, the last value that was staged for each attribute of each node before the node
was built, and nothing else; and what it stores it has in every longer run. -/
theorem attributes_run (id : GraphId) (steps : List Step) :
    Stores (trace id steps) (run id steps).assembly.graph ∧
      ∀ more path value, (run id steps).assembly.graph.attributes.get? path = some value →
        (run id (steps ++ more)).assembly.graph.attributes.get? path = some value := by
  have hrec := recorded_run id steps
  refine ⟨hrec.stores (named_run id steps) (declared_run id steps).graph, ?_⟩
  intro more path value hget
  have hentry := (hrec.entries path value).1 (Table.get?_eq_some_iff.1 hget)
  obtain ⟨i, name, op, attr, hlabel, hattr, hpath, hgiven⟩ := hentry
  obtain ⟨labels, hlabels⟩ := labels_run_append id steps more
  obtain ⟨records, hrecords⟩ := trace_append id steps more
  have hlabel' : (run id (steps ++ more)).assembly.graph.labels[i]? = some (name, op) := by
    rw [← hlabels, List.getElem?_append_left (List.getElem?_eq_some_iff.1 hlabel).1, hlabel]
  have hgiven' : Given (trace id (steps ++ more)) i attr value := hrecords ▸ hgiven.append records
  exact Table.get?_eq_some_iff.2 (((recorded_run id (steps ++ more)).entries path value).2
    ⟨i, name, op, attr, hlabel', hattr, hpath, hgiven'⟩)

end Workshop

end Dataflow
