import Dataflow.Proofs.Graph.Attributes
import Dataflow.Proofs.Graph.Update

/-!
# What a kernel sees of its node

The constructor of a node's kernel reads attributes in the table that all nodes share, under paths
that start with the node's name (`GraphDef.context_of_compile`). Names are anything, so the path of
one node's attribute may start with the name and the slash of another. But what follows is then not
the name of an attribute, since such a name has no slash: under it the constructor finds what was
staged for its own node and nothing else (`Workshop.Stores.get?_own`). So the nodes of two runs
that are alike show the same to their kernels, whatever else is in the graphs
(`Workshop.readings_isolated`).
-/

namespace Dataflow

/-- What the getters answer about a path depends on nothing but the value under it. -/
theorem Attributes.reading_congr {a a' : Attributes} {path : String}
    (h : a.get? path = a'.get? path) : a.reading path = a'.reading path := by
  have hhas : a.has path = a'.has path := congrArg Option.isSome h
  simp only [reading, hhas, getInt32, getInt64, getFloat, getDouble, getBool, typed, h]

namespace GraphDef

variable {g : GraphDef} {book : KernelBook} {r : DeviceRegistry} {i : Nat} {c : Construction}

/-- The construction that is asked for at a position is shown the node at this position. -/
theorem context_of_compileNodes {nodes : List NodeDef}
    (h : (g.compileNodes book r nodes).1[i]? = some c) :
    ∃ n, nodes[i]? = some n ∧ c.context = g.context n := by
  induction nodes generalizing i with
  | nil => cases h
  | cons n rest ih =>
    rcases compiles_or_fails g book r n with ⟨m, hm⟩ | ⟨e, own, he⟩
    · rw [compileNodes_cons hm] at h
      cases i with
      | zero =>
        cases h
        exact ⟨n, rfl, rfl⟩
      | succ i => exact ih h
    · rw [compileNodes_of_fails he] at h
      cases he with
      | device | kernel => cases h
      | construction =>
        cases i with
        | zero =>
          cases h
          exact ⟨n, rfl, rfl⟩
        | succ i => cases h

/-- The construction that was asked for at a position is that of the node there. -/
theorem context_of_compile {n : NodeDef} (hn : g.nodes[i]? = some n)
    (h : (g.compile book r).1[i]? = some c) : c.context = g.context n := by
  unfold compile at h
  split at h
  · cases h
  · obtain ⟨n', hn', hcontext⟩ := context_of_compileNodes h
    rw [hn] at hn'
    cases hn'
    exact hcontext

end GraphDef

namespace Workshop

/-- Under the path of a name without a slash there is what was staged for an attribute of the node
itself. -/
theorem Stores.get?_own {records : List Record} {g : GraphDef} (h : Stores records g)
    (hnamed : g.Named) (hops : ∀ n ∈ g.nodes, n.op.Declared) {i : Nat} {n : NodeDef}
    (hn : g.nodes[i]? = some n) {path : String} (hslash : '/' ∉ path.toList) (value : AttrValue) :
    g.attributes.get? (attributePath n.name path) = some value ↔
      path ∈ n.op.attributes ∧ Given records i path value := by
  rw [h.get?_iff]
  constructor
  · rintro ⟨j, m, attr, hm, hattr, hpath, hgiven⟩
    have hslash' := (hops m (List.mem_of_getElem? hm)).noSlash attr hattr
    obtain ⟨hname, rfl⟩ := attributePath_inj hslash hslash' hpath
    obtain rfl := hnamed.eq_of_name_eq hn hm hname
    rw [hn] at hm
    cases hm
    exact ⟨hattr, hgiven⟩
  · rintro ⟨hattr, hgiven⟩
    exact ⟨i, n, path, hn, hattr, rfl, hgiven⟩

/-- Two nodes, each built in a run of its own, have the same name, and the same values were staged
for the attributes of their ops. -/
structure Alike (records : List Record) (i : Nat) (n : NodeDef) (records' : List Record) (j : Nat)
    (n' : NodeDef) : Prop where
  name : n.name = n'.name
  attributes : n.op.attributes = n'.op.attributes
  given : ∀ attr ∈ n.op.attributes,
    ∃ value, Given records i attr value ∧ Given records' j attr value

section
variable {id id' : GraphId} {steps steps' : List Step} {i j : Nat} {n n' : NodeDef} {path : String}

/-- After every run the graph stores what the trace tells. -/
theorem stores_run (id : GraphId) (steps : List Step) :
    Stores (trace id steps) (run id steps).assembly.graph :=
  (recorded_run id steps).stores (named_run id steps) (declared_run id steps).graph

/-- What a run has under the path of a name without a slash was staged for the node. -/
theorem get?_own_run (hn : (run id steps).assembly.graph.nodes[i]? = some n)
    (hslash : '/' ∉ path.toList) (value : AttrValue) :
    (run id steps).assembly.graph.attributes.get? (attributePath n.name path) = some value ↔
      path ∈ n.op.attributes ∧ Given (trace id steps) i path value :=
  (stores_run id steps).get?_own (named_run id steps) (declared_run id steps).graph hn hslash value

/-- There is a value under such a path if it is the path of an attribute of the node's op. -/
theorem has_own_run (hn : (run id steps).assembly.graph.nodes[i]? = some n)
    (hslash : '/' ∉ path.toList) :
    (run id steps).assembly.graph.attributes.has (attributePath n.name path) = true ↔
      path ∈ n.op.attributes := by
  refine Option.isSome_iff_exists.trans ⟨?_, fun hpath => ?_⟩
  · rintro ⟨value, hvalue⟩
    exact ((get?_own_run hn hslash value).1 hvalue).1
  · obtain ⟨value, hgiven⟩ := (stores_run id steps).given i n path hn hpath
    exact ⟨value, (get?_own_run hn hslash value).2 ⟨hpath, hgiven⟩⟩

/-- Nodes that are alike have the same under the path of a name without a slash. -/
theorem Alike.get?_eq (h : Alike (trace id steps) i n (trace id' steps') j n')
    (hn : (run id steps).assembly.graph.nodes[i]? = some n)
    (hn' : (run id' steps').assembly.graph.nodes[j]? = some n') (hslash : '/' ∉ path.toList) :
    (run id steps).assembly.graph.attributes.get? (attributePath n.name path) =
      (run id' steps').assembly.graph.attributes.get? (attributePath n'.name path) := by
  by_cases hpath : path ∈ n.op.attributes
  · obtain ⟨value, hgiven, hgiven'⟩ := h.given path hpath
    rw [(get?_own_run hn hslash value).2 ⟨hpath, hgiven⟩,
      (get?_own_run hn' hslash value).2 ⟨h.attributes ▸ hpath, hgiven'⟩]
  · -- Neither graph has a value, because the ops have the same attributes.
    have hnone := Option.not_isSome_iff_eq_none.1 (mt (has_own_run hn hslash).1 hpath)
    have hnone' := Option.not_isSome_iff_eq_none.1
      (mt (has_own_run hn' hslash).1 (h.attributes ▸ hpath))
    exact hnone.trans hnone'.symm

/-- **A kernel sees the attributes of its own node only.** Take two runs, in each a node, such that
the two nodes have the same name and were built with the same values for the attributes of their
ops; everything else may differ, the other nodes with their names and attributes as well. If
compilation gets to constructing the kernels of these nodes, with any kernels and devices, the
constructors are told the same about every path without a slash, and that it has a value just if it
is an attribute of the op. -/
theorem readings_isolated (hn : (run id steps).assembly.graph.nodes[i]? = some n)
    (hn' : (run id' steps').assembly.graph.nodes[j]? = some n')
    (halike : Alike (trace id steps) i n (trace id' steps') j n')
    {book book' : KernelBook} {r r' : DeviceRegistry} {c c' : Construction}
    (hc : ((run id steps).assembly.graph.compile book r).1[i]? = some c)
    (hc' : ((run id' steps').assembly.graph.compile book' r').1[j]? = some c')
    (hslash : '/' ∉ path.toList) :
    c.context.reading path = c'.context.reading path ∧
      ((c.context.reading path).has = true ↔ path ∈ n.op.attributes) := by
  rw [GraphDef.context_of_compile hn hc, GraphDef.context_of_compile hn' hc']
  refine ⟨?_, has_own_run hn hslash⟩
  have hget := halike.get?_eq hn hn' hslash
  unfold KernelContext.reading GraphDef.context
  dsimp only
  rw [← halike.name] at hget ⊢
  exact Attributes.reading_congr hget

end

/-- Steps that build a node with an attribute. -/
def factorSteps : List Step := [
  .catalog (.op "ops" "scale" 0 [Layout.ofDims [1]] ["factor"]),
  .catalog (.kernel "ops" "scale" (idleKernel [] [.double])),
  .start "ops" "scale" "CPU:0" oneDevice,
  .call (.name "n"),
  .call (.attr "factor" (.int32 3)),
  .call (.build [.double])]

/-- Steps that build the same node between others, whose paths start with `n/` or with `n`. -/
def crowdedSteps : List Step := [
  .catalog (.op "ops" "scale" 0 [Layout.ofDims [1]] ["factor"]),
  .catalog (.kernel "ops" "scale" (idleKernel [] [.double])),
  .start "ops" "scale" "CPU:0" oneDevice,
  .call (.name "n/factor"),
  .call (.attr "factor" (.bool true)),
  .call (.build [.double]),
  .call .reset,
  .call (.name "n"),
  .call (.attr "factor" (.int32 3)),
  .call (.build [.double]),
  .call .reset,
  .call (.name "n"),
  .call (.attr "factor" (.int32 4)),
  .call (.build [.double])]

/-- The kernel of the node is told the same in both runs. -/
theorem readings_isolated_crowded :
    let g := (run ⟨0⟩ factorSteps).assembly.graph
    let g' := (run ⟨1⟩ crowdedSteps).assembly.graph
    ∃ c c', (g.compile (run ⟨0⟩ factorSteps).catalog.book oneDevice).1[0]? = some c ∧
      (g'.compile (run ⟨1⟩ crowdedSteps).catalog.book oneDevice).1[1]? = some c' ∧
      g'.nodes.map (·.name) = ["n/factor", "n", "n_1"] ∧
      c.context.reading "factor" = c'.context.reading "factor" ∧
      (c'.context.reading "factor").int32 = .ok 3 := by
  intro g g'
  obtain ⟨n, hn, hname, hattributes⟩ : ∃ n, g.nodes[0]? = some n ∧ n.name = "n" ∧
      n.op.attributes = ["factor"] := ⟨_, rfl, rfl, rfl⟩
  obtain ⟨n', hn', hname', hattributes'⟩ : ∃ n', g'.nodes[1]? = some n' ∧ n'.name = "n" ∧
      n'.op.attributes = ["factor"] := ⟨_, rfl, rfl, rfl⟩
  obtain ⟨c, hc⟩ : ∃ c,
      (g.compile (run ⟨0⟩ factorSteps).catalog.book oneDevice).1[0]? = some c := ⟨_, rfl⟩
  obtain ⟨c', hc', hint⟩ : ∃ c',
      (g'.compile (run ⟨1⟩ crowdedSteps).catalog.book oneDevice).1[1]? = some c' ∧
        (c'.context.reading "factor").int32 = .ok 3 := ⟨_, rfl, rfl⟩
  have hgiven : Given (trace ⟨0⟩ factorSteps) 0 "factor" (.int32 3) :=
    ⟨(trace ⟨0⟩ factorSteps).take 5, [.double], ⟨⟨0⟩, 0⟩, [], rfl, rfl, rfl⟩
  have hgiven' : Given (trace ⟨1⟩ crowdedSteps) 1 "factor" (.int32 3) :=
    ⟨(trace ⟨1⟩ crowdedSteps).take 9, [.double], ⟨⟨1⟩, 1⟩, (trace ⟨1⟩ crowdedSteps).drop 10,
      rfl, rfl, rfl⟩
  have halike : Alike (trace ⟨0⟩ factorSteps) 0 n (trace ⟨1⟩ crowdedSteps) 1 n' := by
    refine ⟨hname.trans hname'.symm, hattributes.trans hattributes'.symm, fun attr hattr => ?_⟩
    rw [hattributes, List.mem_singleton] at hattr
    subst hattr
    exact ⟨_, hgiven, hgiven'⟩
  have hslash : '/' ∉ "factor".toList := by decide
  exact ⟨c, c', hc, hc', rfl, (readings_isolated hn hn' halike hc hc' hslash).1, hint⟩

/-- A path with a slash may lead to another node's attribute: here from `n` to that of
`n/factor`. -/
example : ((run ⟨1⟩ crowdedSteps).assembly.graph.attributes.reading
    (attributePath "n" "factor/factor")).bool = .ok true := rfl

end Workshop

end Dataflow
