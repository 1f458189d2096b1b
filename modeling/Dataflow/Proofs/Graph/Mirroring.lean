import Dataflow.Proofs.Device.Naming
import Dataflow.Proofs.Graph.Handles
import Dataflow.Proofs.Graph.Typing

/-!
# Executable graphs mirror their definitions

A compiled graph has the nodes, edges and attributes of its definition, position by position
(`Graph.Mirrors`). In the definition a node is looked up in the table of names, in the executable
graph by a scan that ends at the first node of the name. Both find the same node, because the table
has the position of each node under its name (`GraphDef.Named`), so no two nodes share a name.

The device of a node has the name that was asked for in every registry that steps lead to
(`Assembly.compile_mirrors`).
-/

namespace Dataflow

/-- A node of an executable graph shows what the node of the definition does, and runs on the
device of the name that was asked for. -/
structure Node.Mirrors (m : Node) (n : NodeDef) : Prop where
  id : m.id = n.id
  name : m.name = n.name
  op : m.op = n.op
  device : m.device.name = n.device
  outDTypes : m.outDTypes = n.outDTypes
  inEdges : m.inEdges = n.inEdges
  outEdges : m.outEdges = n.outEdges

/-- An executable graph is like a definition, position by position, and finds the same nodes by
name. -/
structure Graph.Mirrors (graph : Graph) (g : GraphDef) : Prop where
  nodes : List.Forall₂ (fun n m => m.Mirrors n) g.nodes graph.nodes
  edges : graph.edges = g.edges
  attributes : graph.attributes = g.attributes
  /-- The scan ends at a position if the table has this position. -/
  found : ∀ name i, (∃ m, graph.nodes[i]? = some m ∧ graph.find? name = some m) ↔
    g.find? name = some ⟨g.id, i⟩
  missing : ∀ name, graph.find? name = none ↔ g.find? name = none

/-! ## Two ways of finding a node -/

namespace GraphDef

variable {g : GraphDef} {book : KernelBook} {r : DeviceRegistry} {name : String} {i : Nat}

/-- A node is found by name in the table if it has the name. -/
theorem Named.find?_eq_some_iff (h : g.Named) :
    g.find? name = some ⟨g.id, i⟩ ↔ ∃ n, g.nodes[i]? = some n ∧ n.name = name := by
  have htable : g.find? name = some ⟨g.id, i⟩ ↔ g.names.get? name = some i := by
    simp [find?]
  rw [htable, h name i]
  constructor
  · rintro ⟨op, hlabel⟩
    obtain ⟨n, hn, hname, -⟩ := getElem?_labels.1 hlabel
    exact ⟨n, hn, hname⟩
  · rintro ⟨n, hn, rfl⟩
    exact ⟨n.op, getElem?_labels.2 ⟨n, hn, rfl, rfl⟩⟩

/-- What a node that compiles becomes mirrors it, if devices are entered under their names. -/
theorem Compiles.mirrors {n : NodeDef} {m : Node} (h : g.Compiles book r n m)
    (hr : ∀ name d, r.devices.get? name = some d → d.name = name) : m.Mirrors n := by
  have hdevice := h.bound.device
  obtain ⟨b, kernel, -, -, rfl⟩ := h
  refine ⟨rfl, rfl, rfl, ?_, rfl, rfl, rfl⟩
  unfold DeviceRegistry.getDevice at hdevice
  split at hdevice
  · cases hdevice
    exact hr _ _ ‹_›
  · cases hdevice

end GraphDef

section find
variable {g : GraphDef} {graph : Graph} {name : String}

/-- The scan finds the node at a position if the table has this position. -/
theorem Graph.find?_iff (hnodes : List.Forall₂ (fun n m => m.Mirrors n) g.nodes graph.nodes)
    (hnamed : g.Named) (i : Nat) :
    (∃ m, graph.nodes[i]? = some m ∧ graph.find? name = some m) ↔
      g.find? name = some ⟨g.id, i⟩ := by
  rw [hnamed.find?_eq_some_iff]
  constructor
  · rintro ⟨m, hm, hfind⟩
    obtain ⟨n, hn, hmirrors⟩ := forall₂_getElem?_right hnodes hm
    have hname : m.name = name := by simpa using List.find?_some hfind
    exact ⟨n, hn, hmirrors.name.symm.trans hname⟩
  · rintro ⟨n, hn, rfl⟩
    obtain ⟨m, hm, hmirrors⟩ := forall₂_getElem?_left hnodes hn
    refine ⟨m, hm, ?_⟩
    obtain ⟨hi, hget⟩ := List.getElem?_eq_some_iff.1 hm
    refine List.find?_eq_some_iff_getElem.2 ⟨by simp [hmirrors.name], i, hi, hget, fun j hj => ?_⟩
    -- A node before it has another name, or it would be at the same position.
    have hm' : graph.nodes[j]? = some graph.nodes[j] := List.getElem?_eq_getElem (hj.trans hi)
    obtain ⟨n', hn', hmirrors'⟩ := forall₂_getElem?_right hnodes hm'
    have hne : graph.nodes[j].name ≠ n.name := fun hname =>
      Nat.ne_of_lt hj (hnamed.eq_of_name_eq hn' hn (hmirrors'.name.symm.trans hname))
    simpa using hne

/-- The scan finds no node if the table has none. -/
theorem Graph.find?_eq_none_iff
    (hnodes : List.Forall₂ (fun n m => m.Mirrors n) g.nodes graph.nodes) (hnamed : g.Named) :
    graph.find? name = none ↔ g.find? name = none := by
  constructor
  · intro hnone
    refine Option.eq_none_iff_forall_ne_some.2 fun h hh => ?_
    obtain ⟨i, -, rfl⟩ := Option.map_eq_some_iff.1 hh
    obtain ⟨m, -, hm⟩ := (find?_iff hnodes hnamed i).2 hh
    rw [hnone] at hm
    cases hm
  · intro hnone
    refine Option.eq_none_iff_forall_ne_some.2 fun m hm => ?_
    obtain ⟨i, hi⟩ := List.getElem?_of_mem (List.mem_of_find?_eq_some hm)
    have hh := (find?_iff hnodes hnamed i).1 ⟨m, hi, hm⟩
    rw [hnone] at hh
    cases hh

end find

/-- A graph that compiles from a definition whose table of names is right mirrors it, if devices
are entered under their names. -/
theorem GraphDef.Named.mirrors {g : GraphDef} {book : KernelBook} {r : DeviceRegistry}
    {graph : Graph} (h : g.Named)
    (hr : ∀ name d, r.devices.get? name = some d → d.name = name)
    (hc : (g.compile book r).2 = .ok graph) : graph.Mirrors g := by
  obtain ⟨-, hcompiles, hedges, hattributes⟩ := compile_eq_ok_iff.1 hc
  have hnodes := hcompiles.imp fun _ _ hm => hm.mirrors hr
  exact ⟨hnodes, hedges, hattributes, fun _ => Graph.find?_iff hnodes h,
    fun _ => Graph.find?_eq_none_iff hnodes h⟩

namespace Assembly

/-- **A compiled graph mirrors its definition.** If the graph compiles after a run of builders,
with any kernels and with the devices of any registry that steps lead to, the executable graph has
the same nodes, edges and attributes, position by position; each node has a device of the name that
was asked for; and a name leads to the same node in both graphs, or to none in both. -/
theorem compile_mirrors (id : GraphId) (steps : List Step) (book : KernelBook)
    (deviceSteps : List Registrar.Step) {graph : Graph}
    (h : ((run id steps).graph.compile book (Registrar.run deviceSteps).registry).2 = .ok graph) :
    graph.Mirrors (run id steps).graph :=
  (named_run id steps).mirrors (Registrar.accords_run deviceSteps).orderly.named h

/-- Steps that register one device. -/
def hostSteps : List Registrar.Step :=
  [.begin "CPU", .finish "CPU" (.ok (hostBackends 0 1))]

/-- Steps that build two nodes for which the same name is asked. -/
def namesakeSteps : List Step := [
  .start "const" "CPU:0" oneOp (Registrar.run hostSteps).registry,
  .call (.name "n"),
  .call (.build [.double]),
  .call .reset,
  .call (.name "n"),
  .call (.build [.double])]

/-- A kernel for the op of these nodes. -/
def constBook : KernelBook :=
  ⟨({} : Table Nat (List KernelDef)).insert 0 [Workshop.idleKernel [] [.double]]⟩

/-- The second of the nodes is found under a name of its own in both graphs. -/
theorem compile_mirrors_namesakes :
    ∃ graph, ((run ⟨0⟩ namesakeSteps).graph.compile constBook
        (Registrar.run hostSteps).registry).2 = .ok graph ∧
      graph.Mirrors (run ⟨0⟩ namesakeSteps).graph ∧
      ∃ m, graph.nodes[1]? = some m ∧ graph.find? "n_1" = some m := by
  obtain ⟨graph, h⟩ : ∃ graph, ((run ⟨0⟩ namesakeSteps).graph.compile constBook
      (Registrar.run hostSteps).registry).2 = .ok graph := ⟨_, rfl⟩
  have hmirrors := compile_mirrors ⟨0⟩ namesakeSteps constBook hostSteps h
  exact ⟨graph, h, hmirrors, (hmirrors.found "n_1" 1).2 rfl⟩

end Assembly

end Dataflow
