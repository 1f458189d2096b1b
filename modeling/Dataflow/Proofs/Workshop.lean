import Dataflow.Proofs.Graph.Typing
import Dataflow.Proofs.Op.Catalog

/-!
# From registrations to an executable graph

A `Workshop` is a catalog of ops and kernels with a graph that is assembled from its ops.
Registrations and the steps of builders come in any order, and kernels may still be added when
nodes of their op have been built. The ops of the graph and of its builder were registered with the
catalog, whether or not a registry still has them, and the kernels of such an op have its arity
(`Workshop.Sound`). So whenever the graph compiles, the kernels that are chosen agree with its
edges (`Graph.Typed`).
-/

namespace Dataflow

/-! ## The ops of an assembly -/

/-- The ops of the graph and of the builder have a property. -/
def Assembly.Uses (P : Op → Prop) : Assembly → Prop
  | idle g => ∀ n ∈ g.nodes, P n.op
  | held b => P b.op ∧ ∀ n ∈ b.graph.nodes, P n.op

section uses
variable {P Q : Op → Prop} {a : Assembly}

/-- The ops of the graph have the property of those in use. -/
theorem Assembly.Uses.graph (h : a.Uses P) : ∀ n ∈ a.graph.nodes, P n.op := by
  cases a with
  | idle g => exact h
  | held b => exact h.2

/-- What follows from the property holds of the ops in use. -/
theorem Assembly.Uses.imp (h : a.Uses P) (himp : ∀ op, P op → Q op) : a.Uses Q := by
  cases a with
  | idle g => exact fun n hn => himp _ (h n hn)
  | held b => exact ⟨himp _ h.1, fun n hn => himp _ (h.2 n hn)⟩

/-- A call of a builder brings no new op into the graph but the builder's. -/
theorem NodeBuilder.Turn.uses {b b' : NodeBuilder} {call : NodeBuilder.Call}
    {answer : Except Error (Option NodeHandle)} (hturn : b.Turn call answer b')
    (h : (Assembly.held b).Uses P) : (Assembly.held b').Uses P := by
  cases hturn with
  | refused | failed | input | name | attr | reset => exact h
  | build =>
    refine ⟨h.1, fun n hn => ?_⟩
    obtain ⟨i, hn⟩ := List.getElem?_of_mem hn
    rcases GraphDef.nodes_commit_cases hn with ⟨m, hm, rfl⟩ | ⟨-, rfl⟩
    · exact h.2 m (List.mem_of_getElem? hm)
    · exact h.1

/-- A step of an assembly brings in no op but those that the registry of a new builder has. -/
theorem Assembly.Uses.perform (h : a.Uses P) {s : Assembly.Step}
    (hstart : ∀ name device ops devices op, s = .start name device ops devices →
      ops.getOp name = .ok op → P op) :
    (a.perform s).2.Uses P :=
  perform_keeps h s (fun _ hb => hb.2)
    (fun _ name device ops devices op hs hop hg => ⟨hstart name device ops devices op hs hop, hg⟩)
    fun hturn hb => hturn.uses hb

end uses

/-! ## Workshops -/

/-- A catalog of ops and kernels, and a graph that is assembled from its ops. -/
structure Workshop where
  catalog : Catalog := {}
  assembly : Assembly

namespace Workshop

/-- A step of a workshop. -/
inductive Step
  /-- Do something to a registry of the catalog. -/
  | catalog (step : Catalog.Step)
  /-- Start a builder for a node of an op of a registry. -/
  | start (registry op device : String) (devices : DeviceRegistry)
  /-- Call the builder. -/
  | call (call : NodeBuilder.Call)

/-- A step of the assembly. -/
def assemble (w : Workshop) (step : Assembly.Step) : Except Error (Option NodeHandle) × Workshop :=
  let (r, assembly) := w.assembly.perform step
  (r, { w with assembly })

/-- One step. Its answer holds a handle if the step has built a node. -/
def perform (w : Workshop) : Step → Except Error (Option NodeHandle) × Workshop
  | .catalog step =>
    let (r, catalog) := w.catalog.perform step
    (r.map fun _ => none, { w with catalog })
  | .start registry op device devices =>
    w.assemble (.start op device (w.catalog.registry registry) devices)
  | .call call => w.assemble (.call call)

/-- Where steps lead from an empty catalog and an empty graph of the given identity. -/
def run (id : GraphId) (steps : List Step) : Workshop :=
  Run.after perform { assembly := .idle { id } } steps

/-- A step leaves the assembly as it is, or is a step of it. -/
theorem assembly_perform (w : Workshop) (step : Step) :
    (w.perform step).2.assembly = w.assembly ∨
      ∃ step', (w.perform step).2.assembly = (w.assembly.perform step').2 := by
  cases step with
  | catalog step => exact .inl rfl
  | start registry op device devices =>
    exact .inr ⟨.start op device (w.catalog.registry registry) devices, rfl⟩
  | call call => exact .inr ⟨.call call, rfl⟩

/-- The assembly of a run is that of a run of builders. -/
theorem exists_assembly_run (id : GraphId) (steps : List Step) :
    ∃ steps', (run id steps).assembly = Assembly.run id steps' := by
  refine Run.after_induction
    (P := fun w : Workshop => ∃ steps', w.assembly = Assembly.run id steps') steps ⟨[], rfl⟩ ?_
  rintro w step ⟨steps', hrun⟩
  rcases w.assembly_perform step with hsame | ⟨step', hstep⟩
  · exact ⟨steps', hsame.trans hrun⟩
  · refine ⟨steps' ++ [step'], ?_⟩
    rw [hstep, hrun, Assembly.run, Assembly.run, Run.after_append]
    rfl

/-- Compiles the graph as it stands, with the kernels that are registered. -/
def compile (w : Workshop) (r : DeviceRegistry) : Except Error Graph :=
  (w.assembly.graph.compile w.catalog.book r).2

/-- The catalog and the assembly are sound, and the assembly uses ops of the catalog. -/
structure Sound (w : Workshop) : Prop where
  catalog : w.catalog.Sound
  assembly : w.assembly.Sound
  uses : w.assembly.Uses w.catalog.Issued

/-- A step of the assembly keeps a workshop sound if it takes ops from the catalog. -/
theorem Sound.assemble {w : Workshop} (h : w.Sound) {s : Assembly.Step}
    (hstart : ∀ name device ops devices op, s = .start name device ops devices →
      ops.getOp name = .ok op → w.catalog.Issued op) :
    (w.assemble s).2.Sound where
  catalog := h.catalog
  assembly := h.assembly.perform s
  uses := h.uses.perform hstart

/-- A step keeps a workshop sound. -/
theorem Sound.perform {w : Workshop} (h : w.Sound) (s : Step) : (w.perform s).2.Sound := by
  cases s with
  | catalog step =>
    have hturn := w.catalog.perform_turn step
    exact ⟨hturn.sound h.catalog, h.assembly, h.uses.imp fun _ => hturn.issued⟩
  | start registry op device devices =>
    refine h.assemble fun name device ops devices op hs hop => ?_
    cases hs
    exact h.catalog.issued_of_getOp hop
  | call call => exact h.assemble nofun

/-- Every run leads to a sound workshop. -/
theorem sound_run (id : GraphId) (steps : List Step) : (run id steps).Sound :=
  Run.after_induction steps
    ⟨Catalog.sound_empty, GraphDef.wellFormed_empty id, fun _ hn => nomatch hn⟩
    fun _ s h => h.perform s

/-- **Chosen kernels are typed by the graph.** After every run of registrations and builders, if
the graph compiles, with whichever devices, each node is bound to a registered kernel of its own
op, for the type of the device that it asks for, and the kernels agree with the edges of the
graph. -/
theorem compile_run (id : GraphId) (steps : List Step) {r : DeviceRegistry} {graph : Graph}
    (h : (run id steps).compile r = .ok graph) :
    List.Forall₂ (Bound (run id steps).catalog.book r) (run id steps).assembly.graph.nodes
        graph.nodes ∧
      graph.edges = (run id steps).assembly.graph.edges ∧ graph.Typed := by
  have hw := sound_run id steps
  have harity : ∀ n ∈ (run id steps).assembly.graph.nodes,
      ∀ k ∈ (run id steps).catalog.book.kernels n.op, k.inputs.length = n.op.numInputs :=
    fun n hn k hk => (hw.catalog.arity n.op (hw.uses.graph n hn) k hk).1
  obtain ⟨hbound, htyped⟩ := hw.assembly.graph.typed harity h
  exact ⟨hbound, (GraphDef.compile_eq_ok_iff.1 h).2.2.1, htyped⟩

/-- A kernel that does nothing. -/
def idleKernel (inputs outputs : List DType) : KernelDef where
  deviceType := "CPU"
  inputs := inputs
  outputs := outputs
  construct := fun _ => .ok { outcome := fun _ => { result := .ok () } }

/-- Steps that build a node that feeds another, and register their kernels afterwards. -/
def chainSteps : List Step := [
  .catalog (.op "ops" "const" 0 [Layout.ofDims [1]] []),
  .catalog (.op "ops" "neg" 1 [Layout.ofDims [1]] []),
  .start "ops" "const" "CPU:0" oneDevice,
  .call (.build [.double]),
  .start "ops" "neg" "CPU:0" oneDevice,
  .call (.input ⟨⟨0⟩, 0⟩ 0),
  .call (.build [.double]),
  .catalog (.kernel "ops" "const" (idleKernel [] [.double])),
  .catalog (.kernel "ops" "neg" (idleKernel [.float] [.float])),
  .catalog (.kernel "ops" "neg" (idleKernel [.double] [.double]))]

/-- The second node is bound to the second kernel of its op, which takes what the first node
yields. -/
theorem compile_run_chain :
    ∃ graph, (run ⟨0⟩ chainSteps).compile oneDevice = .ok graph ∧
      graph.nodes.map (·.choice) = [0, 1] ∧ graph.Typed := by
  obtain ⟨graph, h, hchoice⟩ : ∃ graph, (run ⟨0⟩ chainSteps).compile oneDevice = .ok graph ∧
      graph.nodes.map (·.choice) = [0, 1] := ⟨_, rfl, rfl⟩
  exact ⟨graph, h, hchoice, (compile_run ⟨0⟩ chainSteps h).2.2⟩

end Workshop

end Dataflow
