import Dataflow.Proofs.Lifecycle
import Dataflow.Proofs.Graph.Update
import Dataflow.Proofs.Workshop

/-!
# Stable resolutions

Registrations only add: a kernel comes behind the kernels that its op has (`KernelBook.Grows`), and
a device gets a name that was free (`DeviceRegistry.Keeps`). The first kernel that fits a node
remains the first, however many come behind it, so a node stays bound to its device and its kernel
(`GraphDef.bind_of_grows`), and a graph that has compiled compiles to the same graph again
(`Registries.compile_stable`). Only a teardown of the devices takes something away; a teardown of
ops does not, because a graph holds its ops itself.
-/

namespace Dataflow

/-! ## Registries that grow -/

/-- Another book has the kernels of this one in front of further ones. -/
def KernelBook.Grows (book book' : KernelBook) : Prop :=
  ∀ op, book.kernels op <+: book'.kernels op

/-- Another registry has the devices of this one under the same names. -/
def DeviceRegistry.Keeps (r r' : DeviceRegistry) : Prop :=
  ∀ name d, r.getDevice name = .ok d → r'.getDevice name = .ok d

theorem KernelBook.Grows.refl (book : KernelBook) : book.Grows book :=
  fun _ => List.prefix_refl _

/-- A book that has grown twice has grown. -/
theorem KernelBook.Grows.trans {book book' book'' : KernelBook} (h : book.Grows book')
    (h' : book'.Grows book'') : book.Grows book'' :=
  fun op => (h op).trans (h' op)

theorem DeviceRegistry.Keeps.refl (r : DeviceRegistry) : r.Keeps r :=
  fun _ _ h => h

/-- Devices that are kept twice are kept. -/
theorem DeviceRegistry.Keeps.trans {r r' r'' : DeviceRegistry} (h : r.Keeps r')
    (h' : r'.Keeps r'') : r.Keeps r'' :=
  fun name d hd => h' name d (h name d hd)

/-- A kernel is entered behind the others of its op. -/
theorem KernelBook.grows_push (book : KernelBook) (op : Op) (kernel : KernelDef) :
    book.Grows (book.push op kernel) := by
  intro op'
  rw [kernels_push]
  split
  · exact List.prefix_append _ _
  · exact List.prefix_refl _

/-- No step on ops takes kernels away or puts one before others. -/
theorem Catalog.Turn.grows {c c' : Catalog} {s : Catalog.Step} {answer : Except Error (Option Op)}
    (hturn : c.Turn s answer c') : c.book.Grows c'.book := by
  cases hturn with
  | refused | op | freeze | teardown => exact .refl _
  | kernel => exact KernelBook.grows_push _ _ _

/-- The device of a name is the one that is entered under it. -/
theorem DeviceRegistry.getDevice_eq_ok_iff {r : DeviceRegistry} {name : String} {d : Device} :
    r.getDevice name = .ok d ↔ (name, d) ∈ r.devices.entries := by
  rw [← Table.get?_eq_some_iff, getDevice]
  cases r.devices.get? name <;> simp

/-- An extension has the devices that there were. -/
theorem DeviceRegistry.Extends.keeps {r r' : DeviceRegistry} {deviceType : String}
    {names : List String} {backends : List Backend} (h : r.Extends deviceType names backends r') :
    r.Keeps r' := by
  intro name d hd
  rw [getDevice_eq_ok_iff] at hd ⊢
  rw [h.devices]
  exact List.mem_append_left _ hd

namespace Registrar

variable {g g' : Registrar}

/-- No step but a teardown takes devices away. -/
theorem Turn.keeps {step : Step} {answer : Except Error (Option (List String))}
    (hturn : g.Turn step answer g') (hup : step ≠ .teardown) : g.registry.Keeps g'.registry := by
  cases hturn with
  | teardown => exact absurd rfl hup
  | done _ _ _ hext => exact hext.keeps
  | freeze | frozen | known | begun | idle | failed | frozenMeanwhile | knownMeanwhile =>
    exact .refl _

/-- Until they are torn down, the devices stay where they are. -/
theorem keeps_after {steps : List Step} (hup : .teardown ∉ steps) :
    g.registry.Keeps (Run.after perform g steps).registry := by
  refine Run.after_induction_mem (P := fun g' : Registrar => g.registry.Keeps g'.registry)
    (.refl _) ?_
  intro g' step hstep hkeeps
  exact hkeeps.trans ((g'.perform_turn step).keeps (ne_of_mem_of_not_mem hstep hup))

end Registrar

namespace Catalog

/-- More steps of a catalog only add kernels behind those of each op. -/
theorem grows_after (c : Catalog) (steps : List Step) :
    c.book.Grows (Run.after perform c steps).book :=
  Run.after_induction (P := fun c' : Catalog => c.book.Grows c'.book) steps (.refl _)
    fun c' step h => h.trans (c'.perform_turn step).grows

end Catalog

/-! ## What a node is bound to -/

namespace GraphDef

variable {g : GraphDef} {n : NodeDef} {book book' : KernelBook} {r r' : DeviceRegistry}

/-- The kernel that is chosen remains the first that fits, whatever comes behind it. -/
theorem resolveKernel_of_prefix {kernels kernels' : List KernelDef} (h : kernels <+: kernels')
    {d : Device} {p : Nat} {k : KernelDef} (hk : g.resolveKernel kernels n d = .ok (p, k)) :
    g.resolveKernel kernels' n d = .ok (p, k) := by
  obtain ⟨rest, rfl⟩ := h
  rw [resolveKernel_eq_ok_iff] at hk ⊢
  obtain ⟨hchoice, hfits, hbefore⟩ := hk
  have hp := (List.getElem?_eq_some_iff.1 hchoice).1
  refine ⟨(List.getElem?_append_left hp).trans hchoice, hfits, fun q hq k' hk' => ?_⟩
  rw [List.getElem?_append_left (hq.trans hp)] at hk'
  exact hbefore q hq k' hk'

/-- A node stays bound as it is while kernels and devices are added. -/
theorem bind_of_grows (hbook : book.Grows book') (hr : r.Keeps r') {b : Binding}
    (h : g.bind book r n = .ok b) : g.bind book' r' n = .ok b := by
  obtain ⟨hdevice, hkernel⟩ := bind_eq_ok_iff.1 h
  exact bind_eq_ok_iff.2 ⟨hr _ _ hdevice, resolveKernel_of_prefix (hbook _) hkernel⟩

/-- A node that compiles becomes the same node while kernels and devices are added. -/
theorem Compiles.of_grows (hbook : book.Grows book') (hr : r.Keeps r') {m : Node}
    (h : g.Compiles book r n m) : g.Compiles book' r' n m := by
  obtain ⟨b, kernel, hb, hk, rfl⟩ := h
  exact ⟨b, kernel, bind_of_grows hbook hr hb, hk, rfl⟩

/-- A graph that compiles compiles to the same graph, with the same constructions, while kernels
and devices are added. -/
theorem compile_of_grows (hbook : book.Grows book') (hr : r.Keeps r') {graph : Graph}
    (h : (g.compile book r).2 = .ok graph) : g.compile book' r' = g.compile book r := by
  obtain ⟨hg, hnodes, hedges, hattributes⟩ := compile_eq_ok_iff.1 h
  have h' : (g.compile book' r').2 = .ok graph :=
    compile_eq_ok_iff.2 ⟨hg, hnodes.imp fun _ _ hm => hm.of_grows hbook hr, hedges, hattributes⟩
  rw [compile_eq_of_ok h, compile_eq_of_ok h']

end GraphDef

/-! ## Registries of devices and of ops -/

namespace Registries

/-- More steps only add kernels behind those of each op. -/
theorem grows_run (before more : List Step) :
    (run before).ops.book.Grows (run (before ++ more)).ops.book := by
  rw [run, run, Run.after_append, after_eq _ more]
  exact Catalog.grows_after _ _

/-- More steps without a teardown keep every device under its name. -/
theorem keeps_run (before : List Step) {more : List Step} (hup : .devices .teardown ∉ more) :
    (run before).devices.registry.Keeps (run (before ++ more)).devices.registry := by
  rw [devices_append]
  exact Registrar.keeps_after (notMem_device? hup)

/-- **Registrations leave resolutions as they are.** If a graph compiles with the registries of a
run, then however the run goes on, it compiles again unless the devices are torn down: it asks for
the same constructions, and each node gets the kernel that it had, at the same place among the
kernels of its op, and the same device. The run may go on with registrations that succeed or fail,
of kernels that fit as well, with freezes, and with teardowns of ops; it may also end in whole
registrations of device types with their discoveries. -/
theorem compile_stable (before : List Step) {more : List Step}
    (hup : Step.devices .teardown ∉ more) (g : GraphDef) {graph : Graph}
    (h : (g.compile (run before).ops.book (run before).devices.registry).2 = .ok graph) :
    let w := run before
    let w' := run (before ++ more)
    g.compile w'.ops.book w'.devices.registry = g.compile w.ops.book w.devices.registry ∧
      List.Forall₂ (Bound w'.ops.book w'.devices.registry) g.nodes graph.nodes ∧
      ∀ calls : List DeviceRegistry.Call, .teardown ∉ w'.devices.registry.steps calls →
        g.compile w'.ops.book (Run.after DeviceRegistry.perform w'.devices.registry calls) =
          g.compile w.ops.book w.devices.registry := by
  intro w w'
  have hbook : w.ops.book.Grows w'.ops.book := grows_run before more
  have hdevices : w.devices.registry.Keeps w'.devices.registry := keeps_run before hup
  obtain ⟨-, hnodes, -⟩ := GraphDef.compile_eq_ok_iff.1 h
  refine ⟨GraphDef.compile_of_grows hbook hdevices h,
    hnodes.imp fun _ _ hm => (hm.of_grows hbook hdevices).bound, fun calls hcalls => ?_⟩
  have hlater := Registrar.keeps_after (g := ⟨w'.devices.registry, []⟩) hcalls
  rw [Registrar.after_steps] at hlater
  exact GraphDef.compile_of_grows hbook (hdevices.trans hlater) h

/-- Steps that register a device and the ops and kernels of a chain of two nodes. -/
def chainSteps : List Step := [
  .devices (.begin "CPU"),
  .devices (.finish "CPU" (.ok (hostBackends 0 1))),
  .ops (.op "ops" "const" 0 [Layout.ofDims [1]] []),
  .ops (.op "ops" "neg" 1 [Layout.ofDims [1]] []),
  .ops (.kernel "ops" "const" (Workshop.idleKernel [] [.double])),
  .ops (.kernel "ops" "neg" (Workshop.idleKernel [.float] [.float])),
  .ops (.kernel "ops" "neg" (Workshop.idleKernel [.double] [.double]))]

/-- Steps that register another kernel that fits the second node, another device, and in vain an op
that is there. -/
def furtherSteps : List Step := [
  .ops (.kernel "ops" "neg" (Workshop.idleKernel [.double] [.float])),
  .devices (.begin "GPU"),
  .ops (.op "ops" "neg" 1 [Layout.ofDims [1]] []),
  .devices (.finish "GPU" (.ok (hostBackends 0 1)))]

/-- The second node keeps its kernel, the second of its op, though the third fits as well. -/
theorem compile_stable_chain :
    let g := (Workshop.run ⟨0⟩ Workshop.chainSteps).assembly.graph
    let w := run (chainSteps ++ furtherSteps)
    ∃ graph, (g.compile w.ops.book w.devices.registry).2 = .ok graph ∧
      graph.nodes.map (·.choice) = [0, 1] ∧
      List.Forall₂ (Bound w.ops.book w.devices.registry) g.nodes graph.nodes ∧
      w.devices.registry.names = ["CPU:0", "GPU:0"] := by
  intro g w
  have hup : Step.devices .teardown ∉ furtherSteps := by simp [furtherSteps]
  obtain ⟨graph, h, hchoice⟩ : ∃ graph,
      (g.compile (run chainSteps).ops.book (run chainSteps).devices.registry).2 = .ok graph ∧
        graph.nodes.map (·.choice) = [0, 1] := ⟨_, rfl, rfl⟩
  obtain ⟨hcompile, hbound, -⟩ := compile_stable chainSteps hup g h
  exact ⟨graph, hcompile ▸ h, hchoice, hbound, rfl⟩

end Registries

end Dataflow
