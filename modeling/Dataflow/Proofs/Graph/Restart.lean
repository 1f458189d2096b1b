import Dataflow.Proofs.Graph.Handles

/-!
# Builders that start over

A builder is for one op and one device as long as it is held, those for which a step of the run has
started it (`Assembly.startedBy_run`). Whatever it has staged, and whether it has failed or has
built its node, a reset leaves nothing of that behind: the builder answers from then on as one does
that is started anew for the graph as it stands, and both lead to the same graphs
(`Assembly.reset_restarts`).
-/

namespace Dataflow

namespace NodeBuilder

variable {b b' : NodeBuilder}

/-- A builder starts if its op and its device are registered. -/
theorem start_of_registered {op : String} {ops : OpRegistry} {devices : DeviceRegistry}
    (hop : ops.getOp op = .ok b.op) (hdevice : devices.has b.device = true) :
    start b.graph op b.device ops devices = .ok b.reset := by
  rw [start, hop, reset_eq]
  exact if_pos hdevice

/-- A builder that starts for the graph, the op and the device of another one is that builder,
reset. -/
theorem eq_reset_of_start {op : String} {ops : OpRegistry} {devices : DeviceRegistry}
    (h : start b.graph op b.device ops devices = .ok b') (hop : b'.op = b.op) : b' = b.reset := by
  obtain ⟨found, -, -, rfl⟩ := start_eq_ok h
  rw [reset_eq, ← hop]

/-- A call leaves the builder with its op and its device. -/
theorem Turn.op_device {call : Call} {answer : Except Error (Option NodeHandle)}
    (hturn : b.Turn call answer b') : b'.op = b.op ∧ b'.device = b.device := by
  cases hturn <;> exact ⟨rfl, rfl⟩

end NodeBuilder

namespace Assembly

/-- One of the steps has started the builder, if there is one. -/
def StartedBy (steps : List Step) (a : Assembly) : Prop :=
  ∀ b, a = held b → ∃ op ops devices, Step.start op b.device ops devices ∈ steps ∧
    ops.getOp op = .ok b.op ∧ devices.has b.device = true

/-- A step that is among the steps keeps the builder one that they have started. -/
theorem StartedBy.perform {steps : List Step} {a : Assembly} (h : StartedBy steps a) {step : Step}
    (hstep : step ∈ steps) : StartedBy steps (a.perform step).2 := by
  cases step with
  | start op device ops devices =>
    simp only [Assembly.perform]
    cases hb : NodeBuilder.start a.graph op device ops devices with
    | error e => rintro _ ⟨⟩
    | ok b =>
      obtain ⟨found, hfound, hdevice, rfl⟩ := NodeBuilder.start_eq_ok hb
      rintro _ ⟨⟩
      exact ⟨op, ops, devices, hstep, hfound, hdevice⟩
  | call call =>
    cases a with
    | idle g => exact h
    | held b =>
      intro b' hb'
      obtain rfl : (b.perform call).2 = b' := held.inj hb'
      obtain ⟨hop, hdevice⟩ := (b.perform_turn call).op_device
      rw [hop, hdevice]
      exact h b rfl

/-- After every run, one of its steps has started the builder. -/
theorem startedBy_run (id : GraphId) (steps : List Step) : StartedBy steps (run id steps) :=
  Run.after_induction_mem (fun _ hidle => nomatch hidle) fun _ _ hstep h => h.perform hstep

/-- **A reset is a new start.** Take the builder of any run, whether it has staged something, has
failed or has built its node. One of the steps has started it, and would start it anew for the
graph as it stands. If a builder is started anew for the same op and the same device, whichever
registries it is started with, then every list of calls has the same answers from the reset builder
and from the new one, and leaves them the same with their graphs; and so does the whole assembly,
however it goes on after the reset and after the new start. -/
theorem reset_restarts (id : GraphId) (before : List Step) {b : NodeBuilder}
    (hb : run id before = held b) :
    (∃ op ops devices, Step.start op b.device ops devices ∈ before ∧
      NodeBuilder.start b.graph op b.device ops devices = .ok b.reset) ∧
    ∀ op ops devices fresh, NodeBuilder.start b.graph op b.device ops devices = .ok fresh →
      fresh.op = b.op →
        (∀ calls, Run.both NodeBuilder.perform b.reset calls =
          Run.both NodeBuilder.perform fresh calls) ∧
        ∀ more, Run.both perform (run id before) (.call .reset :: more) =
          Run.both perform (run id before) (.start op b.device ops devices :: more) := by
  constructor
  · obtain ⟨op, ops, devices, hmem, hop, hdevice⟩ := startedBy_run id before b hb
    exact ⟨op, ops, devices, hmem, NodeBuilder.start_of_registered hop hdevice⟩
  · intro op ops devices fresh hfresh hop
    have hreset : fresh = b.reset := NodeBuilder.eq_reset_of_start hfresh hop
    subst hreset
    refine ⟨fun _ => rfl, fun more => ?_⟩
    have hstart : (run id before).perform (.start op b.device ops devices) =
        (run id before).perform (.call .reset) := by
      rw [hb]
      simp only [perform, graph, hfresh, NodeBuilder.perform]
    simp only [Run.both, hstart]

/-- Steps that stage a name for a node of an op, and then an input that there is not. -/
def failedSteps : List Step := [
  .start "const" "CPU:0" oneOp oneDevice,
  .call (.name "n"),
  .call (.input ⟨⟨0⟩, 0⟩ 0)]

/-- The builder has failed with a name staged; after a reset it builds the node that a new builder
does, under the name of the op. -/
theorem reset_restarts_failed :
    ∃ b, run ⟨0⟩ failedSteps = held b ∧ b.state = .failed ∧ b.name = some "n" ∧
      let start : Step := .start "const" "CPU:0" oneOp oneDevice
      let build : Step := .call (.build [.double])
      Run.both perform (run ⟨0⟩ failedSteps) [.call .reset, build] =
          Run.both perform (run ⟨0⟩ failedSteps) [start, build] ∧
        (run ⟨0⟩ (failedSteps ++ [.call .reset, build])).graph.labels.map (·.1) = ["const"] := by
  obtain ⟨b, hb, hstate, hname, hstart⟩ : ∃ b, run ⟨0⟩ failedSteps = held b ∧
      b.state = .failed ∧ b.name = some "n" ∧
      NodeBuilder.start b.graph "const" b.device oneOp oneDevice = .ok b.reset :=
    ⟨_, rfl, rfl, rfl, rfl⟩
  have hdevice : b.device = "CPU:0" := by
    cases hb
    rfl
  have hrestart := ((reset_restarts ⟨0⟩ failedSteps hb).2 _ _ _ _ hstart rfl).2
  rw [hdevice] at hrestart
  exact ⟨b, hb, hstate, hname, hrestart _, rfl⟩

end Assembly

end Dataflow
