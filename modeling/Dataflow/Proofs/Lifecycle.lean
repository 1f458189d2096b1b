import Dataflow.Proofs.Device.Registrar
import Dataflow.Proofs.Op.Lifecycle

/-!
# The life of registries

A registry is filled, frozen and torn down. Between a freeze and the next teardown it stays as it
is: it refuses every registration, one of them in flight when it was frozen as well
(`Registrar.Closed`, `Catalog.Closed`). After a teardown it is empty and open, and answers as a new
registry does; only the numbers of its devices go on from those that were given before
(`Registrar.shift`). Both hold in every run of steps on registries of devices and of ops
(`Registries.lifecycle_run`), of which the registration of a device type with its discovery is one.
-/

namespace Dataflow

/-! ## Frozen registries of devices -/

namespace Registrar

variable {g g' : Registrar}

/-- The registry takes no device type, and none whose registration is in flight. -/
structure Closed (g : Registrar) : Prop where
  /-- No discovery is run. -/
  register : ∀ deviceType discovery, g.registry.register deviceType discovery =
    (.error (.registryFrozen .device deviceType), g.registry)
  begin : ∀ deviceType, g.perform (.begin deviceType) =
    (.error (.registryFrozen .device deviceType), g)
  finish : ∀ deviceType ∈ g.pending, ∀ batch, g.perform (.finish deviceType (.ok batch)) =
    (.error (.registryFrozen .device deviceType),
      { g with pending := g.pending.erase deviceType })
  fail : ∀ deviceType ∈ g.pending, ∀ e, g.perform (.finish deviceType (.error e)) =
    (.error (.discoveryFailed deviceType e), { g with pending := g.pending.erase deviceType })

/-- A registrar whose registry is frozen is closed: every registration of a type fails. -/
theorem closed_of_frozen (h : g.registry.frozen = true) : g.Closed where
  register deviceType discovery := by
    rw [DeviceRegistry.register, DeviceRegistry.registerBy_eq,
      DeviceRegistry.checkRegistrable_of_frozen h]
  begin deviceType := by
    simp only [perform, DeviceRegistry.checkRegistrable_of_frozen h]
  finish deviceType hp batch := by
    rw [perform_finish_of_mem hp]
    simp only [DeviceRegistry.conclude, DeviceRegistry.checkRegistrable_of_frozen h, Except.map]
  fail deviceType hp e := by
    rw [perform_finish_of_mem hp]
    rfl

/-- A step leaves a frozen registry as it is, unless it tears the registry down. -/
theorem Turn.registry_eq {step : Step} {answer : Except Error (Option (List String))}
    (hturn : g.Turn step answer g') (h : g.registry.frozen = true) (hup : step ≠ .teardown) :
    g'.registry = g.registry := by
  cases hturn with
  | freeze =>
    show { g.registry with frozen := true } = g.registry
    rw [← h]
  | teardown => exact absurd rfl hup
  | frozen | known | begun | idle | failed | frozenMeanwhile | knownMeanwhile => rfl
  | done _ hopen =>
    rw [h] at hopen
    cases hopen

/-- Until it is torn down, a frozen registry stays as it is. -/
theorem registry_after {steps : List Step} (h : g.registry.frozen = true)
    (hup : .teardown ∉ steps) : (Run.after perform g steps).registry = g.registry := by
  refine Run.after_induction_mem (P := fun g' : Registrar => g'.registry = g.registry) rfl ?_
  intro g' step hstep hsame
  have hturn := g'.perform_turn step
  exact (hturn.registry_eq (hsame ▸ h) (ne_of_mem_of_not_mem hstep hup)).trans hsame

end Registrar

/-! ## New registries of devices -/

/-- The device with a number that is higher by `n`. -/
def Device.shift (n : Nat) (d : Device) : Device :=
  { d with serial := d.serial + n }

namespace DeviceRegistry

/-- The registry with numbers that are higher by `n`. -/
def shift (n : Nat) (r : DeviceRegistry) : DeviceRegistry :=
  { r with devices := r.devices.map (Device.shift n), next := r.next + n }

variable {n : Nat} {r : DeviceRegistry}

/-- New devices are numbered from the next number on, and nothing else about them depends on it. -/
theorem nameDevices_shift (n : Nat) (r : DeviceRegistry) (deviceType : String)
    (backends : List Backend) :
    (r.shift n).nameDevices deviceType backends =
      (r.nameDevices deviceType backends).map (Device.shift n) := by
  have hnames : (r.shift n).newNames deviceType backends.length =
      r.newNames deviceType backends.length := by
    rw [newNames, shift, Table.keys_map]
    rfl
  rw [nameDevices_eq, nameDevices_eq, hnames, devicesFrom, devicesFrom, shift, Nat.add_comm,
    ← List.map_snd_add_zipIdx_eq_zipIdx, List.zip_map_right, List.map_map, List.map_map]
  rfl

/-- Devices with higher numbers are entered where the others are. -/
theorem foldl_insert_shift (n : Nat) (ds : List Device) (t : Table String Device) :
    (ds.map (Device.shift n)).foldl (fun t d => t.insert d.name d) (t.map (Device.shift n)) =
      (ds.foldl (fun t d => t.insert d.name d) t).map (Device.shift n) := by
  induction ds generalizing t with
  | nil => rfl
  | cons d rest ih =>
    rw [List.map_cons, List.foldl_cons, List.foldl_cons, ← ih, Table.map_insert]
    rfl

/-- Enrolling new devices does not depend on the numbers that were given out before. -/
theorem enroll_shift (n : Nat) (r : DeviceRegistry) (deviceType : String)
    (backends : List Backend) :
    (r.shift n).enroll deviceType backends = (r.enroll deviceType backends).shift n := by
  unfold enroll
  rw [nameDevices_shift]
  simp only [shift, foldl_insert_shift, Nat.add_right_comm]

/-- The end of a registration does not depend on the numbers. -/
theorem conclude_shift (n : Nat) (r : DeviceRegistry) (deviceType : String)
    (found : Except Error Batch) :
    (r.shift n).conclude deviceType found =
      ((r.conclude deviceType found).1, (r.conclude deviceType found).2.shift n) := by
  cases found with
  | error e => rfl
  | ok batch =>
    have hcheck : (r.shift n).checkRegistrable deviceType = r.checkRegistrable deviceType := rfl
    rw [conclude, conclude, hcheck]
    cases r.checkRegistrable deviceType with
    | error e => rfl
    | ok u =>
      dsimp only
      rw [nameDevices_shift, enroll_shift, List.map_map]
      rfl

end DeviceRegistry

namespace Registrar

/-- The registrar whose registry has numbers that are higher by `n`. -/
def shift (n : Nat) (g : Registrar) : Registrar :=
  { g with registry := g.registry.shift n }

/-- What a step answers does not depend on the numbers. -/
theorem perform_shift (n : Nat) (g : Registrar) (step : Step) :
    (g.shift n).perform step = ((g.perform step).1, (g.perform step).2.shift n) := by
  cases step with
  | freeze => rfl
  | teardown => rfl
  | begin deviceType =>
    have hcheck : (g.shift n).registry.checkRegistrable deviceType =
        g.registry.checkRegistrable deviceType := rfl
    rw [perform, perform, hcheck]
    cases g.registry.checkRegistrable deviceType <;> rfl
  | finish deviceType found =>
    have hpending : (g.shift n).pending = g.pending := rfl
    by_cases hp : deviceType ∈ g.pending
    · rw [perform_finish_of_mem hp, perform_finish_of_mem (hpending ▸ hp), shift,
        DeviceRegistry.conclude_shift]
      rfl
    · rw [perform_finish_of_notMem hp, perform_finish_of_notMem (hpending ▸ hp)]

/-- Neither does what a run answers. -/
theorem both_shift (n : Nat) (g : Registrar) (steps : List Step) :
    Run.both perform (g.shift n) steps =
      ((Run.both perform g steps).1, (Run.both perform g steps).2.shift n) := by
  induction steps generalizing g with
  | nil => rfl
  | cons step rest ih => simp only [Run.both, perform_shift, ih]

end Registrar

/-! ## Registries of devices and of ops -/

/-- A registry of devices with its registrations in flight, and registries of ops. -/
structure Registries where
  devices : Registrar := {}
  ops : Catalog := {}

namespace Registries

/-- A step on a registry. -/
inductive Step
  | devices (step : Registrar.Step)
  | ops (step : Catalog.Step)

/-- What a step answers. -/
inductive Answer
  | devices (answer : Except Error (Option (List String)))
  | ops (answer : Except Error (Option Op))

/-- One step. -/
def perform (w : Registries) : Step → Answer × Registries
  | .devices step =>
    let (answer, devices) := w.devices.perform step
    (.devices answer, { w with devices })
  | .ops step =>
    let (answer, ops) := w.ops.perform step
    (.ops answer, { w with ops })

/-- Where steps lead from new registries. -/
def run (steps : List Step) : Registries :=
  Run.after perform {} steps

/-- The step, if it is one on devices. -/
def Step.device? : Step → Option Registrar.Step
  | .devices step => some step
  | .ops _ => none

/-- The step, if it is one on ops. -/
def Step.op? : Step → Option Catalog.Step
  | .devices _ => none
  | .ops step => some step

/-- The steps of devices are told from those of ops. -/
theorem Step.device?_eq_some_iff {step : Step} {s : Registrar.Step} :
    step.device? = some s ↔ step = .devices s := by
  cases step <;> simp [device?]

/-- The steps of ops are told from those of devices. -/
theorem Step.op?_eq_some_iff {step : Step} {s : Catalog.Step} :
    step.op? = some s ↔ step = .ops s := by
  cases step <;> simp [op?]

/-- A step that is not among the steps is not among those on devices. -/
theorem notMem_device? {s : Registrar.Step} {steps : List Step} (h : .devices s ∉ steps) :
    s ∉ steps.filterMap Step.device? := by
  simpa only [List.mem_filterMap, Step.device?_eq_some_iff, exists_eq_right] using h

/-- The devices depend on nothing but the steps on devices, and the ops on nothing but those on
ops. -/
theorem after_eq (w : Registries) (steps : List Step) :
    Run.after perform w steps =
      ⟨Run.after Registrar.perform w.devices (steps.filterMap Step.device?),
        Run.after Catalog.perform w.ops (steps.filterMap Step.op?)⟩ := by
  induction steps generalizing w with
  | nil => rfl
  | cons step rest ih =>
    cases step with
    | devices step => exact ih _
    | ops step => exact ih _

/-- The device registry after more steps is what their device steps make of it. -/
theorem devices_append (before more : List Step) :
    (run (before ++ more)).devices =
      Run.after Registrar.perform (run before).devices (more.filterMap Step.device?) := by
  rw [run, Run.after_append, after_eq]
  rfl

/-- The catalog of a run is that of its op steps. -/
theorem ops_run (steps : List Step) :
    (run steps).ops = Catalog.run (steps.filterMap Step.op?) := by
  rw [run, after_eq]
  rfl

/-! ## The main result -/

/-- From a freeze to the next teardown a registry of devices stays as it was frozen. -/
theorem devices_frozen (before : List Step) {during : List Step}
    (hup : .devices .teardown ∉ during) :
    (run (before ++ .devices .freeze :: during)).devices.registry =
      (run before).devices.registry.freeze := by
  rw [devices_append, List.filterMap_cons]
  exact Registrar.registry_after (g := { (run before).devices with
    registry := (run before).devices.registry.freeze }) rfl (notMem_device? hup)

/-- From a freeze to the next teardown a registry of ops stays as it was frozen, with the
kernels. -/
theorem ops_frozen (before : List Step) {registry : String} {during : List Step}
    (hup : .ops (.teardown registry) ∉ during) :
    (run (before ++ [.ops (.freeze registry)])).ops.registry registry =
        ((run before).ops.registry registry).freeze ∧
      (run (before ++ [.ops (.freeze registry)])).ops.Keeps registry
        (run (before ++ .ops (.freeze registry) :: during)).ops := by
  have hup' : .teardown registry ∉ during.filterMap Step.op? := by
    simpa only [List.mem_filterMap, Step.op?_eq_some_iff, exists_eq_right] using hup
  simp only [ops_run, List.filterMap_append, List.filterMap_cons, List.filterMap_nil, Step.op?]
  have hfrozen :
      (Catalog.run (before.filterMap Step.op? ++ [.freeze registry])).registry registry =
        ((Catalog.run (before.filterMap Step.op?)).registry registry).freeze := by
    rw [Catalog.run_concat]
    exact (Catalog.registry_setRegistry ..).trans (if_pos rfl)
  have hkeeps := Catalog.keeps_after (congrArg OpRegistry.frozen hfrozen) hup'
  rw [List.append_assoc] at hkeeps
  exact ⟨hfrozen, hkeeps⟩

/-- **A frozen registry stays as it is, and a teardown makes a new one.** In every run, from a
freeze to the next teardown, a registry stays as it was frozen and is closed, for registrations
that are in flight as well. After a teardown it is empty and open: it answers as a new registry
does, for devices if no registration is in flight, and becomes what a new one does, but for the
numbers of the devices, which go on from those that were given before. The registration of a device
type with its discovery is a run too. -/
theorem lifecycle_run (before : List Step) :
    (∀ during : List Step, Step.devices .teardown ∉ during →
      let g := (run (before ++ Step.devices .freeze :: during)).devices
      g.registry = (run before).devices.registry.freeze ∧ g.Closed) ∧
    (∀ (registry : String) (during : List Step), Step.ops (.teardown registry) ∉ during →
      let frozen := (run (before ++ [Step.ops (.freeze registry)])).ops
      let c := (run (before ++ Step.ops (.freeze registry) :: during)).ops
      frozen.registry registry = ((run before).ops.registry registry).freeze ∧
        frozen.Keeps registry c ∧ c.Closed registry) ∧
    ((run (before ++ [Step.devices .teardown])).devices.registry =
        { next := (run before).devices.registry.next } ∧
      ((run before).devices.pending = [] → ∀ more : List Registrar.Step,
        Run.both Registrar.perform (run (before ++ [Step.devices .teardown])).devices more =
          ((Run.both Registrar.perform {} more).1,
            (Run.both Registrar.perform {} more).2.shift (run before).devices.registry.next))) ∧
    (∀ registry : String,
      let c := (run (before ++ [Step.ops (.teardown registry)])).ops
      let c' := (run before).ops
      c.registry registry = {} ∧
        ∀ other : String, c'.registry other = {} → ∀ more : List Catalog.Step,
          Run.answers Catalog.perform c (more.map (·.on registry)) =
              Run.answers Catalog.perform c' (more.map (·.on other)) ∧
            Catalog.Twin registry other
              (Run.after Catalog.perform c (more.map (·.on registry)))
              (Run.after Catalog.perform c' (more.map (·.on other)))) ∧
    ∀ (deviceType : String) (discovery : Discovery),
      let g := (run before).devices
      let steps := g.registry.registrationSteps deviceType (discovery.steps g.registry)
        (discovery.run g.registry).1
      Run.after Registrar.perform g steps =
          { g with registry := (g.registry.register deviceType discovery).2 } ∧
        (Run.answers Registrar.perform g steps).getLast? =
          some ((g.registry.register deviceType discovery).1.map some) := by
  refine ⟨fun during hup => ?_, fun registry during hup => ?_, ⟨?_, fun hidle more => ?_⟩,
    fun registry => ⟨?_, fun other hnew more => ?_⟩, fun deviceType discovery => ?_⟩
  · have hfrozen := devices_frozen before hup
    exact ⟨hfrozen, Registrar.closed_of_frozen (congrArg DeviceRegistry.frozen hfrozen)⟩
  · obtain ⟨hfrozen, hkeeps⟩ := ops_frozen before hup
    exact ⟨hfrozen, hkeeps, Catalog.closed_of_frozen
      (congrArg OpRegistry.frozen (hkeeps.same.trans hfrozen))⟩
  · rw [devices_append]
    rfl
  · -- a torn-down registry is a new one that goes on numbering
    rw [← Registrar.both_shift, devices_append]
    refine congrArg (Run.both Registrar.perform · more) ?_
    show Registrar.mk _ (run before).devices.pending = Registrar.mk _ []
    rw [hidle, DeviceRegistry.shift, Nat.zero_add]
    rfl
  · rw [ops_run, List.filterMap_append]
    exact Catalog.registry_teardown ..
  · rw [ops_run] at hnew
    rw [ops_run, ops_run, List.filterMap_append]
    exact (Catalog.twin_teardown hnew).run more
  · exact Registrar.after_registration ..

/-- A registration that is in flight when the registry is frozen adds nothing. -/
theorem lifecycle_run_inFlight :
    (run [.devices (.begin "A"), .devices .freeze]).devices.perform
        (.finish "A" (.ok (hostBackends 0 1))) =
      (.error (.registryFrozen .device "A"),
        { registry := { frozen := true }, pending := [] }) := by
  have hup : (.devices .teardown : Step) ∉ [] := List.not_mem_nil
  have hclosed := ((lifecycle_run [.devices (.begin "A")]).1 [] hup).2
  have hpending : "A" ∈ (run [.devices (.begin "A"), .devices .freeze]).devices.pending :=
    List.mem_cons_self
  exact hclosed.finish "A" hpending _

end Registries

end Dataflow
