import Dataflow.Proofs.Device.Naming

/-!
# Devices of host memory

A program makes sure of the devices of host memory, as often as it likes and each time with
properties of its own. The first time the type is registered, with as many devices as the
properties ask for; from then on, until the registry is torn down, nothing changes and no
properties are looked at (`DeviceRegistry.EnsuresHost`). Somebody else may have registered the type
before, and then the devices are theirs.

`Startup` has the steps of a registrar and this one besides. After every run the devices of host
memory are those that were registered first since the last teardown (`Startup.host_run`).
-/

namespace Dataflow

namespace DeviceRegistry

/-! ## One call -/

/-- What making sure of the devices of host memory does to a registry. -/
structure EnsuresHost (r : DeviceRegistry) (p : Properties) : Prop where
  /-- The type is registered, whoever has done so and whether or not the registry is frozen. -/
  known : r.hasType hostType = true → r.ensureHost p = (.ok (), r)
  frozen : r.hasType hostType = false → r.frozen = true →
    r.ensureHost p = (.error (.registryFrozen .device hostType), r)
  /-- The type is added with the devices that the properties ask for, and nothing else changes. -/
  added : r.hasType hostType = false → r.frozen = false → ∃ r',
    r.ensureHost p = (.ok (), r') ∧
      r.Extends hostType (firstNames hostType p.cpuDeviceCount)
        (hostBackends p.tensorByteLengthLimit p.cpuDeviceCount).toList r' ∧
      (r'.ofType hostType).map (fun d => (d.name, d.backend.maxAllocation)) =
        (List.range p.cpuDeviceCount).map fun n =>
          (deviceName hostType n, p.tensorByteLengthLimit)

variable {r : DeviceRegistry} {p : Properties}

/-- The devices of host memory have the first names of their type and the limit that was asked
for. -/
theorem map_devicesOf_hostBackends (first limit count : Nat) :
    (devicesOf first hostType (hostBackends limit count).toList).map
        (fun d => (d.name, d.backend.maxAllocation)) =
      (List.range count).map fun n => (deviceName hostType n, limit) := by
  refine List.ext_getElem ?_ fun i _ _ => ?_
  · simp [devicesOf, devicesFrom, firstNames, hostBackends, Batch.length_toList]
  · simp [devicesOf, devicesFrom, firstNames, hostBackends, Batch.toList, hostBackend]

/-- If host devices are registered, nothing is done. -/
theorem ensureHost_of_known (h : r.hasType hostType = true) : r.ensureHost p = (.ok (), r) :=
  if_pos h

/-- A frozen registry without host devices gets none. -/
theorem ensureHost_of_frozen (h : r.hasType hostType = false) (hfrozen : r.frozen = true) :
    r.ensureHost p = (.error (.registryFrozen .device hostType), r) := by
  simp only [ensureHost, h, Bool.false_eq_true, if_false, register, registerBy_eq,
    checkRegistrable_of_frozen hfrozen]

/-- The discovery of host memory leaves the registry alone, so the type can still be registered
after it. -/
theorem ensureHost_of_new (h : r.hasType hostType = false) (hopen : r.frozen = false) :
    r.ensureHost p = (.ok (), r.enroll hostType
      (hostBackends p.tensorByteLengthLimit p.cpuDeviceCount).toList) := by
  simp only [ensureHost, h, Bool.false_eq_true, if_false, register, registerBy_eq,
    checkRegistrable_of_new hopen h, Discovery.host, Discovery.run, conclude]

/-- In an orderly registry no other type has the names of the devices of host memory. -/
theorem Orderly.ensuresHost (h : r.Orderly) (p : Properties) :
    r.EnsuresHost p where
  known := ensureHost_of_known
  frozen := ensureHost_of_frozen
  added hnew hopen := by
    have hext := extends_enroll
      (hostBackends p.tensorByteLengthLimit p.cpuDeviceCount).toList hnew
    rw [map_name_nameDevices, Batch.length_toList, h.newNames_eq hnew] at hext
    have hdevices := hext.ofType hostType
    rw [if_pos rfl, h.ofType_eq_nil hnew, List.nil_append] at hdevices
    refine ⟨_, ensureHost_of_new hnew hopen, hext, ?_⟩
    rw [hdevices, ← map_devicesOf_hostBackends r.next, devicesOf, Batch.length_toList]

/-- The devices of a type are those for its backends, if it is registered. -/
theorem Orderly.ofType_eq (h : r.Orderly) (deviceType : String) :
    ∃ first, r.ofType deviceType =
      (r.factories.get? deviceType).elim [] (devicesOf first deviceType) := by
  cases hget : r.factories.get? deviceType with
  | none =>
    refine ⟨0, h.ofType_eq_nil ?_⟩
    rw [hasType, Table.contains, hget]
    rfl
  | some backends => exact h.members deviceType backends hget

/-- A type that is not known has no entry. -/
theorem get?_factories_of_new {deviceType : String} (h : r.hasType deviceType = false) :
    r.factories.get? deviceType = none := by
  simpa [hasType, Table.contains] using h

/-- Making sure of the devices leaves the registry as registering them does. -/
theorem ensureHost_snd (r : DeviceRegistry) (p : Properties) :
    (r.ensureHost p).2 = (r.register hostType (.host p)).2 := by
  cases hknown : r.hasType hostType with
  | true =>
    rw [ensureHost_of_known hknown, register, registerBy_eq]
    cases hfrozen : r.frozen with
    | true => rw [checkRegistrable_of_frozen hfrozen]
    | false => rw [checkRegistrable_of_known hfrozen hknown]
  | false =>
    simp only [ensureHost, hknown, Bool.false_eq_true, if_false]
    split <;> rename_i hregister <;> rw [hregister]

end DeviceRegistry

/-! ## Runs -/

namespace Startup

open DeviceRegistry (devicesOf)

/-- What a program does with its registry. -/
inductive Step
  /-- Make sure of the devices of host memory. -/
  | ensureHost (p : Properties)
  | registrar (step : Registrar.Step)

/-- One step. -/
def perform (g : Registrar) : Step → Except Error (Option (List String)) × Registrar
  | .ensureHost p =>
    let (answer, registry) := g.registry.ensureHost p
    (answer.map fun _ => none, { g with registry })
  | .registrar step => g.perform step

/-- Where steps lead from a new registry. -/
def run (steps : List Step) : Registrar :=
  Run.after perform {} steps

/-- A step with its answer. -/
abbrev Record :=
  Step × Except Error (Option (List String))

/-- The steps of a run with their answers. -/
def trace (steps : List Step) : List Record :=
  steps.zip (Run.answers perform {} steps)

/-- The backends for which a step has registered devices of host memory, if there were none
before. -/
def registered? : Record → Option (List Backend)
  | (.ensureHost p, .ok _) =>
    some (hostBackends p.tensorByteLengthLimit p.cpuDeviceCount).toList
  | (.registrar (.finish deviceType (.ok batch)), .ok (some _)) =>
    if deviceType = hostType then some batch.toList else none
  | _ => none

/-- The backends that were first registered, after one more step. -/
def keepFirst (first : Option (List Backend)) : Record → Option (List Backend)
  | (.registrar .teardown, _) => none
  | record => first.or (registered? record)

/-- The backends of the first registration of host memory since the last teardown. -/
def firstHost? (records : List Record) : Option (List Backend) :=
  records.foldl keepFirst none

/-- A run of steps and one more is the run of the steps, and then the step. -/
theorem run_concat (steps : List Step) (step : Step) :
    run (steps ++ [step]) = (perform (run steps) step).2 :=
  Run.after_append ..

/-- The trace of one more step has its record behind those before. -/
theorem trace_concat (steps : List Step) (step : Step) :
    trace (steps ++ [step]) = trace steps ++ [(step, (perform (run steps) step).1)] :=
  Run.zip_answers_concat ..

/-- The first host backends after one more record. -/
theorem firstHost?_concat (records : List Record) (record : Record) :
    firstHost? (records ++ [record]) = keepFirst (firstHost? records) record :=
  List.foldl_concat ..

/-- Only a teardown makes the first host backends be forgotten. -/
theorem keepFirst_of_ne {first : Option (List Backend)} {record : Record}
    (h : record.1 ≠ .registrar .teardown) :
    keepFirst first record = first.or (registered? record) := by
  unfold keepFirst
  split
  · exact absurd rfl h
  · rfl

/-- The steps of a registrar are steps here. -/
theorem after_map_registrar (g : Registrar) (steps : List Registrar.Step) :
    Run.after perform g (steps.map .registrar) = Run.after Registrar.perform g steps :=
  List.foldl_map ..

/-- A run leads where some run of a registrar does. -/
theorem exists_run_eq (steps : List Step) : ∃ steps', run steps = Registrar.run steps' := by
  induction steps using List.reverseRecOn with
  | nil => exact ⟨[], rfl⟩
  | append_singleton steps step ih =>
    obtain ⟨steps', hsteps⟩ := ih
    rw [run_concat, hsteps]
    cases step with
    | ensureHost p =>
      have hafter := (Registrar.after_registration (Registrar.run steps') hostType
        (.host p)).1
      rw [← DeviceRegistry.ensureHost_snd] at hafter
      exact ⟨_, hafter.symm.trans (Run.after_append ..).symm⟩
    | registrar step => exact ⟨steps' ++ [step], (Registrar.run_concat ..).symm⟩

/-- The registry of every run has its devices in order. -/
theorem orderly_run_registry (steps : List Step) : (run steps).registry.Orderly := by
  obtain ⟨steps', hsteps⟩ := exists_run_eq steps
  rw [hsteps]
  exact (Registrar.accords_run steps').orderly

/-- A call that makes sure of host memory registers it if it is not registered. -/
theorem get?_factories_ensureHost (r : DeviceRegistry) (p : Properties) :
    (r.ensureHost p).2.factories.get? hostType =
      keepFirst (r.factories.get? hostType)
        (.ensureHost p, (r.ensureHost p).1.map fun _ => none) := by
  rw [keepFirst_of_ne (by nofun)]
  cases hknown : r.hasType hostType with
  | true =>
    rw [DeviceRegistry.ensureHost_of_known hknown]
    obtain ⟨backends, hbackends⟩ := Option.isSome_iff_exists.1 hknown
    rw [hbackends, Option.some_or]
  | false =>
    rw [DeviceRegistry.get?_factories_of_new hknown, Option.none_or]
    cases hfrozen : r.frozen with
    | true =>
      rw [DeviceRegistry.ensureHost_of_frozen hknown hfrozen]
      exact DeviceRegistry.get?_factories_of_new hknown
    | false =>
      rw [DeviceRegistry.ensureHost_of_new hknown hfrozen]
      exact (Table.get?_insert ..).trans (if_pos rfl)

/-- A step of a registrar registers host memory only if it is not registered. -/
theorem get?_factories_turn {g g' : Registrar} {step : Registrar.Step}
    {answer : Except Error (Option (List String))} (hturn : g.Turn step answer g') :
    g'.registry.factories.get? hostType =
      keepFirst (g.registry.factories.get? hostType) (.registrar step, answer) := by
  cases hturn with
  | teardown => rfl
  | freeze | frozen | known | begun | failed | frozenMeanwhile | knownMeanwhile =>
    exact (Option.or_none).symm
  | @idle deviceType found =>
    cases found <;> exact (Option.or_none).symm
  | @done deviceType batch r _ _ hnew hext =>
    rw [keepFirst_of_ne (by nofun), registered?]
    split
    · rename_i htype
      subst htype
      rw [DeviceRegistry.get?_factories_of_new hnew, Option.none_or]
      exact hext.get?_factories.2 (.inr ⟨rfl, rfl⟩)
    · rename_i hne
      rw [Option.or_none]
      refine Option.ext fun found => hext.get?_factories.trans ?_
      exact or_iff_left fun h => hne h.1.symm

/-- A step changes the registration of host memory as its record tells. -/
theorem get?_factories_perform (g : Registrar) (step : Step) :
    (perform g step).2.registry.factories.get? hostType =
      keepFirst (g.registry.factories.get? hostType) (step, (perform g step).1) := by
  cases step with
  | ensureHost p => exact get?_factories_ensureHost g.registry p
  | registrar step => exact get?_factories_turn (g.perform_turn step)

/-- After every run the registration of host memory is the first since the last teardown. -/
theorem get?_factories_run (steps : List Step) :
    (run steps).registry.factories.get? hostType = firstHost? (trace steps) := by
  induction steps using List.reverseRecOn with
  | nil => rfl
  | append_singleton steps step ih =>
    rw [run_concat, trace_concat, firstHost?_concat, ← ih]
    exact get?_factories_perform (run steps) step

/-- Until the registry is torn down, the devices of a registered type stay as they are. -/
theorem ofType_turn {g g' : Registrar} {step : Registrar.Step}
    {answer : Except Error (Option (List String))} (hturn : g.Turn step answer g')
    (hup : step ≠ .teardown) {deviceType : String}
    (hknown : g.registry.hasType deviceType = true) :
    g'.registry.hasType deviceType = true ∧
      g'.registry.ofType deviceType = g.registry.ofType deviceType := by
  cases hturn with
  | teardown => exact absurd rfl hup
  | freeze | frozen | known | begun | idle | failed | frozenMeanwhile | knownMeanwhile =>
    exact ⟨hknown, rfl⟩
  | @done other _ _ _ _ hnew hext =>
    have hne : other ≠ deviceType := by
      rintro rfl
      rw [hnew] at hknown
      cases hknown
    rw [hext.hasType, hext.ofType, hknown, if_neg hne, List.append_nil]
    exact ⟨rfl, rfl⟩

/-- So do the devices of host memory, whatever properties are passed. -/
theorem ofType_after {g : Registrar} {more : List Step} (hup : .registrar .teardown ∉ more)
    (hknown : g.registry.hasType hostType = true) :
    (Run.after perform g more).registry.ofType hostType = g.registry.ofType hostType := by
  refine (Run.after_induction_mem
    (P := fun g' : Registrar => g'.registry.hasType hostType = true ∧
      g'.registry.ofType hostType = g.registry.ofType hostType) ⟨hknown, rfl⟩ ?_).2
  rintro g' step hstep ⟨hknown', hsame⟩
  cases step with
  | ensureHost p =>
    rw [perform, DeviceRegistry.ensureHost_of_known hknown']
    exact ⟨hknown', hsame⟩
  | registrar step =>
    have hne : step ≠ .teardown := by
      rintro rfl
      exact hup hstep
    obtain ⟨hknown'', hstays⟩ := ofType_turn (g'.perform_turn step) hne hknown'
    exact ⟨hknown'', hstays.trans hsame⟩

/-- **Host memory is initialised once.** In every registry that a run leads to, a call that makes
sure of the devices of host memory changes nothing if their type is registered, fails if it is not
and the registry is frozen, and otherwise adds exactly the devices that its properties ask for. So
the devices of host memory are those of the first registration since the last teardown, and as long
as there is no other teardown they stay, whatever properties are passed. The runs have every list
of calls, with their discoveries, among them. -/
theorem host_run (steps : List Step) :
    let r := (run steps).registry
    (∀ p, r.EnsuresHost p) ∧
      r.factories.get? hostType = firstHost? (trace steps) ∧
      (∃ first, r.ofType hostType =
        (firstHost? (trace steps)).elim [] (devicesOf first hostType)) ∧
      (∀ more, .registrar .teardown ∉ more → r.hasType hostType = true →
        (run (steps ++ more)).registry.ofType hostType = r.ofType hostType) ∧
      ∀ calls, Run.after perform (run steps) ((r.steps calls).map .registrar) =
        { run steps with registry := Run.after DeviceRegistry.perform r calls } := by
  intro r
  have hfirst : r.factories.get? hostType = firstHost? (trace steps) := get?_factories_run steps
  refine ⟨(orderly_run_registry steps).ensuresHost, hfirst, ?_, fun more hup hknown => ?_,
    fun calls => ?_⟩
  · rw [← hfirst]
    exact (orderly_run_registry steps).ofType_eq hostType
  · rw [run, Run.after_append]
    exact ofType_after hup hknown
  · rw [after_map_registrar]
    exact Registrar.after_steps calls _ _

/-- Later properties are not looked at, and a frozen registry is no obstacle to them. -/
example :
    (run [.ensureHost { cpuDeviceCount := 2 }, .registrar .freeze,
      .ensureHost { cpuDeviceCount := 5 }]).registry.names = ["CPU:0", "CPU:1"] := by
  decide

end Startup

end Dataflow
