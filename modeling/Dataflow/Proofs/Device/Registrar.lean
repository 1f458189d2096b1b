import Dataflow.Proofs.Device.Registration

/-!
# Registrations in flight

A registration takes two moments. It begins, if its type can be registered, and it finishes when
its discovery has ended; in between anything may be done with the registry, by the discovery or by
others. A `Registrar` is a registry with the registrations in flight, and each of its steps is one
moment, so its runs have the registrations of a registry in any order and nested in one another.
What a step can do is said once, by `Registrar.Turn`.

The registration of a type with its discovery is a run of this kind (`Discovery.steps`,
`Registrar.after_registration`), and so is every list of calls (`Registrar.after_steps`).
-/

namespace Dataflow

namespace DeviceRegistry

/-- The end of a registration whose discovery has found something. -/
def conclude (r : DeviceRegistry) (deviceType : String) :
    Except Error Batch → Except Error (List String) × DeviceRegistry
  | .error e => (.error (.discoveryFailed deviceType e), r)
  | .ok batch =>
    match r.checkRegistrable deviceType with
    | .error e => (.error e, r)
    | .ok () =>
      (.ok ((r.nameDevices deviceType batch.toList).map (·.name)),
        r.enroll deviceType batch.toList)

/-- A registration is a check, the discovery and the end of the registration. -/
theorem registerBy_eq (r : DeviceRegistry) (deviceType : String)
    (discover : DeviceRegistry → Except Error Batch × DeviceRegistry) :
    r.registerBy deviceType discover =
      match r.checkRegistrable deviceType with
      | .error e => (.error e, r)
      | .ok () => (discover r).2.conclude deviceType (discover r).1 := by
  unfold registerBy
  cases r.checkRegistrable deviceType with
  | error e => rfl
  | ok u =>
    dsimp only
    cases discover r with
    | mk found s => cases found <;> rfl

end DeviceRegistry

/-- A registry with the registrations in flight. -/
structure Registrar where
  registry : DeviceRegistry := {}
  /-- The types whose discovery has begun and not ended. -/
  pending : List String := []

namespace Registrar

/-- What is done with a registry in one moment. -/
inductive Step
  | freeze
  | teardown
  /-- A registration of the type is asked for. -/
  | begin (deviceType : String)
  /-- The discovery of a registration of the type has ended. -/
  | finish (deviceType : String) (found : Except Error Batch)

/-- One step. Its answer has the names of new devices if the step has completed a registration;
without a registration in flight there is none to finish, and nothing happens. -/
def perform (g : Registrar) : Step → Except Error (Option (List String)) × Registrar
  | .freeze => (.ok none, { g with registry := g.registry.freeze })
  | .teardown => (.ok none, { g with registry := g.registry.teardown })
  | .begin deviceType =>
    match g.registry.checkRegistrable deviceType with
    | .error e => (.error e, g)
    | .ok () => (.ok none, { g with pending := deviceType :: g.pending })
  | .finish deviceType found =>
    if deviceType ∈ g.pending then
      let (answer, registry) := g.registry.conclude deviceType found
      (answer.map some, ⟨registry, g.pending.erase deviceType⟩)
    else (.ok none, g)

/-- Where steps lead from a new registry. -/
def run (steps : List Step) : Registrar :=
  Run.after perform {} steps

/-- A step with its answer. -/
abbrev Record :=
  Step × Except Error (Option (List String))

/-- The steps of a run with their answers. -/
def trace (steps : List Step) : List Record :=
  steps.zip (Run.answers perform {} steps)

/-- A run of steps and one more is the run of the steps, and then the step. -/
theorem run_concat (steps : List Step) (step : Step) :
    run (steps ++ [step]) = ((run steps).perform step).2 :=
  Run.after_append ..

/-- The trace of one more step has its record behind those before. -/
theorem trace_concat (steps : List Step) (step : Step) :
    trace (steps ++ [step]) = trace steps ++ [(step, ((run steps).perform step).1)] :=
  Run.zip_answers_concat ..

/-! ## What a step does -/

/-- A registration of a type that can be registered is begun. -/
theorem perform_begin_of_new {g : Registrar} {deviceType : String}
    (h : g.registry.checkRegistrable deviceType = .ok ()) :
    g.perform (.begin deviceType) =
      (.ok none, { g with pending := deviceType :: g.pending }) := by
  simp [perform, h]

/-- A registration that was begun is concluded with what its discovery has found. -/
theorem perform_finish_of_mem {g : Registrar} {deviceType : String} (h : deviceType ∈ g.pending)
    (found : Except Error Batch) :
    g.perform (.finish deviceType found) =
      ((g.registry.conclude deviceType found).1.map some,
        ⟨(g.registry.conclude deviceType found).2, g.pending.erase deviceType⟩) := by
  simp [perform, h]

/-- Nothing is concluded that was not begun. -/
theorem perform_finish_of_notMem {g : Registrar} {deviceType : String}
    (h : deviceType ∉ g.pending) (found : Except Error Batch) :
    g.perform (.finish deviceType found) = (.ok none, g) := by
  simp [perform, h]

/-- What a step answers, and the registrar after it. -/
inductive Turn (g : Registrar) :
    Step → Except Error (Option (List String)) → Registrar → Prop
  | freeze : Turn g .freeze (.ok none) { g with registry := g.registry.freeze }
  | teardown : Turn g .teardown (.ok none) { g with registry := g.registry.teardown }
  | frozen {deviceType : String} : g.registry.frozen = true →
      Turn g (.begin deviceType) (.error (.registryFrozen .device deviceType)) g
  | known {deviceType : String} : g.registry.frozen = false →
      g.registry.hasType deviceType = true →
      Turn g (.begin deviceType) (.error (.duplicateDeviceType deviceType)) g
  /-- The discovery begins. -/
  | begun {deviceType : String} : g.registry.frozen = false →
      g.registry.hasType deviceType = false →
      Turn g (.begin deviceType) (.ok none) { g with pending := deviceType :: g.pending }
  /-- There is no registration to finish. -/
  | idle {deviceType : String} {found : Except Error Batch} : deviceType ∉ g.pending →
      Turn g (.finish deviceType found) (.ok none) g
  | failed {deviceType : String} {e : Error} : deviceType ∈ g.pending →
      Turn g (.finish deviceType (.error e)) (.error (.discoveryFailed deviceType e))
        { g with pending := g.pending.erase deviceType }
  /-- The registry was frozen meanwhile. -/
  | frozenMeanwhile {deviceType : String} {batch : Batch} : deviceType ∈ g.pending →
      g.registry.frozen = true →
      Turn g (.finish deviceType (.ok batch)) (.error (.registryFrozen .device deviceType))
        { g with pending := g.pending.erase deviceType }
  /-- The type was registered meanwhile. -/
  | knownMeanwhile {deviceType : String} {batch : Batch} : deviceType ∈ g.pending →
      g.registry.frozen = false → g.registry.hasType deviceType = true →
      Turn g (.finish deviceType (.ok batch)) (.error (.duplicateDeviceType deviceType))
        { g with pending := g.pending.erase deviceType }
  /-- The type is added with the devices that were discovered. -/
  | done {deviceType : String} {batch : Batch} {r : DeviceRegistry} : deviceType ∈ g.pending →
      g.registry.frozen = false → g.registry.hasType deviceType = false →
      g.registry.Extends deviceType (g.registry.newNames deviceType batch.toList.length)
        batch.toList r →
      Turn g (.finish deviceType (.ok batch))
        (.ok (some (g.registry.newNames deviceType batch.toList.length)))
        ⟨r, g.pending.erase deviceType⟩

/-- A step of a registrar is one of the turns. -/
theorem perform_turn (g : Registrar) (step : Step) :
    g.Turn step (g.perform step).1 (g.perform step).2 := by
  cases step with
  | freeze => exact .freeze
  | teardown => exact .teardown
  | begin deviceType =>
    cases hf : g.registry.frozen with
    | true =>
      simp only [perform, DeviceRegistry.checkRegistrable_of_frozen hf]
      exact .frozen hf
    | false =>
    cases hk : g.registry.hasType deviceType with
    | true =>
      simp only [perform, DeviceRegistry.checkRegistrable_of_known hf hk]
      exact .known hf hk
    | false =>
      rw [perform_begin_of_new (DeviceRegistry.checkRegistrable_of_new hf hk)]
      exact .begun hf hk
  | finish deviceType found =>
    by_cases hp : deviceType ∈ g.pending
    · rw [perform_finish_of_mem hp]
      cases found with
      | error e => exact .failed hp
      | ok batch =>
      unfold DeviceRegistry.conclude
      cases hf : g.registry.frozen with
      | true =>
        simp only [DeviceRegistry.checkRegistrable_of_frozen hf]
        exact .frozenMeanwhile hp hf
      | false =>
      cases hk : g.registry.hasType deviceType with
      | true =>
        simp only [DeviceRegistry.checkRegistrable_of_known hf hk]
        exact .knownMeanwhile hp hf hk
      | false =>
        have hext := DeviceRegistry.extends_enroll batch.toList hk
        simp only [DeviceRegistry.checkRegistrable_of_new hf hk]
        rw [DeviceRegistry.map_name_nameDevices] at hext ⊢
        exact .done hp hf hk hext
    · rw [perform_finish_of_notMem hp]
      exact .idle hp

end Registrar

/-! ## Calls as steps -/

/-- The steps of a registration whose discovery does `during` and has then found something. -/
def DeviceRegistry.registrationSteps (r : DeviceRegistry) (deviceType : String)
    (during : List Registrar.Step) (found : Except Error Batch) : List Registrar.Step :=
  match r.checkRegistrable deviceType with
  | .error _ => [.begin deviceType]
  | .ok () => .begin deviceType :: during ++ [.finish deviceType found]

/-- The steps of a discovery with the registry that runs it. -/
def Discovery.steps : Discovery → DeviceRegistry → List Registrar.Step
  | finish _, _ => []
  | freeze next, r => .freeze :: next.steps r.freeze
  | teardown next, r => .teardown :: next.steps r.teardown
  | register deviceType inner next, r =>
    let (answer, s) := r.register deviceType inner
    r.registrationSteps deviceType (inner.steps r) (inner.run r).1 ++ (next answer).steps s

/-- The steps of calls, one after the other. -/
def DeviceRegistry.steps (r : DeviceRegistry) : List DeviceRegistry.Call → List Registrar.Step
  | [] => []
  | .freeze :: rest => .freeze :: r.freeze.steps rest
  | .teardown :: rest => .teardown :: r.teardown.steps rest
  | .register deviceType discovery :: rest =>
    r.registrationSteps deviceType (discovery.steps r) (discovery.run r).1 ++
      (r.register deviceType discovery).2.steps rest

namespace Registrar

/-- The steps of a registration do what the registration does, and the last of them answers as it
does, if the steps of the discovery do what the discovery does. -/
theorem after_registrationSteps {r : DeviceRegistry}
    {discover : DeviceRegistry → Except Error Batch × DeviceRegistry} {during : List Step}
    (hduring : ∀ pending, Run.after perform ⟨r, pending⟩ during = ⟨(discover r).2, pending⟩)
    (deviceType : String) (pending : List String) :
    Run.after perform ⟨r, pending⟩ (r.registrationSteps deviceType during (discover r).1) =
        ⟨(r.registerBy deviceType discover).2, pending⟩ ∧
      (Run.answers perform ⟨r, pending⟩
        (r.registrationSteps deviceType during (discover r).1)).getLast? =
          some ((r.registerBy deviceType discover).1.map some) := by
  rw [DeviceRegistry.registerBy_eq]
  unfold DeviceRegistry.registrationSteps
  cases hcheck : r.checkRegistrable deviceType with
  | error e => simp [Run.after, Run.answers, perform, hcheck, Except.map]
  | ok u =>
    dsimp only
    have hbefore : Run.after perform ⟨r, pending⟩ (.begin deviceType :: during) =
        ⟨(discover r).2, deviceType :: pending⟩ := by
      rw [← hduring, ← List.singleton_append, Run.after_append]
      exact congrArg (Run.after perform · during)
        (congrArg Prod.snd (perform_begin_of_new (g := ⟨r, pending⟩) hcheck))
    have hfinish := perform_finish_of_mem (g := ⟨(discover r).2, deviceType :: pending⟩)
      List.mem_cons_self (discover r).1
    rw [List.erase_cons_head] at hfinish
    rw [Run.after_append, Run.answers_append, hbefore]
    exact ⟨congrArg Prod.snd hfinish,
      List.getLast?_concat.trans (congrArg (some ·.1) hfinish)⟩

/-- The steps of a discovery do what the discovery does. -/
theorem after_discovery (d : Discovery) (r : DeviceRegistry) (pending : List String) :
    Run.after perform ⟨r, pending⟩ (d.steps r) = ⟨(d.run r).2, pending⟩ := by
  induction d generalizing r pending with
  | finish found => rfl
  | freeze next ih => exact ih r.freeze pending
  | teardown next ih => exact ih r.teardown pending
  | register deviceType inner next ihInner ihNext =>
    rw [Discovery.steps, Run.after_append,
      (after_registrationSteps (ihInner r) deviceType pending).1]
    exact ihNext _ _ pending

/-- A registration with its discovery is a run of a registrar, whose last step gives the answer. -/
theorem after_registration (g : Registrar) (deviceType : String) (d : Discovery) :
    Run.after perform g (g.registry.registrationSteps deviceType (d.steps g.registry)
        (d.run g.registry).1) =
        { g with registry := (g.registry.register deviceType d).2 } ∧
      (Run.answers perform g (g.registry.registrationSteps deviceType (d.steps g.registry)
        (d.run g.registry).1)).getLast? =
          some ((g.registry.register deviceType d).1.map some) :=
  after_registrationSteps (after_discovery d g.registry) deviceType g.pending

/-- Calls, one after the other, are a run of a registrar. -/
theorem after_steps (calls : List DeviceRegistry.Call) (r : DeviceRegistry)
    (pending : List String) :
    Run.after perform ⟨r, pending⟩ (r.steps calls) =
      ⟨Run.after DeviceRegistry.perform r calls, pending⟩ := by
  induction calls generalizing r with
  | nil => rfl
  | cons call rest ih =>
    cases call with
    | freeze => exact ih r.freeze
    | teardown => exact ih r.teardown
    | register deviceType discovery =>
      rw [DeviceRegistry.steps, Run.after_append,
        (after_registration ⟨r, pending⟩ deviceType discovery).1]
      exact ih _

end Registrar

end Dataflow
