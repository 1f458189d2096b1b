import Dataflow.Proofs.Names
import Dataflow.Run

/-!
# Registering device types

A registration runs a discovery between its two checks, and the discovery may freeze the registry,
tear it down and register other types, or the same type, with discoveries that do so in turn. How a
registration ends is said once, by `DeviceRegistry.Registers`: it is refused before the discovery
is run, or it fails and leaves the registry as the discovery has left it, or it adds its type and
its devices to that (`DeviceRegistry.Extends`).

The log of a registry has the teardowns and the registrations that succeed, those inside of
discoveries among them (`DeviceRegistry.log`). It keeps track of whether a type is known
(`Tracks`), so between two teardowns a type is registered at most once
(`DeviceRegistry.register_atMostOnce`).
-/

namespace Dataflow

namespace DeviceRegistry

/-! ## How a registration ends -/

/-- Devices of a type under the given names, one for each backend, with serial numbers from `first`
on. -/
def devicesFrom (first : Nat) (deviceType : String) (names : List String)
    (backends : List Backend) : List Device :=
  (names.zip (backends.zipIdx first)).map fun (name, backend, serial) =>
    ⟨serial, name, deviceType, backend⟩

/-- A registry with a type and its devices more than another: the devices come behind the others,
under names that were free and the next serial numbers, one for each backend in order. -/
structure Extends (s : DeviceRegistry) (deviceType : String) (names : List String)
    (backends : List Backend) (s' : DeviceRegistry) : Prop where
  count : names.length = backends.length
  nodup : names.Nodup
  fresh : ∀ name ∈ names, s.has name = false
  devices : s'.devices.entries = s.devices.entries ++
    (devicesFrom s.next deviceType names backends).map fun d => (d.name, d)
  factories : s'.factories.entries = s.factories.entries ++ [(deviceType, backends)]
  frozen : s'.frozen = s.frozen
  next : s'.next = s.next + backends.length

/-- How the registration of a type ends, whose discovery does `discover` with the registry: the
answer, and the registry after it. -/
inductive Registers (r : DeviceRegistry) (deviceType : String)
    (discover : DeviceRegistry → Except Error Batch × DeviceRegistry) :
    Except Error (List String) → DeviceRegistry → Prop
  /-- The registry is frozen, so the discovery is not run. -/
  | frozen : r.frozen = true →
      Registers r deviceType discover (.error (.registryFrozen .device deviceType)) r
  /-- The type is known, so the discovery is not run. -/
  | known : r.frozen = false → r.hasType deviceType = true →
      Registers r deviceType discover (.error (.duplicateDeviceType deviceType)) r
  /-- The discovery fails. -/
  | failed {e : Error} {s : DeviceRegistry} : r.frozen = false → r.hasType deviceType = false →
      discover r = (.error e, s) →
      Registers r deviceType discover (.error (.discoveryFailed deviceType e)) s
  /-- The discovery has left the registry frozen. -/
  | frozenMeanwhile {batch : Batch} {s : DeviceRegistry} : r.frozen = false →
      r.hasType deviceType = false → discover r = (.ok batch, s) → s.frozen = true →
      Registers r deviceType discover (.error (.registryFrozen .device deviceType)) s
  /-- The discovery has left the type known. -/
  | knownMeanwhile {batch : Batch} {s : DeviceRegistry} : r.frozen = false →
      r.hasType deviceType = false → discover r = (.ok batch, s) → s.frozen = false →
      s.hasType deviceType = true →
      Registers r deviceType discover (.error (.duplicateDeviceType deviceType)) s
  /-- The type is added with the devices that were discovered. -/
  | done {batch : Batch} {s s' : DeviceRegistry} {names : List String} : r.frozen = false →
      r.hasType deviceType = false → discover r = (.ok batch, s) → s.frozen = false →
      s.hasType deviceType = false → s.Extends deviceType names batch.toList s' →
      Registers r deviceType discover (.ok names) s'

/-- Nothing can be registered with a frozen registry. -/
theorem checkRegistrable_of_frozen {r : DeviceRegistry} (h : r.frozen = true)
    (deviceType : String) :
    r.checkRegistrable deviceType = .error (.registryFrozen .device deviceType) :=
  if_pos h

/-- A type that is known cannot be registered again. -/
theorem checkRegistrable_of_known {r : DeviceRegistry} {deviceType : String}
    (hopen : r.frozen = false) (h : r.hasType deviceType = true) :
    r.checkRegistrable deviceType = .error (.duplicateDeviceType deviceType) := by
  simp [checkRegistrable, hopen, h]

/-- A new type can be registered with an open registry. -/
theorem checkRegistrable_of_new {r : DeviceRegistry} {deviceType : String}
    (hopen : r.frozen = false) (h : r.hasType deviceType = false) :
    r.checkRegistrable deviceType = .ok () := by
  simp [checkRegistrable, hopen, h]

/-- The names that are found for the devices of a type. -/
def newNames (s : DeviceRegistry) (deviceType : String) (count : Nat) : List String :=
  (freeNumbers (deviceName deviceType) s.devices.keys 0 count).map (deviceName deviceType)

/-- New devices get the new names and the next numbers, in the order of their backends. -/
theorem nameDevices_eq (s : DeviceRegistry) (deviceType : String) (backends : List Backend) :
    s.nameDevices deviceType backends =
      devicesFrom s.next deviceType (s.newNames deviceType backends.length) backends := by
  rw [devicesFrom, newNames, List.zip_map_left, List.map_map, nameDevices,
    ← List.map_uncurry_zip_eq_zipWith]
  rfl

/-- There are as many new names as are asked for. -/
theorem length_newNames (s : DeviceRegistry) (deviceType : String) (count : Nat) :
    (s.newNames deviceType count).length = count := by
  rw [newNames, List.length_map, length_freeNumbers]

/-- Devices have the names that they are given. -/
theorem map_name_devicesFrom {first : Nat} {deviceType : String} {names : List String}
    {backends : List Backend} (h : names.length = backends.length) :
    (devicesFrom first deviceType names backends).map (·.name) = names := by
  rw [devicesFrom, List.map_map]
  exact List.map_fst_zip (by rw [h, List.length_zipIdx])

/-- Devices are numbered one after the other. -/
theorem map_serial_devicesFrom {first : Nat} {deviceType : String} {names : List String}
    {backends : List Backend} (h : names.length = backends.length) :
    (devicesFrom first deviceType names backends).map (·.serial) =
      List.range' first backends.length := by
  have hsecond : (names.zip (backends.zipIdx first)).map Prod.snd = backends.zipIdx first :=
    List.map_snd_zip (by rw [h, List.length_zipIdx])
  rw [← List.zipIdx_map_snd, ← hsecond, List.map_map, devicesFrom, List.map_map]
  rfl

/-- New devices are of the type that is registered. -/
theorem type_of_mem_devicesFrom {first : Nat} {deviceType : String} {names : List String}
    {backends : List Backend} {d : Device}
    (h : d ∈ devicesFrom first deviceType names backends) : d.type = deviceType := by
  obtain ⟨_, -, rfl⟩ := List.mem_map.1 h
  rfl

/-- New devices have the new names in order. -/
theorem map_name_nameDevices (s : DeviceRegistry) (deviceType : String)
    (backends : List Backend) :
    (s.nameDevices deviceType backends).map (·.name) = s.newNames deviceType backends.length := by
  rw [nameDevices_eq, map_name_devicesFrom (length_newNames ..)]

/-- Enrolling a type that a registry does not know adds the type and its devices. -/
theorem extends_enroll {s : DeviceRegistry} {deviceType : String} (backends : List Backend)
    (hnew : s.hasType deviceType = false) :
    s.Extends deviceType ((s.nameDevices deviceType backends).map (·.name)) backends
      (s.enroll deviceType backends) := by
  have hinj := deviceName_injective deviceType
  have hnodup : (s.newNames deviceType backends.length).Nodup := nodup_map_freeNumbers hinj ..
  have hfresh : ∀ name ∈ s.newNames deviceType backends.length, name ∉ s.devices.keys := by
    intro name hname
    obtain ⟨k, hk, rfl⟩ := List.mem_map.1 hname
    exact (freeNumbers_free hinj hk).2
  have hnames := map_name_nameDevices s deviceType backends
  rw [← hnames] at hnodup hfresh
  refine ⟨?_, hnodup, fun name hname => ?_, ?_, ?_, rfl, rfl⟩
  · rw [hnames, length_newNames]
  · exact Bool.eq_false_iff.2 fun hhas => hfresh name hname (Table.contains_iff.1 hhas)
  · have hentries := Table.entries_foldl_insert Device.name id s.devices hnodup
      fun d hd => hfresh d.name (List.mem_map_of_mem hd)
    rw [hnames, ← nameDevices_eq]
    exact hentries
  · refine Table.entries_insert (fun hmem => ?_) backends
    exact Bool.eq_false_iff.1 hnew (Table.contains_iff.2 hmem)

/-- A registration ends in one of the ways of `Registers`. -/
theorem registerBy_registers (r : DeviceRegistry) (deviceType : String)
    (discover : DeviceRegistry → Except Error Batch × DeviceRegistry) :
    r.Registers deviceType discover (r.registerBy deviceType discover).1
      (r.registerBy deviceType discover).2 := by
  unfold registerBy
  cases hf : r.frozen with
  | true => rw [checkRegistrable_of_frozen hf]; exact .frozen hf
  | false =>
  cases hk : r.hasType deviceType with
  | true => rw [checkRegistrable_of_known hf hk]; exact .known hf hk
  | false =>
  rw [checkRegistrable_of_new hf hk]
  cases hd : discover r with
  | mk found s =>
  cases found with
  | error e => exact .failed hf hk hd
  | ok batch =>
  cases hsf : s.frozen with
  | true => simp only [checkRegistrable_of_frozen hsf]; exact .frozenMeanwhile hf hk hd hsf
  | false =>
  cases hsk : s.hasType deviceType with
  | true => simp only [checkRegistrable_of_known hsf hsk]; exact .knownMeanwhile hf hk hd hsf hsk
  | false =>
    simp only [checkRegistrable_of_new hsf hsk]
    exact .done hf hk hd hsf hsk (extends_enroll batch.toList hsk)

/-- After an extension the registry knows the added type, and otherwise the types that it knew. -/
theorem Extends.hasType {s s' : DeviceRegistry} {deviceType : String} {names : List String}
    {backends : List Backend} (h : s.Extends deviceType names backends s') (other : String) :
    s'.hasType other = (s.hasType other || deviceType == other) := by
  rw [Bool.eq_iff_iff]
  simp only [DeviceRegistry.hasType, Table.contains_iff, Bool.or_eq_true, beq_iff_eq, Table.keys,
    h.factories]
  simp [eq_comm]

end DeviceRegistry

/-! ## Logs -/

/-- An entry of the log of a registry. -/
inductive Occurrence
  /-- The registry was torn down. -/
  | teardown
  /-- A registration of the type has succeeded. -/
  | success (deviceType : String)
  deriving DecidableEq

/-- What a registration adds to a log: what is done during the discovery, if it is run, and the
success. -/
def DeviceRegistry.registrationLog (r : DeviceRegistry) (deviceType : String)
    (discover : DeviceRegistry → Except Error Batch × DeviceRegistry)
    (during : DeviceRegistry → List Occurrence) : List Occurrence :=
  match r.checkRegistrable deviceType with
  | .error _ => []
  | .ok () =>
    match (r.registerBy deviceType discover).1 with
    | .error _ => during r
    | .ok _ => during r ++ [.success deviceType]

/-- What a discovery adds to the log of the registry that runs it. -/
def Discovery.log : Discovery → DeviceRegistry → List Occurrence
  | finish _, _ => []
  | freeze next, r => next.log r.freeze
  | teardown next, r => .teardown :: next.log r.teardown
  | register deviceType inner next, r =>
    let (answer, s) := r.register deviceType inner
    r.registrationLog deviceType inner.run (fun r => inner.log r) ++ (next answer).log s

namespace DeviceRegistry

/-- Something that is done with a registry. -/
inductive Call
  | freeze
  | teardown
  | register (deviceType : String) (discovery : Discovery)

/-- One call. Its answer has the names of new devices if the call has registered a type. -/
def perform (r : DeviceRegistry) : Call → Except Error (List String) × DeviceRegistry
  | .freeze => (.ok [], r.freeze)
  | .teardown => (.ok [], r.teardown)
  | .register deviceType discovery => r.register deviceType discovery

/-- The log of calls, one after the other. -/
def log (r : DeviceRegistry) : List Call → List Occurrence
  | [] => []
  | .freeze :: rest => r.freeze.log rest
  | .teardown :: rest => .teardown :: r.teardown.log rest
  | .register deviceType discovery :: rest =>
    r.registrationLog deviceType discovery.run discovery.log ++
      (r.register deviceType discovery).2.log rest

end DeviceRegistry

/-- The log keeps track of whether a type is known: from `known` to `known'`, with a registration
of the type only while it is not known. -/
inductive Tracks (deviceType : String) : Bool → List Occurrence → Bool → Prop
  | nil {known : Bool} : Tracks deviceType known [] known
  | teardown {known known' : Bool} {log : List Occurrence} : Tracks deviceType false log known' →
      Tracks deviceType known (.teardown :: log) known'
  | success {known' : Bool} {log : List Occurrence} : Tracks deviceType true log known' →
      Tracks deviceType false (.success deviceType :: log) known'
  | other {other : String} {known known' : Bool} {log : List Occurrence} : other ≠ deviceType →
      Tracks deviceType known log known' → Tracks deviceType known (.success other :: log) known'

namespace Tracks

variable {deviceType : String} {known known' known'' : Bool} {xs ys : List Occurrence}

/-- What two stretches of a log track one after the other, both together track. -/
theorem append (hx : Tracks deviceType known xs known')
    (hy : Tracks deviceType known' ys known'') :
    Tracks deviceType known (xs ++ ys) known'' := by
  induction hx with
  | nil => exact hy
  | teardown _ ih => exact .teardown (ih hy)
  | success _ ih => exact .success (ih hy)
  | other hne _ ih => exact .other hne (ih hy)

/-- A log that is tracked is tracked up to each of its places, and from there on. -/
theorem of_append (h : Tracks deviceType known (xs ++ ys) known'') :
    ∃ known', Tracks deviceType known xs known' ∧ Tracks deviceType known' ys known'' := by
  induction xs generalizing known with
  | nil => exact ⟨known, .nil, h⟩
  | cons x rest ih =>
    cases h with
    | teardown h =>
      obtain ⟨known', hx, hy⟩ := ih h
      exact ⟨known', .teardown hx, hy⟩
    | success h =>
      obtain ⟨known', hx, hy⟩ := ih h
      exact ⟨known', .success hx, hy⟩
    | other hne h =>
      obtain ⟨known', hx, hy⟩ := ih h
      exact ⟨known', .other hne hx, hy⟩

/-- Without a teardown a type is registered at most once, and not at all if it is known. -/
theorem count_le (h : Tracks deviceType known xs known') (hup : .teardown ∉ xs) :
    xs.count (.success deviceType) ≤ if known then 0 else 1 := by
  induction h with
  | nil => simp
  | teardown => exact absurd List.mem_cons_self hup
  | success _ ih =>
    have hrest := ih fun hmem => hup (List.mem_cons_of_mem _ hmem)
    rw [List.count_cons_self]
    simpa using hrest
  | other hne _ ih =>
    rw [List.count_cons_of_ne fun heq => hne (Occurrence.success.inj heq)]
    exact ih fun hmem => hup (List.mem_cons_of_mem _ hmem)

end Tracks

namespace DeviceRegistry

/-- The log of a registration keeps track of every type, if that of its discovery does. -/
theorem tracks_registrationLog {r : DeviceRegistry} {deviceType other : String}
    {discover : DeviceRegistry → Except Error Batch × DeviceRegistry}
    {during : DeviceRegistry → List Occurrence}
    (hduring : Tracks other (r.hasType other) (during r) ((discover r).2.hasType other)) :
    Tracks other (r.hasType other) (r.registrationLog deviceType discover during)
      ((r.registerBy deviceType discover).2.hasType other) := by
  have h := registerBy_registers r deviceType discover
  unfold registrationLog
  generalize (r.registerBy deviceType discover).1 = answer at h ⊢
  generalize (r.registerBy deviceType discover).2 = s' at h ⊢
  cases h with
  | frozen hf => rw [checkRegistrable_of_frozen hf]; exact .nil
  | known hf hk => rw [checkRegistrable_of_known hf hk]; exact .nil
  | failed hf hk hd | frozenMeanwhile hf hk hd | knownMeanwhile hf hk hd =>
    -- The registry is as the discovery has left it, and so is the log.
    rw [hd] at hduring
    rw [checkRegistrable_of_new hf hk]
    exact hduring
  | @done batch s _ names hf hk hd hsf hsk hext =>
    rw [hd] at hduring
    rw [checkRegistrable_of_new hf hk]
    refine hduring.append ?_
    rw [hext.hasType]
    by_cases ho : deviceType = other
    · subst ho
      rw [hsk, beq_self_eq_true]
      exact .success .nil
    · rw [beq_eq_false_iff_ne.2 ho, Bool.or_false]
      exact .other ho .nil

end DeviceRegistry

/-- The log of a discovery keeps track of every type. -/
theorem Discovery.tracks (d : Discovery) (other : String) (r : DeviceRegistry) :
    Tracks other (r.hasType other) (d.log r) ((d.run r).2.hasType other) := by
  induction d generalizing r with
  | finish found => exact .nil
  | freeze next ih => exact ih r.freeze
  | teardown next ih => exact .teardown (ih r.teardown)
  | register deviceType inner next ihInner ihNext =>
    rw [log, run]
    exact (DeviceRegistry.tracks_registrationLog (ihInner r)).append (ihNext _ _)

namespace DeviceRegistry

/-- The log of a list of calls keeps track of every type. -/
theorem tracks_log (calls : List Call) (other : String) (r : DeviceRegistry) :
    Tracks other (r.hasType other) (r.log calls) ((Run.after perform r calls).hasType other) := by
  induction calls generalizing r with
  | nil => exact .nil
  | cons call rest ih =>
    cases call with
    | freeze => exact ih r.freeze
    | teardown => exact .teardown (ih r.teardown)
    | register deviceType discovery =>
      exact (tracks_registrationLog (discovery.tracks other r)).append (ih _)

/-- A registration ends in one of the ways of `Registers`, so one that fails leaves the registry as
it is or as the discovery has left it. In the log of a list of calls, in which the registrations
inside of discoveries are entered too, no type is registered twice without a teardown in
between. -/
theorem register_atMostOnce (r : DeviceRegistry) :
    (∀ (deviceType : String) (discovery : Discovery),
      r.Registers deviceType discovery.run (r.register deviceType discovery).1
        (r.register deviceType discovery).2) ∧
    ∀ (calls : List Call) (before between after : List Occurrence) (deviceType : String),
      r.log calls = before ++ between ++ after → .teardown ∉ between →
      between.count (.success deviceType) ≤ 1 := by
  refine ⟨fun deviceType discovery => registerBy_registers r deviceType discovery.run, ?_⟩
  intro calls before between after deviceType hlog hup
  have htracks := tracks_log calls deviceType r
  rw [hlog] at htracks
  obtain ⟨_, hfront, _⟩ := htracks.of_append
  obtain ⟨_, _, hbetween⟩ := hfront.of_append
  have hle := hbetween.count_le hup
  split at hle <;> omega

end DeviceRegistry

end Dataflow
