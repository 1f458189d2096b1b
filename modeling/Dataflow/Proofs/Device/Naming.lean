import Dataflow.Proofs.Attribute
import Dataflow.Proofs.Device.Numbering
import Dataflow.Proofs.Device.Registrar
import Dataflow.Proofs.Text.Decimal

/-!
# The names of devices

The name of a device tells its type, whatever the type is called, since the number behind the last
colon has none (`DeviceRegistry.deviceName_inj`). So the devices of one type never take the names
of another: when a type is registered, all its names are free, and its devices are named from zero
on in the order in which the discovery has found them. That is what an orderly registry has for
each type (`DeviceRegistry.Orderly`), and every run leads to one (`Registrar.orderly_run`).
-/

namespace Dataflow

namespace DeviceRegistry

/-! ## Names -/

/-- A device's name tells its type and its number. -/
theorem deviceName_inj {deviceType deviceType' : String} {n n' : Nat}
    (h : deviceName deviceType n = deviceName deviceType' n') :
    deviceType = deviceType' ∧ n = n' := by
  have hchars := congrArg String.toList h
  simp only [deviceName, String.toList_append, List.append_assoc] at hchars
  have hcolon := Text.notMem_toString (show ':'.isDigit = false from rfl)
  obtain ⟨htype, hnumber⟩ := append_cons_inj_of_last (hcolon n) (hcolon n') hchars
  exact ⟨String.toList_inj.1 htype, Nat.repr_injective (String.toList_inj.1 hnumber)⟩

/-- The names of the first devices of a type. -/
def firstNames (deviceType : String) (count : Nat) : List String :=
  (List.range count).map (deviceName deviceType)

/-- The devices of a type for which these backends were found, numbered from `first` on. -/
def devicesOf (first : Nat) (deviceType : String) (backends : List Backend) : List Device :=
  devicesFrom first deviceType (firstNames deviceType backends.length) backends

/-- Where the scan for the name of one more device ends: at a free name, behind taken ones only. -/
structure ScanEnds (r : DeviceRegistry) (deviceType : String) (n : Nat) : Prop where
  bound : n ≤ r.numDevices
  free : r.has (deviceName deviceType n) = false
  taken : ∀ i < n, r.has (deviceName deviceType i) = true

/-- The scan for the number of a new device ends. -/
theorem scanEnds_firstFree (r : DeviceRegistry) (deviceType : String) :
    r.ScanEnds deviceType (firstFree (deviceName deviceType) r.devices.keys 0) where
  bound := by
    rw [numDevices, Table.size_eq_length_keys]
    exact Nat.le_trans (firstFree_le (deviceName_injective deviceType) ..)
      (Nat.le_of_eq (Nat.zero_add _))
  free := by
    have hfree := firstFree_notMem (deviceName_injective deviceType) r.devices.keys 0
    exact Bool.eq_false_iff.2 fun hhas => hfree (Table.contains_iff.1 hhas)
  taken i hi := Table.contains_iff.2 (mem_of_lt_firstFree (Nat.zero_le i) hi)

/-- The names of the devices are listed in order, each once. -/
theorem pairwise_names (r : DeviceRegistry) : r.names.Pairwise (· < ·) := by
  have hdistinct : r.names.Nodup := (perm_sortNames _).nodup_iff.2 r.devices.nodup_keys
  exact (pairwise_sortNames _).imp₂ (fun _ _ hle hne => Std.lt_of_le_of_ne hle hne) hdistinct

/-! ## Orderly registries -/

/-- The devices of a type. -/
def ofType (r : DeviceRegistry) (deviceType : String) : List Device :=
  r.listed.filter (·.type = deviceType)

/-- What holds of every registry. -/
structure Orderly (r : DeviceRegistry) : Prop where
  /-- A device is entered under its name. -/
  named : ∀ name d, r.devices.get? name = some d → d.name = name
  /-- The type of a device is registered. -/
  typed : ∀ name d, r.devices.get? name = some d → r.hasType d.type = true
  /-- A registered type has a device for each backend, named and numbered in the order of the
  backends. -/
  members : ∀ deviceType backends, r.factories.get? deviceType = some backends →
    ∃ first, r.ofType deviceType = devicesOf first deviceType backends
  /-- The devices are told apart by their numbers, which the next devices do not get. -/
  numbered : r.Numbered []

theorem orderly_empty : Orderly {} :=
  ⟨nofun, nofun, nofun, numbered_empty⟩

/-- A device that is entered is among those of its type. -/
theorem mem_ofType {r : DeviceRegistry} {name deviceType : String} {d : Device}
    (h : r.devices.get? name = some d) (htype : d.type = deviceType) : d ∈ r.ofType deviceType :=
  List.mem_filter.2 ⟨List.mem_map_of_mem (Table.get?_eq_some_iff.1 h), decide_eq_true htype⟩

/-- A freeze keeps a registry orderly. -/
theorem Orderly.freeze {r : DeviceRegistry} (h : r.Orderly) : r.freeze.Orderly :=
  ⟨h.named, h.typed, h.members, h.numbered.freeze⟩

/-- A teardown leaves an empty registry, which is orderly. -/
theorem Orderly.teardown {r : DeviceRegistry} (h : r.Orderly) : r.teardown.Orderly :=
  ⟨nofun, nofun, nofun, h.numbered.teardown⟩

/-- The name of a device is one of its type. -/
theorem Orderly.exists_number {r : DeviceRegistry} (h : r.Orderly) {name : String} {d : Device}
    (hget : r.devices.get? name = some d) : ∃ n, name = deviceName d.type n := by
  obtain ⟨backends, hbackends⟩ := Option.isSome_iff_exists.1 (h.typed name d hget)
  obtain ⟨first, hmembers⟩ := h.members _ _ hbackends
  have hmem := mem_ofType hget rfl
  rw [hmembers] at hmem
  obtain ⟨⟨name', backend, serial⟩, hzip, hd⟩ := List.mem_map.1 hmem
  obtain ⟨n, -, hn⟩ := List.mem_map.1 (List.of_mem_zip hzip).1
  refine ⟨n, ?_⟩
  rw [← h.named name d hget, hn, ← hd]

/-- The names of a type that is not registered are free. -/
theorem Orderly.deviceName_notMem {r : DeviceRegistry} (h : r.Orderly) {deviceType : String}
    (hnew : r.hasType deviceType = false) (n : Nat) :
    deviceName deviceType n ∉ r.devices.keys := by
  intro hmem
  obtain ⟨d, hget⟩ := Option.isSome_iff_exists.1 (Table.contains_iff.2 hmem)
  obtain ⟨m, hm⟩ := h.exists_number hget
  have htyped := h.typed _ d hget
  rw [← (deviceName_inj hm).1, hnew] at htyped
  cases htyped

/-- A type that is not registered has no devices. -/
theorem Orderly.ofType_eq_nil {r : DeviceRegistry} (h : r.Orderly) {deviceType : String}
    (hnew : r.hasType deviceType = false) : r.ofType deviceType = [] := by
  refine List.filter_eq_nil_iff.2 fun d hd htype => ?_
  obtain ⟨⟨name, d⟩, hentry, rfl⟩ := List.mem_map.1 hd
  have htyped := h.typed name d (Table.get?_eq_some_iff.2 hentry)
  rw [of_decide_eq_true htype, hnew] at htyped
  cases htyped

/-- The names that are found for a new type are its first ones. -/
theorem Orderly.newNames_eq {r : DeviceRegistry} (h : r.Orderly) {deviceType : String}
    (hnew : r.hasType deviceType = false) (count : Nat) :
    r.newNames deviceType count = firstNames deviceType count := by
  rw [newNames, freeNumbers_eq_range' fun n _ => h.deviceName_notMem hnew n, firstNames,
    List.range_eq_range']

/-! ## One more type -/

section extend
variable {r r' : DeviceRegistry} {deviceType : String} {names : List String}
  {backends : List Backend}

/-- A device of the extended registry was there before, or is one of the new ones. -/
theorem Extends.device_cases (hext : r.Extends deviceType names backends r') {name : String}
    {d : Device} (h : r'.devices.get? name = some d) :
    r.devices.get? name = some d ∨ d.name = name ∧ d.type = deviceType := by
  rw [Table.get?_eq_some_iff, hext.devices, List.mem_append] at h
  rcases h with h | h
  · exact .inl (Table.get?_eq_some_iff.2 h)
  · obtain ⟨d', hnew, heq⟩ := List.mem_map.1 h
    cases heq
    exact .inr ⟨rfl, type_of_mem_devicesFrom hnew⟩

/-- A registration enters its own backends and no others. -/
theorem Extends.get?_factories (hext : r.Extends deviceType names backends r') {other : String}
    {found : List Backend} :
    r'.factories.get? other = some found ↔
      r.factories.get? other = some found ∨ other = deviceType ∧ found = backends := by
  rw [Table.get?_eq_some_iff, hext.factories, List.mem_append, List.mem_singleton,
    Prod.mk.injEq, ← Table.get?_eq_some_iff]

/-- The devices of each type in the extended registry. -/
theorem Extends.ofType (hext : r.Extends deviceType names backends r') (other : String) :
    r'.ofType other = r.ofType other ++
      if deviceType = other then devicesFrom r.next deviceType names backends else [] := by
  unfold DeviceRegistry.ofType
  rw [hext.listed, List.filter_append]
  refine congrArg _ ?_
  split
  · rename_i heq
    exact List.filter_eq_self.2 fun d hd =>
      decide_eq_true ((type_of_mem_devicesFrom hd).trans heq)
  · rename_i hne
    exact List.filter_eq_nil_iff.2 fun d hd htype =>
      hne ((type_of_mem_devicesFrom hd).symm.trans (of_decide_eq_true htype))

/-- Adding a new type with devices under its first names keeps a registry orderly. -/
theorem Orderly.extends (h : r.Orderly) (hnew : r.hasType deviceType = false)
    (hext : r.Extends deviceType (firstNames deviceType backends.length) backends r') :
    r'.Orderly where
  named name d hget := by
    rcases hext.device_cases hget with hget | ⟨hname, -⟩
    · exact h.named name d hget
    · exact hname
  typed name d hget := by
    rw [hext.hasType]
    rcases hext.device_cases hget with hget | ⟨-, htype⟩
    · rw [h.typed name d hget, Bool.true_or]
    · rw [htype, beq_self_eq_true, Bool.or_true]
  members other found hfound := by
    rw [hext.ofType]
    rcases hext.get?_factories.1 hfound with hknown | ⟨rfl, rfl⟩
    · have hne : deviceType ≠ other := by
        rintro rfl
        rw [DeviceRegistry.hasType, Table.contains, hknown] at hnew
        cases hnew
      obtain ⟨first, hmembers⟩ := h.members other found hknown
      exact ⟨first, by rw [if_neg hne, List.append_nil, hmembers]⟩
    · exact ⟨r.next, by rw [if_pos rfl, h.ofType_eq_nil hnew, List.nil_append, devicesOf]⟩
  numbered := h.numbered.extends hext

end extend

end DeviceRegistry

/-! ## Runs -/

namespace Registrar

open DeviceRegistry (firstNames deviceName)

/-- The last registration of a type since the last teardown, after one more step. -/
def enlist (deviceType : String) (last : Option (List Backend × List String)) :
    Record → Option (List Backend × List String)
  | (.teardown, _) => none
  | (.finish other (.ok batch), .ok (some names)) =>
    if other = deviceType then some (batch.toList, names) else last
  | _ => last

/-- The last registration of a type since the last teardown: the backends that were found, and the
names that were answered. -/
def registration (deviceType : String) (records : List Record) :
    Option (List Backend × List String) :=
  records.foldl (enlist deviceType) none

/-- The registry is orderly, and has the types that the trace tells. -/
structure Accords (records : List Record) (r : DeviceRegistry) : Prop where
  orderly : r.Orderly
  registered : ∀ deviceType, registration deviceType records =
    (r.factories.get? deviceType).map fun backends =>
      (backends, firstNames deviceType backends.length)

/-- What is registered of a type after one more record. -/
theorem registration_concat (deviceType : String) (records : List Record) (record : Record) :
    registration deviceType (records ++ [record]) =
      enlist deviceType (registration deviceType records) record :=
  List.foldl_concat ..

/-- Every step keeps a registry that accords with the trace. -/
theorem accords_turn {g g' : Registrar} {step : Step}
    {answer : Except Error (Option (List String))} (hturn : g.Turn step answer g')
    {records : List Record} (h : Accords records g.registry) :
    Accords (records ++ [(step, answer)]) g'.registry := by
  cases hturn with
  | freeze =>
    refine ⟨h.orderly.freeze, fun deviceType => ?_⟩
    rw [registration_concat]
    exact h.registered deviceType
  | teardown =>
    refine ⟨h.orderly.teardown, fun deviceType => ?_⟩
    rw [registration_concat]
    rfl
  | frozen | known | begun | failed | frozenMeanwhile | knownMeanwhile =>
    refine ⟨h.orderly, fun deviceType => ?_⟩
    rw [registration_concat]
    exact h.registered deviceType
  | @idle _ found =>
    refine ⟨h.orderly, fun deviceType => ?_⟩
    rw [registration_concat]
    cases found with
    | error e => exact h.registered deviceType
    | ok batch => exact h.registered deviceType
  | @done deviceType batch r _ _ hnew hext =>
    rw [h.orderly.newNames_eq hnew] at hext ⊢
    refine ⟨h.orderly.extends hnew hext, fun other => ?_⟩
    -- the record tells of this type alone, and the registry is extended by this type alone
    rw [registration_concat, enlist, h.registered]
    by_cases hother : deviceType = other
    · subst hother
      rw [if_pos rfl, hext.get?_factories.2 (.inr ⟨rfl, rfl⟩)]
      rfl
    · rw [if_neg hother]
      refine congrArg _ (Option.ext fun found => ?_)
      rw [hext.get?_factories]
      simp [Ne.symm hother]

/-- After every run the registry is what the trace tells. -/
theorem accords_run (steps : List Step) : Accords (trace steps) (run steps).registry := by
  induction steps using List.reverseRecOn with
  | nil => exact ⟨DeviceRegistry.orderly_empty, fun _ => rfl⟩
  | append_singleton steps step ih =>
    rw [trace_concat, run_concat]
    exact accords_turn ((run steps).perform_turn step) ih

/-- A registration that succeeds answers the first names of its type, one for each backend. -/
theorem names_of_register (steps : List Step) {deviceType : String} {d : Discovery}
    {names : List String} (h : ((run steps).registry.register deviceType d).1 = .ok names) :
    ∃ backends,
      ((run steps).registry.register deviceType d).2.factories.get? deviceType = some backends ∧
        names = firstNames deviceType backends.length := by
  -- The discovery leads to a registry of a run, in which the registration is then finished.
  have hafter : run (steps ++ d.steps (run steps).registry) =
      ⟨(d.run (run steps).registry).2, (run steps).pending⟩ :=
    (Run.after_append ..).trans (after_discovery ..)
  have horderly := (accords_run (steps ++ d.steps (run steps).registry)).orderly
  rw [hafter] at horderly
  rw [DeviceRegistry.register, DeviceRegistry.registerBy_eq] at h ⊢
  cases hcheck : (run steps).registry.checkRegistrable deviceType with
  | error e =>
    rw [hcheck] at h
    cases h
  | ok u =>
    simp only [hcheck] at h ⊢
    have hturn := perform_turn ⟨(d.run (run steps).registry).2, [deviceType]⟩
      (.finish deviceType (d.run (run steps).registry).1)
    rw [perform_finish_of_mem List.mem_cons_self, h] at hturn
    generalize (d.run (run steps).registry).1 = found at hturn ⊢
    cases hturn with
    | done _ _ hnew hext =>
      exact ⟨_, hext.get?_factories.2 (.inr ⟨rfl, rfl⟩), horderly.newNames_eq hnew _⟩

/-- **Devices are named by type and number.** After every run the registry is orderly: a registered
type has a device for each backend that its discovery has found, under the first names of the type,
which its registration has answered; and so does every registration that succeeds from there on.
The names of two types never coincide, the devices are listed in order and each once, and the scan
for a name ends in any registry. The runs have every list of calls, with their discoveries, among
them. -/
theorem orderly_run (steps : List Step) :
    Accords (trace steps) (run steps).registry ∧
      (∀ deviceType d names, ((run steps).registry.register deviceType d).1 = .ok names →
        ∃ backends, ((run steps).registry.register deviceType d).2.factories.get? deviceType =
          some backends ∧ names = firstNames deviceType backends.length) ∧
      (∀ deviceType deviceType' n n',
        deviceName deviceType n = deviceName deviceType' n' ↔
          deviceType = deviceType' ∧ n = n') ∧
      (run steps).registry.numDevices = (run steps).registry.names.length ∧
      (run steps).registry.names.Pairwise (· < ·) ∧
      (∀ name, name ∈ (run steps).registry.names ↔ (run steps).registry.has name = true) ∧
      (∀ (r : DeviceRegistry) (deviceType : String),
        r.ScanEnds deviceType (firstFree (deviceName deviceType) r.devices.keys 0)) ∧
      ∀ calls, Run.after perform (run steps) ((run steps).registry.steps calls) =
        { run steps with
          registry := Run.after DeviceRegistry.perform (run steps).registry calls } := by
  refine ⟨accords_run steps, fun _ _ _ => names_of_register steps, fun _ _ _ _ => ?_, ?_,
    DeviceRegistry.pairwise_names _, fun name => ?_, DeviceRegistry.scanEnds_firstFree,
    fun calls => after_steps calls _ _⟩
  · exact ⟨DeviceRegistry.deviceName_inj, fun ⟨htype, hn⟩ => by rw [htype, hn]⟩
  · rw [DeviceRegistry.numDevices, Table.size_eq_length_keys, DeviceRegistry.names,
      length_sortNames]
  · rw [DeviceRegistry.names, mem_sortNames, DeviceRegistry.has, Table.contains_iff]

/-- A type whose name looks like that of a device takes no name from another type. -/
example :
    (run [.begin "A:0", .finish "A:0" (.ok (hostBackends 0 1)), .begin "A",
      .finish "A" (.ok (hostBackends 0 2))]).registry.names = ["A:0", "A:0:0", "A:1"] := by
  decide

end Registrar

end Dataflow
