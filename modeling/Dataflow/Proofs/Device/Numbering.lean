import Mathlib.Data.List.Nodup
import Dataflow.Proofs.Device.Registration

/-!
# The numbers of devices

A registry numbers the devices that it enrolls one after the other, and the numbering goes on after
a teardown. So its devices, and those that were taken from it and are held, are told apart by their
numbers (`DeviceRegistry.Numbered`), also when one of them has the name that another one had.
Whatever is done with a registry keeps this, whichever devices are held (`Numbered.perform`).
-/

namespace Dataflow

namespace DeviceRegistry

/-- The devices of a registry. -/
def listed (r : DeviceRegistry) : List Device :=
  r.devices.entries.map (·.2)

/-- The devices of a registry and those that are held have been numbered, each with a number of its
own. -/
structure Numbered (r : DeviceRegistry) (held : List Device) : Prop where
  lt_next : ∀ d ∈ held ++ r.listed, d.serial < r.next
  unique : ∀ d ∈ held ++ r.listed, ∀ d' ∈ held ++ r.listed, d.serial = d'.serial → d = d'

variable {r r' : DeviceRegistry} {held held' : List Device}

theorem numbered_empty : Numbered {} [] :=
  ⟨nofun, nofun⟩

/-- A device that is found under a name is one of the registry's. -/
theorem mem_listed_of_getDevice {name : String} {d : Device} (h : r.getDevice name = .ok d) :
    d ∈ r.listed := by
  unfold getDevice at h
  split at h
  · cases h
    exact List.mem_map_of_mem (Table.get?_eq_some_iff.1 ‹_›)
  · cases h

/-- Fewer devices are still told apart, and the numbering may have gone on. -/
theorem Numbered.mono (h : r.Numbered held) (hnext : r.next ≤ r'.next)
    (hsub : held' ++ r'.listed ⊆ held ++ r.listed) : r'.Numbered held' where
  lt_next d hd := Nat.lt_of_lt_of_le (h.lt_next d (hsub hd)) hnext
  unique d hd d' hd' := h.unique d (hsub hd) d' (hsub hd')

/-- The devices that are held may change for others of the registry. -/
theorem Numbered.hold (h : r.Numbered held) (hsub : held' ⊆ held ++ r.listed) : r.Numbered held' :=
  h.mono (Nat.le_refl _) (List.append_subset.2 ⟨hsub, List.subset_append_right ..⟩)

/-- A freeze gives out no number. -/
theorem Numbered.freeze (h : r.Numbered held) : r.freeze.Numbered held :=
  h.mono (Nat.le_refl _) fun _ hd => hd

/-- A torn-down registry has no devices, and does not give their numbers to others. -/
theorem Numbered.teardown (h : r.Numbered held) : r.teardown.Numbered held :=
  h.mono (Nat.le_refl _) (List.append_subset.2 ⟨List.subset_append_left .., List.nil_subset _⟩)

section
variable {deviceType : String} {names : List String} {backends : List Backend}

/-- The devices of an extension are those that there were and the new ones. -/
theorem Extends.listed (h : r.Extends deviceType names backends r') :
    r'.listed = r.listed ++ devicesFrom r.next deviceType names backends := by
  rw [DeviceRegistry.listed, h.devices, List.map_append, List.map_map]
  exact congrArg _ (List.map_id _)

/-- New devices get the numbers from the next one on. -/
theorem Extends.serial_bounds (h : r.Extends deviceType names backends r') {d : Device}
    (hd : d ∈ devicesFrom r.next deviceType names backends) :
    r.next ≤ d.serial ∧ d.serial < r'.next := by
  have hserial := List.mem_map_of_mem (f := Device.serial) hd
  rw [map_serial_devicesFrom h.count, List.mem_range'_1] at hserial
  rwa [h.next]

/-- New devices have numbers that no device had, each of them another one. -/
theorem Numbered.extends (h : r.Numbered held) (hext : r.Extends deviceType names backends r') :
    r'.Numbered held := by
  have hnext : r.next ≤ r'.next := hext.next ▸ Nat.le_add_right ..
  have hdistinct : ((devicesFrom r.next deviceType names backends).map (·.serial)).Nodup :=
    map_serial_devicesFrom hext.count ▸ List.nodup_range'
  have hcases : ∀ d ∈ held ++ r'.listed,
      d ∈ held ++ r.listed ∨ d ∈ devicesFrom r.next deviceType names backends := by
    rw [hext.listed, ← List.append_assoc]
    exact fun _ => List.mem_append.1
  refine ⟨fun d hd => ?_, fun d hd d' hd' hserial => ?_⟩
  · rcases hcases d hd with hold | hnew
    · exact Nat.lt_of_lt_of_le (h.lt_next d hold) hnext
    · exact (hext.serial_bounds hnew).2
  · rcases hcases d hd with hold | hnew <;> rcases hcases d' hd' with hold' | hnew'
    · exact h.unique d hold d' hold' hserial
    · have hlt := h.lt_next d hold
      have hle := (hext.serial_bounds hnew').1
      omega
    · have hlt := h.lt_next d' hold'
      have hle := (hext.serial_bounds hnew).1
      omega
    · exact List.inj_on_of_nodup_map hdistinct hnew hnew' hserial

end

/-! ## What is done with a registry -/

/-- However a registration ends, it keeps the numbers apart if its discovery does. -/
theorem Registers.numbered {deviceType : String}
    {discover : DeviceRegistry → Except Error Batch × DeviceRegistry}
    {answer : Except Error (List String)} (h : r.Registers deviceType discover answer r')
    (hr : r.Numbered held) (hdiscover : (discover r).2.Numbered held) : r'.Numbered held := by
  cases h with
  | frozen | known => exact hr
  | failed _ _ hd | frozenMeanwhile _ _ hd | knownMeanwhile _ _ hd =>
    rwa [hd] at hdiscover
  | done _ _ hd _ _ hext =>
    rw [hd] at hdiscover
    exact hdiscover.extends hext

end DeviceRegistry

open DeviceRegistry

variable {r : DeviceRegistry} {held : List Device}

/-- A discovery keeps the numbers apart, with the registrations that are nested in it. -/
theorem Discovery.numbered (d : Discovery) (h : r.Numbered held) : (d.run r).2.Numbered held := by
  induction d generalizing r with
  | finish found => exact h
  | freeze next ih => exact ih h.freeze
  | teardown next ih => exact ih h.teardown
  | register deviceType inner next ihInner ihNext =>
    have hregister := registerBy_registers r deviceType fun r => inner.run r
    exact ihNext _ (hregister.numbered h (ihInner h))

/-- Whatever is done with a registry keeps the numbers apart. -/
theorem DeviceRegistry.Numbered.perform (h : r.Numbered held) (call : Call) :
    (r.perform call).2.Numbered held := by
  cases call with
  | freeze => exact h.freeze
  | teardown => exact h.teardown
  | register deviceType discovery =>
    exact (registerBy_registers r deviceType discovery.run).numbered h (discovery.numbered h)

end Dataflow
