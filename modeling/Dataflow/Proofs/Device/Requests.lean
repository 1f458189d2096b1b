import Dataflow.Proofs.Device.Depot

/-!
# What backends are asked for

A device looks at a request for elements before its backend does: it refuses what its backend would
not accept and what no block of memory can hold, and asks for the rest (`Device.Asks`). What has
reached a backend in a run is what the steps wanted from its device and this device has let through
(`Depot.mem_requests_run`). So every request that reaches a backend is for a block that is not
empty, has room for the elements and consists of whole ones, at an address aligned to them.

The limit of the backend is held against the elements and not against the block. The two differ
when no element is wanted, for then the block still has the room of one: such a block can be longer
than what the backend accepts (`Depot.requests_beyondLimit`), and no other can.
-/

namespace Dataflow

/-- What a backend was asked for, the first request first. -/
def History.requests (history : History) : List Request :=
  history.filterMap fun event =>
    match event with
    | .request asked _ => some asked
    | .release _ _ => none

/-- A request is noted behind those before it, whatever its answer. -/
theorem History.mem_requests_request {history : History} {asked other : Request}
    {given : Option Address} :
    other ∈ requests (history ++ [.request asked given]) ↔
      other ∈ history.requests ∨ other = asked := by
  simp [requests]

/-- A release requests nothing. -/
theorem History.requests_release (history : History) (address : Address) (asked : Request) :
    requests (history ++ [.release address asked]) = history.requests := by
  simp [requests]

/-! ## A request for elements -/

namespace Device

/-- What a device asks its backend for when `count` elements are wanted, and lets through. -/
structure Asks (d : Device) (dtype : DType) (count : Nat) (asked : Request) : Prop where
  /-- The block has the room of the elements, or of one element if none is wanted. -/
  size : asked.size = max (count * dtype.size) dtype.size
  /-- The block is aligned to the elements. -/
  align : asked.align = dtype.size
  /-- The block is not empty. -/
  pos : 0 < asked.size
  /-- The elements fit into the block. -/
  room : count * dtype.size ≤ asked.size
  /-- The block consists of whole elements. -/
  whole : asked.align ∣ asked.size
  /-- The block and the padding behind it fit in the range of offsets. -/
  inRange : asked.size + (asked.align - 1) ≤ maxBlock
  /-- The backend accepts the length of the elements. -/
  accepted : count * dtype.size ≤ d.backend.maxAllocation
  /-- The backend accepts the length of the block, except for a block of no element if it does not
  accept one element. -/
  limit : asked.size ≤ d.backend.maxAllocation ↔ 0 < count ∨ dtype.size ≤ d.backend.maxAllocation

section
variable {d : Device} {dtype : DType} {count : Nat} {asked : Request}

/-- A device asks for the block of elements whose length its backend accepts. -/
theorem asks_of_le (haccepted : count * dtype.size ≤ d.backend.maxAllocation)
    (hrange : max (count * dtype.size) dtype.size + (dtype.size - 1) ≤ maxBlock) :
    d.Asks dtype count ⟨max (count * dtype.size) dtype.size, dtype.size⟩ where
  size := rfl
  align := rfl
  pos := Nat.lt_of_lt_of_le dtype.size_pos (Nat.le_max_right ..)
  room := Nat.le_max_left ..
  whole := by
    rcases Nat.le_total (count * dtype.size) dtype.size with hle | hle
    · rw [Nat.max_eq_right hle]
    · rw [Nat.max_eq_left hle]
      exact Nat.dvd_mul_left ..
  inRange := hrange
  accepted := haccepted
  limit := by
    rw [Nat.max_le, and_iff_right haccepted]
    constructor
    · exact .inr
    · rintro (hcount | hlimit)
      · exact Nat.le_trans (Nat.le_mul_of_pos_left _ hcount) haccepted
      · exact hlimit

/-- What a device asks for is what its check lets through. -/
theorem asks_iff :
    d.Asks dtype count asked ↔ d.request dtype count = .ok (asked, count * dtype.size) := by
  rw [request_eq_ok_iff]
  constructor
  · intro h
    have hasked : asked = ⟨max (count * dtype.size) dtype.size, dtype.size⟩ := by
      rw [← h.size, ← h.align]
    have hrange := h.inRange
    rw [h.size, h.align] at hrange
    exact ⟨rfl, hasked, h.accepted, hrange⟩
  · rintro ⟨-, rfl, haccepted, hrange⟩
    exact asks_of_le haccepted hrange

/-- A device asks for one block at most. -/
theorem asks_iff_eq {other : Request} {bytes : Nat}
    (h : d.request dtype count = .ok (other, bytes)) :
    d.Asks dtype count asked ↔ asked = other := by
  rw [asks_iff, h, Except.ok.injEq, Prod.mk.injEq, eq_comm, and_iff_left (request_eq_ok_iff.1 h).1]

/-- A request for elements makes its device ask for what it lets through, whatever the answer
is. -/
theorem Allocates.mem_requests {a a' : Allocations} {answer : Except Error Address}
    (h : d.Allocates dtype count a answer a') :
    asked ∈ a'.history.requests ↔ asked ∈ a.history.requests ∨ d.Asks dtype count asked := by
  cases h with
  | refused hrequest =>
    rw [asks_iff, hrequest]
    simp only [reduceCtorEq, or_false]
  | denied hrequest => rw [History.mem_requests_request, asks_iff_eq hrequest]
  | lent _ _ hrequest => rw [History.mem_requests_request, asks_iff_eq hrequest]

/-- A release requests nothing of the backend. -/
theorem Frees.requests {a a' : Allocations} {address : Address} {answer : Except Error Unit}
    (h : d.Frees dtype address a answer a') : a'.history.requests = a.history.requests := by
  cases h with
  | unknown => rfl
  | mismatched => rfl
  | done => exact History.requests_release ..

end

end Device

/-! ## Requests in a run -/

namespace Depot

/-- The elements that a step wants, and the device that it wants them from. A buffer wants as many
as its shape has, if they can be counted. -/
def wanted? (s : Depot) : Step → Option (Device × DType × Nat)
  | .registry _ => none
  | .hold _ => none
  | .allocate device dtype count => s.held[device]?.map fun d => (d, dtype, count)
  | .free _ _ _ => none
  | .create device dtype shape _ =>
    s.held[device]?.bind fun d =>
      (Buffer.count dtype shape).toOption.map fun count => (d, dtype, count)
  | .drop _ => none

/-- A step allocates what it wants, or it leaves the memory as it is or releases a block. -/
theorem heap_perform (s : Depot) (step : Step) :
    (∃ d dtype count, s.wanted? step = some (d, dtype, count) ∧
        (s.perform step).2.heap = (s.heap.allocate d dtype count).2) ∨
      s.wanted? step = none ∧
        ((s.perform step).2.heap = s.heap ∨
          ∃ d dtype address, (s.perform step).2.heap = (s.heap.free d dtype address).2) := by
  cases step with
  | registry call => exact .inr ⟨rfl, .inl rfl⟩
  | hold name =>
    refine .inr ⟨rfl, .inl ?_⟩
    rw [perform]
    split <;> rfl
  | allocate device dtype count =>
    rw [perform, wanted?]
    cases s.held[device]? with
    | none => exact .inr ⟨rfl, .inl rfl⟩
    | some d => exact .inl ⟨d, dtype, count, rfl, rfl⟩
  | free device dtype address =>
    rw [perform, wanted?]
    cases s.held[device]? with
    | none => exact .inr ⟨rfl, .inl rfl⟩
    | some d => exact .inr ⟨rfl, .inr ⟨d, dtype, address, rfl⟩⟩
  | create device dtype shape memory =>
    rw [perform, wanted?]
    cases s.held[device]? with
    | none => exact .inr ⟨rfl, .inl rfl⟩
    | some d =>
      rw [Option.bind_some]
      unfold Buffer.create
      cases Buffer.count dtype shape with
      -- elements that cannot be counted are not asked for
      | error e => exact .inr ⟨rfl, .inl rfl⟩
      | ok count =>
        refine .inl ⟨d, dtype, count, rfl, ?_⟩
        dsimp only
        cases (s.heap.allocate d dtype count).1 <;> rfl
  | drop buffer =>
    rw [perform, wanted?]
    cases s.buffers[buffer]? with
    | none => exact .inr ⟨rfl, .inl rfl⟩
    | some b => exact .inr ⟨rfl, .inr ⟨b.device, b.dtype, b.address, rfl⟩⟩

/-- A step that wants elements makes its device ask for what it lets through, and no other step
makes a device ask for anything. -/
theorem mem_requests_perform (s : Depot) (step : Step) (d : Device) (asked : Request) :
    asked ∈ ((s.perform step).2.heap.account d).history.requests ↔
      asked ∈ (s.heap.account d).history.requests ∨
        ∃ d' dtype count, s.wanted? step = some (d', dtype, count) ∧
          d'.serial = d.serial ∧ d'.Asks dtype count asked := by
  rcases s.heap_perform step with ⟨d', dtype, count, hwanted, hheap⟩ | ⟨hwanted, hheap⟩
  · simp only [hwanted, hheap, Option.some.injEq, Prod.mk.injEq]
    by_cases hserial : d'.serial = d.serial
    · obtain ⟨-, haccount⟩ := s.heap.update_of_serial_eq hserial (d'.allocate dtype count)
      rw [Heap.allocate, haccount, (d'.allocate_allocates dtype count _).mem_requests]
      refine or_congr_right ⟨fun h => ⟨d', dtype, count, ⟨rfl, rfl, rfl⟩, hserial, h⟩, ?_⟩
      rintro ⟨_, _, _, ⟨rfl, rfl, rfl⟩, -, h⟩
      exact h
    · rw [Heap.allocate, Heap.account_update, if_neg hserial]
      refine ⟨.inl, ?_⟩
      rintro (h | ⟨_, _, _, ⟨rfl, -, -⟩, hserial', -⟩)
      · exact h
      · exact absurd hserial' hserial
  · have hsame : ((s.perform step).2.heap.account d).history.requests =
        (s.heap.account d).history.requests := by
      rcases hheap with hheap | ⟨d', dtype, address, hheap⟩
      · rw [hheap]
      · rw [hheap, Heap.free]
        by_cases hserial : d'.serial = d.serial
        · obtain ⟨-, haccount⟩ := s.heap.update_of_serial_eq hserial (d'.free dtype address)
          rw [haccount, (d'.free_frees dtype address _).requests]
        · rw [Heap.account_update, if_neg hserial]
    simp only [hsame, hwanted, reduceCtorEq, false_and, exists_false, or_false]

/-- **What reaches a backend in a run.** The backend of a device was asked just for what the steps
of the run have wanted from the device of this number and this device has let through: for blocks
that are not empty, have room for the elements, consist of whole ones and are aligned to them. Each
of them is one that the backend accepts, but for a block of no element on a backend that does not
accept one element. -/
theorem mem_requests_run (steps : List Step) (d : Device) (asked : Request) :
    asked ∈ ((run steps).heap.account d).history.requests ↔
      ∃ before step d' dtype count, before ++ [step] <+: steps ∧
        (run before).wanted? step = some (d', dtype, count) ∧
        d'.serial = d.serial ∧ d'.Asks dtype count asked := by
  induction steps using List.reverseRecOn with
  | nil =>
    refine ⟨nofun, ?_⟩
    rintro ⟨before, step, _, _, _, hprefix, -⟩
    have hlen := hprefix.length_le
    simp at hlen
  | append_singleton steps last ih =>
    rw [run_concat, mem_requests_perform, ih]
    simp only [List.prefix_concat_iff, List.append_singleton_inj]
    constructor
    · rintro (⟨before, step, d', dtype, count, hprefix, h⟩ | ⟨d', dtype, count, h⟩)
      · exact ⟨before, step, d', dtype, count, .inr hprefix, h⟩
      · exact ⟨steps, last, d', dtype, count, .inl ⟨rfl, rfl⟩, h⟩
    · rintro ⟨before, step, d', dtype, count, ⟨rfl, rfl⟩ | hprefix, h⟩
      · exact .inr ⟨d', dtype, count, h⟩
      · exact .inl ⟨before, step, d', dtype, count, hprefix, h⟩

/-- A device whose backend does not accept four bytes. -/
def tightDevice : Device :=
  ⟨0, "CPU:0", "CPU", hostBackend 3⟩

/-- Taking the device and asking it for no element. -/
def tightSteps : List Step := [
  .registry (.register "CPU" (.finish (.ok (.ofList [tightDevice.backend])))),
  .hold "CPU:0",
  .allocate 0 .float 0]

/-- A backend that accepts three bytes is asked for four, the room of the element that is not
wanted. -/
theorem requests_beyondLimit :
    (run (tightSteps.take 2)).wanted? (.allocate 0 .float 0) = some (tightDevice, .float, 0) ∧
      ((run tightSteps).heap.account tightDevice).history.requests = [⟨4, 4⟩] ∧
      ¬ 4 ≤ tightDevice.backend.maxAllocation :=
  ⟨rfl, rfl, by decide⟩

end Depot

end Dataflow
