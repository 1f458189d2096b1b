import Dataflow.Kernel
import Dataflow.Layout
import Dataflow.Names

/-!
# Ops

An op is an operation as it was declared: its inputs, the shapes of its outputs and its attributes.
What was declared never changes; the kernels that are registered for an op are listed apart, in a
`KernelBook`, under the op's serial number. So whoever holds an op sees its kernels grow, also when
no registry has the op any more.
-/

namespace Dataflow

/-- A declared operation. -/
structure Op where
  /-- The number that tells this op from any other, also from one of the same name. -/
  serial : Nat
  name : String
  numInputs : Nat
  /-- The attributes that a node of the op must have, each once. -/
  attributes : List String
  /-- The shape of each output. -/
  shapes : List (Except Error Layout)

namespace Op

/-- The number of outputs. -/
def numOutputs (op : Op) : Nat :=
  op.shapes.length

/-- The attributes in the order of their names. -/
def sortedAttributes (op : Op) : List String :=
  sortNames op.attributes

/-- The shape of an output. -/
def outShape (op : Op) (slot : Nat) : Except Error Layout :=
  match op.shapes[slot]? with
  | some shape => shape
  | none => .error (.outputSlotOutOfRange op.name op.numOutputs slot)

/-- The attributes of an op that is being declared, with one more. -/
def addAttribute (op : String) (attributes : List String) (name : String) :
    Except Error (List String) := do
  checkAttributeName name
  if name ∈ attributes then .error (.duplicateAttribute op name) else .ok (attributes ++ [name])

/-- An op from its declaration, or why its attributes cannot be declared, one after the other. -/
def declare (serial : Nat) (name : String) (numInputs : Nat) (shapes : List (Except Error Layout))
    (attributes : List String) : Except Error Op := do
  let attributes ← attributes.foldlM (addAttribute name) []
  return ⟨serial, name, numInputs, attributes, shapes⟩

/-- An op as a record, with the number of its kernels. -/
def describe (op : Op) (numKernels : Nat) : String :=
  Text.record "Op"
    [("name", Text.quoted op.name), ("num_inputs", toString op.numInputs),
      ("num_outputs", toString op.numOutputs),
      ("attributes", Text.setOf (op.sortedAttributes.map Text.quoted)),
      ("kernels", toString numKernels)]

end Op

/-- The kernels registered for each op, by the op's serial number. -/
structure KernelBook where
  lists : Table Nat (List KernelDef) := {}

namespace KernelBook

/-- The kernels of an op in the order of their registration. -/
def kernels (book : KernelBook) (op : Op) : List KernelDef :=
  (book.lists.get? op.serial).getD []

/-- The book with one more kernel for an op. -/
def push (book : KernelBook) (op : Op) (kernel : KernelDef) : KernelBook :=
  ⟨book.lists.insert op.serial (book.kernels op ++ [kernel])⟩

/-- A kernel that is entered comes last among those of its op, and the kernels of other ops
stay. -/
theorem kernels_push (book : KernelBook) (op op' : Op) (kernel : KernelDef) :
    (book.push op kernel).kernels op' =
      if op.serial = op'.serial then book.kernels op' ++ [kernel] else book.kernels op' := by
  unfold kernels push
  simp only [Table.get?_insert]
  split
  · rename_i h
    simp [kernels, h]
  · rfl

end KernelBook

end Dataflow
