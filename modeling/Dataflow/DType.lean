/-!
# Element types

The element types of tensors. Every type has a name, a size in bytes and a type of scalars; a float
is kept as its bit pattern, since elements are stored and handed back but never computed with.
-/

namespace Dataflow

/-- The type of a tensor's elements. -/
inductive DType
  | float
  | double
  | int8
  | int16
  | int32
  | int64
  deriving DecidableEq, Repr, Inhabited

namespace DType

/-- Every element type once, in the order of their numbers. -/
def all : List DType :=
  [float, double, int8, int16, int32, int64]

/-- The number of the type. -/
def ordinal : DType → Nat
  | float => 0
  | double => 1
  | int8 => 2
  | int16 => 3
  | int32 => 4
  | int64 => 5

/-- The size of one element in bytes. -/
def size : DType → Nat
  | float => 4
  | double => 8
  | int8 => 1
  | int16 => 2
  | int32 => 4
  | int64 => 8

/-- The name by which the type is written and read. -/
def name : DType → String
  | float => "float"
  | double => "double"
  | int8 => "int8"
  | int16 => "int16"
  | int32 => "int32"
  | int64 => "int64"

/-- The name of the type in descriptions of values that mention it. -/
def label : DType → String
  | float => "Float"
  | double => "Double"
  | int8 => "Int8"
  | int16 => "Int16"
  | int32 => "Int32"
  | int64 => "Int64"

/-- The type with the given name. -/
def ofName? (s : String) : Option DType :=
  all.find? (·.name == s)

/-- The elements of the type; floats are bit patterns. -/
abbrev Scalar : DType → Type
  | float => UInt32
  | double => UInt64
  | int8 => Int8
  | int16 => Int16
  | int32 => Int32
  | int64 => Int64

/-- The element all of whose bits are zero. -/
def zero : (d : DType) → d.Scalar
  | float => (0 : UInt32)
  | double => (0 : UInt64)
  | int8 => (0 : Int8)
  | int16 => (0 : Int16)
  | int32 => (0 : Int32)
  | int64 => (0 : Int64)

/-- The list of all element types is complete. -/
theorem mem_all (d : DType) : d ∈ all := by
  cases d <;> decide

/-- An element type stands in the list at the place that its ordinal tells. -/
theorem all_ordinal (d : DType) : all[d.ordinal]? = some d := by
  cases d <;> rfl

/-- No element is without bytes, so a block of elements has an end behind its start. -/
theorem size_pos (d : DType) : 0 < d.size := by
  cases d <;> decide

/-- The name of an element type is read back. -/
theorem ofName?_name (d : DType) : ofName? d.name = some d := by
  cases d <;> decide

end DType

end Dataflow
