/-!
# Attribute values

The scalars that nodes carry as attributes. Floats are kept as bit patterns; `AttrValue.agrees` is
the one place where they are compared as numbers, so there a value that is not a number differs
from itself and the two zeros are equal (`Ieee.equal`).
-/

namespace Dataflow

namespace Ieee

/-- A bit pattern of a binary float with `fraction` fraction bits below `exponent` exponent bits
stands for no number: the exponent is all ones and the fraction is not zero. -/
def isNaN (exponent fraction bits : Nat) : Bool :=
  (bits >>> fraction) % (1 <<< exponent) == (1 <<< exponent) - 1 && bits % (1 <<< fraction) != 0

/-- A bit pattern stands for zero when all bits but the sign are zero. -/
def isZero (exponent fraction bits : Nat) : Bool :=
  bits % (1 <<< (exponent + fraction)) == 0

/-- Equality of the numbers two bit patterns stand for. -/
def equal (exponent fraction a b : Nat) : Bool :=
  !isNaN exponent fraction a && !isNaN exponent fraction b &&
    (a == b || (isZero exponent fraction a && isZero exponent fraction b))

end Ieee

/-- The types of attribute values. -/
inductive AttrType
  | int32
  | int64
  | float
  | double
  | bool
  deriving DecidableEq, Repr

/-- The name by which an attribute's type is written. -/
def AttrType.name : AttrType → String
  | .int32 => "int32"
  | .int64 => "int64"
  | .float => "float"
  | .double => "double"
  | .bool => "bool"

/-- A scalar attached to a node; floats are bit patterns. -/
inductive AttrValue
  | int32 (value : Int32)
  | int64 (value : Int64)
  | float (bits : UInt32)
  | double (bits : UInt64)
  | bool (value : Bool)
  deriving DecidableEq

namespace AttrValue

/-- The type of a value. -/
def type : AttrValue → AttrType
  | int32 _ => .int32
  | int64 _ => .int64
  | float _ => .float
  | double _ => .double
  | bool _ => .bool

/-- The number of a value of type `int32`. -/
def int32? : AttrValue → Option Int32
  | int32 v => some v
  | _ => none

/-- The number of a value of type `int64`. -/
def int64? : AttrValue → Option Int64
  | int64 v => some v
  | _ => none

/-- The bits of a value of type `float`. -/
def float? : AttrValue → Option UInt32
  | float v => some v
  | _ => none

/-- The bits of a value of type `double`. -/
def double? : AttrValue → Option UInt64
  | double v => some v
  | _ => none

/-- The truth value of a value of type `bool`. -/
def bool? : AttrValue → Option Bool
  | bool v => some v
  | _ => none

/-- Equality of values as numbers: values of different types differ, floats compare as numbers. -/
def agrees : AttrValue → AttrValue → Bool
  | int32 a, int32 b => a == b
  | int64 a, int64 b => a == b
  | float a, float b => Ieee.equal 8 23 a.toNat b.toNat
  | double a, double b => Ieee.equal 11 52 a.toNat b.toNat
  | bool a, bool b => a == b
  | _, _ => false

end AttrValue

end Dataflow
