import Dataflow.Error
import Dataflow.Table

/-!
# Attributes

The attributes of a graph's nodes in one table, under the path `node/name`. A name may not contain
the slash, so a path has one reading as a node's name and an attribute's name (`attributePath`,
`checkAttributeName`). A typed getter answers a value of its own type and says what it found
instead of one of another type.
-/

namespace Dataflow

/-- An attribute's name is accepted if it does not contain a slash. -/
def checkAttributeName (name : String) : Except Error Unit :=
  if '/' ∈ name.toList then .error (.invalidAttributeName name) else .ok ()

/-- The path of a node's attribute. -/
def attributePath (node name : String) : String :=
  node ++ "/" ++ name

/-- Attribute values by path. -/
structure Attributes where
  table : Table String AttrValue := {}
  deriving DecidableEq

/-- What the getters answer about one path. -/
structure AttrReading where
  has : Bool
  int32 : Except Error Int32
  int64 : Except Error Int64
  float : Except Error UInt32
  double : Except Error UInt64
  bool : Except Error Bool

namespace Attributes

/-- Whether a path has a value. -/
def has (a : Attributes) (path : String) : Bool :=
  a.table.contains path

/-- The value at a path. -/
def get? (a : Attributes) (path : String) : Option AttrValue :=
  a.table.get? path

/-- The attributes after a write to a path. -/
def insert (a : Attributes) (path : String) (value : AttrValue) : Attributes :=
  ⟨a.table.insert path value⟩

/-- The value at a path as one of the expected type, taken out of it by `extract`. -/
def typed {α : Type} (a : Attributes) (path : String) (expected : AttrType)
    (extract : AttrValue → Option α) : Except Error α :=
  match a.get? path with
  | none => .error (.attributeNotFound path)
  | some value =>
    match extract value with
    | some x => .ok x
    | none => .error (.attributeTypeMismatch path expected value.type)

/-- The value at a path of type `int32`. -/
def getInt32 (a : Attributes) (path : String) : Except Error Int32 :=
  a.typed path .int32 AttrValue.int32?

/-- The value at a path of type `int64`. -/
def getInt64 (a : Attributes) (path : String) : Except Error Int64 :=
  a.typed path .int64 AttrValue.int64?

/-- The bits of the value at a path of type `float`. -/
def getFloat (a : Attributes) (path : String) : Except Error UInt32 :=
  a.typed path .float AttrValue.float?

/-- The bits of the value at a path of type `double`. -/
def getDouble (a : Attributes) (path : String) : Except Error UInt64 :=
  a.typed path .double AttrValue.double?

/-- The value at a path of type `bool`. -/
def getBool (a : Attributes) (path : String) : Except Error Bool :=
  a.typed path .bool AttrValue.bool?

/-- What the getters answer about a path. -/
def reading (a : Attributes) (path : String) : AttrReading where
  has := a.has path
  int32 := a.getInt32 path
  int64 := a.getInt64 path
  float := a.getFloat path
  double := a.getDouble path
  bool := a.getBool path

/-- The entries in the order of their paths. -/
def sorted (a : Attributes) : List (String × AttrValue) :=
  a.table.entries.mergeSort (·.1 ≤ ·.1)

/-- Whether two tables have the same paths with values that agree as numbers. -/
def agrees (a b : Attributes) : Bool :=
  a.table.size == b.table.size &&
    a.table.entries.all fun (path, value) =>
      match b.get? path with
      | some other => value.agrees other
      | none => false

/-- After an insertion there is the new value under its path, and what was there before under every
other. -/
theorem get?_insert (a : Attributes) (path path' : String) (value : AttrValue) :
    (a.insert path value).get? path' = if path = path' then some value else a.get? path' :=
  Table.get?_insert a.table path path' value

end Attributes

end Dataflow
