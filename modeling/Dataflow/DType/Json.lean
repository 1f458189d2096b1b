import Dataflow.DType
import Dataflow.Json.Reader

/-!
# Element types in JSON

An element type is written as the string of its name; it is also read from an object whose only
member has the name for its key and holds null.
-/

namespace Dataflow.DType

/-- The element type that a JSON value stands for. -/
def ofJson? : Json → Option DType
  | .text (some name) => ofName? name
  | .object [(some name, .null)] => ofName? name
  | _ => none

/-- The JSON text of an element type. -/
def toJson (d : DType) : String :=
  "\"" ++ d.name ++ "\""

end Dataflow.DType
