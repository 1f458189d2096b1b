import Dataflow.Json.Token

/-!
# Reading a JSON text

Tokens are put together to a value by a machine with a stack of the arrays and objects that are
still open, so a text may be nested to any depth. `Json.ofString?` is `none` exactly when the
machine is stuck or a value is still open at the end.
-/

namespace Dataflow.Json

/-- An array or object that is still open, with what it holds so far, the last first. -/
inductive Frame
  | array (before : List Json)
  /-- An object, waiting for the value of `key`. -/
  | object (before : List (Option String × Json)) (key : Option String)

/-- What the reader expects next; each state has the open frames around it, the innermost first. -/
inductive Reader
  /-- A value. -/
  | value (around : List Frame)
  /-- The first item of an array, or its end. -/
  | firstItem (around : List Frame)
  /-- The first key of an object, or its end. -/
  | firstKey (around : List Frame)
  /-- A key of an object. -/
  | key (before : List (Option String × Json)) (around : List Frame)
  /-- The colon after a key. -/
  | colon (before : List (Option String × Json)) (key : Option String) (around : List Frame)
  /-- What follows a complete value. -/
  | complete (value : Json) (around : List Frame)

namespace Reader

/-- One token where a value is expected. -/
def beginValue (around : List Frame) : Token → Option Reader
  | .scalar v => some (.complete v around)
  | .beginArray => some (.firstItem around)
  | .beginObject => some (.firstKey around)
  | _ => none

/-- One token. -/
def step : Reader → Token → Option Reader
  | value around, t => beginValue around t
  | firstItem around, .endArray => some (complete (.array []) around)
  | firstItem around, t => beginValue (.array [] :: around) t
  | firstKey around, .endObject => some (complete (.object []) around)
  | firstKey around, .scalar (.text k) => some (colon [] k around)
  | key before around, .scalar (.text k) => some (colon before k around)
  | colon before k around, .colon => some (value (.object before k :: around))
  | complete v (.array before :: around), .comma => some (value (.array (v :: before) :: around))
  | complete v (.array before :: around), .endArray =>
    some (complete (.array (v :: before).reverse) around)
  | complete v (.object before k :: around), .comma => some (key ((k, v) :: before) around)
  | complete v (.object before k :: around), .endObject =>
    some (complete (.object ((k, v) :: before).reverse) around)
  | _, _ => none

/-- The value read, if nothing is open. -/
def result? : Reader → Option Json
  | complete v [] => some v
  | _ => none

end Reader

/-- The value that a list of tokens denotes. -/
def ofTokens? (tokens : List Token) : Option Json := do
  let reader ← tokens.foldlM Reader.step (Reader.value [])
  reader.result?

/-- The value that a text denotes. -/
def ofString? (s : String) : Option Json := do
  let tokens ← tokens? s.toList
  ofTokens? tokens

end Dataflow.Json
