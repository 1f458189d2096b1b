import Dataflow.Error
import Dataflow.Json.Reader
import Dataflow.Text.Unsigned

/-!
# Properties

The two numbers that configure the host devices, read from a JSON file and overridden by
environment variables. A file names the fields or lists them in order, and what it leaves out keeps
its default; an override replaces the fields whose variables are set, or fails at the first that
does not hold a size.
-/

namespace Dataflow

/-- The configuration of the host devices. -/
structure Properties where
  /-- The longest single allocation that a device accepts, in bytes. -/
  tensorByteLengthLimit : Nat := 256 * 1024 * 1024
  /-- The number of devices that discovery yields. -/
  cpuDeviceCount : Nat := 1
  deriving DecidableEq, Repr

namespace Properties

/-- The key of the limit in a file. -/
def limitKey : String := "tensor_byte_length_limit"

/-- The key of the number of devices in a file. -/
def countKey : String := "cpu_device_count"

/-- The environment variable that overrides the limit. -/
def limitVariable : String := "GRAPHLOOM_TENSOR_LIMIT"

/-- The environment variable that overrides the number of devices. -/
def countVariable : String := "GRAPHLOOM_CPU_DEVICES"

/-! ## Files -/

/-- The size that a JSON value holds: an unsigned integer that fits a word. -/
def size? : Json → Option Nat
  | .natural n => Word.fit? n
  | _ => none

/-- The size of the field `key` among an object's members, `default` if no member has this key. A
key that is repeated is not accepted. -/
def field? (members : List (Option String × Json)) (key : String) (default : Nat) : Option Nat :=
  match members.filter (·.1 == some key) with
  | [] => some default
  | [(_, value)] => size? value
  | _ => none

/-- The properties that a JSON value describes, as an object or as the list of the fields. Every
key of the object must be a text, known or not. -/
def ofJson? : Json → Option Properties
  | .object members => do
    if members.all (·.1.isSome) then
      let limit ← field? members limitKey ({} : Properties).tensorByteLengthLimit
      let count ← field? members countKey ({} : Properties).cpuDeviceCount
      return ⟨limit, count⟩
    else none
  | .array [] => some {}
  | .array [limit] => do
    let limit ← size? limit
    return { tensorByteLengthLimit := limit }
  | .array [limit, count] => do
    let limit ← size? limit
    let count ← size? count
    return ⟨limit, count⟩
  | _ => none

/-- A file, by its path and, if it can be read, its bytes. -/
structure Source where
  path : String
  content : Option ByteArray

/-- The properties in a file. -/
def load (file : Source) : Except Error Properties :=
  match file.content.bind String.fromUTF8? with
  | none => .error (.unreadableFile file.path)
  | some text =>
    match (Json.ofString? text).bind ofJson? with
    | none => .error .unparsableFile
    | some properties => .ok properties

/-- The JSON text of the properties. -/
def toJson (p : Properties) : String :=
  "\x7b\"" ++ limitKey ++ "\":" ++ toString p.tensorByteLengthLimit ++ ",\"" ++ countKey ++
    "\":" ++ toString p.cpuDeviceCount ++ "\x7d"

/-! ## Environment variables -/

/-- The values of the two environment variables, `none` where a variable is not set. -/
structure Environment where
  limit : Option String := none
  count : Option String := none

/-- The size that the value of a variable denotes, if it is set. White space around it is ignored,
and an error quotes the value as it is. -/
def override? (variableName : String) : Option String → Except Error (Option Nat)
  | none => .ok none
  | some value =>
    match Text.readWord? (Text.trim value.toList) with
    | some n => .ok (some n)
    | none => .error (.invalidEnvValue variableName value)

/-- The properties with those fields replaced whose variables are set. -/
def withEnvironment (p : Properties) (env : Environment) : Except Error Properties := do
  let limit ← override? limitVariable env.limit
  let count ← override? countVariable env.count
  return ⟨limit.getD p.tensorByteLengthLimit, count.getD p.cpuDeviceCount⟩

/-- The properties in a file, or the default ones, with the fields replaced whose variables are
set. -/
def configure (file : Option Source) (env : Environment) : Except Error Properties := do
  let p ← match file with
    | none => .ok {}
    | some file => load file
  p.withEnvironment env

end Properties

end Dataflow
