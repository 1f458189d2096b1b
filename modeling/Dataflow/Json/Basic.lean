/-!
# JSON values

A JSON text as far as this library looks into it: the value of an unsigned integer literal and the
text of a string are kept, other numbers are only known to be numbers.
-/

namespace Dataflow

/-- A JSON value. -/
inductive Json
  | null
  | bool (value : Bool)
  /-- An integer written as digits alone: no sign, no fraction, no exponent. -/
  | natural (value : Nat)
  /-- Any other number. -/
  | number
  /-- A string, `none` if one of its escapes is half of a surrogate pair without the other half:
  such a string may stand where it is skipped but has no text. -/
  | text (value : Option String)
  | array (items : List Json)
  /-- An object with its members in order of appearance, repeated keys included. -/
  | object (members : List (Option String × Json))

end Dataflow
