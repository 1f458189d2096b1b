import Dataflow.Text.Unprintable

/-!
# Quoted text and records

How values are described for a reader: text between quotes with everything escaped that would not
be shown as itself, lists between square brackets, sets and records between braces.
-/

namespace Dataflow.Text

/-- One character inside quotes: the quote, the backslash and five controls have short escapes; any
other character that prints nothing or attaches to its neighbour is written as its code point in
hexadecimal. Printable ASCII is shown as itself. -/
def quotedChar (c : Char) : List Char :=
  if c = '"' then ['\\', '"']
  else if c = '\\' then ['\\', '\\']
  else if c = '\n' then ['\\', 'n']
  else if c = '\r' then ['\\', 'r']
  else if c = '\t' then ['\\', 't']
  else if c.toNat = 0 then ['\\', '0']
  else if 32 ≤ c.toNat ∧ c.toNat < 127 then [c]
  else if isExtending c || isUnprintable c then
    ['\\', 'u', '\x7b'] ++ Nat.toDigits 16 c.toNat ++ ['\x7d']
  else [c]

/-- A text between quotes. -/
def quoted (s : String) : String :=
  String.ofList ('"' :: s.toList.flatMap quotedChar ++ ['"'])

/-- A list of described items. -/
def listed (items : List String) : String :=
  "[" ++ ", ".intercalate items ++ "]"

/-- A set of described items. -/
def setOf (items : List String) : String :=
  "\x7b" ++ ", ".intercalate items ++ "\x7d"

/-- A record: its name, then its described fields in order. -/
def record (name : String) (fields : List (String × String)) : String :=
  name ++ " \x7b " ++ ", ".intercalate (fields.map fun (field, value) => field ++ ": " ++ value) ++
    " \x7d"

/-- A list of numbers. -/
def numbers (ns : List Nat) : String :=
  listed (ns.map toString)

end Dataflow.Text
