import LakeStore.Value

/-!
Writing JSON on one line, in ASCII.

Characters outside of printable ASCII are escaped by their UTF-16 code units. Nothing stands between
tokens. Of a value that is not plain its plain form is written.
-/

namespace LakeStore.Json

/-- A code unit as an escape. -/
def escapedUnit (n : Nat) : List Char := '\\' :: 'u' :: Hex.fixed 4 n

/-- One character of a text. -/
def escaped (c : Char) : List Char :=
  if c = '"' then ['\\', '"']
  else if c = '\\' then ['\\', '\\']
  else if c = '\n' then ['\\', 'n']
  else if c = '\r' then ['\\', 'r']
  else if c = '\t' then ['\\', 't']
  else if c = '\x08' then ['\\', 'b']
  else if c = '\x0c' then ['\\', 'f']
  else if ' ' ≤ c ∧ c ≤ '~' then [c]
  else if c.toNat < 0x10000 then escapedUnit c.toNat
  else
    let n := c.toNat - 0x10000
    escapedUnit (0xD800 + n / 0x400) ++ escapedUnit (0xDC00 + n % 0x400)

/-- A text in quotes. -/
def writeText (s : String) : String := String.ofList ('"' :: s.toList.flatMap escaped ++ ['"'])

/-- A number, or the word for a value that no decimal spells. -/
def writeReal : Binary64 → String
  | .nan => "NaN"
  | .infinite negative => if negative then "-Infinity" else "Infinity"
  | x => x.display

mutual

/-- The line that spells a plain value; any other one is written as null. -/
def writePlain : Value → String
  | .null => "null"
  | .bool b => if b then "true" else "false"
  | .int n => toString n
  | .real x => writeReal x
  | .text s => writeText s
  | .list items => "[" ++ Text.join "," (writeItems items) ++ "]"
  | .table entries => "\x7b" ++ Text.join "," (writeEntries entries) ++ "\x7d"
  | _ => "null"

/-- The lines of the items of a list. -/
def writeItems : List Value → List String
  | [] => []
  | v :: rest => writePlain v :: writeItems rest

/-- The lines of the entries of a table. -/
def writeEntries : List (String × Value) → List String
  | [] => []
  | (name, v) :: rest => (writeText name ++ ":" ++ writePlain v) :: writeEntries rest

end

/-- The line that spells a value. -/
def write (v : Value) : String := writePlain v.plain

end LakeStore.Json
