import LakeStore.Text.Bytes
import LakeStore.Text.Printable

/-!
Quoted texts, as messages show them: in single quotes, or in double quotes when that saves escaping;
what does not print is written by code point.
-/

namespace LakeStore.Text

/-- The quote around a text: double exactly when it holds single quotes and no double ones. -/
def quoteFor (cs : List Char) : Char :=
  if cs.contains '\'' && !cs.contains '"' then '"' else '\''

/-- A character by its code point, in the shortest of the three lengths. -/
def byCode (c : Char) : List Char :=
  if c.toNat < 0x100 then '\\' :: 'x' :: Hex.fixed 2 c.toNat
  else if c.toNat < 0x10000 then '\\' :: 'u' :: Hex.fixed 4 c.toNat
  else '\\' :: 'U' :: Hex.fixed 8 c.toNat

/-- One character of a quoted text. -/
def quotedChar (quote c : Char) : List Char :=
  if c = quote ∨ c = '\\' then ['\\', c]
  else if c = '\n' then ['\\', 'n']
  else if c = '\r' then ['\\', 'r']
  else if c = '\t' then ['\\', 't']
  else if isPrintable c then [c]
  else byCode c

/-- A text in quotes. -/
def quoted (s : String) : String :=
  let quote := quoteFor s.toList
  String.ofList (quote :: s.toList.flatMap (quotedChar quote) ++ [quote])

/-- One octet of a quoted string of octets. -/
def quotedOctet (quote : Char) (b : UInt8) : List Char :=
  let c := Char.ofNat b.toNat
  if c.toNat < 0x80 then quotedChar quote c else '\\' :: 'x' :: Hex.fixed 2 b.toNat

/-- Octets in quotes, behind the mark that they are no text. -/
def quotedOctets (bytes : Bytes) : String :=
  let quote := quoteFor (bytes.map fun b => Char.ofNat b.toNat)
  String.ofList ('b' :: quote :: bytes.flatMap (quotedOctet quote) ++ [quote])

end LakeStore.Text
