import LakeStore.Text.Quoted

/-!
Texts in encodings that do not have every character.

`ascii` writes a text in ASCII, or says which stretch of it has no bytes there; the message of such a
finding names the character if it is a single one.
-/

namespace LakeStore.Text

/-- A stretch of a text for which an encoding has no bytes. -/
structure Unencodable where
  /-- The encoding; none if the text was not to be encoded but to be mapped to another. -/
  encoding : Option String
  text : String
  start : Int
  /-- The first position behind the stretch. -/
  stop : Int
  reason : String
  deriving DecidableEq, Repr

namespace Unencodable

/-- The character of a stretch that is a single one. -/
def single? (u : Unencodable) : Option Char :=
  if u.start < 0 || u.stop != u.start + 1 then none else u.text.toList[u.start.toNat]?

/-- What the stretch is, in words. -/
def stretch (u : Unencodable) : String :=
  match u.single? with
  | some c => "character '" ++ String.ofList (byCode c) ++ "' in position " ++ toString u.start
  | none => "characters in position " ++ toString u.start ++ "-" ++ toString (u.stop - 1)

/-- A finding in words. -/
def message (u : Unencodable) : String :=
  (match u.encoding with
    | some name => "'" ++ name ++ "' codec can't encode "
    | none => "can't translate ") ++ u.stretch ++ ": " ++ u.reason

end Unencodable

/-- Whether a character is one of ASCII. -/
def isAscii (c : Char) : Bool := c.toNat < 0x80

/-- The bytes of a text in ASCII, or its first stretch that has none. -/
def ascii (s : String) : Except Unencodable Bytes :=
  let cs := s.toList
  let before := cs.takeWhile isAscii
  let beyond := (cs.drop before.length).takeWhile fun c => !isAscii c
  if beyond = [] then .ok (cs.map fun c => c.toNat.toUInt8)
  else .error ⟨some "ascii", s, before.length, before.length + beyond.length, "ordinal not in range(128)"⟩

end LakeStore.Text
