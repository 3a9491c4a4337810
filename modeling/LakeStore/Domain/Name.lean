import LakeStore.Domain.Label
import LakeStore.Text.Trim

/-!
Domain names: labels with dots between them, and possibly one behind the last. Any of four characters is a
dot; in ASCII only the first of them is.
-/

namespace LakeStore.Domain

/-- Whether a character is a dot. -/
def isDot (c : Char) : Bool := ['.', '。', '．', '｡'].contains c

/-- The parts of a name, and whether a dot follows the last one. -/
def partsOf (cs : List Char) : List (List Char) × Bool :=
  let parts := Text.pieces ['.'] (cs.map fun c => if isDot c then '.' else c)
  if parts.getLast? = some [] then (parts.dropLast, true) else (parts, false)

/-- The form of a name in ASCII, if every part of it is a label and it is not too long. -/
def asciiName (cs : List Char) : Except Flaw (List Char) := do
  if greatestName < cs.length then throw .longName
  let (parts, isClosed) := partsOf cs
  let labels ← parts.mapM asciiLabel
  let name := ['.'].intercalate (if isClosed then labels ++ [[]] else labels)
  if (if isClosed then greatestName else greatestName - 1) < name.length then throw .longName
  return name

/-- What keeps a name in ASCII from being shown in the letters it stands for. -/
def nameFlaw? (cs : List Char) : Option Flaw :=
  if greatestName < cs.length then some .longName else (partsOf cs).1.findSome? asciiLabelFlaw?

end LakeStore.Domain
