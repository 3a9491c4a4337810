import LakeStore.Text.Letter

/-!
The lowercase and the uppercase of texts.

Both are text to text: the uppercase of `ß` has two letters. The lowercase of a sigma depends on where it
stands: at the end of a word it is the final form.
-/

namespace LakeStore.Text

/-- Whether the first character that case does not look past has case. -/
def meetsCased (cs : List Char) : Bool :=
  match cs.dropWhile (isWithin caseIgnorableRanges) with
  | c :: _ => isWithin casedRanges c
  | [] => false

/-- The lowercase of a character between those before it, the nearest first, and those behind it. -/
def lowerChar (before : List Char) (c : Char) (behind : List Char) : List Char :=
  if c.toNat < 0x80 then [c.toLower]
  else if c = 'İ' then ['i', Char.ofNat 0x307]
  else if c = 'Σ' then [if meetsCased before && !meetsCased behind then 'ς' else 'σ']
  else [Char.ofNat (shifted lowerRuns c.toNat 0 lowerRuns.size)]

/-- The lowercase of characters behind some others, the nearest of which comes first. -/
def lowerBehind (before : List Char) : List Char → List Char
  | [] => []
  | c :: rest => lowerChar before c rest ++ lowerBehind (c :: before) rest

/-- The lowercase of a text. -/
def lower (s : String) : String := String.ofList (lowerBehind [] s.toList)

/-- The uppercase of a character. -/
def upperChar (c : Char) : List Char :=
  if c.toNat < 0x80 then [c.toUpper]
  else
    match longUpper.find? fun e => e.1 = c.toNat with
    | some (_, cs) => cs.map Char.ofNat
    | none => [Char.ofNat (shifted upperRuns c.toNat 0 upperRuns.size)]

/-- The uppercase of a text. -/
def upper (s : String) : String := String.ofList (s.toList.flatMap upperChar)

end LakeStore.Text
