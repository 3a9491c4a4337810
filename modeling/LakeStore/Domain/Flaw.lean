import LakeStore.Text.Quoted

/-!
What keeps a text from being a label or a domain name, in the words of those who look names up. Positions in
labels are counted from one.
-/

namespace LakeStore.Domain

/-- A character that is out of place in a label. -/
structure Misplaced where
  character : Char
  position : Nat
  label : List Char
  deriving DecidableEq, Repr

/-- A flaw of a label or of a name. -/
inductive Flaw where
  | longLabel
  | longName
  | emptyLabel
  /-- Nothing follows the mark of an encoded label. -/
  | emptyCode
  /-- An encoded label ends in a hyphen. -/
  | openCode
  /-- An encoded label does not decode. -/
  | code
  /-- A label is not in the form to which others are equivalent. -/
  | composition
  | hyphensInside
  | hyphenAtEnd
  | leadingMark
  /-- A character has no place in labels. -/
  | character (found : Misplaced)
  /-- A joiner or its opposite does not stand where it may. -/
  | joiner (found : Misplaced)
  /-- Another character that depends on its neighbours does not stand where it may. -/
  | neighbours (found : Misplaced)
  /-- A label with letters from the right starts with a character that has no direction. -/
  | undirectedStart (label : List Char)
  /-- A label from the right has a letter from the left. -/
  | againstRight (position : Nat)
  /-- A label from the left has a letter from the right. -/
  | againstLeft (position : Nat)
  | mixedDigits
  | undirectedEnd
  deriving DecidableEq, Repr

namespace Misplaced

variable (m : Misplaced)

/-- The code point of the character. -/
def codePoint : String :=
  "U+" ++ String.ofList (((Nat.toDigits 16 m.character.toNat).leftpad 4 '0').map Char.toUpper)

/-- The label as messages show it. -/
def shown : String := Text.quoted (String.ofList m.label)

end Misplaced

namespace Flaw

/-- The name that a flaw goes by. -/
def name : Flaw → String
  | .character _ => "InvalidCodepoint"
  | .neighbours _ => "InvalidCodepointContext"
  | .undirectedStart _ | .againstRight _ | .againstLeft _ | .mixedDigits | .undirectedEnd => "IDNABidiError"
  | _ => "IDNAError"

/-- A flaw in words. -/
def message : Flaw → String
  | .longLabel => "Label too long"
  | .longName => "Domain too long"
  | .emptyLabel => "Empty Label"
  | .emptyCode => "Malformed A-label, no Punycode eligible content found"
  | .openCode => "A-label must not end with a hyphen"
  | .code => "Invalid A-label"
  | .composition => "Label must be in Normalization Form C"
  | .hyphensInside => "Label has disallowed hyphens in 3rd and 4th position"
  | .hyphenAtEnd => "Label must not start or end with a hyphen"
  | .leadingMark => "Label begins with an illegal combining character"
  | .character m =>
    "Codepoint " ++ m.codePoint ++ " at position " ++ toString m.position ++ " of " ++ m.shown ++
      " not allowed"
  | .joiner m =>
    "Unknown codepoint adjacent to joiner " ++ m.codePoint ++ " at position " ++ toString m.position ++ " in "
      ++ m.shown
  | .neighbours m =>
    "Codepoint " ++ m.codePoint ++ " not allowed at position " ++ toString m.position ++ " in " ++ m.shown
  | .undirectedStart label =>
    "First codepoint in label " ++ Text.quoted (String.ofList label) ++ " must be directionality L, R or AL"
  | .againstRight position =>
    "Invalid direction for codepoint at position " ++ toString position ++ " in a right-to-left label"
  | .againstLeft position =>
    "Invalid direction for codepoint at position " ++ toString position ++ " in a left-to-right label"
  | .mixedDigits => "Can not mix numeral types in a right-to-left label"
  | .undirectedEnd => "Label ends with illegal codepoint directionality"

end Flaw

end LakeStore.Domain
