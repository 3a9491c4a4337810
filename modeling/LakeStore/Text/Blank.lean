import LakeStore.Text.Trim

/-!
Blank characters: those with the Unicode property of white space, and the four separators of the
information separator family that act as white space in bidirectional text.

The zero-width space and the byte order mark are no blanks.
-/

namespace LakeStore.Text

/-- The ranges of characters with the property of white space, in order. -/
def whiteRanges : List (Nat × Nat) :=
  [(0x9, 0xD), (0x20, 0x20), (0x85, 0x85), (0xA0, 0xA0), (0x1680, 0x1680), (0x2000, 0x200A),
   (0x2028, 0x2029), (0x202F, 0x202F), (0x205F, 0x205F), (0x3000, 0x3000)]

/-- Whether `c` has the property of white space. -/
def isWhite (c : Char) : Bool := whiteRanges.any fun r => r.1 ≤ c.toNat && c.toNat ≤ r.2

/-- Whether `c` is an information separator. -/
def isSeparator (c : Char) : Bool := 0x1C ≤ c.toNat && c.toNat ≤ 0x1F

/-- Whether `c` is a blank. -/
def isBlank (c : Char) : Bool := isWhite c || isSeparator c

/-- `s` without outer white space. -/
def trimWhite (s : String) : String := trim isWhite s

/-- `s` without outer blanks. -/
def strip (s : String) : String := trim isBlank s

end LakeStore.Text
