/-!
Punycode: texts of any characters written with ASCII letters, digits and hyphens.

The ASCII characters of a text come first. The others follow as a list of distances, in the order of the
characters: how far it is from one insertion, of a character at a position, to the next one. A distance is
written in base 36 with digits that say by their size whether they are the last one; which sizes do depends
on the distances before.
-/

namespace LakeStore.Domain.Punycode

/-- The first character that is not in ASCII. -/
def firstBeyond : Nat := 0x80

/-- The bias that the first distance is written with. -/
def firstBias : Nat := 72

/-- The size from which on the digit at a place is not the last one. -/
def threshold (place bias : Nat) : Nat := max 1 (min 26 (36 * (place + 1) - bias))

/-- Divides a distance until it is small, and counts the divisions. -/
def settle (distance divisions : Nat) : Nat × Nat :=
  if 455 < distance then settle (distance / 35) (divisions + 1) else (distance, divisions)
termination_by distance
decreasing_by omega

/-- The bias after a distance, with so many characters in the text; `first` tells whether it was the first
distance. -/
def adapt (distance characters : Nat) (first : Bool) : Nat :=
  let halved := distance / (if first then 700 else 2)
  let (small, divisions) := settle (halved + halved / characters) 0
  36 * divisions + 36 * small / (small + 38)

/-! ### Writing -/

/-- The digit of a value below 36. -/
def digit (value : Nat) : Char := Char.ofNat (if value < 26 then 0x61 + value else 0x30 + (value - 26))

/-- A distance in digits, from a place on. -/
def writeDistance (bias place distance : Nat) : List Char :=
  let least := threshold place bias
  if distance < least then [digit distance]
  else
    digit (least + (distance - least) % (36 - least))
      :: writeDistance bias (place + 1) ((distance - least) / (36 - least))
termination_by distance
decreasing_by
  have : 1 ≤ threshold place bias := Nat.le_max_left ..
  exact Nat.lt_of_le_of_lt (Nat.div_le_self _ _) (by omega)

/-- What is written so far, and where the next distance starts. -/
structure Writer where
  /-- The character that insertions are at. -/
  character : Nat := firstBeyond
  /-- The distance since the last insertion. -/
  distance : Nat := 0
  bias : Nat := firstBias
  /-- How many characters of the text are written. -/
  written : Nat
  first : Bool := true
  digits : List Char := []

namespace Writer

/-- Passes one character of the text, which is an insertion if the insertions are at it. -/
def pass (w : Writer) (c : Char) : Writer :=
  if c.toNat < w.character then { w with distance := w.distance + 1 }
  else if c.toNat = w.character then
    { w with
      digits := w.digits ++ writeDistance w.bias 0 w.distance
      bias := adapt w.distance (w.written + 1) w.first
      distance := 0, written := w.written + 1, first := false }
  else w

/-- Inserts a character wherever the text has it. -/
def insertAll (text : List Char) (w : Writer) (character : Nat) : Writer :=
  let start := { w with
    character, distance := w.distance + (character - w.character) * (w.written + 1) }
  let passed := text.foldl pass start
  { passed with character := character + 1, distance := passed.distance + 1 }

end Writer

/-- A text in Punycode. -/
def encode (text : List Char) : List Char :=
  let basic := text.filter fun c => c.toNat < firstBeyond
  let others := ((text.map Char.toNat).filter fun n => firstBeyond ≤ n).mergeSort.eraseDups
  let start : Writer := { written := basic.length }
  basic ++ (if basic = [] then [] else ['-']) ++ (others.foldl (Writer.insertAll text) start).digits

/-! ### Reading -/

/-- The value of a digit, whatever its case. -/
def digitValue? (c : Char) : Option Nat :=
  let c := c.toLower
  if 'a' ≤ c ∧ c ≤ 'z' then some (c.toNat - 0x61)
  else if '0' ≤ c ∧ c ≤ '9' then some (c.toNat - 0x30 + 26)
  else none

/-- Reads a distance from a place on, on top of what its digits before amount to. -/
def readDistance (bias place weight sum : Nat) : List Char → Option (Nat × List Char)
  | [] => none
  | c :: rest => do
    let value ← digitValue? c
    let sum := sum + value * weight
    let least := threshold place bias
    if value < least then return (sum, rest)
    else readDistance bias (place + 1) (weight * (36 - least)) sum rest

/-- Inserts what the digits say into a text; `position` is where the next insertion starts to count, in the
turn of a character. `fuel` bounds the distances. -/
def insertFrom (fuel character position bias : Nat) (first : Bool) (text digits : List Char) :
    Option (List Char) :=
  match fuel, digits with
  | _, [] => some text
  | 0, _ => none
  | fuel + 1, digits => do
    let (distance, rest) ← readDistance bias 0 1 0 digits
    let places := text.length + 1
    let character := character + (position + distance) / places
    let position := (position + distance) % places
    if character.isValidChar then
      insertFrom fuel character (position + 1) (adapt distance places first) false
        (text.take position ++ Char.ofNat character :: text.drop position) rest
    else none

/-- The text that is written in Punycode. -/
def decode (written : List Char) : Option (List Char) :=
  let digits := (written.reverse.takeWhile (· != '-')).reverse
  let basic := written.take (written.length - digits.length - 1)
  insertFrom digits.length firstBeyond 0 firstBias true basic digits

end LakeStore.Domain.Punycode
