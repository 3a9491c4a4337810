import LakeStore.Domain.Alphabet
import LakeStore.Domain.Flaw
import LakeStore.Domain.Property
import LakeStore.Domain.Punycode
import LakeStore.Text.Composition

/-!
Labels: the parts of a domain name, in letters of any script.

A label is written in characters of the alphabet, and in a few others where their neighbours call for them.
It does not mix directions, begins with no mark, and has no hyphens where they would be mistaken. Its form in
ASCII is the label itself if it is ASCII, and otherwise its Punycode behind a mark.
-/

namespace LakeStore.Domain

/-! ### Characters that depend on their neighbours -/

/-- Whether a character joins the one after it. -/
def joinsNext (c : Char) : Bool := Joining.of c == .next || Joining.of c == .both

/-- Whether a character joins the one before it. -/
def joinsPrevious (c : Char) : Bool := Joining.of c == .previous || Joining.of c == .both

/-- The class of the marks that join consonants. -/
def viramaClass : Nat := 9

/-- Whether the nearest character ends a half consonant. -/
def endsInVirama (before : List Char) : Bool := before.head?.any fun c => Text.markClass c == viramaClass

/-- Whether a joiner or its opposite may stand between what is before it, the nearest character first, and
what is after it: behind a virama, and the opposite also between letters that would join. -/
def maySeparate (before after : List Char) : Bool :=
  let isPassedOver (c : Char) : Bool := Joining.of c == .transparent
  endsInVirama before
    || ((before.dropWhile isPassedOver).head?.any joinsNext &&
      (after.dropWhile isPassedOver).head?.any joinsPrevious)

/-- Whether a character is an Arabic digit. -/
def isArabicDigit (c : Char) : Bool := 0x660 ≤ c.toNat && c.toNat ≤ 0x669

/-- Whether a character is a digit of the eastern Arabic forms. -/
def isEasternDigit (c : Char) : Bool := 0x6F0 ≤ c.toNat && c.toNat ≤ 0x6F9

/-- Whether a character that is not in the alphabet may stand where it does. The middle dot stands between
two letters l, the Greek numeral sign before a Greek letter, the Hebrew punctuation behind a Hebrew one, the
middle dot of Japanese in a label with Japanese letters, and digits of one Arabic form with none of the
other. -/
def mayStand (before : List Char) (c : Char) (after : List Char) : Bool :=
  if c.toNat = 0x200C then maySeparate before after
  else if c.toNat = 0x200D then endsInVirama before
  else if c.toNat = 0xB7 then before.head? == some 'l' && after.head? == some 'l'
  else if c.toNat = 0x375 then after.head?.any (Text.isWithin greekRanges)
  else if c.toNat = 0x5F3 || c.toNat = 0x5F4 then before.head?.any (Text.isWithin hebrewRanges)
  else if c.toNat = 0x30FB then (before ++ after).any fun d => d != c && Text.isWithin japaneseRanges d
  else if isArabicDigit c then !(before ++ after).any isEasternDigit
  else if isEasternDigit c then !(before ++ after).any isArabicDigit
  else false

/-- Whether a character is a joiner or its opposite. -/
def isJoiner (c : Char) : Bool := c.toNat = 0x200C || c.toNat = 0x200D

/-- Whether a character is another one that depends on its neighbours. -/
def isDependent (c : Char) : Bool :=
  [0xB7, 0x375, 0x5F3, 0x5F4, 0x30FB].contains c.toNat || isArabicDigit c || isEasternDigit c

/-- What is wrong with a character between others, the nearest of those before it first. -/
def characterFlaw? (before : List Char) (c : Char) (after : List Char) : Option Flaw :=
  let found : Misplaced := ⟨c, before.length + 1, before.reverse ++ c :: after⟩
  if isInAlphabet c || mayStand before c after then none
  else if isJoiner c then some (.joiner found)
  else if isDependent c then some (.neighbours found)
  else some (.character found)

/-- What is wrong with the first misplaced character behind some others, the nearest of which comes first. -/
def charactersFlaw? (before : List Char) : List Char → Option Flaw
  | [] => none
  | c :: rest => characterFlaw? before c rest <|> charactersFlaw? (c :: before) rest

/-! ### Directions -/

/-- Whether a direction is from the right. -/
def Direction.isFromRight (d : Direction) : Bool := d == .rightToLeft || d == .arabicDigit

/-- Whether a direction is that of a digit. -/
def Direction.isOfDigit (d : Direction) : Bool := d == .digit || d == .arabicDigit

/-- What is wrong with directions that should go to the left, from a position on: one goes to the right, or
digits of a second kind come after those of a first. -/
def againstRight? (position : Nat) (kind : Option Direction) : List Direction → Option Flaw
  | [] => none
  | d :: rest =>
    if d = .leftToRight then some (.againstRight position)
    else if d.isOfDigit then
      if kind.any (· != d) then some .mixedDigits else againstRight? (position + 1) (some d) rest
    else againstRight? (position + 1) kind rest

/-- What is wrong with the directions of a label. If anything in it is written from the right, everything
that has a direction of its own is, from the first character to the last, with digits of one kind. -/
def directionFlaw? (label : List Char) : Option Flaw :=
  let directions := label.map Direction.of
  let mayEnd (d : Direction) : Bool := d.isFromRight || d == .digit
  match directions.findIdx? Direction.isFromRight, directions.head? with
  | none, _ => none
  | some _, some .rightToLeft =>
    againstRight? 1 none directions
      <|> if (directions.reverse.dropWhile (· == .mark)).head?.any mayEnd then none else some .undirectedEnd
  | some i, some .leftToRight => some (.againstLeft (i + 1))
  | some _, _ => some (.undirectedStart label)

/-! ### Labels -/

/-- The longest name, and the longest label before it is written in ASCII. -/
def greatestName : Nat := 254

/-- The longest label in ASCII. -/
def greatestLabel : Nat := 63

/-- What keeps a text from being a label. -/
def labelFlaw? (cs : List Char) : Option Flaw :=
  if cs = [] then some .emptyLabel
  else if greatestName < cs.length then some .longLabel
  else if !Text.isComposed cs then some .composition
  else if (cs.drop 2).take 2 = ['-', '-'] then some .hyphensInside
  else if cs.head? = some '-' ∨ cs.getLast? = some '-' then some .hyphenAtEnd
  else if cs.head?.any fun c => isInAlphabet c && isMark c then some .leadingMark
  else charactersFlaw? [] cs <|> directionFlaw? cs

/-- What an encoded label begins with. -/
def encodedMark : List Char := ['x', 'n', '-', '-']

/-- What keeps a text in ASCII from being a label, encoded or not. -/
def asciiLabelFlaw? (cs : List Char) : Option Flaw :=
  match List.isPrefixOf? encodedMark cs with
  | none => labelFlaw? cs
  | some [] => some .emptyCode
  | some written =>
    if written.getLast? = some '-' then some .openCode
    else (Punycode.decode written).elim (some .code) labelFlaw?

/-- The form of a label in ASCII, if it is a label. -/
def asciiLabel (cs : List Char) : Except Flaw (List Char) :=
  let (flaw, label) :=
    if cs.all fun c => c.toNat < Punycode.firstBeyond then (asciiLabelFlaw? cs, cs)
    else (labelFlaw? cs, encodedMark ++ Punycode.encode cs)
  match flaw with
  | some flaw => .error flaw
  | none => if greatestLabel < label.length then .error .longLabel else .ok label

end LakeStore.Domain
