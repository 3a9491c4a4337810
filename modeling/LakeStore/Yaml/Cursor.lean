/-!
The characters of a YAML document, and a place among them with its line and column.

The end of a document counts as a blank, like white space does, so that a mark at the end needs no rule of
its own.
-/

namespace LakeStore.Yaml

/-- What is wrong with a document. -/
inductive Fault where
  /-- A character does not occur in documents. -/
  | character
  /-- The characters make up no tokens. -/
  | token
  /-- The tokens make up no document. -/
  | grammar
  /-- A name of a node is unknown or repeated, or there is a second document. -/
  | reference
  /-- A node is not of the type that its tag or its place demands. -/
  | type
  /-- A scalar looks like a number or a time, and is none. -/
  | scalar
  /-- A scalar is none of the words for truth values. -/
  | word
  /-- A number is empty. -/
  | empty
  /-- A time does not look like one. -/
  | form
  /-- A time is a mapping. -/
  | collection
  /-- A number in base sixty has too many parts. -/
  | size
  /-- The nodes are nested too deep. -/
  | depth
  /-- The document holds something that has no entries. -/
  | noEntries
  /-- The document holds a sequence of something other than pairs. -/
  | noPairs
  deriving DecidableEq, Repr

/-- Whether a character may occur in a document. -/
def isPrintable (c : Char) : Bool :=
  let n := c.toNat
  n = 0x9 || n = 0xA || n = 0xD || n = 0x85 || (0x20 ≤ n && n ≤ 0x7E) || (0xA0 ≤ n && n ≤ 0xD7FF)
    || (0xE000 ≤ n && n ≤ 0xFFFD) || 0x10000 ≤ n

/-- Whether a character ends a line. -/
def isBreak (c : Char) : Bool := c = '\n' || c = '\r' || c = '\x85' || c = '\u2028' || c = '\u2029'

/-- Stands for what follows the last character. -/
def ending : Char := '\x00'

/-- Whether a character ends a line or the document. -/
def isStop (c : Char) : Bool := isBreak c || c = ending

/-- Whether a character is a space or a tab, or ends a line or the document. -/
def isGap (c : Char) : Bool := isStop c || c = ' ' || c = '\t'

/-- A place in a document: the characters from there on, and how many of them, how many lines and how many
characters of its line lie before it. -/
structure Cursor where
  rest : List Char
  index : Nat := 0
  line : Nat := 0
  column : Nat := 0
  deriving DecidableEq, Repr

namespace Cursor

/-- The character `n` places ahead. -/
def peek (c : Cursor) (n : Nat := 0) : Char := c.rest[n]?.getD ending

/-- The next characters. -/
def ahead (c : Cursor) (n : Nat) : List Char := c.rest.take n

/-- Whether a character ends its line; before a line feed, a carriage return does not. -/
def endsLine (ch : Char) (rest : List Char) : Bool :=
  if ch = '\r' then rest.head? != some '\n' else isBreak ch

/-- One place ahead. -/
def step (c : Cursor) : Cursor :=
  match c.rest with
  | [] => c
  | ch :: rest =>
    if endsLine ch rest then ⟨rest, c.index + 1, c.line + 1, 0⟩
    else ⟨rest, c.index + 1, c.line, if ch = '\uFEFF' then c.column else c.column + 1⟩

/-- Some places ahead. -/
def advance (c : Cursor) : Nat → Cursor
  | 0 => c
  | n + 1 => c.step.advance n

/-- The run of characters that satisfy `p`. -/
def run (c : Cursor) (p : Char → Bool) : List Char := c.rest.takeWhile p

/-- Behind the run of characters that satisfy `p`. -/
def skip (c : Cursor) (p : Char → Bool) : Cursor := c.advance (c.run p).length

/-- Passes over the end of a line, if it is here. It stands for a line feed, unless it is one of the two
separators of lines and paragraphs. -/
def lineBreak (c : Cursor) : List Char × Cursor :=
  match c.rest with
  | '\r' :: '\n' :: _ => (['\n'], c.advance 2)
  | ch :: _ =>
    if ch = '\u2028' ∨ ch = '\u2029' then ([ch], c.step)
    else if isBreak ch then (['\n'], c.step)
    else ([], c)
  | [] => ([], c)

/-- Whether three marks of a kind stand here with a gap behind them. -/
def isMark (c : Cursor) (mark : Char) : Bool := c.ahead 3 == [mark, mark, mark] && isGap (c.peek 3)

/-- Whether a document starts or ends here. -/
def isBoundary (c : Cursor) : Bool := c.isMark '-' || c.isMark '.'

/-- Behind blanks and a comment. -/
def skipComment (c : Cursor) : Cursor :=
  let c := c.skip (· = ' ')
  if c.peek = '#' then c.skip fun ch => !isStop ch else c

/-- Behind the rest of a line that holds nothing but a comment. -/
def endLine (c : Cursor) : Except Fault Cursor :=
  let c := c.skipComment
  if isStop c.peek then .ok c.lineBreak.2 else .error .token

end Cursor

end LakeStore.Yaml
