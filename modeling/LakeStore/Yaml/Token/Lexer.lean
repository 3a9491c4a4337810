import LakeStore.Yaml.Token
import LakeStore.Yaml.Token.Scalar

/-!
From characters to tokens.

Indentation is turned into tokens that open and close blocks. A key is only known to be one when the mark
behind it is reached, so every place where one may start is remembered until then; the token of the key, and
that of the block which it may open, are put in there. A key without that mark has to lie on one line and to
be short.

A document may be at fault in several places. A token is settled once nothing can be put in before it, and
the fault that counts is the first one behind the settled tokens.
-/

namespace LakeStore.Yaml

/-- A place where a key may start: the number of its token, whether nothing but a key may start there, and
where it lies. -/
structure KeyPlace where
  number : Nat
  required : Bool
  index : Nat
  line : Nat
  column : Nat
  deriving DecidableEq, Repr

/-- A document that is being cut into tokens. -/
structure Lexer where
  cursor : Cursor
  tokens : List Token := []
  /-- How many flow collections are open. -/
  flow : Nat := 0
  /-- The column of the innermost block, and those of the blocks around it. -/
  indent : Int := -1
  outer : List Int := []
  /-- Places of keys by the number of open flow collections. -/
  places : List (Nat × KeyPlace) := []
  /-- Whether a key may start here. -/
  allowsKey : Bool := true
  done : Bool := false

namespace Lexer

variable (l : Lexer)

/-- Whether this is inside a flow collection. -/
def isFlow : Bool := l.flow != 0

/-- With further tokens at the end. -/
def emit (tokens : List Token) : Lexer := { l with tokens := l.tokens ++ tokens }

/-- With one token at the end that `n` characters stand for. -/
def emitOver (n : Nat) (t : Token) : Lexer := { l.emit [t] with cursor := l.cursor.advance n }

/-! ### Places of keys -/

/-- The longest key without a mark before it. -/
def longestKey : Nat := 1024

/-- Whether a key that started at a place can no longer end here. -/
def isStale (p : KeyPlace) : Bool := p.line != l.cursor.line || longestKey < l.cursor.index - p.index

/-- Forgets the places at which keys can no longer have started. -/
def refresh : Except Fault Lexer :=
  if l.places.any fun p => l.isStale p.2 && p.2.required then .error .token
  else .ok { l with places := l.places.filter fun p => !l.isStale p.2 }

/-- The place in the innermost collection. -/
def place? : Option KeyPlace := l.places.lookup l.flow

/-- Without the place in the innermost collection. -/
def withoutPlace : Lexer := { l with places := l.places.filter fun p => p.1 != l.flow }

/-- Gives up the place in the innermost collection. -/
def dropPlace : Except Fault Lexer :=
  if (l.place?.map KeyPlace.required).getD false then .error .token else .ok l.withoutPlace

/-- Remembers this place, if a key may start here. -/
def savePlace : Except Fault Lexer :=
  if l.allowsKey then do
    let required := !l.isFlow && l.indent == l.cursor.column
    let l ← l.dropPlace
    let p : KeyPlace := ⟨l.tokens.length, required, l.cursor.index, l.cursor.line, l.cursor.column⟩
    .ok { l with places := (l.flow, p) :: l.places }
  else .ok l

/-- How many tokens are settled. -/
def settled : Nat := (l.places.map fun p => p.2.number).min?.getD l.tokens.length

/-! ### Indentation -/

/-- The blocks that remain open at a column: how many are closed, the innermost one, and those around. -/
def closing (column indent : Int) : List Int → Nat × Int × List Int
  | [] => (0, indent, [])
  | outer :: rest =>
    if column < indent then
      let (n, indent, rest) := closing column outer rest
      (n + 1, indent, rest)
    else (0, indent, outer :: rest)

/-- Closes the blocks that lie further to the right. -/
def unwind (column : Int) : Lexer :=
  if l.isFlow then l
  else
    let (n, indent, outer) := closing column l.indent l.outer
    { l.emit (List.replicate n .blockEnd) with indent, outer }

/-- Opens a block at a column if it lies further to the right, with a token at some place among the others. -/
def openBlock (column : Int) (place : Nat) (t : Token) : Lexer :=
  if l.isFlow ∨ column ≤ l.indent then l
  else { l with tokens := l.tokens.insertIdx place t, indent := column, outer := l.indent :: l.outer }

/-- Opens a block here. -/
def openBlockHere (t : Token) : Lexer := l.openBlock l.cursor.column l.tokens.length t

/-! ### Single tokens -/

/-- The end of everything. -/
def finish : Except Fault Lexer := do
  let l ← (l.unwind (-1)).dropPlace
  return { l.emit [.streamEnd] with allowsKey := false, places := [], done := true }

/-- Whether a character may occur in a name. -/
def isNameChar (c : Char) : Bool := c.isAlphanum || c = '-' || c = '_'

/-- A version after its directive. -/
def version (c : Cursor) : Except Fault (Token × Cursor) :=
  let c := c.skip (· = ' ')
  let major := c.run Char.isDigit
  let behind := c.skip Char.isDigit
  let minor := behind.step.run Char.isDigit
  let c := behind.step.skip Char.isDigit
  if major = [] ∨ minor = [] ∨ behind.peek ≠ '.' ∨ !(isStop c.peek ∨ c.peek = ' ') then .error .token
  else .ok (.version (major.foldl (fun n d => n * 10 + (d.toNat - 48)) 0), c)

/-- Whether a character may occur in a tag. -/
def isTagChar (c : Char) : Bool := c.isAlphanum || "-;/?:@&=+$,_.!~*'()[]%".toList.contains c

/-- The short form of tags that stands here. -/
def handle (c : Cursor) : Except Fault (String × Cursor) :=
  let name := c.step.run isNameChar
  let behind := c.step.skip isNameChar
  if c.peek ≠ '!' then .error .token
  else if behind.peek = '!' then .ok (String.ofList ('!' :: name ++ ['!']), behind.step)
  else if c.peek 1 = ' ' then .ok ("!", c.step)
  else .error .token

/-- What stands for a tag here. -/
def tagText (c : Cursor) : Except Fault (String × Cursor) :=
  match c.run isTagChar with
  | [] => .error .token
  | cs => .ok (String.ofList cs, c.skip isTagChar)

/-- A short form of tags after its directive. -/
def shortcut (c : Cursor) : Except Fault (Token × Cursor) := do
  let (handle, c) ← handle (c.skip (· = ' '))
  if c.peek ≠ ' ' then throw .token
  let (lead, c) ← tagText (c.skip (· = ' '))
  if !(isStop c.peek ∨ c.peek = ' ') then throw .token
  return (.shortcut handle lead, c)

/-- A directive. -/
def directive : Except Fault Lexer := do
  let l ← (l.unwind (-1)).dropPlace
  let name := l.cursor.step.run isNameChar
  let c := l.cursor.step.skip isNameChar
  if name = [] ∨ !(isStop c.peek ∨ c.peek = ' ') then throw .token
  let (t, c) ←
    if name = "YAML".toList then version c
    else if name = "TAG".toList then shortcut c
    else pure (.directive, c.skip fun ch => !isStop ch)
  return { l.emit [t] with cursor := ← c.endLine, allowsKey := false }

/-- The start or the end of a document. -/
def boundary (t : Token) : Except Fault Lexer := do
  let l ← (l.unwind (-1)).dropPlace
  return { l.emitOver 3 t with allowsKey := false }

/-- The start of a flow collection, which may be a key. -/
def flowStart (t : Token) : Except Fault Lexer := do
  let l ← l.savePlace
  return { l.emitOver 1 t with flow := l.flow + 1, allowsKey := true }

/-- The end of a flow collection. -/
def flowEnd (t : Token) : Except Fault Lexer := do
  let l ← l.dropPlace
  return { l.emitOver 1 t with flow := l.flow - 1, allowsKey := false }

/-- The comma between two entries. -/
def flowEntry : Except Fault Lexer := do
  let l ← { l with allowsKey := true }.dropPlace
  return l.emitOver 1 .flowEntry

/-- The dash before an entry. -/
def blockEntry : Except Fault Lexer := do
  if !l.isFlow ∧ !l.allowsKey then throw .token
  let l ← { l.openBlockHere .blockSequence with allowsKey := true }.dropPlace
  return l.emitOver 1 .blockEntry

/-- The mark before a key. -/
def keyMark : Except Fault Lexer := do
  if !l.isFlow ∧ !l.allowsKey then throw .token
  let l ← { l.openBlockHere .blockMapping with allowsKey := !l.isFlow }.dropPlace
  return l.emitOver 1 .key

/-- The mark before a value. The key before it is known to be one from here on. -/
def valueMark : Except Fault Lexer := do
  match l.place? with
  | some p =>
    let l := { l.withoutPlace with tokens := l.tokens.insertIdx p.number .key, allowsKey := false }
    return (l.openBlock p.column p.number .blockMapping).emitOver 1 .value
  | none =>
    if !l.isFlow ∧ !l.allowsKey then throw .token
    let l ← { l.openBlockHere .blockMapping with allowsKey := !l.isFlow }.dropPlace
    return l.emitOver 1 .value

/-- A name after its mark. -/
def name (make : String → Token) : Except Fault Lexer := do
  let l ← l.savePlace
  let name := l.cursor.step.run isNameChar
  let c := l.cursor.step.skip isNameChar
  if name = [] ∨ !(isGap c.peek ∨ "?:,]\x7d%@\x60".toList.contains c.peek) then throw .token
  return { l.emit [make (String.ofList name)] with cursor := c, allowsKey := false }

/-- The handle and the suffix of a tag, and what follows it. -/
def tagParts (c : Cursor) : Except Fault (Option String × String × Cursor) :=
  if c.peek 1 = '<' then do
    let (suffix, c) ← tagText (c.advance 2)
    if c.peek ≠ '>' then throw .token
    return (none, suffix, c.step)
  else if isGap (c.peek 1) then .ok (none, "!", c.step)
  else do
    let (handle, c) ←
      if (c.step.run fun ch => !(isStop ch || ch = ' ')).contains '!' then handle c else pure ("!", c.step)
    let (suffix, c) ← tagText c
    return (some handle, suffix, c)

/-- A tag. -/
def tag : Except Fault Lexer := do
  let l ← l.savePlace
  let (handle, suffix, c) ← tagParts l.cursor
  if !(isStop c.peek ∨ c.peek = ' ') then throw .token
  return { l.emit [.tag handle suffix] with cursor := c, allowsKey := false }

/-- A block of lines. -/
def block : Except Fault Lexer := do
  let l ← { l with allowsKey := true }.dropPlace
  let (text, c) ← Token.block l.indent l.cursor
  return { l.emit [.scalar text false] with cursor := c }

/-- A quoted scalar. -/
def quoted : Except Fault Lexer := do
  let l ← l.savePlace
  let (text, c) ← Token.quoted l.cursor
  return { l.emit [.scalar text false] with cursor := c, allowsKey := false }

/-- A plain scalar. -/
def plain : Except Fault Lexer := do
  let l ← l.savePlace
  let (text, ended, c) := Token.plain l.isFlow (l.indent + 1) l.cursor
  return { l.emit [.scalar text true] with cursor := c, allowsKey := ended }

/-- Characters with which no plain scalar starts. -/
def indicators : List Char := "-?:,[]\x7b\x7d#&*!|>'\"%@\x60".toList

/-- Whether a plain scalar starts here. -/
def startsPlain : Bool :=
  let c := l.cursor.peek
  (!isGap c && !indicators.contains c)
    || (!isGap (l.cursor.peek 1) && (c = '-' || (!l.isFlow && (c = '?' || c = ':'))))

/-! ### All tokens -/

/-- Passes over blanks, comments and ends of lines. Behind one, a key may start in a block. -/
def skipBlanks : (fuel : Nat) → Lexer → Lexer
  | 0, l => l
  | fuel + 1, l =>
    let c := l.cursor.skipComment
    if isBreak c.peek then skipBlanks fuel
      { l with cursor := c.lineBreak.2, allowsKey := l.allowsKey || !l.isFlow }
    else { l with cursor := c }

/-- The token here, with those that come with it. -/
def token : Except Fault Lexer :=
  let c := l.cursor
  let behind := c.peek 1
  if c.rest = [] then l.finish
  else if c.column = 0 ∧ c.peek = '%' then l.directive
  else if c.column = 0 ∧ c.isMark '-' then l.boundary .documentStart
  else if c.column = 0 ∧ c.isMark '.' then l.boundary .documentEnd
  else
    match c.peek with
    | '[' => l.flowStart .flowSequence
    | '\x7b' => l.flowStart .flowMapping
    | ']' => l.flowEnd .flowSequenceEnd
    | '\x7d' => l.flowEnd .flowMappingEnd
    | ',' => l.flowEntry
    | '*' => l.name .alias
    | '&' => l.name .anchor
    | '!' => l.tag
    | '\'' | '"' => l.quoted
    | ch =>
      if ch = '-' ∧ isGap behind then l.blockEntry
      else if ch = '?' ∧ (l.isFlow ∨ isGap behind) then l.keyMark
      else if ch = ':' ∧ (l.isFlow ∨ isGap behind) then l.valueMark
      else if (ch = '|' ∨ ch = '>') ∧ !l.isFlow then l.block
      else if l.startsPlain then l.plain
      else .error .token

/-- Goes on to the next token. -/
def next : Except Fault Lexer := do
  let c := if l.cursor.index = 0 ∧ l.cursor.peek = '\uFEFF' then l.cursor.step else l.cursor
  let l ← (skipBlanks (c.rest.length + 1) { l with cursor := c }).refresh
  let l ← (l.unwind l.cursor.column).token
  if l.done then return l else l.refresh

/-- The tokens up to the end or to a fault. -/
def tokensFrom : (fuel : Nat) → Lexer → List Token
  | 0, l => l.tokens
  | fuel + 1, l =>
    if l.done then l.tokens
    else
      match l.next with
      | .ok l => tokensFrom fuel l
      | .error f => l.tokens.take l.settled ++ [.fault f]

end Lexer

/-- The tokens of a document. -/
def Token.ofText (s : String) : List Token :=
  if s.toList.all isPrintable then Lexer.tokensFrom (s.length + 2) { cursor := { rest := s.toList } }
  else [.fault .character]

end LakeStore.Yaml
