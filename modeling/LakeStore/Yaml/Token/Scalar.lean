import LakeStore.Text.Bytes
import LakeStore.Yaml.Cursor

/-!
Scalars as they are written: plain, in quotes, and as blocks of lines.

Inside a scalar a single end of line stands for a space, and further ones for themselves; only blocks that
are not folded keep all of them.
-/

namespace LakeStore.Yaml.Token

/-! ### Plain scalars -/

/-- Whether a plain scalar ends before a character that is followed by `next`. -/
def endsPlain (flow : Bool) (c next : Char) : Bool :=
  isGap c || (c = ':' && (isGap next || (flow && ",[]\x7b\x7d".toList.contains next)))
    || (flow && ",?[]\x7b\x7d".toList.contains c)

/-- The length of the run of a plain scalar. -/
def plainLength (flow : Bool) : List Char → Nat
  | [] => 0
  | c :: rest => if endsPlain flow c (rest.headD ending) then 0 else plainLength flow rest + 1

/-- What the ends of lines between two runs stand for: the first is a space if no other follows. -/
def folded (first : List Char) (more : List Char) : List Char :=
  (if first != ['\n'] then first else if more = [] then [' '] else []) ++ more

/-- The ends of blank lines in a plain scalar, and where they end. Nothing follows where a document does. -/
def plainBreaks : (fuel : Nat) → Cursor → Option (List Char) × Cursor
  | 0, c => (some [], c)
  | fuel + 1, c =>
    if c.isBoundary && c.column = 0 then (none, c)
    else
      let c := c.skip (· = ' ')
      if isBreak c.peek then
        let (first, c) := c.lineBreak
        let (more, c) := plainBreaks fuel c
        (more.map (first ++ ·), c)
      else (some [], c)

/-- What lies between two runs of a plain scalar, and whether a line ended there. -/
def plainSpaces (c : Cursor) : Option (List Char) × Bool × Cursor :=
  let blanks := c.run (· = ' ')
  let c := c.skip (· = ' ')
  if isBreak c.peek then
    let (first, c) := c.lineBreak
    let (more, c) := plainBreaks (c.rest.length + 1) c
    (more.map (folded first), true, c)
  else (some blanks, false, c)

/-- The rest of a plain scalar. -/
def plainFrom (flow : Bool) (indent : Int) :
    (fuel : Nat) → (text spaces : List Char) → (ended : Bool) → Cursor → List Char × Bool × Cursor
  | 0, text, _, ended, c => (text, ended, c)
  | fuel + 1, text, spaces, ended, c =>
    let n := if c.peek = '#' then 0 else plainLength flow c.rest
    if n = 0 then (text, ended, c)
    else
      let text := text ++ spaces ++ c.ahead n
      let (spaces, ended, c) := plainSpaces (c.advance n)
      match spaces with
      | none | some [] => (text, ended, c)
      | some spaces =>
        if c.peek = '#' ∨ (!flow ∧ c.column < indent) then (text, ended, c)
        else plainFrom flow indent fuel text spaces ended c

/-- A plain scalar, whether it was left at the start of a line, and what follows it. -/
def plain (flow : Bool) (indent : Int) (c : Cursor) : String × Bool × Cursor :=
  let (text, ended, c) := plainFrom flow indent (c.rest.length + 1) [] [] false c
  (String.ofList text, ended, c)

/-! ### Quoted scalars -/

/-- What a letter stands for after a backslash. -/
def escapes : List (Char × Char) :=
  [('0', '\x00'), ('a', '\x07'), ('b', '\x08'), ('t', '\t'), ('\t', '\t'), ('n', '\n'), ('v', '\x0b'),
   ('f', '\x0c'), ('r', '\r'), ('e', '\x1b'), (' ', ' '), ('"', '"'), ('\\', '\\'), ('/', '/'), ('N', '\x85'),
   ('_', '\xa0'), ('L', '\u2028'), ('P', '\u2029')]

/-- How many digits follow a letter after a backslash. -/
def escapeWidths : List (Char × Nat) := [('x', 2), ('u', 4), ('U', 8)]

/-- The ends of blank lines in a quoted scalar, and where they end. -/
def quotedBreaks : (fuel : Nat) → Cursor → Except Fault (List Char × Cursor)
  | 0, c => .ok ([], c)
  | fuel + 1, c =>
    if c.isBoundary then .error .token
    else
      let c := c.skip fun ch => ch = ' ' || ch = '\t'
      if isBreak c.peek then do
        let (first, c) := c.lineBreak
        let (more, c) ← quotedBreaks fuel c
        .ok (first ++ more, c)
      else .ok ([], c)

/-- What blanks and ends of lines in a quoted scalar stand for. -/
def quotedSpaces (c : Cursor) : Except Fault (List Char × Cursor) :=
  let isBlank := fun ch => ch = ' ' || ch = '\t'
  let blanks := c.run isBlank
  let c := c.skip isBlank
  if isBreak c.peek then do
    let (first, c) := c.lineBreak
    let (more, c) ← quotedBreaks (c.rest.length + 1) c
    .ok (folded first more, c)
  else .ok (blanks, c)

/-- The character of a code point. -/
def character (n : Nat) : Except Fault Char :=
  if n < 0x110000 then .ok (if n.isValidChar then Char.ofNat n else '\uFFFD') else .error .scalar

/-- What stands after a backslash. -/
def escaped (c : Cursor) : Except Fault (List Char × Cursor) :=
  match escapes.lookup c.peek, escapeWidths.lookup c.peek with
  | some ch, _ => .ok ([ch], c.step)
  | none, some width =>
    let digits := c.step.ahead width
    match digits.mapM Hex.value? with
    | some values =>
      if values.length = width then
        (character (values.foldl (fun n d => n * 16 + d) 0)).map fun ch => ([ch], c.advance (width + 1))
      else .error .token
    | none => .error .token
  | none, none => if isBreak c.peek then quotedBreaks (c.rest.length + 1) c.lineBreak.2 else .error .token

/-- The rest of a scalar in quotes of a kind. -/
def quotedFrom (quote : Char) : (fuel : Nat) → (text : List Char) → Cursor → Except Fault (List Char × Cursor)
  | 0, _, _ => .error .token
  | fuel + 1, text, c =>
    let ch := c.peek
    if c.rest = [] then .error .token
    else if ch = quote then
      if quote = '\'' ∧ c.peek 1 = '\'' then quotedFrom quote fuel (text ++ ['\'']) (c.advance 2)
      else .ok (text, c.step)
    else if ch = '\\' ∧ quote = '"' then do
      let (more, c) ← escaped c.step
      quotedFrom quote fuel (text ++ more) c
    else if isGap ch then do
      let (more, c) ← quotedSpaces c
      quotedFrom quote fuel (text ++ more) c
    else quotedFrom quote fuel (text ++ [ch]) c.step

/-- A quoted scalar, and what follows it. -/
def quoted (c : Cursor) : Except Fault (String × Cursor) := do
  let (text, c) ← quotedFrom c.peek (c.rest.length + 1) [] c.step
  .ok (String.ofList text, c)

/-! ### Blocks of lines -/

/-- What becomes of the ends of lines at the end of a block. -/
inductive Chomping where
  /-- The last one is kept, and those of blank lines are not. -/
  | clip
  | strip
  | keep
  deriving DecidableEq, Repr

/-- The mark of a chomping. -/
def chomping? (c : Char) : Option Chomping :=
  if c = '+' then some .keep else if c = '-' then some .strip else none

/-- The width that an indentation adds, if a digit gives it; it is not zero. -/
def increment? (c : Char) : Except Fault (Option Nat) :=
  if c = '0' then .error .token else .ok (if c.isDigit then some (c.toNat - 48) else none)

/-- The marks at the head of a block, in either order. -/
def blockHead (c : Cursor) : Except Fault (Chomping × Option Nat × Cursor) := do
  let after (n : Nat) (chomping : Chomping) (width : Option Nat) := do
    if isStop (c.peek n) ∨ c.peek n = ' ' then .ok (chomping, width, c.advance n) else .error .token
  match chomping? c.peek with
  | some chomping =>
    match ← increment? (c.peek 1) with
    | some width => after 2 chomping (some width)
    | none => after 1 chomping none
  | none =>
    match ← increment? c.peek with
    | some width =>
      match chomping? (c.peek 1) with
      | some chomping => after 2 chomping (some width)
      | none => after 1 .clip (some width)
    | none => after 0 .clip none

/-- The blank lines before the first line of a block, and the greatest indentation among them and it. -/
def blockIndentation : (fuel : Nat) → (greatest : Nat) → Cursor → List Char × Nat × Cursor
  | 0, greatest, c => ([], greatest, c)
  | fuel + 1, greatest, c =>
    let c := c.skip (· = ' ')
    let greatest := max greatest c.column
    if isBreak c.peek then
      let (first, c) := c.lineBreak
      let (more, greatest, c) := blockIndentation fuel greatest c
      (first ++ more, greatest, c)
    else ([], greatest, c)

/-- Passes over spaces up to a column. -/
def toColumn (indent : Nat) (c : Cursor) : Cursor :=
  c.advance (min (indent - c.column) (c.run (· = ' ')).length)

/-- The blank lines before a line of a block. -/
def blockBreaks (indent : Nat) : (fuel : Nat) → Cursor → List Char × Cursor
  | 0, c => ([], c)
  | fuel + 1, c =>
    let c := toColumn indent c
    if isBreak c.peek then
      let (first, c) := c.lineBreak
      let (more, c) := blockBreaks indent fuel c
      (first ++ more, c)
    else ([], c)

/-- The lines of a block from here on. -/
def blockLines (fold : Bool) (chomping : Chomping) (indent : Nat) :
    (fuel : Nat) → (text breaks : List Char) → Cursor → List Char × Cursor
  | 0, text, _, c => (text, c)
  | fuel + 1, text, breaks, c =>
    let indented := c.peek = ' ' ∨ c.peek = '\t'
    let line := c.run fun ch => !isStop ch
    let text := text ++ breaks ++ line
    let (first, c) := (c.advance line.length).lineBreak
    let (breaks, c) := blockBreaks indent (c.rest.length + 1) c
    if c.column = indent ∧ c.rest ≠ [] then
      if fold ∧ first = ['\n'] ∧ ¬indented ∧ c.peek ≠ ' ' ∧ c.peek ≠ '\t' then
        blockLines fold chomping indent fuel (text ++ (if breaks = [] then [' '] else [])) breaks c
      else blockLines fold chomping indent fuel (text ++ first) breaks c
    else
      match chomping with
      | .clip => (text ++ first, c)
      | .strip => (text, c)
      | .keep => (text ++ first ++ breaks, c)

/-- A block inside an indentation, from its mark on, and what follows it. A block may be empty. -/
def block (outer : Int) (c : Cursor) : Except Fault (String × Cursor) := do
  let fold := c.peek = '>'
  let (chomping, width, c) ← blockHead c.step
  let c ← c.endLine
  let least := max (outer + 1).toNat 1
  let (breaks, indent, c) := match width with
    | none =>
      let (breaks, greatest, c) := blockIndentation (c.rest.length + 1) 0 c
      (breaks, max least greatest, c)
    | some width =>
      let indent := least + width - 1
      let (breaks, c) := blockBreaks indent (c.rest.length + 1) c
      (breaks, indent, c)
  if c.column = indent ∧ c.rest ≠ [] then
    let (text, c) := blockLines fold chomping indent (c.rest.length + 1) [] breaks c
    return (String.ofList text, c)
  else return (String.ofList (if chomping = .keep then breaks else []), c)

end LakeStore.Yaml.Token
