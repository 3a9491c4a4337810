import LakeStore.Number.Notation
import LakeStore.Value

/-!
Message templates: texts with holes that are filled with arguments.

A hole starts with a percent sign and may name an entry, ask for a sign, padding, a width and a precision,
and ends with the kind of its content. Arguments are taken in order; a single table of entries may stand
for them all. Holes and arguments must match exactly. Two percent signs are one that is no hole.
-/

namespace LakeStore.Log.Template

/-- Why a template cannot be filled. -/
inductive TemplateFault where
  /-- Too few or too many arguments, or one of the wrong type. -/
  | mismatch
  /-- The template is malformed, or a number is none that can be written. -/
  | malformed
  /-- A named entry is missing. -/
  | missing
  /-- A number is too large for its hole, or for the measure of one. -/
  | overflow
  deriving DecidableEq, Repr

/-- How a hole is to be filled. -/
structure Hole where
  alternate : Bool := false
  zeros : Bool := false
  left : Bool := false
  blank : Bool := false
  plus : Bool := false
  width : Nat := 0
  precision : Option Nat := none
  kind : Char := 's'
  deriving DecidableEq, Repr

/-- What a template is filled with. -/
inductive Arguments where
  /-- Arguments in order. -/
  | several (args : List Value)
  /-- A single argument, into which named holes look. -/
  | single (arg : Value)
  deriving DecidableEq, Repr

/-- The arguments of a message: a table that is not empty is single if it comes alone. -/
def Arguments.ofList : List Value → Arguments
  | [.table (e :: entries)] => .single (.table (e :: entries))
  | args => .several args

/-- Whether there is nothing to fill a template with. -/
def Arguments.isNothing : Arguments → Bool
  | .several args => args.isEmpty
  | .single arg => !arg.isTruthy

/-- The arguments that are left. -/
structure Supply where
  rest : List Value
  /-- What named holes look into. -/
  source : Option Value := none

/-- The arguments that are left at first. Named holes look into what can be looked into. -/
def Arguments.supply : Arguments → Supply
  | .several args => { rest := args }
  | .single (.table entries) => { rest := [.table entries], source := some (.table entries) }
  | .single (.list items) => { rest := [.list items], source := some (.list items) }
  | .single arg => { rest := [arg] }

/-- Takes the next argument. -/
def Supply.take (s : Supply) : Except TemplateFault (Value × Supply) :=
  match s.rest with
  | v :: rest => .ok (v, { s with rest })
  | [] => .error .mismatch

/-- The supply in which the entry of a name is the only argument left. -/
def Supply.named (name : String) (s : Supply) : Except TemplateFault Supply :=
  match s.source with
  | some (.table entries) =>
    match Entries.find? name entries with
    | some v => .ok { s with rest := [v] }
    | none => .error .missing
  | _ => .error .mismatch

/-- Fills up to the width of a hole. `lead` stays in front of zeros. -/
def pad (h : Hole) (zeros : Bool) (lead body : List Char) : List Char :=
  let missing := h.width - (lead.length + body.length)
  if h.left then lead ++ body ++ List.replicate missing ' '
  else if zeros then lead ++ List.replicate missing '0' ++ body
  else List.replicate missing ' ' ++ lead ++ body

/-- The sign of a number. -/
def signOf (h : Hole) (negative : Bool) : List Char :=
  if negative then ['-'] else if h.plus then ['+'] else if h.blank then [' '] else []

/-- A text in a hole. -/
def fillText (h : Hole) (s : String) : List Char :=
  pad h false [] (match h.precision with
    | some n => s.toList.take n
    | none => s.toList)

/-- The greatest width of a hole. -/
def greatestWidth : Int := twoTo 63 - 1

/-- The greatest precision of a hole. -/
def greatestPrecision : Int := twoTo 31 - 1

/-- The greatest precision of an integer. -/
def greatestDigits : Nat := twoTo 31 - 4

/-- An integer in a hole, to some base. -/
def fillInteger (h : Hole) (base : Nat) (mark : List Char) (n : Int) : Except TemplateFault (List Char) :=
  let least := h.precision.getD 0
  if greatestDigits < least then .error .malformed
  else
    let digits := Nat.toDigits base n.natAbs
    let digits := List.replicate (least - digits.length) '0' ++ digits
    .ok (pad h h.zeros (signOf h (n < 0) ++ (if h.alternate then mark else [])) digits)

/-- The integer of an argument; a number with a fraction is cut where `whole` is false. -/
def integerOf (whole : Bool) : Value → Except TemplateFault Int
  | .int n => .ok n
  | .bool b => .ok (if b then 1 else 0)
  | .real x =>
    if whole then .error .mismatch
    else
      match x, x.toRat? with
      | .nan, _ => .error .malformed
      | _, some q => .ok (if q < 0 then -((-q).floor) else q.floor)
      | _, none => .error .overflow
  | _ => .error .mismatch

/-- The number of an argument. -/
def realOf : Value → Except TemplateFault Binary64
  | .real x => .ok x
  | .bool b => .ok (.ofInt (if b then 1 else 0))
  | .int n => if (Binary64.ofInt n).isFinite then .ok (.ofInt n) else .error .overflow
  | _ => .error .mismatch

/-- A number in a hole. -/
def fillReal (h : Hole) (style : Binary64.Style) (v : Value) : Except TemplateFault (List Char) := do
  let x ← realOf v
  let body := Binary64.writeMagnitude style (h.precision.getD 6) h.alternate x
  return pad h h.zeros (signOf h x.isNegative) body

/-- The character of an argument. -/
def characterOf : Value → Except TemplateFault Char
  | .text s =>
    match s.toList with
    | [c] => .ok c
    | _ => .error .mismatch
  | .int n => if 0 ≤ n ∧ n.toNat.isValidChar then .ok (Char.ofNat n.toNat) else .error .overflow
  | .bool b => .ok (if b then '\x01' else '\x00')
  | _ => .error .mismatch

/-- A quoted text with everything outside of ASCII escaped. -/
def asciiOnly (cs : List Char) : List Char :=
  cs.flatMap fun c => if c.toNat < 0x80 then [c] else Text.byCode c

/-- An argument in a hole. -/
def fillHole (h : Hole) (v : Value) : Except TemplateFault (List Char) :=
  let upper (cs : List Char) : List Char := cs.map Char.toUpper
  match h.kind with
  | 's' => .ok (fillText h v.display)
  | 'r' => .ok (fillText h v.literal)
  | 'a' => .ok (fillText h (String.ofList (asciiOnly v.literal.toList)))
  | 'c' => (characterOf v).map fun c => pad h false [] [c]
  | 'd' | 'i' | 'u' => (integerOf false v).bind (fillInteger h 10 [])
  | 'o' => (integerOf true v).bind (fillInteger h 8 ['0', 'o'])
  | 'x' => (integerOf true v).bind (fillInteger h 16 ['0', 'x'])
  | 'X' => ((integerOf true v).bind (fillInteger h 16 ['0', 'x'])).map upper
  | 'f' => fillReal h .fixed v
  | 'F' => (fillReal h .fixed v).map upper
  | 'e' => fillReal h .scientific v
  | 'E' => (fillReal h .scientific v).map upper
  | 'g' => fillReal h .general v
  | 'G' => (fillReal h .general v).map upper
  | _ => .error .malformed

/-- The flags at the start of a hole. -/
def readFlags (h : Hole) : List Char → Hole × List Char
  | '#' :: cs => readFlags { h with alternate := true } cs
  | '0' :: cs => readFlags { h with zeros := true } cs
  | '-' :: cs => readFlags { h with left := true } cs
  | ' ' :: cs => readFlags { h with blank := true } cs
  | '+' :: cs => readFlags { h with plus := true } cs
  | cs => (h, cs)

/-- A width or precision up to a greatest one: digits, or a star for the next argument. -/
def readMeasure (greatest : Int) (supply : Supply) :
    List Char → Except TemplateFault (Option Int × Supply × List Char)
  | '*' :: cs => do
    let (v, supply) ← supply.take
    let n ← match v with
      | .int n => pure n
      | .bool b => pure (if b then 1 else 0)
      | _ => throw .mismatch
    if n < -greatest - 1 ∨ greatest < n then throw .overflow
    return (some n, supply, cs)
  | cs =>
    let (n, count, rest) := Decimal.readDigits cs
    if greatest < n then .error .malformed
    else .ok (if count = 0 then none else some (n : Int), supply, rest)

/-- The rest of a hole after the flags, up to its kind. -/
def readHole (h : Hole) (supply : Supply) (cs : List Char) :
    Except TemplateFault (Hole × Supply × List Char) := do
  let (width, supply, cs) ← readMeasure greatestWidth supply cs
  let h := match width with
    | some n => { h with width := n.natAbs, left := h.left || n < 0 }
    | none => h
  let (h, supply, cs) ← match cs with
    | '.' :: cs => do
      let (precision, supply, cs) ← readMeasure greatestPrecision supply cs
      pure ({ h with precision := some (max 0 (precision.getD 0)).toNat }, supply, cs)
    | cs => pure (h, supply, cs)
  let cs := match cs with
    | 'h' :: r | 'l' :: r | 'L' :: r => r
    | r => r
  match cs with
  | kind :: rest => return ({ h with kind }, supply, rest)
  | [] => throw .malformed

/-- The name in parentheses, which may nest, and what follows it. -/
def readName (depth : Nat) (read : List Char) : List Char → Option (String × List Char)
  | [] => none
  | c :: cs =>
    if c = ')' then
      match depth with
      | 0 => some (String.ofList read.reverse, cs)
      | depth + 1 => readName depth (c :: read) cs
    else readName (if c = '(' then depth + 1 else depth) (c :: read) cs

/-- Fills the first hole of what follows a percent sign. -/
def fillNext (supply : Supply) (cs : List Char) : Except TemplateFault (List Char × Supply × List Char) := do
  let (supply, cs) ← match cs with
    | '(' :: rest =>
      if supply.source.isNone then throw .mismatch
      else
        match readName 0 [] rest with
        | some (name, rest) => pure (← supply.named name, rest)
        | none => throw .malformed
    | cs => pure (supply, cs)
  let (h, cs) := readFlags {} cs
  let (h, supply, cs) ← readHole h supply cs
  let (v, supply) ← supply.take
  return (← fillHole h v, supply, cs)

/-- Fills all holes. `fuel` bounds the characters to read. -/
def fillFrom (fuel : Nat) (supply : Supply) (cs : List Char) : Except TemplateFault (List Char) := do
  match fuel, cs with
  | fuel + 1, '%' :: '%' :: cs => return '%' :: (← fillFrom fuel supply cs)
  | fuel + 1, '%' :: cs =>
    let (text, supply, rest) ← fillNext supply cs
    return text ++ (← fillFrom fuel supply rest)
  | fuel + 1, c :: cs => return c :: (← fillFrom fuel supply cs)
  | _, _ =>
    if supply.rest = [] || supply.source.isSome then return [] else throw .mismatch

/-- A template with its arguments filled in; without arguments it is no template but the message. -/
def fill (template : String) (args : Arguments) : Except TemplateFault String :=
  if args.isNothing then .ok template
  else (fillFrom (template.length + 1) args.supply template.toList).map String.ofList

end LakeStore.Log.Template
