import LakeStore.Value

/-!
Reading JSON.

The grammar is the strict one, with three additions for numbers that decimals cannot spell: `NaN`,
`Infinity` and `-Infinity`. Nothing may follow the value but blanks; a text may hold no raw control
character and no unpaired surrogate. Of entries of one name the last one counts, at the place of the first.
-/

namespace LakeStore.Json

/-- Whether a character may stand between tokens. -/
def isSpace (c : Char) : Bool := c = ' ' || c = '\t' || c = '\n' || c = '\r'

/-- What follows the blanks. -/
def skip (cs : List Char) : List Char := cs.dropWhile isSpace

/-- The code unit that four hexadecimal digits spell. -/
def unit? (a b c d : Char) : Option Nat := do
  some ((((← Hex.value? a) * 16 + (← Hex.value? b)) * 16 + (← Hex.value? c)) * 16 + (← Hex.value? d))

/-- The character that one letter stands for after a backslash. -/
def escape? : Char → Option Char
  | '"' => some '"'
  | '\\' => some '\\'
  | '/' => some '/'
  | 'b' => some '\x08'
  | 'f' => some '\x0c'
  | 'n' => some '\n'
  | 'r' => some '\r'
  | 't' => some '\t'
  | _ => none

/-- The rest of a text, after its opening quote, and what follows its closing one. -/
def text (read : List Char) : List Char → Option (String × List Char)
  | '"' :: rest => some (String.ofList read.reverse, rest)
  | '\\' :: 'u' :: a :: b :: c :: d :: rest =>
    match unit? a b c d with
    | none => none
    | some high =>
      if high < 0xD800 ∨ 0xDFFF < high then text (Char.ofNat high :: read) rest
      else
        match rest with
        | '\\' :: 'u' :: a :: b :: c :: d :: rest =>
          match unit? a b c d with
          | none => none
          | some low =>
            if high < 0xDC00 ∧ 0xDC00 ≤ low ∧ low ≤ 0xDFFF then
              text (Char.ofNat (0x10000 + (high - 0xD800) * 0x400 + (low - 0xDC00)) :: read) rest
            else none
        | _ => none
  | '\\' :: c :: rest =>
    match escape? c with
    | some e => text (e :: read) rest
    | none => none
  | c :: rest => if c.toNat < 0x20 then none else text (c :: read) rest
  | [] => none

/-- The longest run of digits before a point, with the sign. -/
def greatestWidth : Nat := 4300

/-- A number, and what follows it. -/
def number (cs : List Char) : Option (Value × List Char) := do
  let (negative, cs) := match cs with
    | '-' :: r => (true, r)
    | r => (false, r)
  match cs with
  | 'I' :: 'n' :: 'f' :: 'i' :: 'n' :: 'i' :: 't' :: 'y' :: rest =>
    some (.real (.infinite negative), rest)
  | cs => do
    let (n, width, rest) := Decimal.readDigits cs
    -- a leading zero stands alone
    if width = 0 ∨ (1 < width ∧ cs.head? = some '0') ∨
      greatestWidth < width + (if negative then 1 else 0) then none
    let (fraction, places, after) ← match rest with
      | '.' :: r =>
        let (fraction, places, r) := Decimal.readDigits r
        if places = 0 then none else some (fraction, places, r)
      | r => some (0, 0, r)
    let (power, rest') ← Decimal.readExponent after
    if rest'.length = rest.length then some (.int (if negative then -(n : Int) else n), rest)
    else
      let d : Decimal := ⟨negative, n * tenTo places + fraction, power - places⟩
      some (.real d.toBinary64, rest')

/-- A word that stands for a value, and what follows it. -/
def word (cs : List Char) : Option (Value × List Char) :=
  let words := [("null", Value.null), ("true", .bool true), ("false", .bool false), ("NaN", .real .nan)]
  words.findSome? fun (name, v) => (List.isPrefixOf? name.toList cs).map fun rest => (v, rest)

mutual

/-- A value, and what follows it. `fuel` bounds the characters to read, `depth` the nesting of what is not
empty. -/
def value (fuel depth : Nat) (cs : List Char) : Option (Value × List Char) :=
  match fuel with
  | 0 => none
  | fuel + 1 =>
    match cs with
    | '"' :: rest => (text [] rest).map fun (s, rest) => (.text s, rest)
    | '{' :: rest =>
      match skip rest, depth with
      | '}' :: rest, _ => some (.table [], rest)
      | _, 0 => none
      | rest, depth + 1 => members fuel depth [] rest
    | '[' :: rest =>
      match skip rest, depth with
      | ']' :: rest, _ => some (.list [], rest)
      | _, 0 => none
      | rest, depth + 1 => elements fuel depth [] rest
    | cs => (word cs).orElse fun _ => number cs

/-- The rest of a table with at least one more entry, and what follows it. -/
def members (fuel depth : Nat) (read : List (String × Value)) (cs : List Char) :
    Option (Value × List Char) :=
  match fuel with
  | 0 => none
  | fuel + 1 =>
    match cs with
    | '"' :: rest => do
      let (name, rest) ← text [] rest
      match skip rest with
      | ':' :: rest => do
        let (v, rest) ← value fuel depth (skip rest)
        match skip rest with
        | ',' :: rest => members fuel depth ((name, v) :: read) (skip rest)
        | '}' :: rest => some (.table (Entries.putAll [] ((name, v) :: read).reverse), rest)
        | _ => none
      | _ => none
    | _ => none

/-- The rest of a list with at least one more item, and what follows it. -/
def elements (fuel depth : Nat) (read : List Value) (cs : List Char) : Option (Value × List Char) :=
  match fuel with
  | 0 => none
  | fuel + 1 => do
    let (v, rest) ← value fuel depth cs
    match skip rest with
    | ',' :: rest => elements fuel depth (v :: read) (skip rest)
    | ']' :: rest => some (.list (v :: read).reverse, rest)
    | _ => none

end

/-- The value that a text spells, if it is nested no deeper than some bound. -/
def readWithin (depth : Nat) (cs : List Char) : Option Value :=
  match value (cs.length + 1) depth (skip cs) with
  | some (v, rest) => if skip rest = [] then some v else none
  | none => none

/-- The deepest nesting of lists and tables in a payload. -/
def greatestDepth : Nat := 200

/-- The value that a text spells. -/
def read? (cs : List Char) : Option Value := readWithin greatestDepth cs

/-- The value that a body spells in UTF-8. -/
def decode? (body : Bytes) : Option Value := (Utf8.decode body).bind read?

end LakeStore.Json
