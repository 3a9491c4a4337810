import LakeStore.Text.Blank
import LakeStore.Value

/-!
Lenient reading of values into declared types, with every fault of an input reported at once.

An integer may be written as a whole number with a point, as a truth value or as a text; a truth value
as one of a few words or as one of the numbers 0 and 1; a number as a text. Texts and records are taken
as they are. A reading is either the value or the complete list of what is wrong, in the order of the
declared fields and then of the entries that were not declared.
-/

namespace LakeStore

/-- What is wrong with one part of an input. -/
inductive Flaw where
  | missing
  | undeclared
  | frozen
  | notText
  /-- Octets that spell no text. -/
  | octets
  | notInteger
  | integerText
  | integerSize
  | integerFraction
  | notFinite
  | notTruth
  | truthText
  | notReal
  | realText
  | notRecord
  | notList
  | notSequence
  | notMoment
  /-- The calendar has no such moment. -/
  | noMoment
  | momentText
  | notStream
  | notListed
  | tooSmall
  | tooLarge
  | notAbove
  /-- An entry goes by a key that is no text. -/
  | namelessKey
  /-- A rule of the field itself, in its own words. -/
  | rule (text : String)
  deriving DecidableEq, Repr

/-- The stable name of a flaw. -/
def Flaw.code : Flaw → String
  | .missing => "missing"
  | .undeclared => "extra_forbidden"
  | .frozen => "frozen_instance"
  | .notText => "string_type"
  | .octets => "string_unicode"
  | .notInteger => "int_type"
  | .integerText => "int_parsing"
  | .integerSize => "int_parsing_size"
  | .integerFraction => "int_from_float"
  | .notFinite => "finite_number"
  | .notTruth => "bool_type"
  | .truthText => "bool_parsing"
  | .notReal => "float_type"
  | .realText => "float_parsing"
  | .notRecord => "model_type"
  | .notList => "list_type"
  | .notSequence => "tuple_type"
  | .notMoment => "datetime_type"
  | .noMoment => "datetime_parsing"
  | .momentText => "datetime_from_date_parsing"
  | .notStream => "is_instance_of"
  | .notListed => "literal_error"
  | .tooSmall => "greater_than_equal"
  | .tooLarge => "less_than_equal"
  | .notAbove => "greater_than"
  | .namelessKey => "invalid_key"
  | .rule _ => "value_error"

/-- A flaw and the path from the whole input to the part that has it. -/
structure Issue where
  path : List String
  flaw : Flaw
  deriving DecidableEq, Repr

namespace Issue

/-- The entries of an issue. Only a rule of a field says in words what is wrong. -/
def toEntries (i : Issue) : List (String × Value) :=
  [("loc", .list (i.path.map Value.text)), ("type", .text i.flaw.code)]
    ++ (match i.flaw with
      | .rule text => [("msg", .text ("Value error, " ++ text))]
      | _ => [])

end Issue

/-- A value, or everything that is wrong with its input. -/
abbrev Checked (α : Type) := Except (List Issue) α

namespace Checked

variable {α β : Type}

/-- A single flaw of the whole input. -/
def flaw (f : Flaw) : Checked α := .error [⟨[], f⟩]

/-- What was found, or one flaw if nothing was. -/
def ofOption (f : Flaw) : Option α → Checked α
  | some a => .ok a
  | none => flaw f

/-- A value with nothing wrong. -/
def pure (a : α) : Checked α := .ok a

/-- Both readings, with the issues of both. -/
def apply (f : Checked (α → β)) (x : Checked α) : Checked β :=
  match f, x with
  | .ok f, .ok a => .ok (f a)
  | .error e, .ok _ => .error e
  | .ok _, .error e => .error e
  | .error e, .error e' => .error (e ++ e')

/-- The issues of a part, seen from the whole. -/
def under (name : String) : Checked α → Checked α
  | .ok a => .ok a
  | .error issues => .error (issues.map fun i => { i with path := name :: i.path })

/-- A reading that also fails when there are further issues. -/
def also (x : Checked α) (issues : List Issue) : Checked α :=
  match x, issues with
  | .ok a, [] => .ok a
  | .ok _, issues => .error issues
  | .error e, issues => .error (e ++ issues)

/-- All readings of a list, with the issues of all. -/
def all : List (Checked α) → Checked (List α)
  | [] => .ok []
  | x :: rest => apply (x.map List.cons) (all rest)

end Checked

namespace Lax

variable {α : Type}

/-- The text that a value is or that its octets spell, or the flaw of one that is neither. -/
def spelled (wrong : Flaw) (undecoded : Flaw) : Value → Checked String
  | .text s => .ok s
  | .bytes b => Checked.ofOption undecoded ((Utf8.decode b).map String.ofList)
  | _ => .flaw wrong

/-- A numeral without the zeros at its start, and without underscores among these. A sign may follow them, and
one zero stays before a point. -/
def withoutLeadingZeros : List Char → Option (List Char)
  | '0' :: rest => go '0' rest
  | c :: rest => if ('1' ≤ c ∧ c ≤ '9') ∨ c = '-' then some (c :: rest) else none
  | [] => none
where
  /-- `last` is the last character that was passed over. -/
  go (last : Char) : List Char → Option (List Char)
    | [] => some [last]
    | c :: rest =>
      if c = '0' ∨ c = '_' then go c rest
      else if ('1' ≤ c ∧ c ≤ '9') ∨ c = '-' then some (c :: rest)
      else if c = '.' then some (last :: c :: rest)
      else none

/-- A numeral without a point and the zeros behind it. -/
def withoutFraction (cs : List Char) : List Char :=
  match Text.cutAt '.' cs with
  | (whole, some zeros) => if zeros.all (· = '0') then whole else cs
  | (_, none) => cs

/-- A text without its underscores, if it has any and they all stand single and inside. -/
def withoutUnderscores? (cs : List Char) : Option (List Char) :=
  let outer := cs.head? = some '_' ∨ cs.getLast? = some '_'
  let double := [] ∈ ((Text.pieces ['_'] cs).drop 1).dropLast
  if cs.contains '_' ∧ ¬outer ∧ ¬double then some (cs.filter (· != '_')) else none

/-- The plain form of a numeral: ASCII digits behind a minus sign or none. -/
def plainNumeral (s : String) : Option (List Char) := do
  let cs := (Text.trimWhite s).toList
  let cs := if cs.head? = some '+' then cs.tail else cs
  let cs ←
    match cs with
    | '-' :: rest => (withoutLeadingZeros rest).map ('-' :: ·)
    | cs => withoutLeadingZeros cs
  let cs := withoutFraction cs
  return (withoutUnderscores? cs).getD cs

/-- The longest plain numeral. -/
def greatestWidth : Nat := 4300

/-- An integer in a text. White space around it, a sign, zeros at its start, and a point with zeros at its end
are allowed, and so are single underscores between digits. -/
def integerText (s : String) : Checked Int :=
  match plainNumeral s with
  | none => .flaw .integerText
  | some cs =>
    let (digits, negative) := if cs.head? = some '-' then (cs.tail, true) else (cs, false)
    let (n, count, rest) := Decimal.readDigits digits
    if greatestWidth < cs.length - rest.length then .flaw .integerSize
    else if count = 0 ∨ rest ≠ [] then .flaw .integerText
    else .ok (if negative then -(n : Int) else n)

/-- Whether an integer fits a signed word of 64 bits. -/
def isWord (n : Int) : Bool := -(twoTo 63 : Int) ≤ n && n < (twoTo 63 : Int)

/-- The integer that a number is. Its magnitude must fit a signed word of 64 bits. -/
def wholeReal (x : Binary64) : Checked Int :=
  if !x.isFinite then .flaw .notFinite
  else
    match x.toInt? with
    | none => .flaw .integerFraction
    | some n => if n.natAbs < twoTo 63 then .ok n else .flaw .integerSize

/-- An integer. -/
def int : Value → Checked Int
  | .int n => .ok n
  | .bool b => .ok (if b then 1 else 0)
  | .real x => wholeReal x
  | v => (spelled .notInteger .integerText v).bind integerText

/-- The words for yes and for no, whatever their case. -/
def truthWord? (s : String) : Option Bool :=
  let word := Text.lowerAscii s
  if word ∈ ["1", "t", "true", "y", "yes", "on"] then some true
  else if word ∈ ["0", "f", "false", "n", "no", "off"] then some false
  else none

/-- The truth value of a number. -/
def truthNumber (n : Int) : Checked Bool :=
  if n = 1 then .ok true else if n = 0 then .ok false else .flaw .truthText

/-- A truth value. -/
def bool : Value → Checked Bool
  | .bool b => .ok b
  | .int n => if isWord n then truthNumber n else .flaw .notTruth
  | .real x =>
    match wholeReal x with
    | .ok n => truthNumber n
    | .error _ => .flaw .notTruth
  | v => (spelled .notTruth .truthText v).bind fun s => Checked.ofOption .truthText (truthWord? s)

/-- A number in a text. White space around it is allowed, or single underscores inside, but not both. -/
def realText (s : String) : Checked Binary64 :=
  let plain := Binary64.read? (Text.trimWhite s)
  Checked.ofOption .realText
    (plain.orElse fun _ => (withoutUnderscores? s.toList).bind fun cs => Binary64.read? (String.ofList cs))

/-- A number. -/
def real : Value → Checked Binary64
  | .real x => .ok x
  | .int n =>
    let x := Binary64.ofInt n
    if x.isFinite then .ok x else .flaw .notReal
  | .bool b => .ok (.ofInt (if b then 1 else 0))
  | v => (spelled .notReal .realText v).bind realText

/-- A text. -/
def text : Value → Checked String := spelled .notText .octets

/-- A moment that the calendar has. -/
def datable (m : Moment) : Checked Moment := if m.isDatable then .ok m else .flaw .noMoment

/-- A moment, written or counted. -/
def moment : Value → Checked Moment
  | .moment m => .ok m
  | .date d => .ok ⟨⟨d.dayNumber * 86400000000⟩, none⟩
  | .int n =>
    if (Binary64.ofInt n).isFinite then (Checked.ofOption .noMoment (Moment.ofInt n)).bind datable
    else .flaw .notMoment
  | .real x => (Checked.ofOption .noMoment (Moment.ofReal x)).bind datable
  | v => do datable (← Checked.ofOption .momentText (Moment.read? (← spelled .notMoment .momentText v)))

/-- A value that may be absent. -/
def optional (read : Value → Checked α) : Value → Checked (Option α)
  | .null => .ok none
  | v => (read v).map some

/-- One of a few texts. -/
def oneOf (texts : List String) : Value → Checked String
  | .text s => if s ∈ texts then .ok s else .flaw .notListed
  | _ => .flaw .notListed

/-- A list of values of one type; `wrong` is the flaw of anything else. -/
def each (wrong : Flaw) (read : Value → Checked α) : Value → Checked (List α)
  | .list items => Checked.all (items.mapIdx fun i v => (read v).under (toString i))
  | _ => .flaw wrong

/-- A record, read from those of its entries that go by names. -/
def record (read : List (String × Value) → Checked α) (v : Value) : Checked α :=
  match v.keyed? with
  | some entries => read (Value.named entries)
  | none => .flaw .notRecord

/-- The field of a record that goes by one of some names, the first of them that is present; its issues are
told under that name. A field that is absent has its default, if there is one. -/
def fieldAmong (entries : List (String × Value)) (names : List String) (absent : Option α)
    (read : Value → Checked α) : Checked α :=
  match names.findSome? fun name => (Entries.find? name entries).map fun v => (name, v) with
  | some (name, v) => (read v).under name
  | none =>
    match absent with
    | some a => .ok a
    | none => Checked.under (names.headD "") (.flaw .missing)

/-- The field of a record that goes by one name. -/
def field (entries : List (String × Value)) (name : String) (absent : Option α)
    (read : Value → Checked α) : Checked α :=
  fieldAmong entries [name] absent read

/-- An issue for every entry that is not declared. -/
def undeclared (entries : List (String × Value)) (declared : List String) : List Issue :=
  (entries.filter fun e => !declared.contains e.1).map fun e => ⟨[e.1], .undeclared⟩

/-- A key as the last part of a path. -/
def keyPart : Value → String
  | .text s => s
  | .bool b => if b then "1" else "0"
  | key => key.literal

/-- An issue for every entry of a table that goes by no name, or by one that is not declared, if some names
are. -/
def strays (declared : Option (List String)) (v : Value) : List Issue :=
  (v.keyed?.getD []).filterMap fun e =>
    match e.1, declared with
    | .text name, some names => if names.contains name then none else some ⟨[name], .undeclared⟩
    | .text _, none => none
    | key, _ => some ⟨[keyPart key], .namelessKey⟩

/-- An issue for every entry of a table that goes by no name. -/
def nameless (v : Value) : List Issue := strays none v

/-- A record that has no entries but the declared ones. -/
def closed (declared : List String) (read : List (String × Value) → Checked α) (v : Value) : Checked α :=
  (record read v).also (strays (some declared) v)

end Lax

end LakeStore
