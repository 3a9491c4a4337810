import LakeStore.Entries
import LakeStore.Text.Quoted
import LakeStore.Time.Moment

/-!
Values without a declared type, as payloads, configuration files and log fields hold them.

A table keeps its entries in the order they were written. `display` is the text of a value inside a
message; nested values are spelled out there, so that their shape stays visible.
-/

namespace LakeStore

/-- A value whose type only shows when it is looked at. -/
inductive Value where
  | null
  | bool (b : Bool)
  | int (n : Int)
  | real (x : Binary64)
  | text (s : String)
  | bytes (b : Bytes)
  | date (d : Date)
  | moment (m : Moment)
  | list (items : List Value)
  /-- Values without an order, each of them once. -/
  | set (items : List Value)
  | table (entries : List (String × Value))
  /-- A table whose keys are not all texts. -/
  | mapping (entries : List (Value × Value))
  /-- What is left of a value that contains itself, so deep inside it that nobody looks there. -/
  | endless
  deriving Repr

instance : Inhabited Value := ⟨.null⟩

namespace Value

mutual

/-- Whether two values are the same. -/
def same : (v w : Value) → Decidable (v = w)
  | .null, w => by cases w <;> first | exact isTrue rfl | exact isFalse nofun
  | .endless, w => by cases w <;> first | exact isTrue rfl | exact isFalse nofun
  | .bool a, w => by
    cases w with
    | bool b => exact decidable_of_iff (a = b) (by simp)
    | _ => exact isFalse nofun
  | .int a, w => by
    cases w with
    | int b => exact decidable_of_iff (a = b) (by simp)
    | _ => exact isFalse nofun
  | .real a, w => by
    cases w with
    | real b => exact decidable_of_iff (a = b) (by simp)
    | _ => exact isFalse nofun
  | .text a, w => by
    cases w with
    | text b => exact decidable_of_iff (a = b) (by simp)
    | _ => exact isFalse nofun
  | .bytes a, w => by
    cases w with
    | bytes b => exact decidable_of_iff (a = b) (by simp)
    | _ => exact isFalse nofun
  | .date a, w => by
    cases w with
    | date b => exact decidable_of_iff (a = b) (by simp)
    | _ => exact isFalse nofun
  | .moment a, w => by
    cases w with
    | moment b => exact decidable_of_iff (a = b) (by simp)
    | _ => exact isFalse nofun
  | .list a, w => by
    cases w with
    | list b => have := sameItems a b; exact decidable_of_iff (a = b) (by simp)
    | _ => exact isFalse nofun
  | .set a, w => by
    cases w with
    | set b => have := sameItems a b; exact decidable_of_iff (a = b) (by simp)
    | _ => exact isFalse nofun
  | .table a, w => by
    cases w with
    | table b => have := sameEntries a b; exact decidable_of_iff (a = b) (by simp)
    | _ => exact isFalse nofun
  | .mapping a, w => by
    cases w with
    | mapping b => have := samePairs a b; exact decidable_of_iff (a = b) (by simp)
    | _ => exact isFalse nofun

/-- Whether two lists of values are the same. -/
def sameItems : (vs ws : List Value) → Decidable (vs = ws)
  | [], [] => isTrue rfl
  | [], _ :: _ => isFalse nofun
  | _ :: _, [] => isFalse nofun
  | v :: vs, w :: ws =>
    have := same v w
    have := sameItems vs ws
    decidable_of_iff (v = w ∧ vs = ws) (by simp)

/-- Whether two lists of named values are the same. -/
def sameEntries : (es fs : List (String × Value)) → Decidable (es = fs)
  | [], [] => isTrue rfl
  | [], _ :: _ => isFalse nofun
  | _ :: _, [] => isFalse nofun
  | (m, v) :: es, (n, w) :: fs =>
    have := same v w
    have := sameEntries es fs
    decidable_of_iff (m = n ∧ v = w ∧ es = fs) (by simp [and_assoc])

/-- Whether two lists of pairs of values are the same. -/
def samePairs : (ps qs : List (Value × Value)) → Decidable (ps = qs)
  | [], [] => isTrue rfl
  | [], _ :: _ => isFalse nofun
  | _ :: _, [] => isFalse nofun
  | (k, v) :: ps, (l, w) :: qs =>
    have := same k l
    have := same v w
    have := samePairs ps qs
    decidable_of_iff (k = l ∧ v = w ∧ ps = qs) (by simp [and_assoc])

end

instance : DecidableEq Value := same

/-- The value that a table holds under a name. -/
def get? (name : String) : Value → Option Value
  | .table entries => Entries.find? name entries
  | _ => none

/-- The entries of a table; no other value has any. -/
def entries : Value → List (String × Value)
  | .table es => es
  | _ => []

/-- The items of a list; no other value has any. -/
def items : Value → List Value
  | .list xs => xs
  | _ => []

/-- A text, and nothing else. -/
def text? : Value → Option String
  | .text s => some s
  | _ => none

/-- What is there as a value; what is absent is null. -/
def ofOption {α : Type} (f : α → Value) : Option α → Value
  | some a => f a
  | none => .null

/-- Whether a value says something: it is neither null, no, zero nor empty. -/
def isTruthy : Value → Bool
  | .null => false
  | .bool b => b
  | .int n => n != 0
  | .real x => !x.equals .zero
  | .text s => s != ""
  | .bytes b => !b.isEmpty
  | .list items | .set items => !items.isEmpty
  | .table entries => !entries.isEmpty
  | .mapping entries => !entries.isEmpty
  | .date _ | .moment _ | .endless => true

/-! ### Tables by any keys -/

/-- The entries of a table of either kind, by their keys. -/
def keyed? : Value → Option (List (Value × Value))
  | .table entries => some (entries.map fun e => (.text e.1, e.2))
  | .mapping entries => some entries
  | _ => none

/-- The entries whose keys are texts. -/
def named (entries : List (Value × Value)) : List (String × Value) :=
  entries.filterMap fun e => e.1.text?.map (·, e.2)

/-- The table with some entries. -/
def ofKeyed (entries : List (Value × Value)) : Value :=
  if entries.all fun e => e.1.text?.isSome then .table (named entries) else .mapping entries

/-- The number that a truth value or a number is, exactly. -/
def number? : Value → Option Rat
  | .bool b => some (if b then 1 else 0)
  | .int n => some n
  | .real x => x.toRat?
  | _ => none

/-- Whether two keys are one and the same. Numbers and truth values are the same if they are equal, and so
are moments that are one instant. -/
def isSameKey (a b : Value) : Bool :=
  match a, b with
  | .moment ⟨t, some offset⟩, .moment ⟨t', some offset'⟩ =>
    t.micros - offset * 1000000 == t'.micros - offset' * 1000000
  | a, b =>
    match a.number?, b.number? with
    | some x, some y => x == y
    | none, none => a == b
    | _, _ => false

/-- Sets the entry of a key, in place if it is there. The key that came first stays. -/
def putKeyed {α : Type} (key : Value) (a : α) : List (Value × α) → List (Value × α)
  | [] => [(key, a)]
  | (k, b) :: rest => if k.isSameKey key then (k, a) :: rest else (k, b) :: putKeyed key a rest

/-! ### Texts of values -/

/-- A call of some name, as values without a sign of their own are spelled. -/
def call (name : String) (args : List String) : String := name ++ "(" ++ Text.join ", " args ++ ")"

/-- The spelling of a day inside another value. -/
def literalDate (d : Date) : String :=
  call "datetime.date" [toString d.year, toString d.month, toString d.day]

/-- The spelling of an offset. -/
def literalOffset (offset : Int) : String :=
  let days := offset.fdiv 86400
  let parts := (if days = 0 then [] else ["days=" ++ toString days])
    ++ (if offset.fmod 86400 = 0 then [] else ["seconds=" ++ toString (offset.fmod 86400)])
  if offset = 0 then "datetime.timezone.utc"
  else call "datetime.timezone" [call "datetime.timedelta" parts]

/-- The spelling of a moment inside another value. Seconds are left out if nothing is to be said of them. -/
def literalMoment (m : Moment) : String :=
  let date := m.clock.date
  let micros := m.clock.microsOfDay
  let seconds := micros / 1000000
  let clock := [seconds / 3600, seconds / 60 % 60]
    ++ (if micros % 60000000 = 0 then [] else [seconds % 60])
    ++ (if micros % 1000000 = 0 then [] else [micros % 1000000])
  call "datetime.datetime" ([toString date.year, toString date.month, toString date.day] ++ clock.map toString
    ++ (match m.offset with
      | some offset => ["tzinfo=" ++ literalOffset offset]
      | none => []))

mutual

/-- The text of a value inside another one. -/
def literal : Value → String
  | .null => "None"
  | .bool b => if b then "True" else "False"
  | .int n => toString n
  | .real x => x.display
  | .text s => Text.quoted s
  | .bytes b => Text.quotedOctets b
  | .date d => literalDate d
  | .moment m => literalMoment m
  | .list items => "[" ++ Text.join ", " (literals items) ++ "]"
  | .set items => if items.isEmpty then "set()" else "\x7b" ++ Text.join ", " (literals items) ++ "\x7d"
  | .table entries => "\x7b" ++ Text.join ", " (literalEntries entries) ++ "\x7d"
  | .mapping entries => "\x7b" ++ Text.join ", " (literalPairs entries) ++ "\x7d"
  | .endless => "..."

/-- The texts of the items of a list. -/
def literals : List Value → List String
  | [] => []
  | v :: rest => literal v :: literals rest

/-- The texts of the entries of a table. -/
def literalEntries : List (String × Value) → List String
  | [] => []
  | (name, v) :: rest => (Text.quoted name ++ ": " ++ literal v) :: literalEntries rest

/-- The texts of the entries of a table by any keys. -/
def literalPairs : List (Value × Value) → List String
  | [] => []
  | (key, v) :: rest => (literal key ++ ": " ++ literal v) :: literalPairs rest

end

/-- The text of a value by itself: a text stands for itself, without quotes, and a day or a moment is
written as people write it. -/
def display : Value → String
  | .text s => s
  | .date d => d.iso
  | .moment m => m.display
  | v => literal v

/-! ### Plain values -/

mutual

/-- Whether a value contains itself. -/
def isEndless : Value → Bool
  | .endless => true
  | .list items | .set items => anyEndless items
  | .table entries => entriesEndless entries
  | .mapping entries => pairsEndless entries
  | _ => false

/-- Whether one of some values contains itself. -/
def anyEndless : List Value → Bool
  | [] => false
  | v :: rest => isEndless v || anyEndless rest

/-- Whether one of the values of a table contains itself. -/
def entriesEndless : List (String × Value) → Bool
  | [] => false
  | (_, v) :: rest => isEndless v || entriesEndless rest

/-- Whether one of the values of a table by any keys contains itself. -/
def pairsEndless : List (Value × Value) → Bool
  | [] => false
  | (_, v) :: rest => isEndless v || pairsEndless rest

end

/-- Puts a value where it belongs in an ordered list of texts. -/
def insertSorted (v : Value) : List Value → List Value
  | [] => [v]
  | w :: rest => if v.display < w.display then v :: w :: rest else w :: insertSorted v rest

mutual

/-- The same value without octets, days, sets and keys that are no texts, as it is shown: octets in
hexadecimal, sets in order, and everything else by its text. A key hides an earlier one with its text. -/
def plain : Value → Value
  | .bytes b => .text (String.ofList (Hex.encode b))
  | .date d => .text d.iso
  | .moment m => .text m.iso
  | .list items => .list (plains items)
  | .set items => .list ((plains items).foldr insertSorted [])
  | .table entries => .table (plainEntries entries)
  | .mapping entries => .table (plainPairs [] entries)
  | v => v

/-- The items of a list, plain. -/
def plains : List Value → List Value
  | [] => []
  | v :: rest => plain v :: plains rest

/-- The entries of a table, plain. -/
def plainEntries : List (String × Value) → List (String × Value)
  | [] => []
  | (name, v) :: rest => (name, plain v) :: plainEntries rest

/-- The entries of a table by any keys, plain, behind some others. -/
def plainPairs (found : List (String × Value)) : List (Value × Value) → List (String × Value)
  | [] => found
  | (key, v) :: rest => plainPairs (Entries.put key.display (plain v) found) rest

end

end Value

end LakeStore
