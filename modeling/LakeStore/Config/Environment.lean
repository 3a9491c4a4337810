import LakeStore.Json.Reader
import LakeStore.Text.Case
import LakeStore.Value.Overlay

/-!
What the variables of the environment say about the configuration.

A variable names a section, or a path inside one with a delimiter between its parts; unless it is said
otherwise, the case of names does not count. A section, and the table of substrates, is written in JSON.
Everything else is a text. What stands at a path is laid over what stands in the section as a whole.
-/

namespace LakeStore.Config

/-- The sections of a configuration. -/
inductive Section where
  | logging
  | components
  deriving DecidableEq, Repr

namespace Section

/-- All sections, in order. -/
def all : List Section := [.logging, .components]

/-- The name of a section. -/
def name : Section → String
  | .logging => "logging"
  | .components => "components"

/-- The names of the fields of a section. -/
def fields : Section → List String
  | .logging => ["level", "json_output", "service", "environment"]
  | .components => ["substrate"]

end Section

/-- How variables are named. -/
structure Naming where
  /-- What the names of all variables start with. -/
  lead : String := "LAKEBLOB_"
  /-- What stands between the parts of a path. -/
  delimiter : String := "__"
  /-- Whether the case of names counts. -/
  isCased : Bool := false
  /-- Whether variables without a value are passed over. -/
  passesEmpty : Bool := false
  /-- How many parts a path has at most, if there is a bound. -/
  parts : Option Nat := none

namespace Naming

/-- A name as it is compared. -/
def normal (n : Naming) (s : String) : String := if n.isCased then s else Text.lower s

/-- The name of the variable of a section or of a field. -/
def name (n : Naming) (name : String) : String := n.normal (n.lead ++ name)

/-- Whether a part of a path stands for a field. -/
def denotes (n : Naming) (part field : String) : Bool :=
  n.normal part == field || n.normal part == n.name field

/-- The pieces of a text between delimiters, cut at most some times. -/
def cutWithin (delimiter : List Char) : (cuts : Nat) → List (List Char) → List (List Char)
  | 0, pieces => [(pieces.intersperse delimiter).flatten]
  | _, [] => []
  | cuts + 1, piece :: rest => if rest = [] then [piece] else piece :: cutWithin delimiter cuts rest

/-- The parts of a path. -/
def path (n : Naming) (s : String) : List String :=
  let pieces := Text.pieces n.delimiter.toList s.toList
  let pieces := match n.parts with
    | some (cuts + 1) => cutWithin n.delimiter.toList cuts pieces
    | _ => pieces
  pieces.map String.ofList

/-- The naming that options of the caller ask for. -/
def ofOptions (options : List (String × Value)) : Naming :=
  let text (name absent : String) : String := ((Entries.find? name options).bind Value.text?).getD absent
  let flag (name : String) : Bool := ((Entries.find? name options).map Value.isTruthy).getD false
  { lead := text "_env_prefix" "LAKEBLOB_"
    delimiter := text "_env_nested_delimiter" "__"
    isCased := flag "_case_sensitive"
    passesEmpty := flag "_env_ignore_empty"
    parts := match Entries.find? "_env_nested_max_split" options with
      | some (.int n) => some n.toNat
      | _ => none }

end Naming

/-- Variables by name. -/
abbrev Environment := List (String × String)

/-- Why the environment cannot be read. -/
inductive Environment.Fault where
  /-- A variable of a section is no JSON. -/
  | value (s : Section)
  /-- The value of a variable is nested too deep. -/
  | depth
  deriving DecidableEq, Repr

namespace Environment

/-- The variables by their names as they are compared. Of several of one name, the last one counts. -/
def normal (n : Naming) (e : Environment) : Environment :=
  Entries.putAll [] ((e.filter fun v => !(n.passesEmpty && v.2 = "")).map fun v => (n.normal v.1, v.2))

/-- The variables inside a section, by their paths. Without a delimiter there are none. -/
def inside (n : Naming) (e : Environment) (s : Section) : List (List String × String) :=
  if n.delimiter = "" then []
  else
    e.filterMap fun v =>
      (Text.after? (n.name s.name ++ n.delimiter) v.1).map fun path => (n.path path, v.2)

/-- The deepest nesting of a value. -/
def greatestDepth : Nat := 975

/-- A value that is written in JSON. -/
def json (s : Section) (text : String) : Except Fault Value :=
  match Json.readWithin greatestDepth text.toList, Json.readWithin text.length text.toList with
  | some v, _ => .ok v
  | none, some _ => .error .depth
  | none, none => .error (.value s)

/-- The value of a variable inside a section. -/
def value (n : Naming) (s : Section) (path : List String) (text : String) : Except Fault Value :=
  match s, path with
  | .components, [part] =>
    if text ≠ "" ∧ s.fields.any (n.denotes part) then json s text else .ok (.text text)
  | _, _ => .ok (.text text)

/-- Sets the value at a path. Tables on the way are made; any other value there stays and is in the way. -/
def setAt (v : Value) : (path : List String) → List (String × Value) → List (String × Value)
  | [], es => es
  | [name], es => Entries.put name v es
  | name :: path, es =>
    match Entries.find? name es with
    | none => Entries.put name (.table (setAt v path [])) es
    | some (.table inner) => Entries.put name (.table (setAt v path inner)) es
    | some _ => es

/-- The entries that paths inside a section make up. -/
def built (n : Naming) (e : Environment) (s : Section) : Except Fault (List (String × Value)) :=
  (e.inside n s).foldlM (fun es (path, text) => (value n s path text).map fun v => setAt v path es) []

/-- The entries of a section, with the names of its fields as they are declared. -/
def declared (n : Naming) (s : Section) (entries : List (String × Value)) : List (String × Value) :=
  if n.isCased then entries
  else
    Entries.putAll [] (entries.map fun e =>
      ((s.fields.find? fun field => field = Text.lower e.1).getD e.1, e.2))

/-- What the environment says about a section, if it says anything. -/
def section? (n : Naming) (e : Environment) (s : Section) : Except Fault (Option Value) := do
  match Entries.find? (n.name s.name) e with
  | none =>
    let es ← e.built n s
    return if es = [] then none else some (.table (declared n s es))
  | some text =>
    match ← json s text with
    | .null => return none
    | .table whole => return some (.table (declared n s (Entries.over whole (← e.built n s))))
    | v => return some v

/-- The sections that the environment gives. -/
def sections (n : Naming) (e : Environment) : Except Fault (List (String × Value)) :=
  Section.all.foldlM (fun es s => do
    match ← (e.normal n).section? n s with
    | some v => return Entries.put s.name v es
    | none => return es) []

end Environment

end LakeStore.Config
