import LakeStore.Account
import LakeStore.Config.Environment
import LakeStore.Log.Settings
import LakeStore.Yaml.Document

/-!
The configuration of a process, from what the caller gives, the environment and a document.

What the caller gives counts more than the environment, and that more than the document, leaf by leaf. The
settings of a backend are kept as they were found, under the kind and the name of the component; the backend
reads them when it is started. Several faults of one configuration are reported together.
-/

namespace LakeStore

/-- Why there is no configuration, or no component of it. -/
inductive ConfigError where
  | document (f : Yaml.Fault)
  /-- The environment cannot be read. -/
  | environment (f : Config.Environment.Fault)
  /-- The key of a section has no case. -/
  | caseless
  /-- The key of a section is no text. -/
  | nameless
  | invalid (issues : List Issue)
  /-- A component does not go by a kind and a name. -/
  | componentId (id : String)
  /-- The settings of a component are no table. -/
  | notTable (kind name : String)
  /-- The base of the account is no URL. -/
  | base
  /-- The configuration contains itself, so it cannot be written down. -/
  | endless
  deriving Repr

namespace ConfigError

/-- The name under which a fault of a document is reported. -/
def documentName : Yaml.Fault → String
  | .character => "ReaderError"
  | .token => "ScannerError"
  | .grammar => "ParserError"
  | .reference => "ComposerError"
  | .type => "ConstructorError"
  | .scalar | .noPairs => "ValueError"
  | .word => "KeyError"
  | .empty => "IndexError"
  | .form => "AttributeError"
  | .collection | .noEntries => "TypeError"
  | .size => "OverflowError"
  | .depth => "RecursionError"

/-- The name under which an error is reported. -/
def name : ConfigError → String
  | .document f => documentName f
  | .componentId _ => "ValueError"
  | .caseless => "AttributeError"
  | .nameless | .notTable .. => "TypeError"
  | .environment (.value _) => "SettingsError"
  | .environment .depth | .endless => "RecursionError"
  | .invalid _ => "ValidationError"
  | .base => "InvalidURL"

/-- What is wrong, in words, where there are words for it. -/
def message? : ConfigError → Option String
  | .environment (.value s) =>
    some ("error parsing value for field \"" ++ s.name ++ "\" from source \"EnvSettingsSource\"")
  | .componentId id => some ("component id must be <kind>_<name>: " ++ id)
  | .notTable kind name => some ("components." ++ kind ++ "." ++ name ++ " must be a mapping")
  | _ => none

end ConfigError

/-- A configuration. -/
structure Config where
  logging : Log.Settings
  /-- The settings of the substrates, by name. -/
  substrates : List (String × Value)
  /-- Components of kinds that are not known. -/
  others : List (String × Value) := []

namespace Config

/-! ### Sources -/

/-- What the sources say, from the one that counts most. -/
structure Sources where
  given : List (String × Value) := []
  environment : List (String × Value) := []
  document : List (String × Value) := []

/-- The entries that stand for sections, under the names of these, whatever the case of their letters. Of
several keys of a section the first one counts. -/
def declared (entries : List (String × Value)) : List (String × Value) :=
  Section.all.filterMap fun s => (entries.find? fun e => Text.lower e.1 = s.name).map fun e => (s.name, e.2)

/-- The entries of a document that go by names. A key without case is a fault at once; one that is no text
but has letters is one only later. -/
def named (document : Yaml.Document) : Except ConfigError (List (String × Value) × Bool) :=
  let isOctets (key : Value) : Bool := match key with
    | .bytes _ => true
    | _ => false
  if document.any fun e => e.1.text?.isNone && !isOctets e.1 then .error .caseless
  else .ok (Value.named document, document.any fun e => isOctets e.1)

/-- The entries of all sources, laid over each other. -/
def Sources.merged (s : Sources) : List (String × Value) :=
  Entries.over (declared s.document) (Entries.over s.environment (declared s.given))

/-! ### Components -/

/-- The kind of components that are stores. -/
def substrateKind : String := "substrate"

/-- What is wrong with the name of an entry that runs a kind and a name together. -/
def flatName? (key : String) : Option String :=
  match Text.cutAt '_' key.toList with
  | (kind, some name) =>
    if String.ofList kind = substrateKind then
      some ("components." ++ key ++ " is invalid; use components." ++ substrateKind ++ "." ++
        String.ofList name)
    else none
  | (_, none) => none

/-- The substrates, as a table of anything. -/
def readSubstrates (v : Value) : Checked (List (String × Value)) :=
  (Lax.record Checked.pure v).also (Lax.nameless v)

/-- The components: the substrates, and those of other kinds. -/
def readComponents (v : Value) : Checked (List (String × Value) × List (String × Value)) :=
  match (Value.named (v.keyed?.getD [])).findSome? fun e => flatName? e.1 with
  | some why => .flaw (.rule why)
  | none =>
    let read (entries : List (String × Value)) : Checked (List (String × Value) × List (String × Value)) :=
      (Checked.pure (·, Entries.without [substrateKind] entries)).apply
        (Lax.field entries substrateKind (some []) readSubstrates)
    (Lax.record read v).also (Lax.nameless v)

/-- The value of a section; one that is missing is empty. -/
def sectionOf (entries : List (String × Value)) (s : Section) : Value :=
  (Entries.find? s.name entries).getD (.table [])

/-- The configuration that entries spell; sections that are not known are passed over. -/
def ofEntries (entries : List (String × Value)) : Checked Config :=
  Checked.pure (fun logging components => ⟨logging, components.1, components.2⟩)
    |>.apply ((Lax.record Log.Settings.ofEntries (sectionOf entries .logging)).under Section.logging.name)
    |>.apply ((readComponents (sectionOf entries .components)).under Section.components.name)

/-- The configuration from what the caller gives, the variables of the environment, and the text of a
document, if there is one. A fault of the document comes before one of the environment. -/
def load (given : List (String × Value)) (environment : Environment) (text : Option String) :
    Except ConfigError Config := do
  let document ← (Yaml.Document.ofText (text.getD "")).mapError .document
  let (document, nameless) ← named document
  let environment ← (environment.sections (Naming.ofOptions given)).mapError .environment
  if nameless then throw .nameless
  (ofEntries (Sources.merged { given, environment, document })).mapError .invalid

/-! ### Settings of a component -/

/-- The settings of a component, as they were found. A component that is not mentioned has none. -/
def block (c : Config) (id : String) : Except ConfigError Value :=
  let (kind, name) := Text.cut '_' id
  if kind ≠ substrateKind ∨ name = "" then .error (.componentId id)
  else
    let v := (Entries.find? name c.substrates).getD (.table [])
    if v.keyed?.isSome then .ok v else .error (.notTable kind name)

/-- The settings of a component, read. -/
def resolve {α : Type} (c : Config) (id : String) (read : Value → Checked α) : Except ConfigError α := do
  (read (← c.block id)).mapError .invalid

/-- The account that the settings of the store describe. -/
def account (c : Config) : Except ConfigError Account := c.resolve Account.componentId Account.ofValue

/-- The components as entries. -/
def components (c : Config) : List (String × Value) := (substrateKind, .table c.substrates) :: c.others

/-- The entries of a configuration. -/
def toEntries (c : Config) : Except ConfigError (List (String × Value)) :=
  let components := Value.table c.components
  if components.isEndless then .error .endless
  else .ok [(Section.logging.name, .table c.logging.toEntries), (Section.components.name, components)]

end Config

end LakeStore
