import LakeStore.Yaml.Cursor

/-!
The tokens of YAML documents.
-/

namespace LakeStore.Yaml

/-- A token. Blocks are delimited by tokens that no character stands for. -/
inductive Token where
  /-- A version, of which only the first number counts. -/
  | version (major : Nat)
  /-- A short form of tags, and what it stands for. -/
  | shortcut (handle lead : String)
  /-- A directive without meaning. -/
  | directive
  | documentStart
  | documentEnd
  | streamEnd
  | blockSequence
  | blockMapping
  | blockEnd
  | flowSequence
  | flowSequenceEnd
  | flowMapping
  | flowMappingEnd
  | blockEntry
  | flowEntry
  | key
  | value
  | alias (name : String)
  | anchor (name : String)
  | tag (handle : Option String) (suffix : String)
  /-- A scalar; plain ones are written without quotes and not as a block. -/
  | scalar (text : String) (plain : Bool)
  /-- From here on there are no tokens. -/
  | fault (f : Fault)
  deriving DecidableEq, Repr

end LakeStore.Yaml
