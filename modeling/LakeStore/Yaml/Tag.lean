import LakeStore.Text.Trim

/-!
Tags: what a node says it is.
-/

namespace LakeStore.Yaml

/-- What a node is. -/
inductive Tag where
  | null
  | truth
  | integer
  | real
  | time
  | text
  | binary
  | sequence
  | mapping
  | set
  /-- A sequence of mappings with one entry each, which stand for pairs. -/
  | pairs
  /-- The mark of a mapping whose entries are taken over. -/
  | merge
  /-- The mark of the principal entry of a mapping. -/
  | principal
  /-- Something that no value stands for. -/
  | other
  deriving DecidableEq, Repr

namespace Tag

/-- What every tag of a standard type starts with. -/
def lead : String := "tag:yaml.org,2002:"

/-- The standard types by their names. -/
def standard : List (String × Tag) :=
  [("null", null), ("bool", truth), ("int", integer), ("float", real), ("timestamp", time), ("str", text),
   ("binary", binary), ("seq", sequence), ("map", mapping), ("set", set), ("omap", pairs), ("pairs", pairs),
   ("merge", merge), ("value", principal)]

/-- The type that a tag names. -/
def ofName (name : String) : Tag := ((Text.after? lead name).bind fun name => standard.lookup name).getD other

end Tag

end LakeStore.Yaml
