import LakeStore.Yaml.Object
import LakeStore.Yaml.Token.Lexer

/-!
Documents: the entries at the root of a text.

A root that says nothing is an empty one, and a sequence of pairs counts as a mapping.
-/

namespace LakeStore.Yaml

/-- The entries of a document, by their keys. -/
abbrev Document := List (Value × Value)

namespace Document

/-- The parts of a value, one after the other. -/
def parts? : Value → Option (List Value)
  | .text s => some (s.toList.map fun c => .text c.toString)
  | .bytes b => some (b.map fun n => .int n.toNat)
  | .list items | .set items => some items
  | .table entries => some (entries.map fun e => .text e.1)
  | .mapping entries => some (entries.map Prod.fst)
  | _ => none

/-- Whether a value can be a key. -/
def isKey : Value → Bool
  | .list _ | .set _ | .table _ | .mapping _ | .endless => false
  | _ => true

/-- An entry that is written as a pair. -/
def entry (v : Value) : Except Fault (Value × Value) :=
  match parts? v with
  | some [key, v] => if isKey key then .ok (key, v) else .error .noEntries
  | some _ => .error .noPairs
  | none => .error .noEntries

/-- The document with a value at its root. -/
def ofValue (v : Value) : Except Fault Document :=
  if !v.isTruthy then .ok []
  else
    match v.keyed?, parts? v with
    | some entries, _ => .ok entries
    | none, some items => do
      return (← items.mapM entry).foldl (fun found e => Value.putKeyed e.1 e.2 found) []
    | none, none => .error .noEntries

/-- The document that a text spells. -/
def ofText (s : String) : Except Fault Document := do
  match ← Node.ofTokens (Token.ofText s) with
  | some g => ofValue (← g.value)
  | none => .ok []

end Document

end LakeStore.Yaml
