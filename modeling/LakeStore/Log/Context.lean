import LakeStore.Value

/-!
The logging context: texts bound under names, that go onto every record until they are cleared.

Values are bound by their text; an absent value leaves the context as it is. A block binds values for its
duration and restores what was bound before.
-/

namespace LakeStore.Log

/-- What is bound, in the order in which the names were first bound. -/
abbrev Context := List (String × String)

namespace Context

/-- Binds one value, unless it is absent. -/
def bindOne (c : Context) (name : String) : Value → Context
  | .null => c
  | v => Entries.put name v.display c

/-- Binds values in order. -/
def bind (c : Context) (values : List (String × Value)) : Context :=
  values.foldl (fun c e => c.bindOne e.1 e.2) c

/-- What is bound, as entries of a record. -/
def entries (c : Context) : List (String × Value) := Entries.mapValues Value.text c

/-- Clears some names, or all if none are given. -/
def clear (c : Context) (names : List String) : Context := if names = [] then [] else Entries.without names c

/-- A context and those that are to be restored, the innermost block first. -/
structure Scope where
  current : Context := []
  saved : List Context := []
  deriving DecidableEq, Repr

namespace Scope

/-- Binds values in the current context. -/
def bind (s : Scope) (values : List (String × Value)) : Scope := { s with current := s.current.bind values }

/-- Clears names in the current context. -/
def clear (s : Scope) (names : List String) : Scope := { s with current := s.current.clear names }

/-- Begins a block with values bound. -/
def enter (s : Scope) (values : List (String × Value)) : Scope :=
  ⟨s.current.bind values, s.current :: s.saved⟩

/-- Ends the innermost block, whatever was bound in it. -/
def leave (s : Scope) : Scope :=
  match s.saved with
  | [] => s
  | c :: rest => ⟨c, rest⟩

end Scope

end Context

end LakeStore.Log
