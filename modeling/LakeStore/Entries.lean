/-!
Named entries in the order in which their names first came.

Setting a name that is there changes its entry in place. A list that was not built by setting may hold a
name twice; then the later entry counts.
-/

namespace LakeStore.Entries

variable {α β : Type}

/-- The value under a name: that of the last entry that goes by it. -/
def find? (name : String) (entries : List (String × α)) : Option α :=
  entries.foldl (fun found e => if e.1 = name then some e.2 else found) none

/-- Sets one entry: in place if the name is there, at the end if it is not. -/
def put (name : String) (a : α) : List (String × α) → List (String × α)
  | [] => [(name, a)]
  | (n, b) :: rest => if n = name then (n, a) :: rest else (n, b) :: put name a rest

/-- Sets entries in order. -/
def putAll (entries more : List (String × α)) : List (String × α) :=
  more.foldl (fun acc e => put e.1 e.2 acc) entries

/-- The names of some entries. -/
def names (entries : List (String × α)) : List String := entries.map Prod.fst

/-- The entries that go by none of some names. -/
def without (names : List String) (entries : List (String × α)) : List (String × α) :=
  entries.filter fun e => !names.contains e.1

/-- The same names with other values. -/
def mapValues (f : α → β) (entries : List (String × α)) : List (String × β) :=
  entries.map fun e => (e.1, f e.2)

end LakeStore.Entries
