import LakeStore.Value

/-!
Laying one value over another.

Tables are laid over each other entry by entry, so that an entry of the upper one does not hide what the lower
one holds beside it. Everything else hides what lies below. What is laid on top never has keys that are no
texts.
-/

namespace LakeStore

mutual

/-- A value laid over another one. -/
def Value.over (lower : Value) : (upper : Value) → Value
  | .table upper =>
    match lower.keyed? with
    | some lower => .ofKeyed (Entries.overKeyed lower upper)
    | none => .table upper
  | v => v

/-- Entries laid over others, which may go by any keys. Those that are only above come last. -/
def Entries.overKeyed (lower : List (Value × Value)) : (upper : List (String × Value)) → List (Value × Value)
  | [] => lower
  | (name, v) :: rest =>
    let v := match lower.find? fun e => e.1.text? == some name with
      | some below => Value.over below.2 v
      | none => v
    Entries.overKeyed (Value.putKeyed (.text name) v lower) rest

end

/-- Entries laid over others. Those that are only above come last. -/
def Entries.over (lower upper : List (String × Value)) : List (String × Value) :=
  Value.named (Entries.overKeyed (lower.map fun e => (.text e.1, e.2)) upper)

end LakeStore
