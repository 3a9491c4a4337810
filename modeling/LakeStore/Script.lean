/-!
Scripted answers: they are given in order, and the last one again and again.
-/

namespace LakeStore.Script

variable {α : Type}

/-- The next answer, and what is left of the script. An empty script has no answer. -/
def next : List α → Option α × List α
  | [] => (none, [])
  | [a] => (some a, [a])
  | a :: b :: rest => (some a, b :: rest)

end LakeStore.Script
