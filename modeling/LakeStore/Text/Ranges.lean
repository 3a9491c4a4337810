/-!
Sets of characters as ordered tables of ranges, looked up by halving.
-/

namespace LakeStore.Text

/-- Whether some range at or after `low` and before `high` holds `n`, by halving; the ranges are in
order. -/
def inRanges (ranges : Array (Nat × Nat)) (n : Nat) (low high : Nat) : Bool :=
  if low < high then
    let middle := (low + high) / 2
    match ranges[middle]? with
    | none => false
    | some (first, last) =>
      if n < first then inRanges ranges n low middle
      else if last < n then inRanges ranges n (middle + 1) high
      else true
  else false
termination_by high - low

/-- Whether one of the ranges of a table holds a character. -/
def isWithin (ranges : Array (Nat × Nat)) (c : Char) : Bool := inRanges ranges c.toNat 0 ranges.size

end LakeStore.Text
