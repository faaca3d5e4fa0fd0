/-!
# Ranges of characters

Classes of characters are kept as tables of ranges in ascending order, in which `inRanges` searches.
-/

namespace SpokeSim.Text

/-- Whether one of the ranges from index `lo` up to, not including, `hi` holds the number: a binary
search that halves the distance at each step. -/
def inRangesFrom (ranges : Array (Nat × Nat)) (n : Nat) : Nat → Nat → Nat → Bool
  | 0, _, _ => false
  | fuel + 1, lo, hi =>
    if lo < hi then
      let mid := (lo + hi) / 2
      match ranges[mid]? with
      | none => false
      | some (first, last) =>
        if n < first then inRangesFrom ranges n fuel lo mid
        else if last < n then inRangesFrom ranges n fuel (mid + 1) hi
        else true
    else false

/-- Whether one of some ranges, first and last of each, holds a number. -/
def inRanges (ranges : Array (Nat × Nat)) (n : Nat) : Bool :=
  inRangesFrom ranges n ranges.size 0 ranges.size

end SpokeSim.Text
