/-!
# Ranges of code points

A class of characters is given by a table of closed ranges of code points in
increasing order. A character is looked up by halving the table.
-/

namespace RoleAccess.Text

/-- Searches the ranges from `low` up to but not including `high` for a code
point; `fuel` bounds the number of halvings. -/
def inRanges (ranges : Array (Nat × Nat)) (code : Nat) : (fuel low high : Nat) → Bool
  | 0, _, _ => false
  | fuel + 1, low, high =>
      if low < high then
        let middle := (low + high) / 2
        match ranges[middle]? with
        | none => false
        | some (first, last) =>
            if code < first then inRanges ranges code fuel low middle
            else if last < code then inRanges ranges code fuel (middle + 1) high
            else true
      else false

/-- Whether a character is in one of some ranges. -/
def isInRanges (ranges : Array (Nat × Nat)) (c : Char) : Bool :=
  inRanges ranges c.toNat ranges.size 0 ranges.size

end RoleAccess.Text
