/-!
# Sets of characters

A set of characters is written as a list of closed ranges of code points in
increasing order.
-/

namespace RaceTape
namespace Text

/--
Whether code point `n` lies in one of the ranges.  The search ends at the first range
that begins above `n`, so the ranges stand in increasing order.
-/
def inRanges (n : Nat) : List (Nat × Nat) -> Bool
  | [] => false
  | (low, high) :: rest =>
      if n < low then false
      else if n ≤ high then true
      else inRanges n rest

end Text
end RaceTape
