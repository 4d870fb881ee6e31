/-!
Sets of characters, given as closed ranges of code points in increasing order. A look-up stops at
the first range that lies beyond the code point.
-/
namespace LedgerFlow.Text

def inRanges : List (Nat × Nat) → Nat → Bool
  | [], _ => false
  | (first, last) :: rest, n => first ≤ n && (n ≤ last || inRanges rest n)

end LedgerFlow.Text
