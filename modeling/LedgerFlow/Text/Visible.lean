import LedgerFlow.Text.CodeRange
import LedgerFlow.Text.VisibleTable
/-!
Which characters have a visible form.
-/
namespace LedgerFlow.Text

def isVisible (c : Char) : Bool :=
  !inRanges invisibleRanges c.toNat

end LedgerFlow.Text
