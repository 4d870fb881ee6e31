import LedgerFlow.Pattern.Parser
import LedgerFlow.Pattern.Run
/-!
Searching a text for a pattern: the pattern is tried from place to place, and matches if one try
does.
-/
namespace LedgerFlow.Pattern

structure Program where
  ops : List Op
  least : Nat

def Tree.program (tree : Tree) : Program := ⟨sequenceOps tree.options tree.body, tree.width.least⟩

def Program.matchesAt (program : Program) (text : Array Char) (place : Nat) : Bool :=
  (run text (opsWeight program.ops * (text.size + 2)) program.ops (.finish false) place
    { place }).isMatch

/-- Whether a program matches anywhere in a text. No try starts where too few characters are left,
the first such place apart. -/
def Program.foundIn (program : Program) (text : Array Char) : Bool :=
  program.least ≤ text.size &&
    (List.range (text.size - (program.least - 1) + 1)).any (program.matchesAt text)

def search (pattern text : String) : Except Refusal Bool :=
  (Tree.ofText pattern).map fun tree => tree.program.foundIn text.toList.toArray

end LedgerFlow.Pattern
