import LedgerFlow.Text.CodeRange
import LedgerFlow.Text.IdentifierTable
/-!
Identifiers: a letter or an underscore, and then letters, marks, digits and connectors of any
script.
-/
namespace LedgerFlow.Text

def startsIdentifier (c : Char) : Bool := c = '_' || inRanges identifierStarts c.toNat

def continuesIdentifier (c : Char) : Bool :=
  inRanges identifierStarts c.toNat || inRanges identifierMarks c.toNat

def isIdentifier : List Char → Bool
  | [] => false
  | c :: rest => startsIdentifier c && rest.all continuesIdentifier

end LedgerFlow.Text
