/-!
Typed arguments of a transaction.
-/
namespace LedgerFlow

structure Attribute where
  name : String
  type : String := "string"
  deriving DecidableEq, Repr

def Attribute.text (a : Attribute) : String := "(" ++ a.name ++ ":" ++ a.type ++ ")"

end LedgerFlow
