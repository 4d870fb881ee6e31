import LedgerFlow.Number.Integer
/-!
Steps into a value by field name or item number, as they show in the place of a complaint.
-/
namespace LedgerFlow.Json
open Number

inductive Step where
  | field (name : String)
  | item (index : Nat)
  deriving DecidableEq, Repr

def Step.label : Step → String
  | .field name => name
  | .item index => String.ofList (decimalDigits index)

def Step.suffix : Step → String
  | .field name => "." ++ name
  | .item index => "[" ++ String.ofList (decimalDigits index) ++ "]"

def pathText (path : List Step) : String :=
  path.foldl (fun text step => text ++ step.suffix) "$"

end LedgerFlow.Json
