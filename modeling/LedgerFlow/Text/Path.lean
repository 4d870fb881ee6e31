import LedgerFlow.Text.Split
/-!
File paths in their shortest spelling: no empty parts and no parts that stay where they are.
-/
namespace LedgerFlow.Text

/-- The slashes at the start of a path that count: one, or exactly two. -/
def pathRoot : List Char → List Char
  | '/' :: '/' :: '/' :: _ => ['/']
  | '/' :: '/' :: _ => ['/', '/']
  | '/' :: _ => ['/']
  | _ => []

def pathParts (cs : List Char) : List (List Char) :=
  (splitAll '/' cs).filter fun part => part ≠ [] ∧ part ≠ ['.']

def normalPath (path : String) : String :=
  let cs := path.toList
  let spelled := pathRoot cs ++ joinChars ['/'] (pathParts cs)
  if spelled.isEmpty then "." else String.ofList spelled

end LedgerFlow.Text
