import LedgerFlow.Text.UpperTable
/-!
Upper case of a whole text, character by character.
-/
namespace LedgerFlow.Text

def upperAt (c : Char) : List Char :=
  match upperExpansions.lookup c.toNat with
  | some codes => codes.map Char.ofNat
  | none =>
    match partner? smallRuns c.toNat with
    | some n => [Char.ofNat n]
    | none => [c]

def uppered (s : String) : String := String.ofList (s.toList.flatMap upperAt)

end LedgerFlow.Text
