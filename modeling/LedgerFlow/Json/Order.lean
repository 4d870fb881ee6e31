import LedgerFlow.Json.Basic
/-!
The order of values: numbers by value, texts by their characters, and arrays by the first items that
differ. Other values have no order among them, nor have values of different kinds. Inside of arrays
a boolean counts as the number zero or one.
-/
namespace LedgerFlow.Json
open Number

def amount? : Json → Option Numeral
  | .bool b => some (.whole (if b then 1 else 0))
  | v => v.numeral?

mutual

/-- Equality by value, booleans taken as numbers. -/
def alike : Json → Json → Bool
  | .null, .null => true
  | .text a, .text b => a == b
  | .array xs, .array ys => alikeItems xs ys
  | .object fs, .object gs => fs.length == gs.length && alikeFields fs gs
  | v, w =>
    match v.amount?, w.amount? with
    | some a, some b => a == b || a.same b
    | _, _ => false

def alikeItems : List Json → List Json → Bool
  | [], [] => true
  | x :: xs, y :: ys => alike x y && alikeItems xs ys
  | _, _ => false

def alikeFields : List (String × Json) → List (String × Json) → Bool
  | [], _ => true
  | (k, v) :: fs, gs =>
    (match Table.get? gs k with
      | some w => alike v w
      | none => false) && alikeFields fs gs

end

mutual

def before? : Json → Json → Option Bool
  | .text a, .text b => some (a < b)
  | .array xs, .array ys => itemsBefore? xs ys
  | v, w =>
    match v.amount?, w.amount? with
    | some a, some b => some (a.lt b)
    | _, _ => none

/-- Arrays are compared where their items first differ; a beginning comes before the whole. -/
def itemsBefore? : List Json → List Json → Option Bool
  | [], ys => some !ys.isEmpty
  | _ :: _, [] => some false
  | x :: xs, y :: ys => if alike x y then itemsBefore? xs ys else before? x y

end

end LedgerFlow.Json
