import LedgerFlow.Number.Integer
import LedgerFlow.Number.Binary64
/-!
Floating-point literals with a point: an optional sign, digits before or after the point or on both
sides, and an optional power of ten. Digits of any script count, with single underscores between
them.
-/
namespace LedgerFlow.Number
open Text

def isExponentMark (c : Char) : Bool := c = 'e' || c = 'E'

def optionalRow? (cs : List Char) : Option (List Nat) :=
  if cs.isEmpty then some [] else digitRow? cs

def exponent? : List Char → Option Int
  | [] => some 0
  | _ :: cs =>
    let (negative, digits) := splitSign cs
    (digitRow? digits).map fun row =>
      if negative then -(ofDigits row : Int) else (ofDigits row : Int)

def float? (cs : List Char) : Option Binary64 :=
  let (negative, body) := splitSign cs
  let mantissa := body.takeWhile fun c => !isExponentMark c
  let whole := mantissa.takeWhile (· ≠ '.')
  let fraction := (mantissa.dropWhile (· ≠ '.')).drop 1
  match optionalRow? whole, optionalRow? fraction,
      exponent? (body.dropWhile fun c => !isExponentMark c) with
  | some before, some after, some e =>
    if before.isEmpty && after.isEmpty then none
    else some (Binary64.ofDecimal negative (ofDigits (before ++ after)) (e - after.length))
  | _, _, _ => none

end LedgerFlow.Number
