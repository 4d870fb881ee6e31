import LedgerFlow.Text.DigitTable
/-!
Decimal digits of any script, with their values.
-/
namespace LedgerFlow.Text

def digitValue? (c : Char) : Option Nat :=
  digitZeros.findSome? fun start =>
    if start ≤ c.toNat ∧ c.toNat < start + 10 then some (c.toNat - start) else none

def isDecimal (c : Char) : Bool := (digitValue? c).isSome

def isAsciiDigit (c : Char) : Bool := '0' ≤ c && c ≤ '9'

end LedgerFlow.Text
