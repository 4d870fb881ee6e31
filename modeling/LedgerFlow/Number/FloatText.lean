import LedgerFlow.Number.Integer
import LedgerFlow.Number.Shortest
/-!
Floating-point numbers as text: the shortest digits that read back, written out in full between a
ten thousandth and ten to the sixteenth, and with an exponent of at least two digits elsewhere.
-/
namespace LedgerFlow.Number

/-- How the numbers are written that have no digits, and between which powers of ten no exponent
is. -/
structure FloatLayout where
  nan : String
  infinity : String
  leastPositional : Int := -4
  firstScientific : Int := 16

def FloatLayout.message : FloatLayout := { nan := "nan", infinity := "inf" }

def FloatLayout.json : FloatLayout := { nan := "NaN", infinity := "Infinity" }

/-- Digits with the point after the first `point` of them, zeros filled in on either side. -/
def positional (digits : List Char) (point : Int) : List Char :=
  if point ≤ 0 then '0' :: '.' :: List.replicate (-point).toNat '0' ++ digits
  else
    let n := point.toNat
    if digits.length ≤ n then digits ++ List.replicate (n - digits.length) '0' ++ ['.', '0']
    else digits.take n ++ '.' :: digits.drop n

def exponentText (x : Int) : List Char :=
  let digits := decimalDigits x.natAbs
  (if x < 0 then '-' else '+') :: List.replicate (2 - digits.length) '0' ++ digits

def scientific (digits : List Char) (x : Int) : List Char :=
  match digits with
  | [] => []
  | [d] => d :: 'e' :: exponentText x
  | d :: rest => d :: '.' :: rest ++ 'e' :: exponentText x

def magnitudeText (layout : FloatLayout) (m : Nat) (e : Int) : List Char :=
  if m = 0 then ['0', '.', '0']
  else
    let (d, k) := shortestDecimal m e
    let digits := decimalDigits d
    let point := k + digits.length
    let x := point - 1
    if layout.leastPositional ≤ x && x < layout.firstScientific then positional digits point
    else scientific digits x

def Binary64.text (layout : FloatLayout) : Binary64 → List Char
  | .nan => layout.nan.toList
  | .infinite negative => (if negative then ['-'] else []) ++ layout.infinity.toList
  | .finite negative m e => (if negative then ['-'] else []) ++ magnitudeText layout m e

end LedgerFlow.Number
