import LedgerFlow.Number.Binary64
/-!
The shortest decimal that reads back as a given number. Every real number between the midpoints to
the two neighbours reads as the number, the midpoints too when the mantissa is even. Among the
decimals of one length only the two next to the number have to be tried; the first length with a hit
wins, and of two hits the nearer one.
-/
namespace LedgerFlow.Number

/-- A positive number `value`, and the ends of the interval that reads as it, over one
denominator. -/
structure ReadingInterval where
  low : Nat
  value : Nat
  high : Nat
  den : Nat
  closed : Bool

namespace ReadingInterval

/-- Below a power of two the neighbour is only half as far. -/
def ofBinary (m : Nat) (e : Int) : ReadingInterval :=
  let low := if m = Nat.pow 2 52 && Binary64.leastExponent < e then 4 * m - 1 else 4 * m - 2
  let up := Nat.pow 2 (e - 2).toNat
  let down := Nat.pow 2 (2 - e).toNat
  { low := low * up, value := 4 * m * up, high := (4 * m + 2) * up, den := down, closed :=
    m % 2 == 0 }

def rescale (r : ReadingInterval) (k : Int) : ReadingInterval :=
  if 0 ≤ k then { r with den := r.den * Nat.pow 10 k.toNat }
  else
    let p := Nat.pow 10 (-k).toNat
    { r with low := r.low * p, value := r.value * p, high := r.high * p }

def contains (r : ReadingInterval) (n : Nat) : Bool :=
  if r.closed then r.low ≤ n * r.den && n * r.den ≤ r.high
  else r.low < n * r.den && n * r.den < r.high

def nearest? (r : ReadingInterval) : Option Nat :=
  let q := r.value / r.den
  let rest := r.value % r.den
  match r.contains q, r.contains (q + 1) with
  | false, false => none
  | true, false => some q
  | false, true => some (q + 1)
  | true, true =>
    if 2 * rest < r.den || (2 * rest == r.den && q % 2 == 0) then some q else some (q + 1)

/-- The place of the leading digit: the value is at least `10 ^ (p - 1)` and below `10 ^ p`. -/
def magnitude (r : ReadingInterval) : Int :=
  if r.den ≤ r.value then (Nat.toDigits 10 (r.value / r.den)).length
  else 1 - (Nat.toDigits 10 (r.den / r.value)).length

end ReadingInterval

def stripZeros : Nat → Nat → Nat × Nat
  | 0, n => (n, 0)
  | fuel + 1, n =>
    if n != 0 && n % 10 == 0 then
      let (m, k) := stripZeros fuel (n / 10)
      (m, k + 1)
    else (n, 0)

/-- The shortest `d` and its `k`, so that `d * 10 ^ k` reads as `m * 2 ^ e`. -/
def shortestDecimal (m : Nat) (e : Int) : Nat × Int :=
  let r := ReadingInterval.ofBinary m e
  let p := r.magnitude
  let hit? (width : Nat) : Option (Nat × Int) :=
    let k := p - width
    (r.rescale k).nearest?.map fun d =>
      let (d, zeros) := stripZeros 20 d
      (d, k + zeros)
  ((List.range 17).findSome? fun width => hit? (width + 1)).getD (m, e)

end LedgerFlow.Number
