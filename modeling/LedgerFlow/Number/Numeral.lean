import LedgerFlow.Number.Binary64
/-!
Comparison and divisibility between integers and floating-point numbers, by exact value: nothing is
rounded before it is compared.
-/
namespace LedgerFlow.Number

inductive Numeral where
  | whole (n : Int)
  | float (x : Binary64)
  deriving DecidableEq, Repr

/-- A place on the line of numbers: `coefficient * 2 ^ exponent`, or beyond all of them. -/
inductive Place where
  | below
  | at (coefficient : Int) (exponent : Int)
  | above

def signed (negative : Bool) (n : Nat) : Int := if negative then -(n : Int) else (n : Int)

def Numeral.place? : Numeral → Option Place
  | .whole n => some (.at n 0)
  | .float .nan => none
  | .float (.infinite negative) => some (if negative then .below else .above)
  | .float (.finite negative m e) => some (.at (signed negative m) e)

def difference (a : Int) (e : Int) (b : Int) (f : Int) : Int :=
  let low := min e f
  a * Int.pow 2 (e - low).toNat - b * Int.pow 2 (f - low).toNat

def Place.lt : Place → Place → Bool
  | .below, .below => false
  | .below, _ => true
  | .at _ _, .below => false
  | .at a e, .at b f => difference a e b f < 0
  | .at _ _, .above => true
  | .above, _ => false

def Place.same : Place → Place → Bool
  | .below, .below => true
  | .above, .above => true
  | .at a e, .at b f => difference a e b f == 0
  | _, _ => false

def Numeral.lt (x y : Numeral) : Bool :=
  match x.place?, y.place? with
  | some p, some q => p.lt q
  | _, _ => false

def Numeral.same (x y : Numeral) : Bool :=
  match x.place?, y.place? with
  | some p, some q => p.same q
  | _, _ => false

def Numeral.le (x y : Numeral) : Bool := x.lt y || x.same y

def Numeral.isWhole : Numeral → Bool
  | .whole _ => true
  | .float x => x.isWhole

/-- Whether one number is an integer times the other, exactly. -/
def Numeral.divides (divisor value : Numeral) : Bool :=
  match divisor.place?, value.place? with
  | some (.at b f), some (.at a e) =>
    let low := min e f
    let d := b * Int.pow 2 (f - low).toNat
    d != 0 && a * Int.pow 2 (e - low).toNat % d == 0
  | _, _ => false

inductive DivisionFault where
  | zeroStep
  /-- An integer that is beyond the floating-point numbers. -/
  | tooLarge
  | notANumber
  | infinite
  deriving DecidableEq, Repr

def Numeral.toBinary64 : Numeral → Except DivisionFault Binary64
  | .whole n => if (Binary64.ofInt n).isFinite then .ok (.ofInt n) else .error .tooLarge
  | .float x => .ok x

/-- Whether a number counts as a multiple. For an integer step the remainder decides, of a
floating-point number by the step rounded to one; for another step the rounded quotient, and where
that is too large the exact one. -/
def Numeral.isMultipleOf (value step : Numeral) : Except DivisionFault Bool :=
  match value, step with
  | .whole _, .whole n => if n = 0 then .error .zeroStep else .ok (step.divides value)
  | .float _, .whole n => do
    let y ← step.toBinary64
    if n = 0 then .error .zeroStep else .ok ((Numeral.float y).divides value)
  | _, .float y => do
    let x ← value.toBinary64
    if y.isZero then .error .zeroStep
    else
      match x.divide y with
      | .nan => .error .notANumber
      | .infinite _ => if x.isFinite then .ok (step.divides value) else .error .infinite
      | quotient => .ok quotient.isWhole

end LedgerFlow.Number
