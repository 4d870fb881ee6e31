import LedgerFlow.Text.Digit
/-!
Integers as decimal text. Reading takes digits of any script, single underscores between digits, and
a sign; a literal of more than 4300 digits is refused, whatever its value.
-/
namespace LedgerFlow.Number
open Text

def digitLimit : Nat := 4300

def tooManyDigits (digits : Nat) : String :=
  s!"Exceeds the limit (4300 digits) for integer string conversion: value has {digits} digits; " ++
    "use sys.set_int_max_str_digits() to increase the limit"

def decimalDigits (n : Nat) : List Char := Nat.toDigits 10 n

def decimalText : Int → List Char
  | .ofNat n => decimalDigits n
  | .negSucc n => '-' :: decimalDigits (n + 1)

def ofDigits (digits : List Nat) : Nat := digits.foldl (fun n d => 10 * n + d) 0

/-- The values of a row of digits; one underscore may stand between two digits. -/
def digitRow? : List Char → Option (List Nat)
  | [] => none
  | c :: rest =>
    match digitValue? c, rest with
    | none, _ => none
    | some d, [] => some [d]
    | some d, next :: tail =>
      if next = '_' then (digitRow? tail).map (d :: ·) else (digitRow? (next :: tail)).map (d :: ·)

/-- The sign in front of a literal, as whether it is a minus, and what follows it. -/
def splitSign : List Char → Bool × List Char
  | '-' :: rest => (true, rest)
  | '+' :: rest => (false, rest)
  | rest => (false, rest)

def integer? (cs : List Char) : Option Int :=
  let (negative, digits) := splitSign cs
  match digitRow? digits with
  | none => none
  | some row =>
    if row.length ≤ digitLimit then
      some (if negative then -(ofDigits row : Int) else (ofDigits row : Int))
    else none

end LedgerFlow.Number
