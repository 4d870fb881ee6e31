import LedgerFlow.Number.Integer
import LedgerFlow.Text.Blank
/-!
Integers as they are written by hand, in ASCII digits: blanks around, a sign, leading zeros, single
underscores between digits, and a fraction of zeros are allowed. What is left after these must be a
plain integer.
-/
namespace LedgerFlow.Number
open Text

inductive WrittenInteger where
  | value (n : Int)
  | tooLong
  | unreadable
  deriving DecidableEq, Repr

/-- White space as the standard has it, without the separator controls. -/
def isWhiteSpace (c : Char) : Bool := isBlank c && !(28 ≤ c.toNat && c.toNat ≤ 31)

/-- An integer without ornament: no plus, no leading zeros. A row of too many digits is too long,
whatever follows it. -/
def plainInteger (cs : List Char) : WrittenInteger :=
  let negative := cs.head? = some '-'
  let digits := if negative then cs.drop 1 else cs
  let row := digits.takeWhile isAsciiDigit
  if row.isEmpty then .unreadable
  else if row.head? = some '0' then if digits = ['0'] then .value 0 else .unreadable
  else if digitLimit < cs.length - digits.length + row.length then .tooLong
  else if row.length < digits.length then .unreadable
  else
    let n : Int := ofDigits (row.filterMap digitValue?)
    .value (if negative then -n else n)

/-- The text without zeros in front of the first other digit or of a minus; underscores may stand
among them. Of nothing but these the last one is left, and before a point the one in front of it. -/
def dropZeros : Char → List Char → Option (List Char)
  | last, [] => some [last]
  | last, c :: rest =>
    if c = '0' || c = '_' then dropZeros c rest
    else if isAsciiDigit c || c = '-' then some (c :: rest)
    else if c = '.' then some (last :: c :: rest)
    else none

def withoutLeadingZeros : List Char → Option (List Char)
  | [] => none
  | c :: rest =>
    if c = '0' then dropZeros c rest
    else if isAsciiDigit c || c = '-' then some (c :: rest)
    else none

def withoutZeroFraction (cs : List Char) : List Char :=
  match cs.dropWhile (· ≠ '.') with
  | _ :: zeros => if !zeros.isEmpty && zeros.all (· = '0') then cs.takeWhile (· ≠ '.') else cs
  | [] => cs

def withoutUnderscores : List Char → List Char
  | [] => []
  | [c] => [c]
  | c :: d :: rest =>
    if d = '_' ∧ rest.head?.any (· ≠ '_') then c :: withoutUnderscores rest
    else c :: withoutUnderscores (d :: rest)

/-- The text behind its sign without leading zeros; of the signs only a minus is kept, and only one
may stand there. -/
def withoutZeros : List Char → Option (List Char)
  | '+' :: '-' :: _ => none
  | '+' :: rest => withoutLeadingZeros rest
  | '-' :: rest => (withoutLeadingZeros rest).map ('-' :: ·)
  | rest => withoutLeadingZeros rest

def plainForm? (cs : List Char) : Option (List Char) :=
  let trimmed := ((cs.dropWhile isWhiteSpace).reverse.dropWhile isWhiteSpace).reverse
  (withoutZeros trimmed).map fun digits => withoutUnderscores (withoutZeroFraction digits)

def writtenInteger (cs : List Char) : WrittenInteger :=
  match plainInteger cs with
  | .unreadable =>
    match plainForm? cs with
    | some plain => plainInteger plain
    | none => .unreadable
  | result => result

end LedgerFlow.Number
