import LedgerFlow.Pattern.Syntax
import LedgerFlow.Text.Blank
import LedgerFlow.Text.CodeRange
import LedgerFlow.Text.Digit
import LedgerFlow.Text.Letter
import LedgerFlow.Text.WordTable
/-!
Tests of one character. Where letters count in either case, the character is taken as its small
letter, and so are the letters it is compared with.
-/
namespace LedgerFlow.Pattern
open Text

/-- In which form a character is looked at: as it is, or as its small letter, of ASCII only or of
any script. -/
inductive Fold where
  | exact
  | ascii
  | script
  deriving DecidableEq, Repr

def asciiSmall (n : Nat) : Nat := if 0x41 ≤ n ∧ n ≤ 0x5A then n + 0x20 else n

def Fold.apply : Fold → Nat → Nat
  | .exact, n => n
  | .ascii, n => asciiSmall n
  | .script, n => smallLetter n

def Fold.equals : Fold → Nat → List Nat
  | .script, n => smallLetter n :: peers (smallLetter n)
  | fold, n => [fold.apply n]

def Fold.changes : Fold → Nat → Bool
  | .exact, _ => false
  | .ascii, n => (0x41 ≤ n && n ≤ 0x5A) || (0x61 ≤ n && n ≤ 0x7A)
  | .script, n => hasCase n

def Fold.changesWithin : Fold → Nat → Nat → Bool
  | .exact, _, _ => false
  | .ascii, low, high => (low ≤ 0x5A && 0x41 ≤ high) || (low ≤ 0x7A && 0x61 ≤ high)
  | .script, low, high => hasCaseWithin low high

def Options.folding (options : Options) : Fold :=
  if !options.fold then .exact else if options.ascii then .ascii else .script

def Kind.holds (ascii : Bool) (c : Char) : Kind → Bool
  | .digit => if ascii then isAsciiDigit c else isDecimal c
  | .blank => if ascii then c = ' ' || (9 ≤ c.toNat && c.toNat ≤ 13) else isBlank c
  | .word => (!ascii || c.toNat < 0x80) && inRanges wordRanges c.toNat

inductive Member where
  | code (n : Nat)
  | range (low high : Nat)
  /-- The small letters, and their peers, of the letters between two code points. -/
  | smallOf (fold : Fold) (low high : Nat)
  /-- The small letters that lie between two code points, or whose capitals do. -/
  | smallOrCapital (low high : Nat)
  | kind (k : Kind) (negated ascii : Bool)
  deriving DecidableEq, Repr

def Member.holds (n : Nat) : Member → Bool
  | .code m => n == m
  | .range low high => low ≤ n && n ≤ high
  | .smallOf .script low high => isSmallOf low high n || (peers n).any (isSmallOf low high)
  | .smallOf .ascii low high =>
    asciiSmall n == n && ((low ≤ n && n ≤ high) ||
      (0x61 ≤ n && n ≤ 0x7A && low ≤ n - 0x20 && n - 0x20 ≤ high))
  | .smallOf .exact low high => low ≤ n && n ≤ high
  | .smallOrCapital low high =>
    (low ≤ n && n ≤ high) || (low ≤ firstCapital n && firstCapital n ≤ high)
  | .kind k negated ascii => k.holds ascii (Char.ofNat n) != negated

inductive CharTest where
  /-- Every character, or every one but the line feed. -/
  | any (lineFeed : Bool)
  | char (fold : Fold) (negated : Bool) (code : Nat)
  | set (fold : Fold) (negated : Bool) (members : List Member)
  deriving DecidableEq, Repr

namespace CharTest

def holds (c : Char) : CharTest → Bool
  | .any lineFeed => lineFeed || c ≠ '\n'
  | .char fold negated code => (fold.apply c.toNat == code) != negated
  | .set fold negated members =>
    let n := fold.apply c.toNat
    members.any (·.holds n) != negated

/-- The last code point that the tables of small letters look at as one of a range. -/
def lastFolded : Nat := 0xFFFF

def foldedMembers (options : Options) (fold : Fold) : Part → List Member
  | .code n => if fold.apply n ≤ lastFolded then (fold.equals n).map .code else [.code n]
  | .range low high =>
    let above := if lastFolded < high then [.smallOrCapital low high] else []
    if low ≤ lastFolded then .smallOf fold low (min high lastFolded) :: above else above
  | .kind k negated => [.kind k negated options.ascii]

def exactMember (options : Options) : Part → Member
  | .code n => .code n
  | .range low high => .range low high
  | .kind k negated => .kind k negated options.ascii

/-- Whether a part has members with another form. Those beyond the tables count as such. -/
def partChanges (fold : Fold) : Part → Bool
  | .code n => fold ≠ .exact && (fold.changes n || lastFolded < fold.apply n)
  | .range low high => fold ≠ .exact && (fold.changesWithin low high || lastFolded < high)
  | .kind .. => false

def ofParts (options : Options) (negated : Bool) (parts : List Part) : CharTest :=
  let fold := options.folding
  if parts.any (partChanges fold) then .set fold negated
    (parts.flatMap (foldedMembers options fold))
  else .set .exact negated (parts.map (exactMember options))

def ofCode (options : Options) (negated : Bool) (code : Nat) : CharTest :=
  let fold := options.folding
  if !fold.changes code then .char .exact negated code
  else match fold.equals code with
    | [small] => .char fold negated small
    | smalls => .set fold negated (smalls.map .code)

def isLiteral : CharTest → Bool
  | .char .exact false _ => true
  | _ => false

def isExactSet : CharTest → Bool
  | .set .exact _ _ => true
  | _ => false

def isFoldedSet : CharTest → Bool
  | .set fold _ _ => fold ≠ .exact
  | _ => false

end CharTest

end LedgerFlow.Pattern
