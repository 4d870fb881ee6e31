import LedgerFlow.Pattern.Progress
import LedgerFlow.Text.CharName
import LedgerFlow.Text.Digit
import LedgerFlow.Text.Hex
/-!
What stands behind a backslash: a character by its code or its name, a class, an anchor or a group
again.
-/
namespace LedgerFlow.Pattern
open Text

def isOctal (c : Char) : Bool := '0' ≤ c && c ≤ '7'

def isAsciiLetter (c : Char) : Bool := ('a' ≤ c && c ≤ 'z') || ('A' ≤ c && c ≤ 'Z')

def numberIn (base : Nat) (digits : List Char) : Nat :=
  digits.foldl (fun n c => n * base + (hexValue? c).getD 0) 0

def hexCode (width : Nat) : Reading Nat := do
  let digits ← Reading.takeUpTo width fun c => (hexValue? c).isSome
  let code := numberIn 16 digits
  if digits.length = width ∧ code < 0x110000 then return code else Reading.fail

def namedCode : Reading Nat := do
  Reading.expect '{'
  let name ← Reading.textBefore '}'
  match codeOfName? name with
  | some code => return code
  | none => Reading.fail

/-- An escape that stands for one code point in classes and outside of them; one of a letter or a
digit without a meaning is none. -/
def codeEscape : Char → Reading Nat
  | 'a' => return 0x07
  | 'f' => return 0x0C
  | 'n' => return 0x0A
  | 'r' => return 0x0D
  | 't' => return 0x09
  | 'v' => return 0x0B
  | 'x' => hexCode 2
  | 'u' => hexCode 4
  | 'U' => hexCode 8
  | 'N' => namedCode
  | c => if isAsciiLetter c || isAsciiDigit c then Reading.fail else return c.toNat

def kindEscape? : Char → Option Part
  | 'd' => some (.kind .digit false)
  | 'D' => some (.kind .digit true)
  | 's' => some (.kind .blank false)
  | 'S' => some (.kind .blank true)
  | 'w' => some (.kind .word false)
  | 'W' => some (.kind .word true)
  | _ => none

/-- An escape as a part of a class; up to three octal digits write a code point below 256. -/
def classEscape (c : Char) : Reading Part := do
  match kindEscape? c with
  | some part => return part
  | none =>
    if c = 'b' then return .code 0x08
    else if isOctal c then
      let code := numberIn 8 (c :: (← Reading.takeUpTo 2 isOctal))
      if code < 256 then return .code code else Reading.fail
    else return .code (← codeEscape c)

def anchorEscape? : Char → Option Anchor
  | 'A' => some .textStart
  | 'Z' => some .textEnd
  | 'b' => some (.boundary false)
  | 'B' => some (.boundary true)
  | _ => none

def reference (number : Nat) : Reading Node := do
  if (← Reading.groups).canRefer number then return .same number else Reading.fail

/-- Digits behind a backslash: three octal ones, or any behind a zero, write a code point, and
others the number of a group. -/
def digitEscape (c : Char) : Reading Node := do
  if c = '0' then return .char false (numberIn 8 (← Reading.takeUpTo 2 isOctal))
  match ← Reading.takeUpTo 1 isAsciiDigit with
  | [d] =>
    if isOctal c && isOctal d then
      match ← Reading.takeUpTo 1 isOctal with
      | [e] =>
        let code := numberIn 8 [c, d, e]
        if code < 256 then return .char false code else Reading.fail
      | _ => reference (numberIn 10 [c, d])
    else reference (numberIn 10 [c, d])
  | _ => reference (numberIn 10 [c])

def itemEscape (c : Char) : Reading Node := do
  match anchorEscape? c, kindEscape? c with
  | some anchor, _ => return .anchor anchor
  | none, some part => return .set false [part]
  | none, none =>
    if isAsciiDigit c then digitEscape c else return .char false (← codeEscape c)

end LedgerFlow.Pattern
