import LedgerFlow.Json.Basic
import LedgerFlow.Number.Integer
import LedgerFlow.Text.Encoding
import LedgerFlow.Text.Hex
/-!
Reading JSON text. The numbers without digits (`NaN` and the infinities) are accepted besides the
standard values. A refusal names its fault and the place of the fault, counted from the end of the
text while reading; `Fault.describe` turns the place into line and column.
-/
namespace LedgerFlow.Json
open Number Text

inductive Fault where
  | expectingValue
  | expectingName
  | expectingColon
  | expectingComma
  | unterminatedText
  | controlCharacter
  | unknownEscape
  | badUnicodeEscape
  | extraData
  | byteOrderMark
  deriving DecidableEq, Repr

def Fault.message : Fault → String
  | .expectingValue => "Expecting value"
  | .expectingName => "Expecting property name enclosed in double quotes"
  | .expectingColon => "Expecting ':' delimiter"
  | .expectingComma => "Expecting ',' delimiter"
  | .unterminatedText => "Unterminated string starting at"
  | .controlCharacter => "Invalid control character at"
  | .unknownEscape => "Invalid \\escape"
  | .badUnicodeEscape => "Invalid \\uXXXX escape"
  | .extraData => "Extra data"
  | .byteOrderMark => "Unexpected UTF-8 BOM (decode using utf-8-sig)"

/-- Why a text was refused: a fault with the number of characters from its place to the end of the
text, or an integer literal with too many digits. -/
inductive Refusal where
  | fault (fault : Fault) (remaining : Nat)
  | tooManyDigits (count : Nat)
  deriving DecidableEq, Repr

abbrev Reader (α : Type) := Except Refusal (α × List Char)

def isGap (c : Char) : Bool := c = ' ' || c = '\t' || c = '\n' || c = '\r'

def skipGap (cs : List Char) : List Char := cs.dropWhile isGap

def refuse {α : Type} (fault : Fault) (place : List Char) : Except Refusal α :=
  .error (.fault fault place.length)

def shortEscape? (c : Char) : Option Char :=
  match c with
  | '"' => some '"'
  | '\\' => some '\\'
  | '/' => some '/'
  | 'b' => some (Char.ofNat 0x08)
  | 'f' => some (Char.ofNat 0x0C)
  | 'n' => some '\n'
  | 'r' => some '\r'
  | 't' => some '\t'
  | _ => none

def codeUnit? (a b c d : Char) : Option Nat := do
  let a ← hexValue? a
  let b ← hexValue? b
  let c ← hexValue? c
  let d ← hexValue? d
  return ((a * 16 + b) * 16 + c) * 16 + d

/-- The character of an escape by code unit, and how many characters after the backslash it takes.
`rest` starts behind the `u`. A character must follow the digits, and also the digits of the second
half of a pair; a half without its partner is replaced. -/
def unicodeEscape (rest : List Char) : Except Refusal (Char × Nat) :=
  match rest with
  | a :: b :: c :: d :: tail =>
    if tail.isEmpty then refuse .badUnicodeEscape ('u' :: rest)
    else
      match codeUnit? a b c d with
      | none => refuse .badUnicodeEscape ('u' :: rest)
      | some unit =>
        if isHighSurrogate unit then
          match tail with
          | '\\' :: 'u' :: a' :: b' :: c' :: d' :: _ :: _ =>
            match codeUnit? a' b' c' d' with
            | none => refuse .badUnicodeEscape (tail.drop 1)
            | some low => .ok (if isLowSurrogate low then (pairChar unit low, 11)
                else (replacement, 5))
          | _ => .ok (replacement, 5)
        else .ok (scalarChar unit, 5)
  | _ => refuse .badUnicodeEscape ('u' :: rest)

def escape : List Char → Except Refusal (Char × Nat)
  | 'u' :: rest => unicodeEscape rest
  | c :: rest =>
    match shortEscape? c with
    | some plain => .ok (plain, 1)
    | none => refuse .unknownEscape ('\\' :: c :: rest)
  | [] => refuse .unterminatedText []

/-- A text up to its closing quote, after passing over `skip` characters. `opening` is the number of
characters from the opening quote on. -/
def readText (opening : Nat) : Nat → List Char → Reader (List Char)
  | _, [] => .error (.fault .unterminatedText opening)
  | skip + 1, _ :: rest => readText opening skip rest
  | 0, c :: rest =>
    if c = '"' then .ok ([], rest)
    else if c = '\\' then
      if rest.isEmpty then .error (.fault .unterminatedText opening)
      else
        match escape rest with
        | .error e => .error e
        | .ok (plain, width) => (readText opening width rest).map fun (s, after) =>
            (plain :: s, after)
    else if c.toNat < 0x20 then refuse .controlCharacter (c :: rest)
    else (readText opening 0 rest).map fun (s, after) => (c :: s, after)

def digitNumber (c : Char) : Nat := c.toNat - 0x30

def splitWhole : List Char → Option (List Char × List Char)
  | '0' :: rest => some (['0'], rest)
  | c :: rest =>
    if isAsciiDigit c then some (c :: rest.takeWhile isAsciiDigit, rest.dropWhile isAsciiDigit)
      else none
  | [] => none

def splitFraction : List Char → List Char × List Char
  | '.' :: c :: rest =>
    if isAsciiDigit c then (c :: rest.takeWhile isAsciiDigit, rest.dropWhile isAsciiDigit)
    else ([], '.' :: c :: rest)
  | rest => ([], rest)

def splitExponent (cs : List Char) : Option (Bool × List Char) × List Char :=
  match cs with
  | mark :: rest =>
    if mark = 'e' || mark = 'E' then
      let (negative, digits) := splitSign rest
      match digits.takeWhile isAsciiDigit with
      | [] => (none, cs)
      | row => (some (negative, row), digits.dropWhile isAsciiDigit)
    else (none, cs)
  | [] => (none, cs)

def exponentOf : Option (Bool × List Char) → Int
  | none => 0
  | some (negative, row) =>
    let n : Nat := ofDigits (row.map digitNumber)
    if negative then -(n : Int) else (n : Int)

/-- The number of a literal cut into its parts. A fraction or an exponent makes it a floating-point
one. -/
def numberOf (negative : Bool) (whole fraction : List Char) (exponent : Option (Bool × List Char)) :
    Except Refusal Json :=
  if fraction.isEmpty && exponent.isNone then
    if whole.length ≤ digitLimit then
      let n : Nat := ofDigits (whole.map digitNumber)
      .ok (.int (if negative then -(n : Int) else (n : Int)))
    else .error (.tooManyDigits whole.length)
  else
    .ok (.float (.ofDecimal negative (ofDigits ((whole ++ fraction).map digitNumber))
      (exponentOf exponent - fraction.length)))

def readNumber (cs : List Char) : Reader Json :=
  let (negative, body) :=
    match cs with
    | '-' :: rest => (true, rest)
    | _ => (false, cs)
  match splitWhole body with
  | none => refuse .expectingValue cs
  | some (whole, rest) =>
    let (fraction, rest) := splitFraction rest
    let (exponent, rest) := splitExponent rest
    (numberOf negative whole fraction exponent).map (·, rest)

mutual

/-- The value that starts here. `fuel` bounds the nesting and the length together. -/
def readValue : Nat → List Char → Reader Json
  | 0, cs => refuse .expectingValue cs
  | fuel + 1, cs =>
    match cs with
    | '"' :: rest => (readText cs.length 0 rest).map fun (s, after) =>
        (.text (String.ofList s), after)
    | '{' :: rest =>
      match skipGap rest with
      | '}' :: after => .ok (.object [], after)
      | rest => (readFields fuel rest).map fun (fields, after) =>
          (.object (Table.ofPairs fields), after)
    | '[' :: rest =>
      match skipGap rest with
      | ']' :: after => .ok (.array [], after)
      | rest => (readItems fuel rest).map fun (items, after) => (.array items, after)
    | 'n' :: 'u' :: 'l' :: 'l' :: rest => .ok (.null, rest)
    | 't' :: 'r' :: 'u' :: 'e' :: rest => .ok (.bool true, rest)
    | 'f' :: 'a' :: 'l' :: 's' :: 'e' :: rest => .ok (.bool false, rest)
    | 'N' :: 'a' :: 'N' :: rest => .ok (.float .nan, rest)
    | 'I' :: 'n' :: 'f' :: 'i' :: 'n' :: 'i' :: 't' :: 'y' :: rest =>
        .ok (.float (.infinite false), rest)
    | '-' :: 'I' :: 'n' :: 'f' :: 'i' :: 'n' :: 'i' :: 't' :: 'y' :: rest =>
      .ok (.float (.infinite true), rest)
    | cs => readNumber cs

def readItems : Nat → List Char → Reader (List Json)
  | 0, cs => refuse .expectingValue cs
  | fuel + 1, cs =>
    match readValue fuel cs with
    | .error e => .error e
    | .ok (v, rest) =>
      match skipGap rest with
      | ']' :: after => .ok ([v], after)
      | ',' :: rest => (readItems fuel (skipGap rest)).map fun (items, after) => (v :: items, after)
      | rest => refuse .expectingComma rest

def readFields : Nat → List Char → Reader (List (String × Json))
  | 0, cs => refuse .expectingName cs
  | fuel + 1, cs =>
    match cs with
    | '"' :: rest =>
      match readText cs.length 0 rest with
      | .error e => .error e
      | .ok (name, rest) =>
        match skipGap rest with
        | ':' :: rest =>
          match readValue fuel (skipGap rest) with
          | .error e => .error e
          | .ok (v, rest) =>
            match skipGap rest with
            | '}' :: after => .ok ([(String.ofList name, v)], after)
            | ',' :: rest =>
              (readFields fuel (skipGap rest)).map fun (fields, after) =>
                ((String.ofList name, v) :: fields, after)
            | rest => refuse .expectingComma rest
        | rest => refuse .expectingColon rest
    | cs => refuse .expectingName cs

end

def readChars (cs : List Char) : Except Refusal Json :=
  match readValue (2 * cs.length + 2) (skipGap cs) with
  | .error e => .error e
  | .ok (v, rest) =>
    match skipGap rest with
    | [] => .ok v
    | rest => refuse .extraData rest

/-- The value of a text. A text that starts with a byte order mark is refused. -/
def ofText (s : String) : Except Refusal Json :=
  match s.toList with
  | c :: rest => if c.toNat = 0xFEFF then refuse .byteOrderMark (c :: rest)
      else readChars (c :: rest)
  | [] => readChars []

def Fault.describe (fault : Fault) (text : String) (remaining : Nat) : String :=
  let cs := text.toList
  let position := cs.length - remaining
  let before := cs.take position
  let line := before.count '\n' + 1
  let column := (before.reverse.takeWhile (· ≠ '\n')).length + 1
  s!"{fault.message}: line {line} column {column} (char {position})"

end LedgerFlow.Json
