import LedgerFlow.Json.Basic
import LedgerFlow.Number.FloatText
import LedgerFlow.Text.Encoding
import LedgerFlow.Text.Hex
/-!
JSON text. One writer serves every style; the styles differ in the gaps after commas and colons, in
whether containers are spread over indented lines, and in whether text outside ASCII is escaped.
-/
namespace LedgerFlow.Json
open Number Text

structure Style where
  itemGap : List Char
  keyGap : List Char
  /-- How far each level of nesting moves to the right, if containers are spread over lines. -/
  indent : Option Nat
  asciiOnly : Bool

def Style.compact : Style := ⟨[], [], none, false⟩

def Style.spaced : Style := ⟨[' '], [' '], none, false⟩

def Style.indented : Style := ⟨[], [' '], some 3, false⟩

def Style.ascii : Style := ⟨[], [], none, true⟩

def Style.lineBreak (style : Style) (depth : Nat) : List Char :=
  match style.indent with
  | none => []
  | some n => '\n' :: List.replicate (n * depth) ' '

def Style.gap (style : Style) (depth : Nat) : List Char :=
  style.itemGap ++ style.lineBreak depth

def unitEscape (n : Nat) : List Char := '\\' :: 'u' :: hexPadded 4 n

/-- The escape of a character by code units, two of them beyond the first plane. -/
def charEscape (c : Char) : List Char :=
  let n := c.toNat
  if n < 0x10000 then unitEscape n
  else unitEscape (0xD800 + (n - 0x10000) / 0x400) ++ unitEscape (0xDC00 + (n - 0x10000) % 0x400)

def writeChar (asciiOnly : Bool) (c : Char) : List Char :=
  if c = '"' then ['\\', '"']
  else if c = '\\' then ['\\', '\\']
  else if c = '\n' then ['\\', 'n']
  else if c = '\r' then ['\\', 'r']
  else if c = '\t' then ['\\', 't']
  else if c.toNat = 0x08 then ['\\', 'b']
  else if c.toNat = 0x0C then ['\\', 'f']
  else if c.toNat < 0x20 then unitEscape c.toNat
  else if asciiOnly && 0x7F ≤ c.toNat then charEscape c
  else [c]

def writeText (asciiOnly : Bool) (s : String) : List Char :=
  '"' :: s.toList.flatMap (writeChar asciiOnly) ++ ['"']

mutual

def write (style : Style) (depth : Nat) : Json → List Char
  | .null => ['n', 'u', 'l', 'l']
  | .bool true => ['t', 'r', 'u', 'e']
  | .bool false => ['f', 'a', 'l', 's', 'e']
  | .int n => decimalText n
  | .float x => x.text .json
  | .text s => writeText style.asciiOnly s
  | .array [] => ['[', ']']
  | .array (v :: rest) =>
    '[' :: style.lineBreak (depth + 1) ++ write style (depth + 1) v ++
      writeItems style (depth + 1) rest ++ style.lineBreak depth ++ [']']
  | .object [] => ['{', '}']
  | .object ((name, v) :: rest) =>
    '{' :: style.lineBreak (depth + 1) ++ writeText style.asciiOnly name ++ ':' :: style.keyGap ++
      write style (depth + 1) v ++ writeFields style (depth + 1) rest ++ style.lineBreak depth ++
      ['}']

def writeItems (style : Style) (depth : Nat) : List Json → List Char
  | [] => []
  | v :: rest => ',' :: style.gap depth ++ write style depth v ++ writeItems style depth rest

def writeFields (style : Style) (depth : Nat) : List (String × Json) → List Char
  | [] => []
  | (name, v) :: rest =>
    ',' :: style.gap depth ++ writeText style.asciiOnly name ++ ':' :: style.keyGap ++
      write style depth v ++ writeFields style depth rest

end

def toText (style : Style) (v : Json) : String := String.ofList (write style 0 v)

def compactText (v : Json) : String := toText .compact v

end LedgerFlow.Json
