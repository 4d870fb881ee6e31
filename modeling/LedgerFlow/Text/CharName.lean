import LedgerFlow.Number.Integer
import LedgerFlow.Text.CodeRange
import LedgerFlow.Text.Hex
import LedgerFlow.Text.NameTable.Aliases
import LedgerFlow.Text.NameTable.Alphabets
import LedgerFlow.Text.NameTable.Ancients
import LedgerFlow.Text.NameTable.Ideographs
import LedgerFlow.Text.NameTable.Notations
import LedgerFlow.Text.NameTable.Pictures
import LedgerFlow.Text.NameTable.Shapes
import LedgerFlow.Text.NameTable.Signs
import LedgerFlow.Text.NameTable.Syllables
/-!
Characters by name. Hangul syllables and unified ideographs are named by rule and in capitals; other
names stand in tables and count in either case. In a table a small letter starts a name and tells
how many pieces it shares with the name before it: none for `a`, one for `b`, and so on.
-/
namespace LedgerFlow.Text

/-- The pieces of a name, each up to a blank or a hyphen, which belongs to it. -/
def pieces (name : List Char) : List (List Char) :=
  name.foldr (fun c found =>
    match found with
    | [] => [[c]]
    | piece :: more => if c = ' ' || c = '-' then [c] :: found else (c :: piece) :: more) []

/-- The names written in a table text: the number of shared pieces of each, and what follows
them. -/
def entries (cs : List Char) : List (Nat × List Char) :=
  (cs.foldr (fun c (rest, found) =>
    if 'a' ≤ c && c ≤ 'z' then ([], (c.toNat - 'a'.toNat, rest) :: found) else (c :: rest, found))
    (([], []) : List Char × List (Nat × List Char))).2

/-- The code point of a name among consecutive ones, the first of which is `code`. -/
def codeFrom (name : List Char) : Nat → List Char → List (Nat × List Char) → Option Nat
  | _, _, [] => none
  | code, previous, (shared, rest) :: more =>
    let spelled := ((pieces previous).take shared).flatten ++ rest
    if spelled = name then some code else codeFrom name (code + 1) spelled more

def codeInTable? (table : List (Nat × List String)) (name : List Char) : Option Nat :=
  table.findSome? fun (code, texts) => codeFrom name code [] (entries (texts.flatMap String.toList))

def nameTables : List (List (Nat × List String)) :=
  [alphabetNames, syllableNames, signNames, shapeNames, ideographNames, ancientNames, notationNames,
   pictureNames]

def syllableStarts : List String :=
  ["G", "GG", "N", "D", "DD", "R", "M", "B", "BB", "S", "SS", "", "J", "JJ", "C", "K", "T", "P",
   "H"]

def syllableVowels : List String :=
  ["A", "AE", "YA", "YAE", "EO", "E", "YEO", "YE", "O", "WA", "WAE", "OE", "YO", "U", "WEO", "WE",
   "WI", "YU", "EU", "YI", "I"]

def syllableEnds : List String :=
  ["", "G", "GG", "GS", "N", "NJ", "NH", "D", "L", "LG", "LM", "LB", "LS", "LT", "LP", "LH", "M",
   "B", "BS", "S", "SS", "NG", "J", "C", "K", "T", "P", "H"]

def behind? (beginning : String) (cs : List Char) : Option (List Char) :=
  let start := beginning.toList
  if start.isPrefixOf cs then some (cs.drop start.length) else none

def syllableCode? (sounds : List Char) : Option Nat :=
  syllableStarts.zipIdx.findSome? fun (start, l) => do
    let sounds ← behind? start sounds
    syllableVowels.zipIdx.findSome? fun (vowel, v) => do
      let sounds ← behind? vowel sounds
      let t ← syllableEnds.findIdx? (·.toList = sounds)
      some (0xAC00 + (l * 21 + v) * 28 + t)

def unifiedIdeographs : List (Nat × Nat) :=
  [(0x3400, 0x4DBF), (0x4E00, 0x9FFF), (0x20000, 0x2A6DF), (0x2A700, 0x2B738), (0x2B740, 0x2B81D),
   (0x2B820, 0x2CEA1), (0x2CEB0, 0x2EBE0), (0x30000, 0x3134A)]

def ideographCode? (digits : List Char) : Option Nat :=
  let isDigit (c : Char) : Bool := (hexValue? c).isSome && !('a' ≤ c && c ≤ 'f')
  if (digits.length = 4 || digits.length = 5) && digits.all isDigit then
    let code := digits.foldl (fun n c => n * 16 + (hexValue? c).getD 0) 0
    if inRanges unifiedIdeographs code then some code else none
  else none

def selectorCode? (digits : List Char) : Option Nat :=
  (List.range 256).findSome? fun n =>
    if Number.decimalDigits (n + 1) = digits then some
      (if n < 16 then 0xFE00 + n else 0xE0100 + (n - 16))
    else none

def codeOfName? (name : List Char) : Option Nat :=
  let capitals := name.map Char.toUpper
  ((behind? "HANGUL SYLLABLE " name).bind syllableCode?)
    <|> ((behind? "CJK UNIFIED IDEOGRAPH-" name).bind ideographCode?)
    <|> ((behind? "VS" capitals).bind selectorCode?)
    <|> furtherNames.findSome?
      (fun (other, code) => if other.toList = capitals then some code else none)
    <|> nameTables.findSome? (codeInTable? · capitals)

end LedgerFlow.Text
