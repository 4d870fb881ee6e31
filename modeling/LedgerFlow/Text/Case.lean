import LedgerFlow.Text.CaseTable
import LedgerFlow.Text.CodeRange
/-!
Lower case of a whole text. A capital becomes its partner; the dotted capital I becomes two
characters, and a capital sigma takes its final form at the end of a word.
-/
namespace LedgerFlow.Text

def isCaseIgnorable (c : Char) : Bool := inRanges caseIgnorableRanges c.toNat

def isCased (c : Char) : Bool := inRanges casedRanges c.toNat

def startsCased (cs : List Char) : Bool :=
  match cs.dropWhile isCaseIgnorable with
  | [] => false
  | c :: _ => isCased c

def lowerPartner (c : Char) : Char :=
  match partner? capitalRuns c.toNat with
  | some n => Char.ofNat n
  | none => c

/-- Lower case of one character, between what stands `before` it, nearest first, and what stands
`after` it. -/
def lowerAt (before : List Char) (c : Char) (after : List Char) : List Char :=
  if c.toNat = 0x130 then [Char.ofNat 0x69, Char.ofNat 0x307]
  else if c.toNat = 0x3A3 then
    [Char.ofNat (if startsCased before && !startsCased after then 0x3C2 else 0x3C3)]
  else [lowerPartner c]

def lowerFrom (before : List Char) : List Char → List Char
  | [] => []
  | c :: after => lowerAt before c after ++ lowerFrom (c :: before) after

def lower (cs : List Char) : List Char := lowerFrom [] cs

def lowered (s : String) : String := String.ofList (lower s.toList)

end LedgerFlow.Text
