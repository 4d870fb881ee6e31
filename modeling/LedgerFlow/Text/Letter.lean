import LedgerFlow.Text.Case
import LedgerFlow.Text.Upper
/-!
Single letters compared without regard to case. A letter is taken as its one small letter; small
letters with one capital between them are peers.
-/
namespace LedgerFlow.Text

/-- The one small letter of a code point; the dotted capital I has the plain small one. -/
def smallLetter (n : Nat) : Nat :=
  if n = 0x130 then 0x69 else (partner? capitalRuns n).getD n

def firstCapital (n : Nat) : Nat :=
  match upperExpansions.lookup n with
  | some (capital :: _) => capital
  | _ => (partner? smallRuns n).getD n

def hasCase (n : Nat) : Bool := smallLetter n != n || firstCapital n != n

def hasCaseWithin (low high : Nat) : Bool :=
  capitalRuns.any (·.meets low high) || smallRuns.any (·.meets low high) ||
    upperExpansions.any (fun (n, _) => low ≤ n && n ≤ high) || (low ≤ 0x130 && 0x130 ≤ high)

/-- The groups of small letters that have a capital in common. -/
def smallPeers : List (List Nat) :=
  [[0x69, 0x131], [0x73, 0x17F], [0xB5, 0x3BC], [0x345, 0x3B9, 0x1FBE], [0x390, 0x1FD3],
   [0x3B0, 0x1FE3], [0x3B2, 0x3D0], [0x3B5, 0x3F5], [0x3B8, 0x3D1], [0x3BA, 0x3F0], [0x3C0, 0x3D6],
   [0x3C1, 0x3F1], [0x3C2, 0x3C3], [0x3C6, 0x3D5], [0x432, 0x1C80], [0x434, 0x1C81],
   [0x43E, 0x1C82], [0x441, 0x1C83], [0x442, 0x1C84, 0x1C85], [0x44A, 0x1C86], [0x463, 0x1C87],
   [0x1C88, 0xA64B], [0x1E61, 0x1E9B], [0xFB05, 0xFB06]]

def peers (n : Nat) : List Nat :=
  ((smallPeers.find? (·.contains n)).getD []).filter (· ≠ n)

def isSmallOf (low high n : Nat) : Bool :=
  let within (letter : Nat) : Bool := low ≤ letter && letter ≤ high
  (within n && smallLetter n == n) || capitalRuns.any (fun run => (run.letterOf? n).any within) ||
    (n == 0x69 && within 0x130)

end LedgerFlow.Text
