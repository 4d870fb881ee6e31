/-!
Letters and their partners in the other case, given as runs of code points in increasing order.
-/
namespace LedgerFlow.Text

/-- A run of letters: every `step`-th code point from `first` to `last` has a partner, and the
partners keep the distances, starting at `partner`. -/
structure CaseRun where
  first : Nat
  last : Nat
  step : Nat
  partner : Nat

namespace CaseRun

def contains (run : CaseRun) (n : Nat) : Bool :=
  run.first ≤ n && n ≤ run.last && (n - run.first) % run.step == 0

def partnerOf (run : CaseRun) (n : Nat) : Nat := run.partner + (n - run.first)

def letterOf? (run : CaseRun) (n : Nat) : Option Nat :=
  let letter := run.first + (n - run.partner)
  if run.partner ≤ n && run.contains letter then some letter else none

def meets (run : CaseRun) (low high : Nat) : Bool :=
  let above := (low - run.first + (run.step - 1)) / run.step * run.step
  run.first ≤ high && run.first + above ≤ min high run.last

end CaseRun

def partner? : List CaseRun → Nat → Option Nat
  | [], _ => none
  | run :: rest, n =>
    if n < run.first then none
    else if run.contains n then some (run.partnerOf n)
    else partner? rest n

end LedgerFlow.Text
