/-!
Sorting by an order that may not tell two items apart or not compare them at all. The first run that
goes up, or strictly down, is taken as it is; each further item is put in by halving, behind the
items it does not come before. Where a comparison is needed that the order does not make, there is
no result.
-/
namespace LedgerFlow.Sorting

variable {α : Type} (before? : α → α → Option Bool)

/-- The items that go on in the direction of `down` from the one in front of them, and the
others. -/
def splitRun? (down : Bool) : α → List α → Option (List α × List α)
  | _, [] => some ([], [])
  | previous, item :: rest => do
    if (← before? item previous) = down then
      let (run, others) ← splitRun? down item rest
      some (item :: run, others)
    else some ([], item :: rest)

def firstRun? : List α → Option (List α × List α)
  | first :: second :: rest => do
    let down ← before? second first
    let (run, others) ← splitRun? before? down second rest
    let whole := first :: second :: run
    some (if down then whole.reverse else whole, others)
  | items => some (items, [])

def placeOf? (items : Array α) (item : α) (low high : Nat) : Option Nat :=
  if low < high then
    let middle := low + (high - low) / 2
    match items[middle]? with
    | some other => do
      if ← before? item other then placeOf? items item low middle
      else placeOf? items item (middle + 1) high
    | none => some low
  else some low
termination_by high - low

def insert? (items : Array α) (item : α) : Option (Array α) :=
  (placeOf? before? items item 0 items.size).map fun place => items.insertIdxIfInBounds place item

def sort? (items : List α) : Option (List α) := do
  let (run, others) ← firstRun? before? items
  let sorted ← others.foldlM (insert? before?) run.toArray
  some sorted.toList

variable {before?}

end LedgerFlow.Sorting
