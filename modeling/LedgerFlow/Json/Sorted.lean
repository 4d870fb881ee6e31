import LedgerFlow.Json.Writer
/-!
The canonical form of a value: the fields of every object in the order of their names. Values that
differ only in the order of fields have one canonical form, and so one canonical text.
-/
namespace LedgerFlow.Json

def nameLe (a b : String × Json) : Bool := decide (a.1 ≤ b.1)

mutual

def sorted : Json → Json
  | .array items => .array (sortedItems items)
  | .object fields => .object ((sortedFields fields).mergeSort nameLe)
  | v => v

def sortedItems : List Json → List Json
  | [] => []
  | v :: rest => sorted v :: sortedItems rest

def sortedFields : List (String × Json) → List (String × Json)
  | [] => []
  | (name, v) :: rest => (name, sorted v) :: sortedFields rest

end

def canonicalText (v : Json) : String := toText .ascii (sorted v)

theorem sortedItems_eq_map (items : List Json) : sortedItems items = items.map sorted := by
  induction items with
  | nil => rfl
  | cons v rest ih => simp [sortedItems, ih]

theorem sortedFields_eq_map (fields : List (String × Json)) :
    sortedFields fields = fields.map fun (name, v) => (name, sorted v) := by
  induction fields with
  | nil => rfl
  | cons field rest ih => simp [sortedFields, ih]

end LedgerFlow.Json
