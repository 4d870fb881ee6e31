import LedgerFlow.Json.Basic
/-!
Meanings given to values from the inside out. A `Reading` of a value holds what the value itself
means and what its items and its fields mean, so that a rule for objects can look at the meaning of
each field, of each item of a field, and of each field of a field.
-/
namespace LedgerFlow.Json

structure Reading (α : Type) where
  value : Json
  meaning : α
  items : List (Json × α)
  fields : Table (Json × α)

variable {α : Type}

def Reading.summary (r : Reading α) : Json × α := (r.value, r.meaning)

variable (leaf : Json → α) (node : Table (Reading α) → α)

mutual

/-- The reading of a value, where `leaf` gives the meaning of what is no object and `node` that of
an object from the readings of its fields. -/
def reading : Json → Reading α
  | .array items =>
    { value := .array items, meaning := leaf (.array items),
      items := (itemReadings items).map (·.summary), fields := [] }
  | .object fields =>
    let readings := fieldReadings fields
    { value := .object fields, meaning := node readings, items := [],
      fields := readings.map fun (name, r) => (name, r.summary) }
  | v => { value := v, meaning := leaf v, items := [], fields := [] }

def itemReadings : List Json → List (Reading α)
  | [] => []
  | v :: rest => reading v :: itemReadings rest

def fieldReadings : List (String × Json) → List (String × Reading α)
  | [] => []
  | (name, v) :: rest => (name, reading v) :: fieldReadings rest

end

theorem itemReadings_eq_map (items : List Json) :
    itemReadings leaf node items = items.map (reading leaf node) := by
  induction items with
  | nil => rfl
  | cons v rest ih => simp [itemReadings, ih]

theorem fieldReadings_eq_map (fields : List (String × Json)) :
    fieldReadings leaf node fields = fields.map fun (name, v) => (name, reading leaf node v) := by
  induction fields with
  | nil => rfl
  | cons field rest ih => simp [fieldReadings, ih]

@[simp] theorem reading_value (v : Json) : (reading leaf node v).value = v := by
  cases v <;> rfl

end LedgerFlow.Json
