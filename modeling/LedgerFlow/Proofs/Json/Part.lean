import LedgerFlow.Json.Reading
import LedgerFlow.Json.Step
import LedgerFlow.Proofs.Json.Distinct

/-!
The parts of a value along the steps of a path.
-/
namespace LedgerFlow.Json

def itemsOf : Json → List Json
  | .array items => items
  | _ => []

def step? (v : Json) : Step → Option Json
  | .field name => v.get? name
  | .item i => v.itemsOf[i]?

def part? (v : Json) : List Step → Option Json
  | [] => some v
  | step :: path => (v.step? step).bind fun w => w.part? path

variable {v w : Json} {step : Step} {path : List Step}

theorem part?_cons_eq_some_iff :
    v.part? (step :: path) = some w ↔ ∃ u, v.step? step = some u ∧ u.part? path = some w :=
  Option.bind_eq_some_iff

theorem mem_children_of_step? (h : v.step? step = some w) : w ∈ v.children := by
  cases step with
  | field name => exact mem_children_of_get? h
  | item i =>
    cases v with
    | array items => exact List.mem_of_getElem? h
    | _ => cases h

theorem Distinct.step? (distinct : v.Distinct) (h : v.step? step = some w) : w.Distinct :=
  (throughout_iff.mp distinct).2 w (mem_children_of_step? h)

theorem Distinct.mem_fieldsOf_iff (distinct : v.Distinct) {name : String} :
    (name, w) ∈ v.fieldsOf ↔ v.get? name = some w :=
  ⟨Table.get?_of_mem (throughout_iff.mp distinct).1, Table.mem_of_get?⟩

/-! The parts in a reading. -/

section
variable {α : Type} (leaf : Json → α) (node : Table (Reading α) → α)

theorem reading_items (v : Json) :
    (reading leaf node v).items = v.itemsOf.map fun w => (w, (reading leaf node w).meaning) := by
  cases v with
  | array items =>
    rw [reading, itemReadings_eq_map, List.map_map]
    refine List.map_congr_left fun w _ => ?_
    simp [Reading.summary]
  | _ => rfl

theorem reading_fields (v : Json) :
    (reading leaf node v).fields = v.fieldsOf.map fun (name, w) =>
      (name, w, (reading leaf node w).meaning) := by
  cases v with
  | object fields =>
    rw [reading, fieldReadings_eq_map, List.map_map]
    refine List.map_congr_left fun field _ => ?_
    simp [Reading.summary]
  | _ => rfl

end

end LedgerFlow.Json
