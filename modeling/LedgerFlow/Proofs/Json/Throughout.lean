import LedgerFlow.Number.Integer
import LedgerFlow.Proofs.Json.Place
import LedgerFlow.Proofs.Table

/-!
Properties that a value has at every depth.
-/
namespace LedgerFlow.Json

/-- Every part of the value has the property, the value itself among them. -/
def Throughout (P : Json → Prop) (v : Json) : Prop := ∀ place part, v.at? place = some part → P part

variable {P : Json → Prop} {v : Json}

theorem throughout_iff : v.Throughout P ↔ P v ∧ ∀ c ∈ v.children, c.Throughout P := by
  constructor
  · intro h
    refine ⟨h [] v rfl, ?_⟩
    intro c hc place part hpart
    obtain ⟨i, hi⟩ := List.getElem?_of_mem hc
    exact h (i :: place) part ((at?_cons_of_children hi place).trans hpart)
  · rintro ⟨here, below⟩ place part hpart
    cases place with
    | nil =>
      obtain rfl := Option.some.inj hpart
      exact here
    | cons i place =>
      rw [at?] at hpart
      split at hpart
      · rename_i c hc
        exact below c (List.mem_of_getElem? hc) place part hpart
      · cases hpart

theorem throughout_array {items : List Json} :
    (Json.array items).Throughout P ↔ P (.array items) ∧ ∀ v ∈ items, v.Throughout P :=
  throughout_iff

theorem throughout_object {fields : List (String × Json)} :
    (Json.object fields).Throughout P ↔ P (.object fields) ∧
      ∀ field ∈ fields, field.2.Throughout P := by
  rw [throughout_iff, children, List.forall_mem_map]

theorem throughout_leaf (leaf : v.children = []) : v.Throughout P ↔ P v := by
  rw [throughout_iff, leaf]
  simp

theorem throughout_text {s : String} : (Json.text s).Throughout P ↔ P (.text s) :=
  throughout_leaf rfl

theorem mem_children_of_get? {name : String} {w : Json}
    (h : v.get? name = some w) : w ∈ v.children := by
  cases v with
  | object fields => exact List.mem_map_of_mem (Table.mem_of_get? h)
  | _ => cases h

theorem Throughout.get? (h : v.Throughout P) {name : String} {w : Json}
    (found : v.get? name = some w) : w.Throughout P :=
  (throughout_iff.mp h).2 w (mem_children_of_get? found)

/-- The integers in the value have no more digits than can be read or written. -/
def ShortIntegers (v : Json) : Prop :=
  v.Throughout fun part => ∀ n, part = .int n →
    (Number.decimalDigits n.natAbs).length ≤ Number.digitLimit

end LedgerFlow.Json
