import LedgerFlow.Proofs.Json.Rearranged
import LedgerFlow.Proofs.Json.Unambiguous
import LedgerFlow.Schema.Library

/-!
Schemas that differ only in the order of fields. They have one canonical text, no others have it
unless floating-point numbers are in them, and they find the same in every value.
-/
namespace LedgerFlow.Schema
open Json (Rearranged)

theorem floatFree_sorted {v : Json} (plain : v.FloatFree) : v.sorted.FloatFree := by
  induction v using Json.induct with
  | array items ih =>
    rw [Json.sorted, Json.sortedItems_eq_map, Json.floatFree_array, List.forall_mem_map]
    exact fun v hv => ih v hv (Json.floatFree_array.mp plain v hv)
  | object fields ih =>
    rw [Json.sorted, Json.floatFree_object]
    intro field hfield
    rw [(Json.perm_mergeSort_nameLe _).mem_iff, Json.sortedFields_eq_map, List.mem_map] at hfield
    obtain ⟨own, hown, rfl⟩ := hfield
    exact ih own hown (Json.floatFree_object.mp plain own hown)
  | _ => exact plain

variable {s t : Json} (distinct : s.Distinct)
include distinct

theorem canonicalText_eq_iff (plain : s.FloatFree) (plain' : t.FloatFree) :
    s.canonicalText = t.canonicalText ↔ Rearranged s t := by
  constructor
  · intro text
    exact Json.rearranged_of_sorted_eq
      (Json.toText_inj (floatFree_sorted plain) (floatFree_sorted plain') text)
  · intro order
    exact congrArg (Json.toText .ascii) (order.sorted_eq distinct)

theorem validate_eq_of_rearranged [Library] (order : Rearranged s t) (v : Json) :
    validate s v = validate t v := by
  rw [validate, validate, order.sorted_eq distinct]

end LedgerFlow.Schema
