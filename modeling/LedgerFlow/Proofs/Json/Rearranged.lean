import LedgerFlow.Json.Sorted
import LedgerFlow.Proofs.Json.Distinct
import LedgerFlow.Proofs.Json.Reread
import Mathlib.Data.List.Perm.Basic

/-!
Values that differ only in the order of the fields of their objects. They have one canonical form,
and values with one canonical form differ in nothing else.
-/
namespace LedgerFlow.Json

/-- The second value is the first one with the fields of objects in another order, at any depth. -/
inductive Rearranged : Json → Json → Prop
  | same {v : Json} : Rearranged v v
  | array {items items' : List Json} (each : List.Forall₂ Rearranged items items') :
      Rearranged (.array items) (.array items')
  | object {fields middle fields' : List (String × Json)}
      (each : List.Forall₂ (Namesakes Rearranged) fields middle) (order : middle.Perm fields') :
      Rearranged (.object fields) (.object fields')

variable {v w : Json} {fields fields' : List (String × Json)}

theorem keys_of_namesakes {R : Json → Json → Prop} (h : List.Forall₂ (Namesakes R) fields fields') :
    Table.keys fields' = Table.keys fields := by
  induction h with
  | nil => rfl
  | cons head _ ih =>
    cases head
    simp only [Table.keys, List.map_cons] at ih ⊢
    rw [ih]

@[simp] theorem keys_sortedFields (fields : List (String × Json)) :
    Table.keys (sortedFields fields) = Table.keys fields := by
  rw [sortedFields_eq_map]
  exact Table.keys_mapValues sorted fields

theorem perm_mergeSort_nameLe (fields : List (String × Json)) :
    (fields.mergeSort nameLe).Perm fields :=
  List.mergeSort_perm fields nameLe

theorem pairwise_mergeSort_nameLe (fields : List (String × Json)) :
    (fields.mergeSort nameLe).Pairwise fun a b => nameLe a b = true := by
  apply List.pairwise_mergeSort
  · intro a b c hab hbc
    simp only [nameLe, decide_eq_true_eq] at hab hbc ⊢
    exact String.le_trans hab hbc
  · intro a b
    simpa [nameLe] using String.le_total a.1 b.1

theorem mergeSort_eq_of_perm (distinct : (Table.keys fields).Nodup) (perm : fields.Perm fields') :
    fields.mergeSort nameLe = fields'.mergeSort nameLe := by
  have perm' : (fields.mergeSort nameLe).Perm (fields'.mergeSort nameLe) :=
    (perm_mergeSort_nameLe fields).trans (perm.trans (perm_mergeSort_nameLe fields').symm)
  refine perm'.eq_of_pairwise ?_ (pairwise_mergeSort_nameLe fields)
    (pairwise_mergeSort_nameLe fields')
  intro a b ha hb hab hba
  simp only [nameLe, decide_eq_true_eq] at hab hba
  have name : a.1 = b.1 := String.le_antisymm hab hba
  have ha := (perm_mergeSort_nameLe fields).mem_iff.mp ha
  have hb := perm.mem_iff.mpr ((perm_mergeSort_nameLe fields').mem_iff.mp hb)
  have value := (Table.get?_of_mem distinct ha).symm.trans (name ▸ Table.get?_of_mem distinct hb)
  exact Prod.ext name (Option.some.inj value)

theorem sortedItems_eq {items items' : List Json}
    (h : List.Forall₂ (fun v w => v.sorted = w.sorted) items items') :
    sortedItems items = sortedItems items' := by
  induction h with
  | nil => rfl
  | cons head _ ih => rw [sortedItems, sortedItems, head, ih]

theorem sortedFields_eq
    (h : List.Forall₂ (Namesakes fun v w => v.sorted = w.sorted) fields fields') :
    sortedFields fields = sortedFields fields' := by
  induction h with
  | nil => rfl
  | cons head _ ih =>
    cases head with
    | of values => rw [sortedFields, sortedFields, values, ih]

theorem Rearranged.sorted_eq (h : Rearranged v w)
    (distinct : v.Distinct) : v.sorted = w.sorted := by
  induction v using induct generalizing w with
  | array items ih =>
    cases h with
    | same => rfl
    | array each =>
      have distinct := distinct_array.mp distinct
      have alike := (List.forall₂_and_left _ _).mpr
        ⟨fun v hv w (h : Rearranged v w) => ih v hv h (distinct v hv), each⟩
      rw [sorted, sorted, sortedItems_eq (alike.imp fun v w h => h.1 w h.2)]
  | object fields ih =>
    cases h with
    | same => rfl
    | @object _ middle fields' each order =>
      obtain ⟨names, distinct⟩ := distinct_object.mp distinct
      have alike := (List.forall₂_and_left _ _).mpr
        ⟨fun field hfield w (h : Rearranged field.2 w) =>
          ih field hfield h (distinct field hfield), each⟩
      have values : sortedFields fields = sortedFields middle :=
        sortedFields_eq (alike.imp fun field other h => by
        obtain ⟨same, related⟩ := h
        cases related with
        | of related => exact .of (same _ related))
      have order' : (sortedFields middle).Perm (sortedFields fields') := by
        rw [sortedFields_eq_map, sortedFields_eq_map]
        exact order.map _
      have names' : (Table.keys (sortedFields middle)).Nodup := by
        rw [keys_sortedFields, keys_of_namesakes each]
        exact names
      rw [sorted, sorted, values, mergeSort_eq_of_perm names' order']
  | _ =>
    cases h
    rfl

theorem exists_row_of_perm_map {α β : Type} {f : α → β} {l l' : List α}
    (h : (l.map f).Perm (l'.map f)) :
    ∃ row, List.Forall₂ (fun a b => f a = f b) l row ∧ row.Perm l' := by
  have images : List.Forall₂ (fun image b => image = f b) (l'.map f) l' :=
    List.forall₂_map_left_iff.mpr (List.forall₂_same.mpr fun _ _ => rfl)
  obtain ⟨row, same, order⟩ := List.perm_comp_forall₂ h images
  exact ⟨row, List.forall₂_map_left_iff.mp same, order⟩

theorem rearranged_of_sorted_eq (h : v.sorted = w.sorted) : Rearranged v w := by
  induction v using induct generalizing w with
  | array items ih =>
    cases w with
    | array items' =>
      have same : items.map sorted = items'.map sorted := by
        rw [← sortedItems_eq_map, ← sortedItems_eq_map]
        exact Json.array.inj h
      have images : List.Forall₂ Eq (items.map sorted) (items'.map sorted) :=
        same ▸ List.forall₂_same.mpr fun _ _ => rfl
      have row := List.forall₂_map_right_iff.mp (List.forall₂_map_left_iff.mp images)
      have alike := (List.forall₂_and_left _ _).mpr
        ⟨fun v hv (w : Json) (h : v.sorted = w.sorted) => ih v hv h, row⟩
      exact .array (alike.imp fun v w h => h.1 w h.2)
    | _ => cases h
  | object fields ih =>
    cases w with
    | object fields' =>
      have order : (sortedFields fields).Perm (sortedFields fields') := by
        have same := Json.object.inj h
        exact (perm_mergeSort_nameLe _).symm.trans (same ▸ perm_mergeSort_nameLe _)
      rw [sortedFields_eq_map, sortedFields_eq_map] at order
      obtain ⟨middle, row, order⟩ := exists_row_of_perm_map order
      have alike := (List.forall₂_and_left _ _).mpr
        ⟨fun field hfield (w : Json) (h : field.2.sorted = w.sorted) => ih field hfield h, row⟩
      refine .object (alike.imp fun field other h => ?_) order
      obtain ⟨name, v⟩ := field
      obtain ⟨name', w⟩ := other
      obtain ⟨rfl, values⟩ := Prod.mk.inj h.2
      exact .of (h.1 w values)
    | _ => cases h
  | _ =>
    cases w <;> cases h
    exact .same

end LedgerFlow.Json
