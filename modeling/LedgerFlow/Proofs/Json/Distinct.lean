import LedgerFlow.Proofs.Json.Reader
import LedgerFlow.Proofs.Json.Throughout

/-!
Values in which no object has two fields of one name. Whatever is read from a text is such a value:
of several fields with one name the last one counts.
-/
namespace LedgerFlow.Json

/-- No object at any depth has two fields of one name. -/
def Distinct (v : Json) : Prop := v.Throughout fun part => part.fieldsOf.keys.Nodup

theorem distinct_array {items : List Json} :
    (Json.array items).Distinct ↔ ∀ v ∈ items, v.Distinct := by
  refine throughout_array.trans ⟨And.right, fun h => ⟨List.nodup_nil, h⟩⟩

theorem distinct_object {fields : Table Json} :
    (Json.object fields).Distinct ↔ fields.keys.Nodup ∧ ∀ field ∈ fields, field.2.Distinct :=
  throughout_object

theorem distinct_leaf {v : Json} (leaf : v.children = []) : v.Distinct := by
  refine (throughout_leaf leaf).mpr ?_
  cases v with
  | object fields =>
    obtain rfl : fields = [] := by simpa [children] using leaf
    exact List.nodup_nil
  | _ => exact List.nodup_nil

theorem distinct_text (s : String) : (Json.text s).Distinct := distinct_leaf rfl

theorem children_readNumber {cs rest : List Char} {v : Json} (h : readNumber cs = .ok (v, rest)) :
    v.children = [] := by
  have numeral := numeral?_readNumber h
  cases v with
  | int n => rfl
  | float x => rfl
  | _ => cases numeral

structure ReadsDistinct (fuel : Nat) : Prop where
  value : ∀ {cs rest v}, readValue fuel cs = .ok (v, rest) → v.Distinct
  items : ∀ {cs rest items}, readItems fuel cs = .ok (items, rest) → ∀ v ∈ items, v.Distinct
  fields : ∀ {cs rest fields}, readFields fuel cs = .ok (fields, rest) →
    ∀ field ∈ fields, field.2.Distinct

theorem readsDistinct (fuel : Nat) : ReadsDistinct fuel := by
  induction fuel with
  | zero => exact ⟨nofun, nofun, nofun⟩
  | succ fuel ih =>
    refine ⟨?_, ?_, ?_⟩
    · intro cs rest v h
      unfold readValue at h
      split at h
      · obtain ⟨_, -, heq⟩ := map_eq_ok_iff.mp h
        obtain ⟨rfl, -⟩ := Prod.mk.inj heq
        exact distinct_leaf rfl
      · split at h
        · obtain ⟨rfl, -⟩ := Prod.mk.inj (Except.ok.inj h)
          exact distinct_leaf rfl
        · obtain ⟨⟨fields, after⟩, hfields, heq⟩ := map_eq_ok_iff.mp h
          obtain ⟨rfl, -⟩ := Prod.mk.inj heq
          refine distinct_object.mpr ⟨Table.nodup_keys_ofPairs fields, ?_⟩
          exact fun field hfield => ih.fields hfields field (Table.ofPairs_subset fields hfield)
      · split at h
        · obtain ⟨rfl, -⟩ := Prod.mk.inj (Except.ok.inj h)
          exact distinct_leaf rfl
        · obtain ⟨⟨items, after⟩, hitems, heq⟩ := map_eq_ok_iff.mp h
          obtain ⟨rfl, -⟩ := Prod.mk.inj heq
          exact distinct_array.mpr (ih.items hitems)
      all_goals first
        | exact distinct_leaf (children_readNumber h)
        | obtain ⟨rfl, -⟩ := Prod.mk.inj (Except.ok.inj h)
          exact distinct_leaf rfl
    · intro cs rest items h
      obtain ⟨below, same, reads⟩ := of_readItems h
      obtain rfl := Nat.succ.inj same
      cases reads with
      | last value => exact List.forall_mem_singleton.mpr (ih.value value)
      | more value _ later => exact List.forall_mem_cons.mpr ⟨ih.value value, ih.items later⟩
    · intro cs rest fields h
      obtain ⟨below, same, reads⟩ := of_readFields h
      obtain rfl := Nat.succ.inj same
      cases reads with
      | last field =>
        cases field with
        | of _ _ _ value => exact List.forall_mem_singleton.mpr (ih.value value)
      | more field _ later =>
        cases field with
        | of _ _ _ value => exact List.forall_mem_cons.mpr ⟨ih.value value, ih.fields later⟩

theorem distinct_of_readChars {cs : List Char} {v : Json}
    (h : readChars cs = .ok v) : v.Distinct := by
  unfold readChars at h
  split at h
  · cases h
  · rename_i hv
    split at h
    · obtain rfl := Except.ok.inj h
      exact (readsDistinct _).value hv
    · cases h

theorem distinct_of_ofText {s : String} {v : Json} (h : ofText s = .ok v) : v.Distinct := by
  unfold ofText at h
  split at h
  · split at h
    · cases h
    · exact distinct_of_readChars h
  · exact distinct_of_readChars h

end LedgerFlow.Json
