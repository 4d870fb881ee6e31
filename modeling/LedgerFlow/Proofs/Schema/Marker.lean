import LedgerFlow.Proofs.Json.Place
import LedgerFlow.Proofs.Table
import LedgerFlow.Schema.Reference

/-!
Where the markers of a document stand. The places of markers below the top exclude each other: none
leads through another, so a value put in one of them leaves the others as they are.
-/
namespace LedgerFlow.Schema
open Json (Place)

/-- Below the top of the value, and not inside of another marker there, stands one with this
reference. -/
inductive MarkerAt : Json → Place → Json → Prop
  | child {v m ref : Json} {i : Nat} (at_i : v.children[i]? = some m)
      (marks : m.get? refKey = some ref) :
      MarkerAt v [i] ref
  | deeper {v c ref : Json} {i : Nat} {place : Place} (at_i : v.children[i]? = some c)
      (plain : isMarker c = false) (below : MarkerAt c place ref) : MarkerAt v (i :: place) ref

def placesUnder (entry : Json × Nat) : List Place :=
  if isMarker entry.1 then [[entry.2]] else (markerPlaces entry.1).map (entry.2 :: ·)

theorem itemMarkerPlaces_eq (i : Nat) (items : List Json) :
    itemMarkerPlaces i items = (items.zipIdx i).flatMap placesUnder := by
  induction items generalizing i with
  | nil => rfl
  | cons v items ih => rw [itemMarkerPlaces, ih, List.zipIdx_cons, List.flatMap_cons]; rfl

theorem fieldMarkerPlaces_eq (i : Nat) (fields : List (String × Json)) :
    fieldMarkerPlaces i fields = itemMarkerPlaces i (fields.map (·.2)) := by
  induction fields generalizing i with
  | nil => rfl
  | cons field fields ih => simp [fieldMarkerPlaces, itemMarkerPlaces, ih]

theorem markerPlaces_eq (v : Json) : markerPlaces v = v.children.zipIdx.flatMap placesUnder := by
  cases v with
  | array items => rw [markerPlaces, itemMarkerPlaces_eq, Json.children]
  | object fields => rw [markerPlaces, fieldMarkerPlaces_eq, itemMarkerPlaces_eq, Json.children]
  | _ => rfl

theorem mem_placesUnder {c : Json} {i : Nat} {place : Place} :
    place ∈ placesUnder (c, i) ↔
      isMarker c = true ∧ place = [i] ∨ isMarker c = false ∧
        ∃ rest ∈ markerPlaces c, place = i :: rest := by
  unfold placesUnder
  cases isMarker c <;> simp [eq_comm]

private theorem mem_markerPlaces_iff_child {v : Json} {place : Place} :
    place ∈ markerPlaces v ↔ ∃ c i, v.children[i]? = some c ∧ place ∈ placesUnder (c, i) := by
  rw [markerPlaces_eq, List.mem_flatMap]
  constructor
  · rintro ⟨⟨c, i⟩, hmem, h⟩
    exact ⟨c, i, List.mem_zipIdx_iff_getElem?.mp hmem, h⟩
  · rintro ⟨c, i, hc, h⟩
    exact ⟨(c, i), List.mem_zipIdx_iff_getElem?.mpr hc, h⟩

theorem mem_markerPlaces_iff {v : Json} {place : Place} :
    place ∈ markerPlaces v ↔ ∃ ref, MarkerAt v place ref := by
  constructor
  · induction v using Json.children_induct generalizing place with
    | step v ih =>
      intro h
      obtain ⟨c, i, hc, h⟩ := mem_markerPlaces_iff_child.mp h
      rcases mem_placesUnder.mp h with ⟨hm, rfl⟩ | ⟨hm, rest, hrest, rfl⟩
      · obtain ⟨ref, href⟩ := Option.isSome_iff_exists.mp hm
        exact ⟨ref, .child hc href⟩
      · obtain ⟨ref, href⟩ := ih c (List.mem_of_getElem? hc) hrest
        exact ⟨ref, .deeper hc hm href⟩
  · rintro ⟨ref, h⟩
    induction h with
    | @child _ m _ i hc href =>
      have marks : isMarker m = true := Option.isSome_iff_exists.mpr ⟨_, href⟩
      exact mem_markerPlaces_iff_child.mpr ⟨m, i, hc, mem_placesUnder.mpr (.inl ⟨marks, rfl⟩)⟩
    | deeper hc plain _ ih =>
      exact mem_markerPlaces_iff_child.mpr
        ⟨_, _, hc, mem_placesUnder.mpr (.inr ⟨plain, _, ih, rfl⟩)⟩

theorem head?_of_mem_placesUnder {c : Json} {i : Nat} {place : Place}
    (h : place ∈ placesUnder (c, i)) : place.head? = some i := by
  rcases mem_placesUnder.mp h with ⟨-, rfl⟩ | ⟨-, rest, -, rfl⟩ <;> rfl

theorem nodup_markerPlaces (v : Json) : (markerPlaces v).Nodup := by
  induction v using Json.children_induct with
  | step v ih =>
    rw [markerPlaces_eq, List.nodup_flatMap]
    constructor
    · rintro ⟨c, i⟩ hmem
      have hc : c ∈ v.children := List.mem_of_getElem? (List.mem_zipIdx_iff_getElem?.mp hmem)
      unfold placesUnder
      cases isMarker c with
      | true => exact List.nodup_singleton _
      | false => exact (ih c hc).map fun _ _ h => (List.cons.inj h).2
    · rw [List.pairwise_iff_getElem]
      intro a b ha hb hab place hleft hright
      rw [List.getElem_zipIdx] at hleft hright
      -- the places of different children differ in their first step
      have hl := head?_of_mem_placesUnder hleft
      have hr := head?_of_mem_placesUnder hright
      have : 0 + a = 0 + b := Option.some.inj (hl.symm.trans hr)
      omega

theorem get?_setChild {v child : Json} {i : Nat} (h : v.children[i]? = some child) (new : Json) :
    (v.setChild i new).get? refKey = v.get? refKey ∨
      v.get? refKey = some child ∧ (v.setChild i new).get? refKey = some new := by
  cases Json.split_of_children h with
  | array before after whole put =>
    subst whole
    rw [put]
    exact .inl rfl
  | object before name after whole put =>
    subst whole
    rw [put]
    simp only [Json.get?, Json.fieldsOf, Table.get?_append]
    cases Table.get? before refKey with
    | some ref => exact .inl rfl
    | none => by_cases hname : name = refKey <;> simp [Table.get?, hname]

theorem isMarker_setChild {v child : Json} {i : Nat} (h : v.children[i]? = some child)
    (new : Json) :
    isMarker (v.setChild i new) = isMarker v := by
  unfold isMarker
  rcases get?_setChild h new with heq | ⟨hold, hnew⟩
  · rw [heq]
  · rw [hold, hnew]; rfl

theorem mem_collectRefs_array {items : List Json} {key : String} :
    key ∈ collectRefs (.array items) ↔ ∃ v ∈ items, key ∈ collectRefs v := by
  rw [collectRefs]
  induction items with
  | nil => simp [collectItemRefs]
  | cons v items ih => simp [collectItemRefs, ih]

private theorem mem_collectFieldRefs {fields : List (String × Json)} {key : String} :
    key ∈ collectFieldRefs fields ↔ ∃ name v, (name, v) ∈ fields ∧ name ≠ refKey ∧
      key ∈ collectRefs v := by
  have heq : collectFieldRefs fields =
      fields.flatMap fun field => if field.1 = refKey then [] else collectRefs field.2 := by
    induction fields with
    | nil => rfl
    | cons field fields ih => rw [collectFieldRefs, ih, List.flatMap_cons]
  simp [heq, List.mem_flatMap]

theorem mem_collectRefs_object {fields : List (String × Json)} {key : String} :
    key ∈ collectRefs (.object fields) ↔ Table.get? fields refKey = some (.text key) ∨
      ∃ name v, (name, v) ∈ fields ∧ name ≠ refKey ∧ key ∈ collectRefs v := by
  rw [collectRefs, List.mem_append, mem_collectFieldRefs]
  refine or_congr_left ?_
  cases Table.get? fields refKey with
  | none => simp
  | some ref => cases ref <;> simp [eq_comm]

theorem text?_eq_none_of_get? {v ref : Json} (h : v.get? refKey = some ref) : v.text? = none := by
  cases v <;> first | rfl | simp [Json.get?, Json.fieldsOf] at h

theorem mem_collectRefs_of_get? {v : Json} {key : String} (h : v.get? refKey = some (.text key)) :
    key ∈ collectRefs v := by
  cases v with
  | object fields => exact mem_collectRefs_object.mpr (.inl h)
  | _ => simp [Json.get?, Json.fieldsOf] at h

theorem mem_collectRefs_of_child {v child : Json} (plain : isMarker v = false)
    (h : child ∈ v.children) {key : String}
    (hkey : key ∈ collectRefs child) : key ∈ collectRefs v := by
  cases v with
  | array items => exact mem_collectRefs_array.mpr ⟨child, h, hkey⟩
  | object fields =>
    obtain ⟨⟨name, _⟩, hfield, rfl⟩ := List.mem_map.mp h
    refine mem_collectRefs_object.mpr (.inr ⟨name, _, hfield, ?_, hkey⟩)
    rintro rfl
    have hnone : Table.get? fields refKey = none := by
      simpa [isMarker, Json.get?, Json.fieldsOf] using plain
    exact Table.get?_eq_none_iff.mp hnone (List.mem_map_of_mem hfield)
  | _ => simp [Json.children] at h

/-- Putting this value into a document cannot turn a reference at its top from something else into a
text. -/
def KeepsTop (v new : Json) : Prop :=
  new.text? = none ∨ ∀ ref, v.get? refKey = some ref → ref.text? ≠ none

theorem KeepsTop.of_plain {v : Json} (h : isMarker v = false) (new : Json) : KeepsTop v new := by
  refine .inr fun ref href => ?_
  simp [isMarker, href] at h

theorem mem_collectRefs_setChild {v child new : Json} {i : Nat} (h : v.children[i]? = some child)
    (bare : child.text? = none) (keeps : KeepsTop v new) {key : String}
    (hkey : key ∈ collectRefs (v.setChild i new)) :
    key ∈ collectRefs v ∨ key ∈ collectRefs new ∧ ∀ k ∈ collectRefs child, k ∈ collectRefs v := by
  have top := get?_setChild h new
  cases Json.split_of_children h with
  | array before after whole put =>
    subst whole
    rw [put] at hkey
    obtain ⟨w, hw, hin⟩ := mem_collectRefs_array.mp hkey
    rcases List.mem_append.mp hw with hw | hw
    · exact .inl (mem_collectRefs_array.mpr ⟨w, by simp [hw], hin⟩)
    · rcases List.mem_cons.mp hw with rfl | hw
      · exact .inr ⟨hin, fun k hk => mem_collectRefs_array.mpr ⟨child, by simp, hk⟩⟩
      · exact .inl (mem_collectRefs_array.mpr ⟨w, by simp [hw], hin⟩)
  | object before name after whole put =>
    subst whole
    rw [put] at hkey top
    rcases mem_collectRefs_object.mp hkey with href | ⟨other, w, hw, hne, hin⟩
    · rcases top with same | ⟨hold, hnew⟩
      · exact .inl (mem_collectRefs_of_get? (same.symm.trans href))
      · obtain rfl : new = .text key := Option.some.inj (hnew.symm.trans href)
        rcases keeps with hnone | htext
        · simp [Json.text?] at hnone
        · exact absurd bare (htext child hold)
    · rcases List.mem_append.mp hw with hw | hw
      · exact .inl (mem_collectRefs_object.mpr (.inr ⟨other, w, by simp [hw], hne, hin⟩))
      · rcases List.mem_cons.mp hw with heq | hw
        · obtain ⟨rfl, rfl⟩ := Prod.mk.inj heq
          exact .inr ⟨hin, fun k hk =>
            mem_collectRefs_object.mpr (.inr ⟨other, child, by simp, hne, hk⟩)⟩
        · exact .inl (mem_collectRefs_object.mpr (.inr ⟨other, w, by simp [hw], hne, hin⟩))

namespace MarkerAt
variable {v ref new : Json} {place : Place}

theorem lookup (h : MarkerAt v place ref) : (v.at? place).bind (·.get? refKey) = some ref := by
  induction h with
  | child hc href => rw [Json.at?_cons_of_children hc, Json.at?_nil]; exact href
  | deeper hc _ _ ih => rwa [Json.at?_cons_of_children hc]

theorem unique {other : Json} (h : MarkerAt v place ref)
    (h' : MarkerAt v place other) : ref = other :=
  Option.some.inj (h.lookup.symm.trans h'.lookup)

theorem text?_eq_none (h : MarkerAt v place ref) : v.text? = none := by
  cases h with
  | child hc _ => exact Json.text?_eq_none_of_children hc
  | deeper hc _ _ => exact Json.text?_eq_none_of_children hc

theorem text?_putAt (h : MarkerAt v place ref) (new : Json) : (v.putAt new place).text? = none := by
  cases h with
  | child hc _ => simpa [Json.putAt_cons_of_children hc] using Json.text?_eq_none_of_children hc
  | deeper hc _ _ => simpa [Json.putAt_cons_of_children hc] using Json.text?_eq_none_of_children hc

theorem isMarker_putAt (h : MarkerAt v place ref) (new : Json) :
    isMarker (v.putAt new place) = isMarker v := by
  cases h with
  | child hc _ => rw [Json.putAt_cons_of_children hc, isMarker_setChild hc]
  | deeper hc _ _ => rw [Json.putAt_cons_of_children hc, isMarker_setChild hc]

theorem isObject_putAt (h : MarkerAt v place ref) (new : Json) :
    (v.putAt new place).isObject = v.isObject := by
  cases h with
  | child hc _ => rw [Json.putAt_cons_of_children hc, Json.isObject_setChild]
  | deeper hc _ _ => rw [Json.putAt_cons_of_children hc, Json.isObject_setChild]

theorem putAt_of_ne {other : Place} {ref' : Json} (h : MarkerAt v place ref)
    (h' : MarkerAt v other ref') (ne : place ≠ other) (new : Json) :
    MarkerAt (v.putAt new place) other ref' := by
  induction h generalizing other ref' with
  | @child v m ref i hc href =>
    rw [Json.putAt_cons_of_children hc, Json.putAt_nil]
    have marks : isMarker m = true := Option.isSome_iff_exists.mpr ⟨_, href⟩
    cases h' with
    | @child _ _ _ j hc' href' =>
      have hne : i ≠ j := fun e => ne (e ▸ rfl)
      exact .child ((Json.children_setChild_of_ne hne _ _).trans hc') href'
    | @deeper _ _ _ j _ hc' plain below =>
      have hne : i ≠ j := by
        rintro rfl
        obtain rfl := Option.some.inj (hc.symm.trans hc')
        simp [marks] at plain
      exact .deeper ((Json.children_setChild_of_ne hne _ _).trans hc') plain below
  | @deeper v c ref i place hc plain below ih =>
    rw [Json.putAt_cons_of_children hc]
    cases h' with
    | @child _ m _ j hc' href' =>
      have hne : i ≠ j := by
        rintro rfl
        obtain rfl := Option.some.inj (hc.symm.trans hc')
        simp [isMarker, href'] at plain
      exact .child ((Json.children_setChild_of_ne hne _ _).trans hc') href'
    | @deeper _ c' _ j rest hc' plain' below' =>
      by_cases hij : i = j
      · subst hij
        obtain rfl := Option.some.inj (hc.symm.trans hc')
        have hrest : place ≠ rest := fun e => ne (e ▸ rfl)
        exact .deeper (Json.children_setChild_self hc _) ((below.isMarker_putAt new).trans plain)
          (ih below' hrest)
      · exact .deeper ((Json.children_setChild_of_ne hij _ _).trans hc') plain' below'

/-- The references after a marker gave way to a value are old ones or those of the value. The latter
can only be where the reference of the marker counts, too. -/
theorem mem_collectRefs_putAt (h : MarkerAt v place ref) (keeps : KeepsTop v new) {key : String}
    (hkey : key ∈ collectRefs (v.putAt new place)) :
    key ∈ collectRefs v ∨
      key ∈ collectRefs new ∧ ∀ name, ref = .text name → name ∈ collectRefs v := by
  induction h generalizing key with
  | @child v m ref i hc href =>
    rw [Json.putAt_cons_of_children hc, Json.putAt_nil] at hkey
    rcases mem_collectRefs_setChild hc (text?_eq_none_of_get? href) keeps hkey with
      hold | ⟨hnew, hsub⟩
    · exact .inl hold
    · exact .inr ⟨hnew, fun name e => hsub name (mem_collectRefs_of_get? (e ▸ href))⟩
  | @deeper v c ref i place hc plain below ih =>
    rw [Json.putAt_cons_of_children hc] at hkey
    have keeps' : KeepsTop v (c.putAt new place) := .inl (below.text?_putAt new)
    rcases mem_collectRefs_setChild hc below.text?_eq_none keeps' hkey with hold | ⟨hnew, hsub⟩
    · exact .inl hold
    · rcases ih (.of_plain plain new) hnew with hc | ⟨hnew, hname⟩
      · exact .inl (hsub _ hc)
      · exact .inr ⟨hnew, fun name e => hsub name (hname name e)⟩

end MarkerAt

end LedgerFlow.Schema
