import LedgerFlow.Proofs.Schema.Resolved
import LedgerFlow.Proofs.Schema.WellFormed

/-!
Expansion keeps schemas well formed. A reference may stand for a schema, and then a well-formed
schema takes its place; it may stand in data, and there anything goes; it may not stand where names
or numbers are asked for, nor can a table of schemas be taken for one, as what it would refer to is
no text.
-/
namespace LedgerFlow.Schema

/-! Values that hold no schemas. -/

theorem refFree_leaf {v : Json} (leaf : v.children = []) (plain : isMarker v = false) : RefFree v :=
  refFree_iff.mpr ⟨plain, by simp [leaf]⟩

theorem refFree_of_hasType {name : String} {v : Json} (h : hasType name v = true)
    (array : name ≠ "array") (object : name ≠ "object") : RefFree v := by
  cases v with
  | array items =>
    unfold hasType at h
    split at h <;> simp_all [isNumber]
  | object fields =>
    unfold hasType at h
    split at h <;> simp_all [isNumber]
  | _ => exact refFree_leaf rfl rfl

theorem refFree_texts {items : List Json}
    (h : ∀ item ∈ items, ∃ s, item = .text s) : RefFree (.array items) := by
  refine refFree_iff.mpr ⟨rfl, fun item hitem => ?_⟩
  obtain ⟨s, rfl⟩ := h item hitem
  exact refFree_leaf rfl rfl

theorem Shape.Fits.refFree {shape : Shape} {v : Json} (fits : shape.Fits v)
    (plain : shape ∈ [Shape.text, .pattern, .flag, .number, .positive, .count, .nameList, .types]) :
    RefFree v := by
  have typed {name : String} (h : requireType name (complaintsReading v).value = [])
    (array : name ≠ "array") (object : name ≠ "object") : RefFree v := by
    rw [complaintsReading_value] at h
    exact refFree_of_hasType (requireType_eq_nil_iff.mp h) array object
  cases shape with
  | text => exact typed fits (by decide) (by decide)
  | pattern => exact typed (List.append_eq_nil_iff.mp fits).1 (by decide) (by decide)
  | flag => exact typed fits (by decide) (by decide)
  | number => exact typed fits (by decide) (by decide)
  | positive => exact typed (List.append_eq_nil_iff.mp fits).1 (by decide) (by decide)
  | count => exact typed (List.append_eq_nil_iff.mp fits).1 (by decide) (by decide)
  | nameList =>
    obtain ⟨items, rfl, texts⟩ := texts_of_requireNames (fits_nameList.mp fits)
    exact refFree_texts texts
  | types =>
    rcases texts_of_types fits with ⟨s, rfl⟩ | ⟨items, rfl, texts⟩
    · exact refFree_leaf rfl rfl
    · exact refFree_texts texts
  | _ => simp at plain

/-! References give way to schemas. -/

section
variable {f : Json → Except Error Json}

/-- Where only texts are followed, a table whose values are no texts is not taken for a reference:
it stays a table, and its values are expanded. -/
theorem expandWith_table (texts : ∀ ref w, f ref = .ok w → ref.text? ≠ none)
    {fields : List (String × Json)} (bare : ∀ field ∈ fields, field.2.text? = none) {w : Json}
    (h : expandWith f (.object fields) = .ok w) :
    ∃ out, w = .object out ∧ Table.Pairs (fun v w => expandWith f v = .ok w) fields out := by
  cases hm : isMarker (.object fields) with
  | true =>
    obtain ⟨ref, marks⟩ := Option.isSome_iff_exists.mp hm
    rw [expandWith_marker marks] at h
    exact absurd (bare (refKey, ref) (Table.mem_of_get? marks)) (texts ref w h)
  | false =>
    rw [expandWith_plain_object hm] at h
    obtain ⟨out, hout, rfl⟩ := map_eq_ok_iff.mp h
    exact ⟨out, rfl, expandFields_ok hout⟩

def KeepsShape (f : Json → Except Error Json) (v : Json) : Prop :=
  ∀ (shape : Shape) w, expandWith f v = .ok w → shape.Fits v → shape.Fits w

variable {v w : Json}

theorem WellFormed.expandWith (follows : ∀ ref w, f ref = .ok w → WellFormed w)
    (parts : ∀ c ∈ v.children, KeepsShape f c) (h : Schema.expandWith f v = .ok w)
    (good : WellFormed v) : WellFormed w := by
  rcases good.object_or_bool with ⟨fields, rfl⟩ | ⟨b, rfl⟩
  · cases hm : isMarker (.object fields) with
    | true =>
      obtain ⟨ref, marks⟩ := Option.isSome_iff_exists.mp hm
      rw [expandWith_marker marks] at h
      exact follows ref w h
    | false =>
      rw [expandWith_plain_object hm] at h
      obtain ⟨out, hout, rfl⟩ := map_eq_ok_iff.mp h
      refine wellFormed_object.mpr fun keyword shape hkeyword w found => ?_
      obtain ⟨v, hv, hexpand⟩ := (expandFields_ok hout).get? found
      have child : v ∈ (Json.object fields).children := List.mem_map_of_mem (Table.mem_of_get? hv)
      exact parts v child shape w hexpand (wellFormed_object.mp good keyword shape hkeyword v hv)
  · obtain rfl := Except.ok.inj h
    exact good

theorem schemaList_expandWith (parts : ∀ c ∈ v.children, KeepsShape f c)
    (h : expandWith f v = .ok w) (fits : Shape.schemaList.Fits v) : Shape.schemaList.Fits w := by
  obtain ⟨items, rfl, filled, each⟩ := fits_schemaList.mp fits
  rw [expandWith] at h
  obtain ⟨out, hout, rfl⟩ := map_eq_ok_iff.mp h
  have expanded := expandItems_ok hout
  refine fits_schemaList.mpr ⟨out, rfl, ?_, fun own hown => ?_⟩
  · rintro rfl
    exact filled (List.forall₂_nil_right_iff.mp expanded)
  · obtain ⟨item, hitem, hexpand⟩ := exists_mem_of_forall₂ expanded.flip hown
    exact parts item hitem .schema own hexpand (each item hitem)

/-- A value keeps its shape when well-formed schemas take the place of the references in it,
wherever they stand. -/
theorem keepsShape (follows : ∀ ref w, f ref = .ok w → WellFormed w)
    (texts : ∀ ref w, f ref = .ok w → ref.text? ≠ none) (v : Json) : KeepsShape f v := by
  induction v using Json.children_induct with
  | step v parts =>
    intro shape w h fits
    have plain (h' : shape ∈ [Shape.text, .pattern, .flag, .number, .positive, .count, .nameList,
      .types]) : shape.Fits w := by
      rw [(fits.refFree h').expandWith_eq] at h
      exact Except.ok.inj h ▸ fits
    cases shape with
    | anything => rfl
    | list =>
      obtain ⟨items, rfl⟩ := fits_list.mp fits
      rw [expandWith] at h
      obtain ⟨out, -, rfl⟩ := map_eq_ok_iff.mp h
      exact fits_list.mpr ⟨out, rfl⟩
    | schema => exact WellFormed.expandWith follows parts h fits
    | schemaList => exact schemaList_expandWith parts h fits
    | schemaOrList =>
      rcases fits_schemaOrList.mp fits with fits | fits
      · exact fits_schemaOrList.mpr (.inl (WellFormed.expandWith follows parts h fits))
      · exact fits_schemaOrList.mpr (.inr (schemaList_expandWith parts h fits))
    | schemaTable =>
      obtain ⟨fields, rfl, each⟩ := fits_schemaTable.mp fits
      obtain ⟨out, rfl, expanded⟩ :=
        expandWith_table texts (fun field hfield => (each field hfield).text?) h
      refine fits_schemaTable.mpr ⟨out, rfl, fun own hown => ?_⟩
      obtain ⟨field, hfield, -, hexpand⟩ := exists_mem_of_forall₂ expanded.flip hown
      exact parts field.2 (List.mem_map_of_mem hfield) .schema own.2 hexpand (each field hfield)
    | patternTable =>
      obtain ⟨fields, rfl, each⟩ := fits_patternTable.mp fits
      obtain ⟨out, rfl, expanded⟩ :=
        expandWith_table texts (fun field hfield => (each field hfield).1.text?) h
      refine fits_patternTable.mpr ⟨out, rfl, fun own hown => ?_⟩
      obtain ⟨field, hfield, name, hexpand⟩ := exists_mem_of_forall₂ expanded.flip hown
      refine ⟨parts field.2 (List.mem_map_of_mem hfield) .schema own.2 hexpand
        (each field hfield).1, ?_⟩
      rw [name]
      exact (each field hfield).2
    | dependencyTable =>
      obtain ⟨fields, rfl, each⟩ := fits_dependencyTable.mp fits
      have bare (field : String × Json) (hfield : field ∈ fields) : field.2.text? = none := by
        rcases each field hfield with good | names
        · exact good.text?
        · obtain ⟨items, hitems, -⟩ := texts_of_requireNames (fits_nameList.mp names)
          rw [hitems]
          rfl
      obtain ⟨out, rfl, expanded⟩ := expandWith_table texts bare h
      refine fits_dependencyTable.mpr ⟨out, rfl, fun own hown => ?_⟩
      obtain ⟨field, hfield, -, hexpand⟩ := exists_mem_of_forall₂ expanded.flip hown
      have kept := parts field.2 (List.mem_map_of_mem hfield)
      exact (each field hfield).imp (kept .schema own.2 hexpand) (kept .nameList own.2 hexpand)
    | _ => exact plain (by simp)

end

section
variable {documents : Table Json} {v w : Json}

theorem text?_of_follow {left : Nat} {path : List String} {ref : Json}
    (h : follow documents left path ref = .ok w) : ref.text? ≠ none := by
  cases left with
  | zero => exact absurd h follow_zero_ne_ok
  | succ left =>
    obtain ⟨key, -, rfl, -⟩ := follow_ok h
    exact Option.some_ne_none key

theorem follow_wellFormed
    (good : ∀ key document, documents.get? key = some document → WellFormed document) {left : Nat}
    {path : List String} {ref : Json}
    (h : follow documents left path ref = .ok w) : WellFormed w := by
  induction left generalizing path ref w with
  | zero => exact absurd h follow_zero_ne_ok
  | succ left ih =>
    obtain ⟨key, document, -, found, h⟩ := follow_ok h
    exact keepsShape (fun _ _ => ih)
      (fun _ _ => text?_of_follow) document .schema w h (good key document found)

theorem expandDocument_wellFormed
    (good : ∀ key document, documents.get? key = some document → WellFormed document)
    (own : WellFormed v) (h : expandDocument documents v = .ok w) : WellFormed w :=
  keepsShape (fun _ _ => follow_wellFormed good) (fun _ _ => text?_of_follow) v .schema w h own

end

theorem wellFormed_of_componentDocuments {components : List (String × Component)}
    {documents : Table Json} (h : componentDocuments components = .ok documents) :
    ∀ entry ∈ documents, WellFormed entry.2 := by
  induction components generalizing documents with
  | nil =>
    obtain rfl := Except.ok.inj h
    exact nofun
  | cons component rest ih =>
    obtain ⟨name, c⟩ := component
    obtain ⟨document, first, h⟩ := bind_eq_ok_iff.mp h
    obtain ⟨later, hlater, h⟩ := bind_eq_ok_iff.mp h
    obtain rfl := Except.ok.inj h
    exact List.forall_mem_cons.mpr ⟨check_eq_ok_iff.mp (checkComponent_ok first).2, ih hlater⟩

theorem Registry.wellFormed_ofComponents {components : Option Components} {maxPasses : Int}
    {r : Registry} (accepted : Registry.ofComponents components maxPasses = .ok r) {key : String}
    {document : Json} (found : r.documents.get? key = some document) : WellFormed document := by
  obtain ⟨documents, hdocuments, h⟩ := bind_eq_ok_iff.mp accepted
  obtain rfl := Except.ok.inj h
  exact wellFormed_of_componentDocuments hdocuments _ (Table.mem_of_get? found)

theorem wellFormed_reference (key : String) : WellFormed (reference key) := by
  refine wellFormed_of_fields (List.forall_mem_singleton.mpr fun shape hshape => ?_)
  obtain rfl := Option.some.inj hshape
  rw [Shape.Fits, Shape.complaints, complaintsReading_value, requireType_eq_nil_iff, hasType]

theorem Registry.wellFormed_expandAll {components : Option Components} {maxPasses : Int}
    {r : Registry} (accepted : Registry.ofComponents components maxPasses = .ok r)
    (passes : 1 ≤ r.maxPasses) {n : Nat} (done : r.expandAll.2.result = .ok n) {key : String}
    {document : Json}
    (found : r.expandAll.1.documents.get? key = some document) : WellFormed document := by
  have expands := Registry.expand_reference passes (Registry.ofComponents_plainTops accepted)
    done found
  exact expandDocument_wellFormed (fun _ _ => Registry.wellFormed_ofComponents accepted)
    (wellFormed_reference key) expands

end LedgerFlow.Schema
