import LedgerFlow.Proofs.Schema.Pass

/-!
Documents without references. They expand to themselves, and documents whose tops are no markers
become such ones when passes come to an end.
-/
namespace LedgerFlow.Schema
open Json (Place)

/-- No object at any depth has a `$ref` field. -/
def RefFree (v : Json) : Prop := ∀ place part, v.at? place = some part → isMarker part = false

namespace RefFree
variable {v : Json}

theorem plain (h : RefFree v) : isMarker v = false := h [] v rfl

theorem of_child (h : RefFree v) {child : Json} (hc : child ∈ v.children) : RefFree child := by
  intro place part hpart
  obtain ⟨i, hi⟩ := List.getElem?_of_mem hc
  exact h (i :: place) part ((Json.at?_cons_of_children hi place).trans hpart)

theorem collectRefs_eq_nil (h : RefFree v) : collectRefs v = [] := by
  induction v using Json.induct with
  | array items ih =>
    refine List.eq_nil_iff_forall_not_mem.mpr fun key hkey => ?_
    obtain ⟨v, hv, hkey⟩ := mem_collectRefs_array.mp hkey
    rw [ih v hv (h.of_child hv)] at hkey
    exact List.not_mem_nil hkey
  | object fields ih =>
    refine List.eq_nil_iff_forall_not_mem.mpr fun key hkey => ?_
    rcases mem_collectRefs_object.mp hkey with htop | ⟨name, v, hv, _, hkey⟩
    · have hplain := h.plain
      simp [isMarker, Json.get?, Json.fieldsOf, htop] at hplain
    · rw [ih (name, v) hv (h.of_child (List.mem_map_of_mem hv))] at hkey
      exact List.not_mem_nil hkey
  | _ => rfl

theorem markerPlaces_eq_nil (h : RefFree v) : markerPlaces v = [] := by
  refine List.eq_nil_iff_forall_not_mem.mpr fun place hplace => ?_
  obtain ⟨ref, marker⟩ := mem_markerPlaces_iff.mp hplace
  obtain ⟨part, hpart, href⟩ := Option.bind_eq_some_iff.mp marker.lookup
  have hplain := h place part hpart
  simp [isMarker, href] at hplain

private theorem expandItems_self {f : Json → Except Error Json} {items : List Json}
    (h : ∀ v ∈ items, expandWith f v = .ok v) : expandItems f items = .ok items := by
  induction items with
  | nil => rfl
  | cons v rest ih =>
    obtain ⟨hv, hrest⟩ := List.forall_mem_cons.mp h
    rw [expandItems, hv, ih hrest]
    rfl

private theorem expandFields_self {f : Json → Except Error Json} {fields : List (String × Json)}
    (h : ∀ field ∈ fields, expandWith f field.2 = .ok field.2) :
    expandFields f fields = .ok fields := by
  induction fields with
  | nil => rfl
  | cons field rest ih =>
    obtain ⟨hv, hrest⟩ := List.forall_mem_cons.mp h
    rw [expandFields, hv, ih hrest]
    rfl

theorem expandWith_eq (h : RefFree v) (f : Json → Except Error Json) : expandWith f v = .ok v := by
  induction v using Json.induct with
  | array items ih =>
    rw [expandWith, expandItems_self fun v hv => ih v hv (h.of_child hv)]
    rfl
  | object fields ih =>
    rw [expandWith_plain_object h.plain,
      expandFields_self fun field hfield =>
        ih field hfield (h.of_child (List.mem_map_of_mem hfield))]
    rfl
  | _ => rfl

end RefFree

theorem exists_markerAt {v part : Json} {place : Place} (plain : isMarker v = false)
    (h : v.at? place = some part) (marks : isMarker part = true) :
    ∃ place ref, MarkerAt v place ref := by
  induction place generalizing v with
  | nil =>
    obtain rfl : v = part := Option.some.inj h
    simp [plain] at marks
  | cons i place ih =>
    cases hc : v.children[i]? with
    | none => simp [Json.at?, hc] at h
    | some c =>
      rw [Json.at?_cons_of_children hc] at h
      cases hm : isMarker c with
      | true =>
        obtain ⟨ref, href⟩ := Option.isSome_iff_exists.mp hm
        exact ⟨[i], ref, .child hc href⟩
      | false =>
        obtain ⟨rest, ref, marker⟩ := ih hm h
        exact ⟨i :: rest, ref, .deeper hc hm marker⟩

theorem refFree_of_not_markerAt {v : Json} (plain : isMarker v = false)
    (h : ∀ place ref, ¬ MarkerAt v place ref) : RefFree v := by
  intro place part hpart
  by_contra marks
  obtain ⟨place, ref, marker⟩ := exists_markerAt plain hpart (by simpa using marks)
  exact h place ref marker

namespace MarkerAt
variable {v ref new : Json} {place : Place}

theorem mem_collectRefs {name : String} (h : MarkerAt v place (.text name))
    (plain : isMarker v = false) : name ∈ collectRefs v := by
  generalize href : Json.text name = ref at h
  induction h with
  | child hc marks =>
    exact mem_collectRefs_of_child plain (List.mem_of_getElem? hc)
      (mem_collectRefs_of_get? (href ▸ marks))
  | deeper hc plain' _ ih =>
      exact mem_collectRefs_of_child plain (List.mem_of_getElem? hc) (ih plain' href)

theorem putAt_cases {other : Place} {ref' : Json} (h : MarkerAt v place ref)
    (h' : MarkerAt (v.putAt new place) other ref') :
    (other ≠ place ∧ MarkerAt v other ref') ∨ new.get? refKey = some ref' ∨
      ∃ place, MarkerAt new place ref' := by
  induction h generalizing other with
  | @child v m ref i hc href =>
    rw [Json.putAt_cons_of_children hc, Json.putAt_nil] at h'
    have hnew := Json.children_setChild_self hc new
    cases h' with
    | @child _ m' _ j hc' href' =>
      by_cases hij : i = j
      · subst hij
        obtain rfl : new = m' := Option.some.inj (hnew.symm.trans hc')
        exact .inr (.inl href')
      · have old := (Json.children_setChild_of_ne hij _ _).symm.trans hc'
        exact .inl ⟨by simpa using Ne.symm hij, .child old href'⟩
    | @deeper _ c _ j rest hc' plain' below =>
      by_cases hij : i = j
      · subst hij
        obtain rfl : new = c := Option.some.inj (hnew.symm.trans hc')
        exact .inr (.inr ⟨rest, below⟩)
      · have old := (Json.children_setChild_of_ne hij _ _).symm.trans hc'
        exact .inl ⟨by simp [Ne.symm hij], .deeper old plain' below⟩
  | @deeper v c ref i place hc plain' below ih =>
    rw [Json.putAt_cons_of_children hc] at h'
    have hnew := Json.children_setChild_self hc (c.putAt new place)
    cases h' with
    | @child _ m' _ j hc' href' =>
      by_cases hij : i = j
      · subst hij
        obtain rfl := Option.some.inj (hnew.symm.trans hc')
        have marks := (below.isMarker_putAt new).trans plain'
        simp [isMarker, href'] at marks
      · have old := (Json.children_setChild_of_ne hij _ _).symm.trans hc'
        exact .inl ⟨by simp [Ne.symm hij], .child old href'⟩
    | @deeper _ c' _ j rest hc' plain'' below' =>
      by_cases hij : i = j
      · subst hij
        obtain rfl := Option.some.inj (hnew.symm.trans hc')
        rcases ih below' with ⟨ne, h⟩ | inNew
        · exact .inl ⟨by simpa using ne, .deeper hc plain' h⟩
        · exact .inr inNew
      · have old := (Json.children_setChild_of_ne hij _ _).symm.trans hc'
        exact .inl ⟨by simp [Ne.symm hij], .deeper old plain'' below'⟩

theorem of_putAt {other : Place} {ref' : Json} (h : MarkerAt v place ref)
    (plain : isMarker new = false) (h' : MarkerAt (v.putAt new place) other ref') :
    (∃ place, MarkerAt v place ref') ∨ ∃ place, MarkerAt new place ref' := by
  rcases h.putAt_cases h' with ⟨-, old⟩ | top | inNew
  · exact .inl ⟨other, old⟩
  · simp [isMarker, top] at plain
  · exact .inr inNew

end MarkerAt

/-- No document is itself a reference. -/
def PlainTops (documents : Table Json) : Prop :=
  ∀ key document, documents.get? key = some document → isMarker document = false

theorem PlainTops.stableTops {documents : Table Json}
    (h : PlainTops documents) : StableTops documents := by
  refine .inr fun key document ref found href => ?_
  have plain := h key document found
  simp [isMarker, href] at plain

theorem Replaces.plainTops {documents documents' : Table Json} (h : Replaces documents documents')
    (plain : PlainTops documents) : PlainTops documents' := by
  intro key document found
  rcases h.get?_cases found with found | ⟨_, old, target, place, hold, marker, _, rfl⟩
  · exact plain key document found
  · exact (marker.isMarker_putAt target).trans (plain key old hold)

theorem textMarkers_of_replaces {documents documents' : Table Json}
    (h : Relation.ReflTransGen Replaces documents documents') (plain : PlainTops documents)
    (texts : ∀ key document, documents.get? key = some document → TextMarkers document) :
    PlainTops documents' ∧ ∀ key document, documents'.get? key = some document →
      TextMarkers document := by
  induction h with
  | refl => exact ⟨plain, texts⟩
  | tail _ step ih =>
    obtain ⟨plain, texts⟩ := ih
    refine ⟨step.plainTops plain, fun key document found place ref marker => ?_⟩
    rcases step.get?_cases found with found | ⟨name, old, target, at_, hold, old_marker, named, rfl⟩
    · exact texts key document found place ref marker
    · rcases old_marker.of_putAt (plain name target named) marker with ⟨place, h⟩ | ⟨place, h⟩
      · exact texts key old hold place ref h
      · exact texts name target named place ref h

theorem collectRefs_of_unexpanded {documents : Table Json} (none_left : unexpanded documents = [])
    {key : String} {document : Json} (found : documents.get? key = some document) :
    collectRefs document = [] := by
  by_contra hne
  have hkey : key ∈ unexpanded documents :=
    List.mem_map_of_mem (List.mem_filter.mpr ⟨Table.mem_of_get? found, by simpa using hne⟩)
  rw [none_left] at hkey
  exact List.not_mem_nil hkey

theorem refFree_of_exhausted {documents : Table Json} (done : Exhausted documents)
    (plain : PlainTops documents)
    (texts : ∀ key document, documents.get? key = some document → TextMarkers document) :
    ∀ key document, documents.get? key = some document → RefFree document := by
  intro key document found
  have hplain := plain key document found
  refine refFree_of_not_markerAt hplain fun place ref marker => ?_
  rcases done with idle | none_left
  · have hplaces := idle key (Table.mem_keys_of_get? found)
    rw [placesOf_found found] at hplaces
    have hmem := mem_markerPlaces_iff.mpr ⟨ref, marker⟩
    rw [hplaces] at hmem
    exact List.not_mem_nil hmem
  · have hrefs := collectRefs_of_unexpanded none_left found
    cases ref with
    | text name =>
      have hmem := marker.mem_collectRefs hplain
      rw [hrefs] at hmem
      exact List.not_mem_nil hmem
    | _ => exact texts key document found place _ marker rfl

end LedgerFlow.Schema
