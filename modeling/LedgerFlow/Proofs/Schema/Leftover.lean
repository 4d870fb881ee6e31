import LedgerFlow.Proofs.Schema.InPlace

/-!
References that an expansion in place leaves behind. A pass replaces what stands below the top of a
document, and the search after the last pass does not look at what references hold, so references at
tops stay, and those inside of other references can.
-/
namespace LedgerFlow.Schema
open Json (Place)

def Registry.holding (entries : List (String × Json)) (maxPasses : Int) : Registry :=
  entries.foldl (fun r entry => r.register entry.1 entry.2) { documents := [], maxPasses }

theorem Registry.holding_eq (entries : List (String × Json)) (maxPasses : Int) :
    Registry.holding entries maxPasses = { documents := .ofPairs entries, maxPasses } := by
  have fold (documents : Table Json) :
      entries.foldl (fun r entry => r.register entry.1 entry.2) { documents, maxPasses } =
        ({ documents := entries.foldl (fun t entry =>
          t.insert entry.1 entry.2) documents, maxPasses } : Registry) := by
    induction entries generalizing documents with
    | nil => rfl
    | cons entry entries ih => exact ih _
  exact fold []

def RefersAt (v : Json) (place : Place) (key : String) : Prop :=
  (v.at? place).bind (·.get? refKey) = some (.text key)

/-- The way to this place leads through what a field `$ref` holds. -/
inductive InsideRef : Json → Place → Prop
  | here {v : Json} {i : Nat} {place : Place} (named : v.fieldsOf.keys[i]? = some refKey) :
      InsideRef v (i :: place)
  | deeper {v c : Json} {i : Nat} {place : Place} (at_i : v.children[i]? = some c)
      (below : InsideRef c place) :
      InsideRef v (i :: place)

namespace RefersAt
variable {v : Json} {place : Place} {key : String}

theorem of_cons {i : Nat} (h : RefersAt v (i :: place) key) :
    ∃ c, v.children[i]? = some c ∧ RefersAt c place key := by
  unfold RefersAt at h
  rw [Json.at?] at h
  split at h
  · exact ⟨_, by assumption, h⟩
  · cases h

/-- What the search for references does not find is inside of one. -/
theorem insideRef (h : RefersAt v place key) (unseen : collectRefs v = []) : InsideRef v place := by
  induction place generalizing v with
  | nil =>
    have top : v.get? refKey = some (.text key) := h
    have seen := mem_collectRefs_of_get? top
    rw [unseen] at seen
    exact absurd seen List.not_mem_nil
  | cons i place ih =>
    obtain ⟨c, hc, below⟩ := h.of_cons
    have empty (covers : ∀ target ∈ collectRefs c, target ∈ collectRefs v) :
        collectRefs c = [] := by
      rw [unseen] at covers
      exact List.eq_nil_iff_forall_not_mem.mpr fun target htarget =>
        List.not_mem_nil (covers target htarget)
    cases v with
    | array items =>
      refine .deeper hc (ih below (empty fun target htarget => ?_))
      exact mem_collectRefs_array.mpr ⟨c, List.mem_of_getElem? hc, htarget⟩
    | object fields =>
      obtain ⟨name, hfield⟩ : ∃ name, fields[i]? = some (name, c) := by
        simpa [Json.children] using hc
      by_cases hname : name = refKey
      · exact .here (by simp [Json.fieldsOf, Table.keys, hfield, hname])
      · refine .deeper hc (ih below (empty fun target htarget => ?_))
        exact mem_collectRefs_object.mpr
          (.inr ⟨name, c, List.mem_of_getElem? hfield, hname, htarget⟩)
    | _ => simp [Json.children] at hc

theorem place_eq_nil (h : RefersAt v place key) (idle : markerPlaces v = []) : place = [] := by
  cases place with
  | nil => rfl
  | cons i place =>
    exfalso
    obtain ⟨c, hc, below⟩ := h.of_cons
    obtain ⟨place, ref, marker⟩ : ∃ place ref, MarkerAt v place ref := by
      cases hm : isMarker c with
      | true =>
        obtain ⟨ref, href⟩ := Option.isSome_iff_exists.mp hm
        exact ⟨[i], ref, .child hc href⟩
      | false =>
        obtain ⟨part, hpart, href⟩ := Option.bind_eq_some_iff.mp below
        obtain ⟨rest, ref, marker⟩ :=
          exists_markerAt hm hpart (Option.isSome_iff_exists.mpr ⟨_, href⟩)
        exact ⟨i :: rest, ref, .deeper hc hm marker⟩
    have hmem := mem_markerPlaces_iff.mpr ⟨ref, marker⟩
    rw [idle] at hmem
    exact List.not_mem_nil hmem

end RefersAt

/-- No replacement touches a reference by text at the top of a document. -/
theorem exists_top_of_replaces {documents documents' : Table Json}
    (h : Relation.ReflTransGen Replaces documents documents') {key target : String}
    {document : Json} (found : documents.get? key = some document)
    (top : document.get? refKey = some (.text target)) :
    ∃ left, documents'.get? key = some left ∧ left.get? refKey = some (.text target) := by
  induction h with
  | refl => exact ⟨document, found, top⟩
  | tail _ step ih =>
    obtain ⟨old, hold, htop⟩ := ih
    have known : key ∈ _ := step.keys_eq.symm ▸ Table.mem_keys_of_get? hold
    obtain ⟨left, hleft⟩ := Table.exists_get?_of_mem_keys known
    refine ⟨left, hleft, ?_⟩
    rcases step.get?_cases hleft with same | ⟨_, other, new, place, hother, marker, _, rfl⟩
    · obtain rfl := Option.some.inj (hold.symm.trans same)
      exact htop
    · obtain rfl := Option.some.inj (hold.symm.trans hother)
      have keeps : KeepsTop old new := by
        refine .inr fun ref href => ?_
        obtain rfl := Option.some.inj (htop.symm.trans href)
        exact Option.some_ne_none _
      rcases marker.get?_putAt keeps htop with same | ⟨_, _, bare, _⟩
      · exact same
      · cases bare

section
variable {entries : List (String × Json)} {maxPasses : Int}

theorem holding_plainTops (plain : ∀ entry ∈ entries, isMarker entry.2 = false) :
    PlainTops (Registry.holding entries maxPasses).documents := by
  intro key document found
  rw [Registry.holding_eq] at found
  exact plain _ (Table.ofPairs_subset _ (Table.mem_of_get? found))

theorem exists_document_of_definitions {entry : String × Json}
    (h : entry ∈ (Registry.holding entries maxPasses).expandAll.1.definitions) :
    ∃ key, refName key = entry.1 ∧
      (Registry.holding entries maxPasses).expandAll.1.documents.get? key = some entry.2 := by
  have hmem := Table.ofPairs_subset _ h
  have fresh : (Registry.holding entries maxPasses).derived = [] := by rw [Registry.holding_eq]
  rw [Registry.derived_expandAll, fresh, List.append_nil] at hmem
  obtain ⟨⟨key, document⟩, present, rfl⟩ := List.mem_map.mp hmem
  have nodup : (Registry.holding entries maxPasses).expandAll.1.documents.keys.Nodup := by
    rw [Registry.keys_expandAll, Registry.holding_eq]
    exact Table.nodup_keys_ofPairs entries
  exact ⟨key, rfl, Table.get?_of_mem nodup present⟩

end

/-- Where replacing references in place ends well, what still refers by text stands at the top of a
definition or inside of another reference. Documents that are no references themselves leave nothing
behind; those that are references by text stay such ones. -/
theorem expandAll_leaves_tops (entries : List (String × Json)) {maxPasses : Int}
    (passes : 1 ≤ maxPasses) {n : Nat}
    (done : (Registry.holding entries maxPasses).expandAll.2.result = .ok n) :
    (∀ entry ∈ (Registry.holding entries maxPasses).expandAll.1.definitions, ∀ place key,
      RefersAt entry.2 place key → place = [] ∨ InsideRef entry.2 place) ∧
    ((∀ entry ∈ entries, isMarker entry.2 = false) →
      ∀ entry ∈ (Registry.holding entries maxPasses).expandAll.1.definitions, RefFree entry.2) ∧
    ∀ key document target, (Registry.holding entries maxPasses).documents.get? key = some document →
      document.get? refKey = some (.text target) →
      ∃ left, (Registry.holding entries maxPasses).expandAll.1.documents.get? key = some left ∧
        left.get? refKey = some (.text target) := by
  refine ⟨?_, ?_, ?_⟩
  · intro entry hentry place key refers
    obtain ⟨name, -, found⟩ := exists_document_of_definitions hentry
    rcases Registry.exhausted_expandAll done with idle | none_left
    · have hplaces := idle name (Table.mem_keys_of_get? found)
      rw [placesOf_found found] at hplaces
      exact .inl (refers.place_eq_nil hplaces)
    · exact .inr (refers.insideRef (collectRefs_of_unexpanded none_left found))
  · intro plain entry hentry
    obtain ⟨name, -, found⟩ := exists_document_of_definitions hentry
    have passes : 1 ≤ (Registry.holding entries maxPasses).maxPasses := by rwa [Registry.holding_eq]
    exact Registry.refFree_expandAll passes (holding_plainTops plain) done found
  · intro key document target found top
    exact exists_top_of_replaces (Registry.replaces_expandAll _) found top

def renamed : List (String × Json) := [("A", .object [("$ref", .text "B")]), ("B", ofType "string")]

def indirect : List (String × Json) :=
  [("D", .object [("$ref", .object [("$ref", .text "A")])]),
   ("A", .object [("x", .object [("$ref", .text "B")])]), ("B", ofType "string")]

/-- Both kinds of references can be left behind by an expansion that ends well. -/
theorem expandAll_leaves_renamed :
    ((Registry.holding renamed 10).expandAll.2.result = .ok 0 ∧
      (Registry.holding renamed 10).expandAll.1.definitions.get? "A" =
        some (.object [("$ref", .text "B")]) ∧
      RefersAt (.object [("$ref", .text "B")]) [] "B") ∧
    (Registry.holding indirect 1).expandAll.2.result = .ok 2 ∧
      (Registry.holding indirect 1).expandAll.1.definitions.get? "D" =
        some (.object [("$ref", .object [("x", .object [("$ref", .text "B")])])]) ∧
      RefersAt (.object [("$ref", .object [("x", .object [("$ref", .text "B")])])]) [0, 0] "B" := by
  refine ⟨⟨?_, ?_, rfl⟩, ?_, ?_, rfl⟩ <;> cbv

theorem expandAll_leaves_tops_renamed : (1 : Int) ≤ 10 ∧
    (Registry.holding renamed 10).expandAll.2.result = .ok 0 ∧
    ∃ left, (Registry.holding renamed 10).expandAll.1.documents.get? "A" = some left ∧
      left.get? refKey = some (.text "B") := by
  have passes : (1 : Int) ≤ 10 := by decide
  have done : (Registry.holding renamed 10).expandAll.2.result = .ok 0 := by cbv
  obtain ⟨-, -, stays⟩ := expandAll_leaves_tops renamed passes done
  exact ⟨passes, done, stays "A" _ "B" rfl rfl⟩

end LedgerFlow.Schema
