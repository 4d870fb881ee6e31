import LedgerFlow.Proofs.Schema.Components
import LedgerFlow.Proofs.Schema.InPlace
import LedgerFlow.Schema.FlowSchema

/-!
Exported definitions. Documents go out under the bare names of their keys and derived schemas under
hashes, all into one table. So what has a key for itself is kept, and what shares a key with
something else may give way to it.
-/
namespace LedgerFlow.Schema

/-- What becomes of a registry while it is in use: it is expanded, and schemas are derived from it.
The list holds the schemas that were derived, each with the key that this gave. -/
inductive Registry.Grows (fresh : Registry) : List (String × Json) → Registry → Prop
  | refl : Grows fresh [] fresh
  | expand {made : List (String × Json)} {r : Registry} (grown : Grows fresh made r) :
      Grows fresh made r.expandAll.1
  | derive {made : List (String × Json)} {r : Registry} (grown : Grows fresh made r) (schema : Json)
      (text : String) :
      Grows fresh (made ++ [((r.derive schema text).2, schema)]) (r.derive schema text).1

namespace Registry.Grows
variable {fresh r : Registry} {made : List (String × Json)}

theorem keys_eq (grown : fresh.Grows made r) : r.documents.keys = fresh.documents.keys := by
  induction grown with
  | refl => rfl
  | expand _ ih => exact (keys_expandAll _).trans ih
  | derive _ _ _ ih => exact ih

theorem derived_eq (grown : fresh.Grows made r) :
    r.derived = made.foldl (fun t entry => t.insert entry.1 entry.2) fresh.derived := by
  induction grown with
  | refl => rfl
  | expand _ ih => exact (derived_expandAll _).trans ih
  | derive _ schema text ih =>
    rw [List.foldl_append, ← ih]
    rfl

theorem derived_ofPairs {components : Option Components} {maxPasses : Int}
    (grown : fresh.Grows made r)
    (accepted : Registry.ofComponents components maxPasses = .ok fresh) :
      r.derived = Table.ofPairs made := by
  rw [grown.derived_eq, Registry.ofComponents_eq accepted, Table.ofPairs]

theorem exporting (grown : fresh.Grows made r) (exports : List Export) :
    fresh.Grows (made ++ exports.map fun e => (e.key, e.schema)) (r.exporting exports) := by
  unfold Registry.exporting
  induction exports generalizing made r with
  | nil => rwa [List.map_nil, List.append_nil]
  | cons e exports ih =>
    have next := ih (grown.derive e.schema e.text)
    rwa [List.append_assoc] at next

end Registry.Grows

/-- What goes out under a key: the current document of a component, where a reference to the
component becomes one to this key, and each derived schema under the key that deriving it gave. -/
inductive Exported (components : Components) (r : Registry)
    (made : List (String × Json)) : String → Json → Prop
  | component {name key : String} {document : Json} (declared : name ∈ components.schemas.keys)
      (named : schemaUri (refPrefix ++ name) = uriPrefix ++ key)
      (current : r.documents.get? (refPrefix ++ name) = some document) :
      Exported components r made key document
  | derived {key : String} {schema : Json} (derived : (key, schema) ∈ made) :
      Exported components r made key schema

theorem schemaUri_eq_iff {ref key : String} :
    schemaUri ref = uriPrefix ++ key ↔ refName ref = key := by
  unfold schemaUri
  constructor
  · exact Text.append_left_cancel
  · rintro rfl
    rfl

section
variable {components : Components} {maxPasses : Int} {fresh r : Registry}
    {made : List (String × Json)}

theorem exists_current (accepted : Registry.ofComponents (some components) maxPasses = .ok fresh)
    (grown : fresh.Grows made r) {name : String} (declared : name ∈ components.schemas.keys) :
    ∃ document, r.documents.get? (refPrefix ++ name) = some document := by
  apply Table.exists_get?_of_mem_keys
  rw [grown.keys_eq, Registry.keys_ofComponents accepted]
  exact List.mem_map_of_mem declared

theorem exported_iff (distinct : components.schemas.keys.Nodup)
    (accepted : Registry.ofComponents (some components) maxPasses = .ok fresh)
    (grown : fresh.Grows made r) {key : String} {v : Json} :
    Exported components r made key v ↔
      (key, v) ∈ r.documents.map (fun (k, document) => (refName k, document)) ∨
        (key, v) ∈ made := by
  have keys := grown.keys_eq.trans (Registry.keys_ofComponents accepted)
  have nodup : r.documents.keys.Nodup := by
    rw [grown.keys_eq]
    exact Registry.nodup_keys_ofComponents accepted distinct
  constructor
  · intro exported
    cases exported with
    | component declared named current =>
      exact .inl (List.mem_map.mpr
        ⟨_, Table.mem_of_get? current, Prod.ext (schemaUri_eq_iff.mp named) rfl⟩)
    | derived derived => exact .inr derived
  · rintro (hmem | derived)
    · obtain ⟨⟨k, document⟩, present, heq⟩ := List.mem_map.mp hmem
      obtain ⟨rfl, rfl⟩ := Prod.mk.inj heq
      have known : k ∈ r.documents.keys := List.mem_map_of_mem present
      rw [keys] at known
      obtain ⟨name, declared, rfl⟩ := List.mem_map.mp known
      exact .component declared (schemaUri_eq_iff.mpr rfl) (Table.get?_of_mem nodup present)
    · exact .derived derived

theorem exported_of_mem_definitions (distinct : components.schemas.keys.Nodup)
    (accepted : Registry.ofComponents (some components) maxPasses = .ok fresh)
    (grown : fresh.Grows made r) {key : String} {v : Json} (h : (key, v) ∈ r.definitions) :
    Exported components r made key v := by
  have hmem := Table.ofPairs_subset _ h
  rw [grown.derived_ofPairs accepted, List.mem_append] at hmem
  apply (exported_iff distinct accepted grown).mpr
  apply hmem.imp_right
  intro hmade
  exact Table.ofPairs_subset _ hmade

theorem exists_definition (distinct : components.schemas.keys.Nodup)
    (accepted : Registry.ofComponents (some components) maxPasses = .ok fresh)
    (grown : fresh.Grows made r) {key : String} {v : Json}
    (exported : Exported components r made key v) :
    ∃ w, Exported components r made key w ∧ r.definitions.get? key = some w := by
  have known : key ∈ r.definitions.keys := by
    rw [Registry.definitions, Table.mem_keys_ofPairs, Table.keys_append, List.mem_append,
      grown.derived_ofPairs accepted, Table.mem_keys_ofPairs]
    rcases (exported_iff distinct accepted grown).mp exported with hmem | hmem
    · exact .inl (List.mem_map_of_mem hmem)
    · exact .inr (List.mem_map_of_mem hmem)
  obtain ⟨w, found⟩ := Table.exists_get?_of_mem_keys known
  exact ⟨w, exported_of_mem_definitions distinct accepted grown (Table.mem_of_get? found), found⟩

end

/-- Nothing is lost just when no two things that differ are exported under one key; more closely,
whatever is alone under its key, or shares it with its likes, stands there. Each component is
exported under the bare name of its reference, which is its own name unless that holds a slash. -/
theorem definitions_lossless_iff {components : Components} {maxPasses : Int} {fresh r : Registry}
    {made : List (String × Json)} (distinct : components.schemas.keys.Nodup)
    (accepted : Registry.ofComponents (some components) maxPasses = .ok fresh)
    (grown : fresh.Grows made r) :
    ((∀ key v, Exported components r made key v → r.definitions.get? key = some v) ↔
      ∀ key v w, Exported components r made key v → Exported components r made key w → v = w) ∧
    (∀ key v, Exported components r made key v → (∀ w, Exported components r made key w → w = v) →
      r.definitions.get? key = some v) ∧
    ∀ name ∈ components.schemas.keys, ∃ key document, schemaUri (refPrefix ++ name) =
      uriPrefix ++ key ∧
      r.documents.get? (refPrefix ++ name) = some document ∧
        Exported components r made key document ∧
      ('/' ∉ name.toList → key = name) := by
  have alone (key : String) (v : Json) (exported : Exported components r made key v)
      (likes : ∀ w, Exported components r made key w → w = v) :
        r.definitions.get? key = some v := by
    obtain ⟨w, hw, found⟩ := exists_definition distinct accepted grown exported
    rw [found, likes w hw]
  refine ⟨⟨?_, ?_⟩, alone, ?_⟩
  · intro kept key v w hv hw
    exact Option.some.inj ((kept key v hv).symm.trans (kept key w hw))
  · intro same key v exported
    exact alone key v exported fun w hw => same key w v hw exported
  · intro name declared
    obtain ⟨document, current⟩ := exists_current accepted grown declared
    exact ⟨_, document, rfl, current, .component declared rfl current, refName_of_no_slash⟩

def namesakes : Components where
  schemas :=
    [("a/b", { properties := [("x", ofType "string")] }),
      ("c/b", { properties := [("y", ofType "string")] }),
     ("811c9dc5", {})]

def Registry.namesakes : Registry where
  documents :=
    [("#/components/schemas/a/b", objectOf [("x", ofType "string")]),
     ("#/components/schemas/c/b", objectOf [("y", ofType "string")]),
     ("#/components/schemas/811c9dc5", objectOf [])]

/-- The bare names of components can be the same, and a derived schema can have the bare name of a
component; either way something is lost. -/
theorem definitions_namesakes : namesakes.schemas.keys.Nodup ∧
    Registry.ofComponents (some namesakes) 10 = .ok .namesakes ∧
    Exported namesakes .namesakes [] "b" (objectOf [("x", ofType "string")]) ∧
    Registry.namesakes.definitions.get? "b" ≠ some (objectOf [("x", ofType "string")]) ∧
    ∃ grown, Registry.namesakes.Grows [("811c9dc5", ofType "number")] grown ∧
      Exported namesakes grown [("811c9dc5", ofType "number")] "811c9dc5" (objectOf []) ∧
      grown.definitions.get? "811c9dc5" ≠ some (objectOf []) := by
  have first : Exported namesakes .namesakes [] "b" (objectOf [("x", ofType "string")]) :=
    .component List.mem_cons_self rfl rfl
  have stands : Registry.namesakes.definitions.get? "b" =
    some (objectOf [("y", ofType "string")]) := rfl
  have derived : Registry.namesakes.derive (ofType "number") "" =
      ({ Registry.namesakes with derived := [("811c9dc5", ofType "number")] }, "811c9dc5") := by cbv
  have grown := (@Registry.Grows.refl .namesakes).derive (ofType "number") ""
  rw [derived] at grown
  refine ⟨by decide, rfl, first, ?_, _, grown, ?_, ?_⟩
  · rw [stands]
    simp [objectOf]
  · have declared : "811c9dc5" ∈ namesakes.schemas.keys := by decide
    exact .component declared rfl rfl
  · have covered : ({ Registry.namesakes with
        derived := [("811c9dc5", ofType "number")] } : Registry).definitions.get? "811c9dc5" =
        some (ofType "number") := rfl
    rw [covered]
    simp [objectOf, ofType]

def shelf : Components where
  schemas :=
    [("Box", { properties := [("item", .object [("$ref", .text "#/components/schemas/Item")])] }),
     ("Item", { properties := [("size", ofType "integer")] })]

def Registry.shelf : Registry where
  documents :=
    [("#/components/schemas/Box",
      objectOf [("item", .object [("$ref", .text "#/components/schemas/Item")])]),
     ("#/components/schemas/Item", objectOf [("size", ofType "integer")])]

def Registry.fullShelf : Registry where
  documents :=
    [("#/components/schemas/Box", objectOf [("item", objectOf [("size", ofType "integer")])]),
     ("#/components/schemas/Item", objectOf [("size", ofType "integer")])]
  derived := [("ead0455b", arrayOf (ofType "string"))]

theorem checkCycles_shelf : checkCycles Registry.shelf.documents = .ok () := by
  have deps : dependencies Registry.shelf.documents =
      [("#/components/schemas/Box", ["#/components/schemas/Item"]),
        ("#/components/schemas/Item", [])] := rfl
  have length : Registry.shelf.documents.length = 2 := rfl
  have known : checkTargets Registry.shelf.documents ["#/components/schemas/Item"] = .ok () := rfl
  unfold checkCycles
  rw [deps, length]
  simp [known, Table.keys, visitAll, visit, Dependencies.of, Table.get?]
  rfl

theorem grows_fullShelf :
    Registry.shelf.Grows [("ead0455b", arrayOf (ofType "string"))] .fullShelf := by
  have hash : Text.hashKey (arrayOf (ofType "string")).compactText = "ead0455b" := by cbv
  have made : Registry.shelf.expandAll.1.derive (arrayOf (ofType "string"))
    (arrayOf (ofType "string")).compactText = (.fullShelf, "ead0455b") := by
    rw [Registry.derive, hash, Registry.expandAll_of_checkCycles checkCycles_shelf]
    rfl
  have grown := (@Registry.Grows.refl .shelf).expand.derive (arrayOf (ofType "string"))
    (arrayOf (ofType "string")).compactText
  rwa [made] at grown

theorem definitions_lossless_iff_shelf : shelf.schemas.keys.Nodup ∧
    Registry.ofComponents (some shelf) 10 = .ok .shelf ∧
    Registry.shelf.Grows [("ead0455b", arrayOf (ofType "string"))] .fullShelf ∧
    Registry.fullShelf.definitions.get? "Box" =
      some (objectOf [("item", objectOf [("size", ofType "integer")])]) ∧
    Registry.fullShelf.definitions.get? "ead0455b" = some (arrayOf (ofType "string")) := by
  have distinct : shelf.schemas.keys.Nodup := by decide
  have accepted : Registry.ofComponents (some shelf) 10 = .ok .shelf := rfl
  obtain ⟨⟨-, kept⟩, -⟩ := definitions_lossless_iff distinct accepted grows_fullShelf
  have all := kept ?_
  · exact ⟨distinct, accepted, grows_fullShelf, all _ _ (.component List.mem_cons_self rfl rfl),
      all _ _ (.derived List.mem_cons_self)⟩
  · intro key v w hv hw
    rw [exported_iff distinct accepted grows_fullShelf, ← List.mem_append] at hv hw
    have apart :
      (Table.keys (Registry.fullShelf.documents.map (fun (k, document) => (refName k, document)) ++
        [("ead0455b", arrayOf (ofType "string"))])).Nodup := by decide
    exact Option.some.inj ((Table.get?_of_mem apart hv).symm.trans (Table.get?_of_mem apart hw))

end LedgerFlow.Schema
