import LedgerFlow.Proofs.Json.Reread
import LedgerFlow.Proofs.Json.Throughout
import LedgerFlow.Proofs.Schema.Components
import LedgerFlow.Proofs.Schema.InPlace
import LedgerFlow.Schema.Infer

/-!
Schemas without references. What a document expands to has no field `$ref` at all; schemas put
together from others, or read off a sample, may have one by name, but no such field holds a text.
-/
namespace LedgerFlow.Schema
open Json (Throughout throughout_iff throughout_array throughout_object throughout_leaf)

/-- No object at any depth refers by text. -/
def Resolved (v : Json) : Prop :=
  v.Throughout fun part => ∀ ref, (refKey, .text ref) ∉ part.fieldsOf

theorem RefFree.resolved {v : Json} (h : RefFree v) : Resolved v := by
  intro place part hpart ref hmem
  have plain := h place part hpart
  have hnone : Table.get? part.fieldsOf refKey = none := by simpa [isMarker, Json.get?] using plain
  exact Table.get?_eq_none_iff.mp hnone (List.mem_map_of_mem hmem)

theorem Resolved.get? {v w : Json} (h : Resolved v) {name : String}
    (found : v.get? name = some w) : Resolved w :=
  Throughout.get? h found

theorem resolved_text (s : String) : Resolved (.text s) :=
  (throughout_leaf rfl).mpr fun _ => List.not_mem_nil

theorem resolved_object {fields : List (String × Json)} :
    Resolved (.object fields) ↔ (∀ ref, (refKey, .text ref) ∉ fields) ∧
      ∀ field ∈ fields, Resolved field.2 :=
  throughout_object

theorem resolved_object_of_no_texts {fields : List (String × Json)}
    (h : ∀ field ∈ fields, field.2.text? = none ∧ Resolved field.2) :
    Resolved (.object fields) := by
  refine resolved_object.mpr ⟨?_, fun field hfield => (h field hfield).2⟩
  intro ref hmem
  cases (h _ hmem).1

theorem resolved_ofType (name : String) : Resolved (ofType name) := by
  simp [ofType, resolved_object, resolved_text, refKey]

theorem resolved_arrayOf {items : Json} (h : Resolved items) : Resolved (arrayOf items) := by
  simp [arrayOf, resolved_object, resolved_text, h, refKey]

theorem resolved_typed {type : String} {properties : Json} (h : Resolved properties) :
    Resolved (.object [("type", .text type), ("properties", properties)]) := by
  simp [resolved_object, resolved_text, h, refKey]

theorem resolved_objectOf {properties : List (String × Json)}
    (h : ∀ field ∈ properties, field.2.text? = none ∧ Resolved field.2) :
    Resolved (objectOf properties) :=
  resolved_typed (resolved_object_of_no_texts h)

theorem text?_infer (v : Json) : (infer v).text? = none := by
  unfold infer
  split <;> try rfl
  split <;> rfl

/-- The schema of a sample never refers to anything, even if a field of the sample is called
`$ref`. -/
theorem resolved_infer (v : Json) : Resolved (infer v) := by
  induction v using Json.induct with
  | array items ih =>
    cases items with
    | nil => exact resolved_ofType "array"
    | cons v rest =>
      rw [infer]
      exact resolved_arrayOf (ih v List.mem_cons_self)
  | object fields ih =>
    have properties : Resolved (objectOf (inferFields fields)) := by
      rw [inferFields_eq_map]
      refine resolved_objectOf (List.forall_mem_map.mpr fun field hfield => ?_)
      exact ⟨text?_infer field.2, ih field hfield⟩
    match fields with
    | [(name, v)] =>
      rw [infer]
      split
      · exact resolved_arrayOf (ih (name, v) List.mem_cons_self)
      · exact properties
    | [] => exact properties
    | _ :: _ :: _ => exact properties
  | _ => exact resolved_ofType _

theorem Resolved.of_reread {v w : Json} (resolved : Resolved v)
    (h : Json.Reread v w) : Resolved w := by
  induction v using Json.children_induct generalizing w with
  | step v ih =>
    cases h with
    | same => exact resolved
    | number written read =>
      cases w with
      | int n => exact (throughout_leaf rfl).mpr nofun
      | float x => exact (throughout_leaf rfl).mpr nofun
      | _ => cases read
    | array each =>
      refine throughout_array.mpr ⟨nofun, ?_⟩
      intro own hown
      obtain ⟨item, hitem, alike⟩ := exists_mem_of_forall₂ each.flip hown
      exact ih item hitem ((throughout_iff.mp resolved).2 item hitem) alike
    | object each =>
      refine resolved_object.mpr ⟨?_, ?_⟩
      · intro ref hmem
        obtain ⟨field, hfield, alike⟩ :=
          exists_mem_of_forall₂ each.flip (Table.ofPairs_subset _ hmem)
        cases alike with
        | of alike =>
          obtain rfl := alike.eq_text
          exact (resolved_object.mp resolved).1 ref hfield
      · intro own hown
        obtain ⟨field, hfield, alike⟩ :=
          exists_mem_of_forall₂ each.flip (Table.ofPairs_subset _ hown)
        cases alike with
        | of alike => exact ih _ (List.mem_map_of_mem hfield) ((resolved_object.mp
            resolved).2 _ hfield) alike

section
variable {f : Json → Except Error Json}

theorem expandItems_ok {items out : List Json} (h : expandItems f items = .ok out) :
    List.Forall₂ (fun v w => expandWith f v = .ok w) items out := by
  induction items generalizing out with
  | nil =>
    obtain rfl := Except.ok.inj h
    exact .nil
  | cons v items ih =>
    obtain ⟨w, hw, h⟩ := bind_eq_ok_iff.mp h
    obtain ⟨rest, hrest, h⟩ := bind_eq_ok_iff.mp h
    obtain rfl := Except.ok.inj h
    exact .cons hw (ih hrest)

theorem expandFields_ok {fields out : Table Json} (h : expandFields f fields = .ok out) :
    Table.Pairs (fun v w => expandWith f v = .ok w) fields out := by
  induction fields generalizing out with
  | nil =>
    obtain rfl := Except.ok.inj h
    exact .nil
  | cons field fields ih =>
    obtain ⟨w, hw, h⟩ := bind_eq_ok_iff.mp h
    obtain ⟨rest, hrest, h⟩ := bind_eq_ok_iff.mp h
    obtain rfl := Except.ok.inj h
    exact .cons ⟨rfl, hw⟩ (ih hrest)

theorem isMarker_eq_false_iff {v : Json} : isMarker v = false ↔ refKey ∉ v.fieldsOf.keys := by
  rw [← Table.contains_iff_mem_keys, Bool.not_eq_true]
  rfl

theorem refFree_iff {v : Json} : RefFree v ↔ isMarker v = false ∧ ∀ c ∈ v.children, RefFree c :=
  throughout_iff

theorem expandWith_refFree (follows : ∀ ref w, f ref = .ok w → RefFree w) {v w : Json}
    (h : expandWith f v = .ok w) : RefFree w := by
  induction v using Json.induct generalizing w with
  | array items ih =>
    rw [expandWith] at h
    obtain ⟨out, hout, rfl⟩ := map_eq_ok_iff.mp h
    refine refFree_iff.mpr ⟨rfl, fun c hc => ?_⟩
    obtain ⟨v, hv, hexpand⟩ := exists_mem_of_forall₂ (expandItems_ok hout).flip hc
    exact ih v hv hexpand
  | object fields ih =>
    cases hm : isMarker (.object fields) with
    | true =>
      obtain ⟨ref, href⟩ := Option.isSome_iff_exists.mp hm
      rw [expandWith_marker href] at h
      exact follows ref w h
    | false =>
      rw [expandWith_plain_object hm] at h
      obtain ⟨out, hout, rfl⟩ := map_eq_ok_iff.mp h
      have expanded := expandFields_ok hout
      refine refFree_iff.mpr ⟨?_, fun c hc => ?_⟩
      · rw [isMarker_eq_false_iff] at hm ⊢
        exact expanded.keys_eq.symm ▸ hm
      · obtain ⟨field, hfield, rfl⟩ := List.mem_map.mp hc
        obtain ⟨old, hold, -, hexpand⟩ := exists_mem_of_forall₂ expanded.flip hfield
        exact ih old hold hexpand
  | _ =>
    obtain rfl := Except.ok.inj h
    exact refFree_iff.mpr ⟨rfl, by simp [Json.children]⟩

theorem expandWith_isObject (follows : ∀ ref w, f ref = .ok w → w.isObject = true) {v w : Json}
    (object : v.isObject = true) (h : expandWith f v = .ok w) : w.isObject = true := by
  cases v with
  | object fields =>
    cases hm : isMarker (.object fields) with
    | true =>
      obtain ⟨ref, href⟩ := Option.isSome_iff_exists.mp hm
      rw [expandWith_marker href] at h
      exact follows ref w h
    | false =>
      rw [expandWith_plain_object hm] at h
      obtain ⟨out, -, rfl⟩ := map_eq_ok_iff.mp h
      rfl
  | _ => cases object

end

section
variable {documents : Table Json} {v w : Json}

theorem follow_zero_ne_ok {path : List String} {ref : Json} :
    follow documents 0 path ref ≠ .ok w := by
  intro h
  obtain ⟨_, -, h⟩ := bind_eq_ok_iff.mp h
  cases h

theorem follow_ok {left : Nat} {path : List String} {ref : Json}
    (h : follow documents (left + 1) path ref = .ok w) :
    ∃ key document, ref = .text key ∧ documents.get? key = some document ∧
      expandWith (follow documents left (path ++ [key])) document = .ok w := by
  rw [follow] at h
  obtain ⟨⟨key, document⟩, hresolve, h⟩ := bind_eq_ok_iff.mp h
  obtain ⟨href, found⟩ := resolve_eq_ok_iff.mp hresolve
  dsimp only at h
  split at h
  · cases h
  · exact ⟨key, document, href, found, h⟩

theorem follow_refFree {left : Nat} {path : List String} {ref : Json}
    (h : follow documents left path ref = .ok w) : RefFree w := by
  induction left generalizing path ref w with
  | zero =>
    exact absurd h follow_zero_ne_ok
  | succ left ih =>
    obtain ⟨_, _, -, -, h⟩ := follow_ok h
    exact expandWith_refFree (fun _ _ => ih) h

theorem expandDocument_refFree (h : expandDocument documents v = .ok w) : RefFree w :=
  expandWith_refFree (fun _ _ => follow_refFree) h

theorem expandDocument_reference {key : String} {document : Json}
    (found : documents.get? key = some document) (free : RefFree document)
    (top : v.get? refKey = some (.text key)) : expandDocument documents v = .ok document := by
  unfold expandDocument
  cases documents with
  | nil => cases found
  | cons entry rest =>
    rw [expandWith_marker top, List.length_cons, follow_known found List.not_mem_nil,
      free.expandWith_eq]

def ObjectsOnly (documents : Table Json) : Prop :=
  ∀ key document, documents.get? key = some document → document.isObject = true

theorem follow_isObject (objects : ObjectsOnly documents) {left : Nat} {path : List String}
    {ref : Json} (h : follow documents left path ref = .ok w) : w.isObject = true := by
  induction left generalizing path ref w with
  | zero =>
    exact absurd h follow_zero_ne_ok
  | succ left ih =>
    obtain ⟨key, document, -, found, h⟩ := follow_ok h
    exact expandWith_isObject (fun _ _ => ih) (objects key document found) h

theorem expandDocument_isObject (objects : ObjectsOnly documents) (object : v.isObject = true)
    (h : expandDocument documents v = .ok w) : w.isObject = true :=
  expandWith_isObject (fun _ _ => follow_isObject objects) object h

end

theorem objectsOnly_of_replaces {documents documents' : Table Json}
    (h : Relation.ReflTransGen Replaces documents documents') (objects : ObjectsOnly documents) :
    ObjectsOnly documents' := by
  induction h with
  | refl => exact objects
  | tail _ step ih =>
    intro key document found
    rcases step.get?_cases found with found | ⟨_, old, target, place, hold, marker, _, rfl⟩
    · exact ih key document found
    · exact (marker.isObject_putAt target).trans (ih key old hold)

theorem Registry.objectsOnly_expandAll {components : Option Components} {maxPasses : Int}
    {r : Registry} (accepted : Registry.ofComponents components maxPasses = .ok r) :
    ObjectsOnly r.expandAll.1.documents := by
  apply objectsOnly_of_replaces r.replaces_expandAll
  intro key document found
  rw [Registry.ofComponents_eq accepted] at found
  obtain ⟨⟨name, c⟩, -, heq⟩ := List.mem_map.mp (Table.mem_of_get? found)
  obtain ⟨-, rfl⟩ := Prod.mk.inj heq
  rfl

def reference (key : String) : Json := .object [(refKey, .text key)]

theorem Registry.expand_reference {r : Registry} (passes : 1 ≤ r.maxPasses)
    (plain : PlainTops r.documents) {n : Nat} (done : r.expandAll.2.result = .ok n) {key : String}
    {document : Json} (found : r.expandAll.1.documents.get? key = some document) :
    r.expand (reference key) = .ok document := by
  have free := Registry.refFree_expandAll passes plain done found
  have after : expandDocument r.expandAll.1.documents (reference key) = .ok document :=
    expandDocument_reference found free rfl
  exact Registry.expand_of_expandAll plain.stableTops done after

theorem Registry.get?_expandAll {r : Registry} (passes : 1 ≤ r.maxPasses)
    (plain : PlainTops r.documents) {n : Nat} (done : r.expandAll.2.result = .ok n) (key : String) :
    r.expandAll.1.documents.get? key = (r.expand (reference key)).toOption := by
  cases found : r.expandAll.1.documents.get? key with
  | some document =>
    rw [Registry.expand_reference passes plain done found]
    rfl
  | none =>
    have missing := Table.get?_eq_none_iff.mp found
    rw [Registry.keys_expandAll] at missing
    have fails : r.expand (reference key) = .error (.unresolvedRef key) := by
      unfold Registry.expand expandDocument
      rw [expandWith_marker rfl, follow_unknown missing]
    rw [fails]
    rfl

end LedgerFlow.Schema
