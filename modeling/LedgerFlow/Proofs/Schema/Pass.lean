import LedgerFlow.Proofs.Schema.Replacement
import LedgerFlow.Schema.Registry

/-!
Passes over the documents are runs of replacements, also the ones that fail halfway. A pass that
goes through has found texts in all markers of the documents that it started from, and one that
changes nothing has found no markers.
-/
namespace LedgerFlow.Schema
open Json (Place)
open Relation (ReflTransGen)

def TextMarkers (v : Json) : Prop := ∀ place ref, MarkerAt v place ref → ref.text? ≠ none

structure Swept (key : String) (places : List Place) (documents : Table Json)
    (after : Table Json × Except Error Unit) : Prop where
  run : ReflTransGen Replaces documents after.1
  others : ∀ other, other ≠ key → after.1.get? other = documents.get? other
  texts : after.2 = .ok () → ∀ document, documents.get? key = some document →
    ∀ place ∈ places, ∀ ref,
    MarkerAt document place ref → ref.text? ≠ none

theorem replaceMarker_eq {documents : Table Json} {key : String} {document ref : Json}
    {place : Place} (found : documents.get? key = some document)
    (marker : MarkerAt document place ref) :
    replaceMarker documents key place =
      (resolve documents ref >>= fun target =>
        .ok (documents.insert key (document.putAt target.2 place))) := by
  rw [replaceMarker, found]
  simp only [marker.lookup]
  rfl

theorem replaceMarkers_swept {key : String} {document : Json} {documents : Table Json}
    {places : List Place} (found : documents.get? key = some document)
    (markers : ∀ place ∈ places, ∃ ref, MarkerAt document place ref) (distinct : places.Nodup) :
    Swept key places documents (replaceMarkers key places documents) := by
  induction places generalizing document documents with
  | nil => exact ⟨.refl, fun _ _ => rfl, fun _ _ _ _ h => absurd h List.not_mem_nil⟩
  | cons place rest ih =>
    obtain ⟨ref, marker⟩ := markers place List.mem_cons_self
    obtain ⟨fresh, distinct⟩ := List.nodup_cons.mp distinct
    rw [replaceMarkers, replaceMarker_eq found marker]
    cases hresolve : resolve documents ref with
    | error e => exact ⟨.refl, fun _ _ => rfl, fun h => by cases h⟩
    | ok named =>
      obtain ⟨name, target⟩ := named
      obtain ⟨rfl, named⟩ := resolve_eq_ok_iff.mp hresolve
      -- the other markers are still in their places in the new document
      have stays : ∀ other ∈ rest, ∀ ref, MarkerAt document other ref →
          MarkerAt (document.putAt target place) other ref :=
        fun other hother ref h => marker.putAt_of_ne h (fun e => fresh (e ▸ hother)) target
      have found' := Table.get?_insert_self documents key (document.putAt target place)
      have swept := ih found' (fun other hother =>
        (markers other (List.mem_cons_of_mem _ hother)).imp (stays other hother)) distinct
      refine ⟨.head (.step found marker named) swept.run, fun other hne => ?_,
        fun hok old hold => ?_⟩
      · exact (swept.others other hne).trans (Table.get?_insert_of_ne hne _ _)
      · obtain rfl := Option.some.inj (hold.symm.trans found)
        refine List.forall_mem_cons.mpr ⟨fun ref' h => ?_, fun other hother ref' h => ?_⟩
        · obtain rfl := marker.unique h
          simp [Json.text?]
        · exact swept.texts hok _ found' other hother ref' (stays other hother ref' h)

def placesOf (documents : Table Json) (key : String) : List Place :=
  ((documents.get? key).map markerPlaces).getD []

theorem placesOf_found {documents : Table Json} {key : String} {document : Json}
    (found : documents.get? key = some document) :
    placesOf documents key = markerPlaces document := by
  rw [placesOf, found]; rfl

theorem placesOf_swept (documents : Table Json) (key : String) :
    Swept key (placesOf documents key) documents
      (replaceMarkers key (placesOf documents key) documents) := by
  cases found : documents.get? key with
  | none =>
    rw [placesOf, found]
    exact ⟨.refl, fun _ _ => rfl, fun _ _ _ _ h => absurd h List.not_mem_nil⟩
  | some document =>
    rw [placesOf_found found]
    exact replaceMarkers_swept found (fun place => mem_markerPlaces_iff.mp)
      (nodup_markerPlaces document)

structure Passed (keys : List String) (documents : Table Json)
    (after : Table Json × Except Error Nat) : Prop where
  run : ReflTransGen Replaces documents after.1
  texts : ∀ n, after.2 = .ok n → ∀ key ∈ keys, ∀ document, documents.get? key = some document →
    TextMarkers document
  idle : after.2 = .ok 0 → ∀ key ∈ keys, placesOf documents key = []

theorem replacePass_cons (key : String) (rest : List String) (documents : Table Json) :
    replacePass (key :: rest) documents =
      match replaceMarkers key (placesOf documents key) documents with
      | (documents, .error e) => (documents, .error e)
      | (middle, .ok ()) =>
        match replacePass rest middle with
        | (last, .error e) => (last, .error e)
        | (last, .ok n) => (last, .ok (if (placesOf documents key).isEmpty then n else n + 1)) :=
          rfl

theorem replacePass_passed (keys : List String) (documents : Table Json) :
    Passed keys documents (replacePass keys documents) := by
  induction keys generalizing documents with
  | nil => exact ⟨.refl, by simp, by simp⟩
  | cons key rest ih =>
    have swept := placesOf_swept documents key
    rw [replacePass_cons]
    rcases hsweep : replaceMarkers key (placesOf documents key) documents with ⟨middle, e | _⟩
    · rw [hsweep] at swept
      exact ⟨swept.run, nofun, nofun⟩
    rw [hsweep] at swept
    have passed := ih middle
    dsimp only
    rcases hpass : replacePass rest middle with ⟨last, e | n⟩
    · rw [hpass] at passed
      exact ⟨swept.run.trans passed.run, nofun, nofun⟩
    rw [hpass] at passed
    refine ⟨swept.run.trans passed.run, fun _ _ => ?_, fun hzero => ?_⟩
    · have texts : ∀ document, documents.get? key = some document → TextMarkers document := by
        intro document found place ref h
        refine swept.texts rfl document found place ?_ ref h
        rw [placesOf_found found]
        exact mem_markerPlaces_iff.mpr ⟨ref, h⟩
      refine List.forall_mem_cons.mpr ⟨texts, fun other hother document found => ?_⟩
      by_cases hkey : other = key
      · exact texts document (hkey ▸ found)
      · exact passed.texts n rfl other hother document ((swept.others other hkey).trans found)
    · have hcount : (if (placesOf documents key).isEmpty then n else n + 1) = 0 :=
        Except.ok.inj hzero
      cases hplaces : placesOf documents key with
      | cons place places => simp [hplaces] at hcount
      | nil =>
        rw [hplaces] at hcount hsweep
        obtain rfl : n = 0 := hcount
        obtain rfl : documents = middle := congrArg Prod.fst hsweep
        exact List.forall_mem_cons.mpr ⟨hplaces, passed.idle rfl⟩

theorem replacePass_idle {keys : List String} {documents : Table Json}
    (h : ∀ key ∈ keys, placesOf documents key = []) :
    replacePass keys documents = (documents, .ok 0) := by
  induction keys with
  | nil => rfl
  | cons key rest ih =>
    obtain ⟨hkey, hrest⟩ := List.forall_mem_cons.mp h
    rw [replacePass_cons, hkey, replaceMarkers]
    dsimp only
    rw [ih hrest]
    rfl

theorem replacePasses_replaces (maxPasses : Int) (left pass total : Nat) (documents : Table Json) :
    ReflTransGen Replaces documents (replacePasses maxPasses left pass total documents).1 := by
  induction left generalizing pass total documents with
  | zero =>
    rw [replacePasses]
    split <;> exact .refl
  | succ left ih =>
    have passed := replacePass_passed documents.keys documents
    rw [replacePasses]
    rcases hpass : replacePass documents.keys documents with ⟨middle, e | n⟩
    · rw [hpass] at passed
      exact passed.run
    rw [hpass] at passed
    dsimp only
    split
    · exact passed.run
    · exact passed.run.trans (ih _ _ middle)

/-- No document has a marker below its top, or no document refers to anything by text. -/
def Exhausted (documents : Table Json) : Prop :=
  (∀ key ∈ documents.keys, placesOf documents key = []) ∨ unexpanded documents = []

theorem replacePasses_ok {maxPasses : Int} {left pass total n : Nat} {documents : Table Json}
    (h : (replacePasses maxPasses left pass total documents).2.result = .ok n) :
    Exhausted (replacePasses maxPasses left pass total documents).1 := by
  induction left generalizing pass total documents with
  | zero =>
    rw [replacePasses] at h ⊢
    split at h
    · rename_i hnil
      exact .inr hnil
    · cases h
  | succ left ih =>
    have passed := replacePass_passed documents.keys documents
    rw [replacePasses] at h ⊢
    rcases hpass : replacePass documents.keys documents with ⟨middle, e | n⟩
    · rw [hpass] at h
      cases h
    rw [hpass] at h passed
    dsimp only at h ⊢
    split at h
    · rename_i hzero
      subst hzero
      have hplaces := passed.idle rfl
      rw [replacePass_idle hplaces] at hpass
      obtain rfl : documents = middle := congrArg Prod.fst hpass
      exact .inl hplaces
    · rename_i hpos
      rw [if_neg hpos]
      exact ih h

theorem replacePasses_texts {maxPasses : Int} {left pass total n : Nat} {documents : Table Json}
    (h : (replacePasses maxPasses (left + 1) pass total documents).2.result = .ok n) {key : String}
    {document : Json} (found : documents.get? key = some document) : TextMarkers document := by
  have passed := replacePass_passed documents.keys documents
  rw [replacePasses] at h
  rcases hpass : replacePass documents.keys documents with ⟨middle, e | m⟩
  · rw [hpass] at h
    cases h
  rw [hpass] at passed
  exact passed.texts m rfl key (Table.mem_keys_of_get? found) document found

end LedgerFlow.Schema
