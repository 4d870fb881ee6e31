import LedgerFlow.Proofs.Json.Throughout
import LedgerFlow.Proofs.Schema.Acyclic
import LedgerFlow.Proofs.Schema.RefFree
import Mathlib.Logic.Function.Basic

/-!
How passes come to an end. Where all references are texts and lead down in a ranking of the
documents, a pass leaves references that lead further down than those that it found, until none can
be left below a top.
-/
namespace LedgerFlow.Schema
open Json (Place Throughout throughout_iff)

/-- The reference is a text that names one of the documents, at least `gap` ranks below the one with
this key. -/
def Drops (keys : List String) (rank : String → Nat) (key : String) (gap : Nat)
    (ref : Json) : Prop :=
  ∃ name ∈ keys, ref = .text name ∧ rank name + gap ≤ rank key

section
variable {keys : List String} {rank : String → Nat} {key : String} {gap : Nat} {ref : Json}

theorem Drops.mono (h : Drops keys rank key gap ref) {less : Nat} (le : less ≤ gap) :
    Drops keys rank key less ref := by
  obtain ⟨name, known, href, hgap⟩ := h
  exact ⟨name, known, href, by omega⟩

theorem Drops.through {name : String} {further : Nat} (h : Drops keys rank name further ref)
    (le : rank name + gap ≤ rank key) {less : Nat} (both : less ≤ gap + further) :
    Drops keys rank key less ref := by
  obtain ⟨target, known, href, hgap⟩ := h
  exact ⟨target, known, href, by omega⟩

end

/-- How far down references lead: those below the top of a document by the gap of the document, and
those at a top by one number for all documents. -/
structure Spaced (documents : Table Json) (rank : String → Nat) (top : Nat)
    (gap : String → Nat) : Prop where
  below : ∀ {key document place ref}, documents.get? key = some document →
    MarkerAt document place ref → Drops documents.keys rank key (gap key) ref
  tops : ∀ {key document ref}, documents.get? key = some document →
    document.get? refKey = some ref → Drops documents.keys rank key top ref

section
variable {documents : Table Json} {rank : String → Nat} {top : Nat} {gap : String → Nat}
    {key : String}

theorem Spaced.mono (h : Spaced documents rank top gap) {less : String → Nat}
    (le : ∀ key ∈ documents.keys, less key ≤ gap key) : Spaced documents rank top less where
  below found marker := (h.below found marker).mono (le _ (Table.mem_keys_of_get? found))
  tops := h.tops

theorem Spaced.placesOf_eq_nil (h : Spaced documents rank top gap) (above : rank key < gap key) :
    placesOf documents key = [] := by
  cases found : documents.get? key with
  | none =>
    rw [placesOf, found]
    rfl
  | some document =>
    rw [placesOf_found found]
    refine List.eq_nil_iff_forall_not_mem.mpr fun place hplace => ?_
    obtain ⟨ref, marker⟩ := mem_markerPlaces_iff.mp hplace
    obtain ⟨name, -, -, le⟩ := h.below found marker
    omega

/-- A sweep through one document under way, which makes its gap `next`: the markers in the places to
come still drop by `gap`, while the other ones have been put there by the sweep. -/
structure Sweeping (documents : Table Json) (rank : String → Nat) (top : Nat) (gap : String → Nat)
    (next : Nat) (key : String) (document : Json) (places : List Place) : Prop where
  found : documents.get? key = some document
  distinct : places.Nodup
  marked : ∀ place ∈ places, ∃ ref, MarkerAt document place ref
  own : ∀ {place ref}, MarkerAt document place ref →
    Drops documents.keys rank key (if place ∈ places then gap key else next) ref
  others : ∀ {other document place ref}, other ≠ key → documents.get? other = some document →
    MarkerAt document place ref → Drops documents.keys rank other (gap other) ref
  tops : ∀ {key document ref}, documents.get? key = some document →
    document.get? refKey = some ref → Drops documents.keys rank key top ref

namespace Sweeping
variable {next : Nat} {document : Json} {place : Place} {places : List Place}

theorem ofSpaced (h : Spaced documents rank top gap) (found : documents.get? key = some document)
    (next : Nat) : Sweeping documents rank top gap next key document (markerPlaces document) where
  found := found
  distinct := nodup_markerPlaces document
  marked _ := mem_markerPlaces_iff.mp
  own marker := by
    rw [if_pos (mem_markerPlaces_iff.mpr ⟨_, marker⟩)]
    exact h.below found marker
  others _ := h.below
  tops := h.tops

theorem spaced (h : Sweeping documents rank top gap next key document []) :
    Spaced documents rank top (Function.update gap key next) where
  below := by
    intro other document' place ref found marker
    by_cases hkey : other = key
    · subst hkey
      obtain rfl := Option.some.inj (h.found.symm.trans found)
      simpa using h.own marker
    · rw [Function.update_of_ne hkey]
      exact h.others hkey found marker
  tops := h.tops

theorem step (h : Sweeping documents rank top gap next key document (place :: places))
    (pos : 0 < gap key) (twice : ∀ other, next ≤ gap key + gap other)
    (past : next ≤ gap key + top) :
    ∃ documents' document', replaceMarker documents key place = .ok documents' ∧
      documents'.keys = documents.keys ∧
        Sweeping documents' rank top gap next key document' places := by
  obtain ⟨ref, marker⟩ := h.marked place List.mem_cons_self
  have drops := h.own marker
  rw [if_pos List.mem_cons_self] at drops
  obtain ⟨name, known, rfl, le⟩ := drops
  obtain ⟨target, named⟩ := Table.exists_get?_of_mem_keys known
  have lower : name ≠ key := by
    rintro rfl
    omega
  obtain ⟨fresh, distinct⟩ := List.nodup_cons.mp h.distinct
  have keys := Table.keys_insert_of_mem (Table.mem_keys_of_get? h.found)
    (document.putAt target place)
  have replaced : replaceMarker documents key place =
      .ok (documents.insert key (document.putAt target place)) := by
    rw [replaceMarker_eq h.found marker, resolve_text_of_get? named]
    rfl
  refine ⟨_, document.putAt target place, replaced, keys, ?_⟩
  constructor
  · exact Table.get?_insert_self _ _ _
  · exact distinct
  · intro other hother
    obtain ⟨ref, old⟩ := h.marked other (List.mem_cons_of_mem _ hother)
    exact ⟨ref, marker.putAt_of_ne old (fun e => fresh (e ▸ hother)) target⟩
  · intro other ref' marker'
    rw [keys]
    have new (dropped : Drops documents.keys rank key next ref') :
        Drops documents.keys rank key (if other ∈ places then gap key else next) ref' := by
      split
      · rename_i hother
        obtain ⟨ref, old⟩ := h.marked other (List.mem_cons_of_mem _ hother)
        have same := (marker.putAt_of_ne old (fun e => fresh (e ▸ hother)) target).unique marker'
        have drops := h.own old
        rw [if_pos (List.mem_cons_of_mem _ hother)] at drops
        exact same ▸ drops
      · exact dropped
    rcases marker.putAt_cases marker' with ⟨ne, old⟩ | top | ⟨place', inner⟩
    · simpa [ne] using h.own old
    · exact new ((h.tops named top).through le past)
    · exact new ((h.others lower named inner).through le (twice name))
  · intro other document' place' ref' ne found marker'
    rw [Table.get?_insert_of_ne ne] at found
    rw [keys]
    exact h.others ne found marker'
  · intro other document' ref' found htop
    rw [keys]
    by_cases hkey : other = key
    · subst hkey
      rw [Table.get?_insert_self] at found
      obtain rfl := Option.some.inj found
      -- a reference at the top is a text, so nothing is put into it
      have marks : isMarker document = true := by
        rw [← marker.isMarker_putAt target]
        exact Option.isSome_iff_exists.mpr ⟨_, htop⟩
      obtain ⟨old, hold⟩ := Option.isSome_iff_exists.mp marks
      obtain ⟨_, _, rfl, _⟩ := h.tops h.found hold
      have keeps : KeepsTop document target := by
        refine .inr fun ref href => ?_
        obtain rfl := Option.some.inj (hold.symm.trans href)
        simp [Json.text?]
      rcases marker.get?_putAt keeps hold with same | ⟨_, _, bare, _⟩
      · obtain rfl := Option.some.inj (same.symm.trans htop)
        exact h.tops h.found hold
      · cases bare
    · rw [Table.get?_insert_of_ne hkey] at found
      exact h.tops found htop

theorem run (h : Sweeping documents rank top gap next key document places) (pos : 0 < gap key)
    (twice : ∀ other, next ≤ gap key + gap other) (past : next ≤ gap key + top) :
    ∃ after, replaceMarkers key places documents = (after, .ok ()) ∧ after.keys = documents.keys ∧
      Spaced after rank top (Function.update gap key next) := by
  induction places generalizing documents document with
  | nil => exact ⟨documents, rfl, rfl, h.spaced⟩
  | cons place places ih =>
    obtain ⟨documents', document', replaced, keys, later⟩ := h.step pos twice past
    obtain ⟨after, rest, keys', spaced⟩ := ih later
    refine ⟨after, ?_, keys'.trans keys, spaced⟩
    rw [replaceMarkers, replaced]
    exact rest

end Sweeping

theorem replacePass_spaced (h : Spaced documents rank top gap) {least next : Nat} (pos : 0 < least)
    (atLeast : ∀ key, least ≤ gap key) (grows : least ≤ next) (twice : next ≤ least + least)
    (past : next ≤ least + top) {keys : List String} (known : ∀ key ∈ keys, key ∈ documents.keys) :
    ∃ after n, replacePass keys documents = (after, .ok n) ∧ after.keys = documents.keys ∧
      Spaced after rank top fun key => if key ∈ keys then next else gap key := by
  induction keys generalizing documents gap with
  | nil => exact ⟨documents, 0, rfl, rfl, by simpa using h⟩
  | cons key rest ih =>
    obtain ⟨hkey, later⟩ := List.forall_mem_cons.mp known
    obtain ⟨document, found⟩ := Table.exists_get?_of_mem_keys hkey
    have low := atLeast key
    obtain ⟨middle, swept, keys, spaced⟩ := (Sweeping.ofSpaced h found next).run (by omega)
      (fun other => by have := atLeast other; omega) (by omega)
    have atLeast' (other : String) : least ≤ Function.update gap key next other := by
      by_cases hother : other = key
      · simpa [hother] using grows
      · simpa [hother] using atLeast other
    obtain ⟨after, n, passed, keys', spaced'⟩ := ih spaced atLeast' fun other hother =>
      keys ▸ later other hother
    have passed : replacePass (key :: rest) documents =
        (after, .ok (if (markerPlaces document).isEmpty then n else n + 1)) := by
      rw [replacePass_cons, placesOf_found found, swept]
      dsimp only
      rw [passed]
    refine ⟨after, _, passed, keys'.trans keys, spaced'.mono fun other _ => ?_⟩
    by_cases hother : other = key <;> simp [hother]

theorem replacePasses_spaced {maxPasses : Int} {left pass total least : Nat}
    (h : Spaced documents rank top fun _ => least) (pos : 0 < least) (deep : 0 < top)
    (room : ∀ key ∈ documents.keys, rank key < least + left) :
    ∃ n, (replacePasses maxPasses (left + 1) pass total documents).2.result = .ok n := by
  induction left generalizing pass total least documents with
  | zero =>
    have idle : ∀ key ∈ documents.keys, placesOf documents key = [] :=
      fun key hkey => h.placesOf_eq_nil (room key hkey)
    rw [replacePasses, replacePass_idle idle]
    exact ⟨total, rfl⟩
  | succ left ih =>
    obtain ⟨after, n, passed, keys, spaced⟩ :=
      replacePass_spaced h pos (fun _ => Nat.le_refl _) (Nat.le_add_right least 1) (by omega)
        (by omega) fun _ => id
    have spaced' : Spaced after rank top fun _ => least + 1 :=
      spaced.mono fun key hkey => by simp [keys ▸ hkey]
    rw [replacePasses, passed]
    dsimp only
    split
    · exact ⟨total, rfl⟩
    · refine ih spaced' (by omega) fun key hkey => ?_
      have := room key (keys ▸ hkey)
      omega

end

def TextRefs (v : Json) : Prop :=
  v.Throughout fun part => ∀ ref, (refKey, ref) ∈ part.fieldsOf → ref.text? ≠ none

namespace TextRefs
variable {v : Json}

theorem of_child (h : TextRefs v) {child : Json} (hc : child ∈ v.children) : TextRefs child :=
  (throughout_iff.mp h).2 child hc

theorem exists_text (h : TextRefs v) {ref : Json} (marks : v.get? refKey = some ref) :
    ∃ name, ref = .text name := by
  have text := (throughout_iff.mp h).1 ref (Table.mem_of_get? marks)
  cases ref with
  | text name => exact ⟨name, rfl⟩
  | _ => exact absurd rfl text

theorem mem_collectRefs_of_child (h : TextRefs v) {child : Json} (hc : child ∈ v.children)
    {key : String} (hkey : key ∈ collectRefs child) : key ∈ collectRefs v := by
  cases v with
  | array items => exact mem_collectRefs_array.mpr ⟨child, hc, hkey⟩
  | object fields =>
    obtain ⟨⟨name, v⟩, hfield, rfl⟩ := List.mem_map.mp hc
    refine mem_collectRefs_object.mpr (.inr ⟨name, v, hfield, ?_, hkey⟩)
    rintro rfl
    have text := (throughout_iff.mp h).1 v hfield
    cases v with
    | text name => simp [collectRefs] at hkey
    | _ => exact text rfl
  | _ => simp [Json.children] at hc

theorem exists_of_markerAt (h : TextRefs v) {place : Place} {ref : Json}
    (marker : MarkerAt v place ref) : ∃ name ∈ collectRefs v, ref = .text name := by
  induction marker with
  | @child _ m _ _ at_i marks =>
    have hm := List.mem_of_getElem? at_i
    obtain ⟨name, rfl⟩ := (h.of_child hm).exists_text marks
    exact ⟨name, h.mem_collectRefs_of_child hm (mem_collectRefs_of_get? marks), rfl⟩
  | @deeper _ c _ _ _ at_i _ _ ih =>
    have hc := List.mem_of_getElem? at_i
    obtain ⟨name, hname, rfl⟩ := ih (h.of_child hc)
    exact ⟨name, h.mem_collectRefs_of_child hc hname, rfl⟩

end TextRefs

theorem Ranked.spaced {documents : Table Json} {rank : String → Nat}
    (ranked : Ranked documents rank) (texts : ∀ entry ∈ documents, TextRefs entry.2) :
    Spaced documents rank 1 fun _ => 1 where
  below found marker := by
    obtain ⟨name, hname, rfl⟩ := (texts _ (Table.mem_of_get? found)).exists_of_markerAt marker
    exact ⟨name, ranked.mem_keys found hname, rfl, ranked.lower found hname⟩
  tops found marks := by
    obtain ⟨name, rfl⟩ := (texts _ (Table.mem_of_get? found)).exists_text marks
    have hname := mem_collectRefs_of_get? marks
    exact ⟨name, ranked.mem_keys found hname, rfl, ranked.lower found hname⟩

end LedgerFlow.Schema
