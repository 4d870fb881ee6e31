import LedgerFlow.Proofs.Schema.Failure
import LedgerFlow.Proofs.Schema.InPlace

/-!
What an expansion in place refuses, and what a pass can fail for afterwards. The search for missing
and cyclic references goes first and leaves the documents alone. A pass fails at a marker that
cannot be replaced, and where the documents that are references themselves refer by text, no marker
ever names a document that is not there.
-/
namespace LedgerFlow.Schema
open Json (Place)
open Relation (ReflTransGen TransGen)

/-- Some marker of the documents cannot be replaced, and this is why. -/
def Stuck (documents : Table Json) (e : Error) : Prop :=
  ∃ key document place ref, documents.get? key = some document ∧ MarkerAt document place ref ∧
    resolve documents ref = .error e

theorem replaceMarkers_error {key : String} {document : Json} {documents after : Table Json}
    {places : List Place} {e : Error} (found : documents.get? key = some document)
    (markers : ∀ place ∈ places, ∃ ref, MarkerAt document place ref) (distinct : places.Nodup)
    (h : replaceMarkers key places documents = (after, .error e)) : Stuck after e := by
  induction places generalizing document documents with
  | nil => cases h
  | cons place rest ih =>
    obtain ⟨ref, marker⟩ := markers place List.mem_cons_self
    obtain ⟨fresh, distinct⟩ := List.nodup_cons.mp distinct
    rw [replaceMarkers, replaceMarker_eq found marker] at h
    cases hresolve : resolve documents ref with
    | error e' =>
      rw [hresolve] at h
      obtain ⟨rfl, he⟩ := Prod.mk.inj h
      exact ⟨key, document, place, ref, found, marker, Except.error.inj he ▸ hresolve⟩
    | ok named =>
      rw [hresolve] at h
      refine ih (Table.get?_insert_self documents key (document.putAt named.2 place))
        (fun other hother => ?_) distinct h
      obtain ⟨ref, old⟩ := markers other (List.mem_cons_of_mem _ hother)
      exact ⟨ref, marker.putAt_of_ne old (fun e => fresh (e ▸ hother)) named.2⟩

theorem replacePass_error {keys : List String} {documents after : Table Json} {e : Error}
    (h : replacePass keys documents = (after, .error e)) : Stuck after e := by
  induction keys generalizing documents with
  | nil => cases h
  | cons key rest ih =>
    rw [replacePass_cons] at h
    rcases hsweep : replaceMarkers key (placesOf documents key) documents with ⟨middle, e' | _⟩
    · rw [hsweep] at h
      obtain ⟨rfl, he⟩ := Prod.mk.inj h
      obtain rfl := Except.error.inj he
      cases found : documents.get? key with
      | none =>
        rw [placesOf, found] at hsweep
        cases hsweep
      | some document =>
        rw [placesOf_found found] at hsweep
        exact replaceMarkers_error found (fun _ => mem_markerPlaces_iff.mp)
          (nodup_markerPlaces document) hsweep
    · rw [hsweep] at h
      dsimp only at h
      rcases hpass : replacePass rest middle with ⟨last, e' | n⟩
      · rw [hpass] at h
        obtain ⟨rfl, he⟩ := Prod.mk.inj h
        exact ih (hpass.trans (by rw [he]))
      · rw [hpass] at h
        cases h

theorem replacePasses_error {maxPasses : Int} {left pass total : Nat} {documents : Table Json}
    {e : Error} (h : (replacePasses maxPasses left pass total documents).2.result = .error e) :
    (∃ keys, e = .unexpandedRefs maxPasses keys) ∨
      Stuck (replacePasses maxPasses left pass total documents).1 e := by
  induction left generalizing pass total documents with
  | zero =>
    rw [replacePasses] at h
    split at h
    · cases h
    · exact .inl ⟨_, (Except.error.inj h).symm⟩
  | succ left ih =>
    rw [replacePasses] at h ⊢
    rcases hpass : replacePass documents.keys documents with ⟨middle, e' | n⟩
    · rw [hpass] at h
      obtain rfl := Except.error.inj h
      exact .inr (replacePass_error hpass)
    rw [hpass] at h
    dsimp only at h ⊢
    split at h
    · cases h
    · rename_i hpos
      rw [if_neg hpos]
      exact ih h

def TextTops (documents : Table Json) : Prop :=
  ∀ entry ∈ documents, ∀ ref, (refKey, ref) ∈ entry.2.fieldsOf → ref.text? ≠ none

/-- All references by text that markers and tops hold name one of the documents, and all tops refer
by text. -/
structure Sound (documents : Table Json) : Prop where
  below : ∀ {key document place name}, documents.get? key = some document →
    MarkerAt document place (.text name) → name ∈ documents.keys
  tops : ∀ {key document ref}, documents.get? key = some document →
    document.get? refKey = some ref → ∃ name ∈ documents.keys, ref = .text name

theorem MarkerAt.mem_collectRefs_of_textTop {v : Json} {place : Place} {name : String}
    (h : MarkerAt v place (.text name))
    (texts : ∀ ref, (refKey, ref) ∈ v.fieldsOf → ref.text? ≠ none) : name ∈ collectRefs v := by
  have child {c : Json} {i : Nat} (at_i : v.children[i]? = some c) (bare : c.text? = none)
      (hname : name ∈ collectRefs c) : name ∈ collectRefs v := by
    cases v with
    | array items => exact mem_collectRefs_array.mpr ⟨c, List.mem_of_getElem? at_i, hname⟩
    | object fields =>
      obtain ⟨⟨field, _⟩, hfield, rfl⟩ := List.mem_map.mp (List.mem_of_getElem? at_i)
      refine mem_collectRefs_object.mpr (.inr ⟨field, _, hfield, ?_, hname⟩)
      rintro rfl
      exact texts _ hfield bare
    | _ => simp [Json.children] at at_i
  cases h with
  | child at_i marks => exact child at_i (text?_eq_none_of_get? marks) (mem_collectRefs_of_get?
      marks)
  | deeper at_i plain below => exact child at_i below.text?_eq_none (below.mem_collectRefs plain)

theorem Sound.of_mentions {documents : Table Json} (texts : TextTops documents)
    (known : ∀ key target, Mentions documents key target → target ∈ documents.keys) :
    Sound documents where
  below {key document _ name} found marker :=
    known key name ⟨document, found,
      marker.mem_collectRefs_of_textTop (texts _ (Table.mem_of_get? found))⟩
  tops {key document ref} found top := by
    have text := texts _ (Table.mem_of_get? found) ref (Table.mem_of_get? top)
    cases ref with
    | text name => exact ⟨name, known key name ⟨document, found, mem_collectRefs_of_get? top⟩, rfl⟩
    | _ => exact absurd rfl text

namespace Sound
variable {documents documents' : Table Json}

theorem step (h : Sound documents)
    (replaced : Replaces documents documents') : Sound documents' := by
  have keys := replaced.keys_eq
  constructor
  · intro key document place name found marker
    rw [keys]
    rcases replaced.get?_cases found with
      same | ⟨other, old, target, at_, hold, marker', named, rfl⟩
    · exact h.below same marker
    · rcases marker'.putAt_cases marker with ⟨-, stays⟩ | top | ⟨_, inner⟩
      · exact h.below hold stays
      · obtain ⟨name', known, href⟩ := h.tops named top
        exact Json.text.inj href ▸ known
      · exact h.below named inner
  · intro key document ref found top
    rw [keys]
    rcases replaced.get?_cases found with same | ⟨other, old, target, at_, hold, marker, named, rfl⟩
    · exact h.tops same top
    · have marks : isMarker old = true :=
        (marker.isMarker_putAt target).symm.trans (Option.isSome_iff_exists.mpr ⟨_, top⟩)
      obtain ⟨_, htop⟩ := Option.isSome_iff_exists.mp marks
      obtain ⟨name, known, rfl⟩ := h.tops hold htop
      have keeps : KeepsTop old target := .inr fun ref href => by
        obtain rfl := Option.some.inj (htop.symm.trans href)
        exact Option.some_ne_none _
      rcases marker.get?_putAt keeps htop with same | ⟨_, _, bare, _⟩
      · exact ⟨name, known, Option.some.inj (top.symm.trans same)⟩
      · cases bare

theorem run (h : Sound documents)
    (replaced : ReflTransGen Replaces documents documents') : Sound documents' := by
  induction replaced with
  | refl => exact h
  | tail _ step ih => exact ih.step step

theorem not_stuck (h : Sound documents) (target : String) :
    ¬ Stuck documents (.unresolvedRef target) := by
  rintro ⟨key, document, place, ref, found, marker, hresolve⟩
  cases ref with
  | text name =>
    obtain ⟨named, hget⟩ := Table.exists_get?_of_mem_keys (h.below found marker)
    rw [resolve_text_of_get? hget] at hresolve
    cases hresolve
  | _ => cases hresolve

end Sound

/-- Some collected reference names no document. -/
def Dangling (documents : Table Json) (target : String) : Prop :=
  (∃ key, Mentions documents key target) ∧ target ∉ documents.keys

theorem mem_targets_iff {documents : Table Json} (distinct : documents.keys.Nodup)
    {target : String} :
    target ∈ (dependencies documents).flatMap (·.2) ↔ ∃ key, Mentions documents key target := by
  constructor
  · intro collected
    obtain ⟨_, hmem, htarget⟩ := List.mem_flatMap.mp collected
    obtain ⟨entry, hentry, rfl⟩ := List.mem_map.mp hmem
    exact ⟨entry.1, entry.2, Table.get?_of_mem distinct hentry, htarget⟩
  · rintro ⟨key, document, found, htarget⟩
    exact mem_dependencies (Table.mem_of_get? found) htarget

theorem checkCycles_of_dangling {documents : Table Json} (distinct : documents.keys.Nodup)
    {target : String} (h : Dangling documents target) :
    ∃ target, Dangling documents target ∧
      checkCycles documents = .error (.unresolvedRef target) := by
  obtain ⟨mentioned, missing⟩ := h
  cases htargets : checkTargets documents ((dependencies documents).flatMap (·.2)) with
  | ok => exact absurd (checkTargets_ok htargets target
      ((mem_targets_iff distinct).mpr mentioned)) missing
  | error e =>
    obtain ⟨target, collected, missing, rfl⟩ := checkTargets_error htargets
    exact ⟨target, ⟨(mem_targets_iff distinct).mp collected, missing⟩,
      bind_eq_error_iff.mpr (.inl htargets)⟩

theorem checkCycles_error_of_known {documents : Table Json} (distinct : documents.keys.Nodup)
    (known : ∀ target, ¬ Dangling documents target) {e : Error}
    (h : checkCycles documents = .error e) : ReportsCycle (dependencies documents) e := by
  rcases checkCycles_error h with ⟨target, collected, missing, -⟩ | reports
  · exact absurd ⟨(mem_targets_iff distinct).mp collected, missing⟩ (known target)
  · exact reports

namespace Registry
variable {r : Registry}

theorem expandAll_of_checkCycles_error {e : Error} (h : checkCycles r.documents = .error e) :
    r.expandAll = (r, .fail e) := by
  rw [expandAll, h]

theorem expandAll_error_of_checkCycles (passed : checkCycles r.documents = .ok ()) {e : Error}
    (h : r.expandAll.2.result = .error e) :
    (∃ keys, e = .unexpandedRefs r.maxPasses keys) ∨ Stuck r.expandAll.1.documents e := by
  rw [expandAll_of_checkCycles passed] at h ⊢
  exact replacePasses_error h

theorem checkCycles_of_refCycle {names : List String}
    (h : r.expandAll.2.result = .error (.refCycle names)) :
    checkCycles r.documents = .error (.refCycle names) := by
  cases searched : checkCycles r.documents with
  | error e =>
    rw [expandAll_of_checkCycles_error searched] at h
    exact congrArg _ (Except.error.inj h)
  | ok =>
    exfalso
    rcases expandAll_error_of_checkCycles searched h with ⟨_, he⟩ | ⟨_, _, _, ref, _, _, hresolve⟩
    · cases he
    · cases ref with
      | text name =>
        rw [Schema.resolve] at hresolve
        split at hresolve <;> cases hresolve
      | _ => cases hresolve

theorem exists_dangling_of_unresolvedRef (distinct : r.documents.keys.Nodup)
    (texts : TextTops r.documents) {target : String}
    (h : r.expandAll.2.result = .error (.unresolvedRef target)) :
    ∃ target, Dangling r.documents target := by
  by_contra none_missing
  have known : ∀ target, ¬ Dangling r.documents target := not_exists.mp none_missing
  cases searched : checkCycles r.documents with
  | error e =>
    obtain ⟨cycle, -, rfl⟩ := checkCycles_error_of_known distinct known searched
    rw [expandAll_of_checkCycles_error searched] at h
    cases h
  | ok =>
    have sound : Sound r.documents := .of_mentions texts fun key target edge => by
      by_contra missing
      exact known target ⟨⟨key, edge⟩, missing⟩
    rcases expandAll_error_of_checkCycles searched h with ⟨_, he⟩ | stuck
    · cases he
    · exact (sound.run (replaces_expandAll r)).not_stuck target stuck

end Registry

/-- A collected reference that names no document is told of before anything is replaced. Otherwise a
cycle is told of just when the collected references have one; what is told is a cycle of theirs, and
nothing is replaced either. Where all documents that are references themselves refer by text, no
pass comes upon a missing document. -/
theorem expandAll_refuses {r : Registry} (distinct : r.documents.keys.Nodup) :
    ((∃ target, Dangling r.documents target) →
      r.expandAll.1 = r ∧
        ∃ target, Dangling r.documents target ∧
          r.expandAll.2.result = .error (.unresolvedRef target)) ∧
    ((¬ ∃ target, Dangling r.documents target) →
      ((∃ names, r.expandAll.2.result = .error (.refCycle names)) ↔
        ∃ key, TransGen (Mentions r.documents) key key)) ∧
    (∀ names, r.expandAll.2.result = .error (.refCycle names) →
      r.expandAll.1 = r ∧ ∃ cycle, names = cycle.map refName ∧
        cycle.IsChain (Mentions r.documents) ∧
        ∃ key between, cycle = key :: between ++ [key]) ∧
    (TextTops r.documents →
      ((∃ target, r.expandAll.2.result = .error (.unresolvedRef target)) ↔
        ∃ target, Dangling r.documents target)) := by
  have dangling {target : String} (h : Dangling r.documents target) : r.expandAll.1 = r ∧
      ∃ target, Dangling r.documents target ∧
        r.expandAll.2.result = .error (.unresolvedRef target) := by
    obtain ⟨missing, h, searched⟩ := checkCycles_of_dangling distinct h
    rw [Registry.expandAll_of_checkCycles_error searched]
    exact ⟨rfl, missing, h, rfl⟩
  have told {names : List String} (h : r.expandAll.2.result = .error (.refCycle names)) :
      ∃ cycle, IsCycle (dependencies r.documents) cycle ∧ names = cycle.map refName := by
    rcases checkCycles_error (Registry.checkCycles_of_refCycle h) with
      ⟨_, _, _, he⟩ | ⟨cycle, isCycle, he⟩
    · cases he
    · exact ⟨cycle, isCycle, Error.refCycle.inj he⟩
  refine ⟨fun ⟨_, h⟩ => dangling h, fun known => ⟨?_, ?_⟩, fun names h => ?_, fun texts => ⟨?_, ?_⟩⟩
  · rintro ⟨names, h⟩
    obtain ⟨cycle, isCycle, -⟩ := told h
    obtain ⟨key, leads⟩ := isCycle.exists_transGen
    exact ⟨key, TransGen.mono (fun _ _ => refers_iff_mentions.mp) _ _ leads⟩
  · rintro ⟨key, cycle⟩
    cases searched : checkCycles r.documents with
    | ok => exact absurd (.inr ⟨key, cycle⟩) ((checkCycles_ok_iff distinct).mp searched)
    | error e =>
      obtain ⟨cycle, -, rfl⟩ := checkCycles_error_of_known distinct (not_exists.mp known) searched
      rw [Registry.expandAll_of_checkCycles_error searched]
      exact ⟨_, rfl⟩
  · rw [Registry.expandAll_of_checkCycles_error (Registry.checkCycles_of_refCycle h)]
    obtain ⟨cycle, isCycle, hnames⟩ := told h
    exact ⟨rfl, cycle, hnames, isCycle.chain.imp fun _ _ => refers_iff_mentions.mp, isCycle.closed⟩
  · rintro ⟨target, h⟩
    exact Registry.exists_dangling_of_unresolvedRef distinct texts h
  · rintro ⟨target, h⟩
    obtain ⟨-, missing, -, hresult⟩ := dangling h
    exact ⟨missing, hresult⟩

theorem expandAll_refuses_circular : Registry.circular.documents.keys.Nodup ∧
    (¬ ∃ target, Dangling Registry.circular.documents target) ∧
    ∃ names, Registry.circular.expandAll.2.result = .error (.refCycle names) := by
  have distinct : Registry.circular.documents.keys.Nodup := by decide
  have known : ¬ ∃ target, Dangling Registry.circular.documents target := by
    rintro ⟨target, ⟨key, document, found, hmem⟩, missing⟩
    have entry := Table.mem_of_get? found
    simp only [Registry.circular, List.mem_cons, Prod.mk.injEq, List.not_mem_nil, or_false] at entry
    rcases entry with ⟨-, rfl⟩ | ⟨-, rfl⟩
    · obtain rfl := List.mem_singleton.mp hmem
      exact missing (by decide)
    · obtain rfl := List.mem_singleton.mp hmem
      exact missing (by decide)
  obtain ⟨-, cyclic, -, -⟩ := expandAll_refuses distinct
  have there : Mentions Registry.circular.documents "A" "B" := ⟨_, rfl, List.mem_singleton_self "B"⟩
  have back : Mentions Registry.circular.documents "B" "A" := ⟨_, rfl, List.mem_singleton_self "A"⟩
  exact ⟨distinct, known, (cyclic known).mpr ⟨"A", .tail (.single there) back⟩⟩

def Registry.hidden : Registry where
  documents :=
    [("B", .object [("x", .object [("$ref", .text "C")])]), ("C", ofType "string"),
     ("A", .object [("$ref", .object [("$ref", .text "M")])])]

/-- What a reference at the top of a document holds is replaced without having been searched. -/
theorem expandAll_refuses_hidden :
    (¬ ∃ target, Dangling Registry.hidden.documents target) ∧
      Registry.hidden.expandAll.2.result = .error (.unresolvedRef "M") ∧
      Registry.hidden.documents.get? "B" = some (.object [("x", .object [("$ref", .text "C")])]) ∧
      Registry.hidden.expandAll.1.documents.get? "B" = some (.object [("x", ofType "string")]) := by
  refine ⟨?_, by cbv, rfl, by cbv⟩
  rintro ⟨target, ⟨key, document, found, hmem⟩, missing⟩
  have entry := Table.mem_of_get? found
  simp only [Registry.hidden, List.mem_cons, Prod.mk.injEq, List.not_mem_nil, or_false] at entry
  rcases entry with ⟨-, rfl⟩ | ⟨-, rfl⟩ | ⟨-, rfl⟩
  · obtain rfl := List.mem_singleton.mp hmem
    exact missing (by decide)
  · cases hmem
  · cases hmem

end LedgerFlow.Schema
