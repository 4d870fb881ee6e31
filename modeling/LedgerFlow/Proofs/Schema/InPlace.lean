import LedgerFlow.Proofs.Schema.RefFree
import LedgerFlow.Schema.Components
import Mathlib

/-!
Expanding a registry in place. However it ends, documents expand afterwards as they did before, and
where it ends well every document has become its own expansion.
-/
namespace LedgerFlow.Schema

theorem Registry.expandAll_of_checkCycles {r : Registry} (h : checkCycles r.documents = .ok ()) :
    r.expandAll =
      ({ r with documents := (replacePasses r.maxPasses r.maxPasses.toNat 1 0 r.documents).1 },
        (replacePasses r.maxPasses r.maxPasses.toNat 1 0 r.documents).2) := by
  rw [Registry.expandAll, h]

theorem Registry.replaces_expandAll (r : Registry) :
    Relation.ReflTransGen Replaces r.documents r.expandAll.1.documents := by
  cases hcycles : checkCycles r.documents with
  | error e =>
    rw [Registry.expandAll, hcycles]
  | ok =>
    rw [Registry.expandAll_of_checkCycles hcycles]
    exact replacePasses_replaces r.maxPasses r.maxPasses.toNat 1 0 r.documents

theorem Registry.derived_expandAll (r : Registry) : r.expandAll.1.derived = r.derived := by
  unfold Registry.expandAll
  split <;> rfl

theorem Registry.maxPasses_expandAll (r : Registry) : r.expandAll.1.maxPasses = r.maxPasses := by
  unfold Registry.expandAll
  split <;> rfl

theorem Registry.checkCycles_of_expandAll {r : Registry} {n : Nat}
    (done : r.expandAll.2.result = .ok n) : checkCycles r.documents = .ok () := by
  cases hcycles : checkCycles r.documents with
  | error e =>
    rw [Registry.expandAll, hcycles] at done
    cases done
  | ok => rfl

theorem Registry.exhausted_expandAll {r : Registry} {n : Nat}
    (done : r.expandAll.2.result = .ok n) :
    Exhausted r.expandAll.1.documents := by
  have cycles := Registry.checkCycles_of_expandAll done
  rw [Registry.expandAll_of_checkCycles cycles] at done ⊢
  exact replacePasses_ok done

theorem Registry.refFree_expandAll {r : Registry} (passes : 1 ≤ r.maxPasses)
    (plain : PlainTops r.documents) {n : Nat} (done : r.expandAll.2.result = .ok n) {key : String}
    {document : Json}
    (found : r.expandAll.1.documents.get? key = some document) : RefFree document := by
  have cycles := Registry.checkCycles_of_expandAll done
  have exhausted := Registry.exhausted_expandAll done
  obtain ⟨left, hleft⟩ : ∃ left, r.maxPasses.toNat = left + 1 := ⟨r.maxPasses.toNat - 1, by omega⟩
  have texts (key : String) (document : Json) (found : r.documents.get? key = some document) :
      TextMarkers document := by
    rw [Registry.expandAll_of_checkCycles cycles, hleft] at done
    exact replacePasses_texts done found
  obtain ⟨plain', texts⟩ := textMarkers_of_replaces r.replaces_expandAll plain texts
  exact refFree_of_exhausted exhausted plain' texts key document found

theorem keys_of_replaces {documents documents' : Table Json}
    (h : Relation.ReflTransGen Replaces documents documents') :
    documents'.keys = documents.keys := by
  induction h with
  | refl => rfl
  | tail _ step ih => exact step.keys_eq.trans ih

theorem Registry.keys_expandAll (r : Registry) : r.expandAll.1.documents.keys = r.documents.keys :=
  keys_of_replaces r.replaces_expandAll

theorem Registry.preserved_expandAll {r : Registry} (stable : StableTops r.documents)
    (cycles : checkCycles r.documents = .ok ()) :
    ∃ rank, Ranked r.documents rank ∧ Preserved r.documents rank r.expandAll.1.documents := by
  obtain ⟨rank, ranked⟩ := exists_ranked_of_checkCycles cycles
  exact ⟨rank, ranked, preserved_of_replaces r.replaces_expandAll stable ranked⟩

theorem Registry.expand_of_expandAll {r : Registry} (stable : StableTops r.documents) {n : Nat}
    (done : r.expandAll.2.result = .ok n) {v w : Json}
    (h : expandDocument r.expandAll.1.documents v = .ok w) : r.expand v = .ok w := by
  obtain ⟨rank, ranked, preserved⟩ :=
    Registry.preserved_expandAll stable (Registry.checkCycles_of_expandAll done)
  have same := preserved.expandDocument ranked v
  rw [h] at same
  exact same.symm.eq_of_ok

/-- Replacing references in place never changes what a document on its own expands to, whether all
passes go through, the number of passes runs out, or a reference fails on the way. -/
theorem expand_expandAll (r : Registry) (stable : StableTops r.documents) (v : Json) :
    SameOutcome (r.expandAll.1.expand v) (r.expand v) := by
  cases hcycles : checkCycles r.documents with
  | error e =>
    rw [Registry.expandAll, hcycles]
    exact .refl _
  | ok =>
    obtain ⟨rank, ranked, preserved⟩ := Registry.preserved_expandAll stable hcycles
    exact preserved.expandDocument ranked v

def halfway : Registry where
  documents :=
    [("A", .object [("x", .object [("$ref", .text "B")]), ("y", .object [("$ref", .int 5)])]),
     ("B", .object [("type", .text "string")])]

theorem halfway_stableTops : StableTops halfway.documents := by
  refine .inl fun key document found => ?_
  have hmem := Table.mem_of_get? found
  simp only [halfway, List.mem_cons, Prod.mk.injEq, List.not_mem_nil, or_false] at hmem
  rcases hmem with ⟨-, rfl⟩ | ⟨-, rfl⟩ <;> rfl

theorem expand_expandAll_halfway :
    StableTops halfway.documents ∧ halfway.expandAll.2.result = .error (.refNotText (.int 5)) ∧
      halfway.expandAll.1.documents.get? "A" =
        some (.object [("x", .object [("type", .text "string")]),
          ("y", .object [("$ref", .int 5)])]) ∧
      SameOutcome (halfway.expandAll.1.expand (.object [("$ref", .text "A")]))
        (halfway.expand (.object [("$ref", .text "A")])) :=
  ⟨halfway_stableTops, by cbv, by cbv, expand_expandAll halfway halfway_stableTops _⟩

def textual : Registry where
  documents :=
    [("A", .object [("$ref", .object [("$ref", .text "S")])]), ("S", .text "T"),
     ("T", .object [("type", .text "integer")])]

/-- A document that is a reference by a bare text that stands in another one means something else
afterwards. -/
theorem expand_expandAll_textual :
    textual.expand (.object [("$ref", .text "A")]) =
        .error (.refNotText (.object [("$ref", .text "S")])) ∧
      textual.expandAll.1.expand (.object [("$ref", .text "A")]) =
        .ok (.object [("type", .text "integer")]) ∧
      ¬ SameOutcome (textual.expandAll.1.expand (.object [("$ref", .text "A")]))
        (textual.expand (.object [("$ref", .text "A")])) := by
  have before : textual.expand (.object [("$ref", .text "A")]) =
      .error (.refNotText (.object [("$ref", .text "S")])) := by cbv
  have after : textual.expandAll.1.expand (.object [("$ref", .text "A")]) =
      .ok (.object [("type", .text "integer")]) := by cbv
  refine ⟨before, after, fun same => ?_⟩
  rw [before, after] at same
  cases same

theorem checkTargets_eq_ok {documents : Table Json} {targets : List String}
    (h : ∀ target ∈ targets, target ∈ documents.keys) :
    checkTargets documents targets = .ok () := by
  induction targets with
  | nil => rfl
  | cons key rest ih =>
    obtain ⟨hkey, hrest⟩ := List.forall_mem_cons.mp h
    obtain ⟨document, found⟩ := Table.exists_get?_of_mem_keys hkey
    rw [checkTargets, resolve_text_of_get? found]
    exact ih hrest

theorem visitAll_of_no_targets {deps : Dependencies} (h : ∀ key, deps.of key = []) (left : Nat)
    (targets done : List String) : ∃ after, visitAll deps left [] done targets = .ok after := by
  induction targets generalizing done with
  | nil => exact ⟨done, by rw [visitAll]⟩
  | cons key rest ih =>
    rw [visitAll, List.contains_nil, if_neg Bool.false_ne_true]
    split
    · exact ih done
    · cases left with
      | zero =>
        rw [visit]
        exact ih done
      | succ left =>
        rw [visit, h key, visitAll]
        exact ih (key :: done)

theorem checkCycles_of_collectRefs_eq_nil {documents : Table Json}
    (known : ∀ entry ∈ documents, ∀ target ∈ collectRefs entry.2, target ∈ documents.keys)
    (none_left : ∀ key document, documents.get? key = some document → collectRefs document = []) :
    checkCycles documents = .ok () := by
  have htargets : checkTargets documents ((dependencies documents).flatMap (·.2)) = .ok () := by
    refine checkTargets_eq_ok fun target htarget => ?_
    obtain ⟨_, hmem, htarget⟩ := List.mem_flatMap.mp htarget
    obtain ⟨entry, hentry, rfl⟩ := List.mem_map.mp hmem
    exact known entry hentry target htarget
  have hof : ∀ key, (dependencies documents).of key = [] := by
    intro key
    cases found : documents.get? key with
    | none => simp [Dependencies.of, dependencies, Table.get?_mapValues, found]
    | some document => rw [dependencies_of found, none_left key document found]
  obtain ⟨done, hvisits⟩ :=
    visitAll_of_no_targets hof documents.length (dependencies documents).keys []
  rw [checkCycles]
  simp only [htargets, hvisits]
  rfl

theorem Registry.expandAll_of_refFree {r : Registry} (passes : 1 ≤ r.maxPasses)
    (known : ∀ entry ∈ r.documents, ∀ target ∈ collectRefs entry.2, target ∈ r.documents.keys)
    (free : ∀ key document, r.documents.get? key = some document → RefFree document) :
    r.expandAll.1 = r ∧ r.expandAll.2.result = .ok 0 := by
  have hcycles : checkCycles r.documents = .ok () :=
    checkCycles_of_collectRefs_eq_nil known fun key document found =>
      (free key document found).collectRefs_eq_nil
  have hplaces : ∀ key ∈ r.documents.keys, placesOf r.documents key = [] := by
    intro key hkey
    obtain ⟨document, found⟩ := Table.exists_get?_of_mem_keys hkey
    rw [placesOf_found found, (free key document found).markerPlaces_eq_nil]
  obtain ⟨left, hleft⟩ : ∃ left, r.maxPasses.toNat = left + 1 := ⟨r.maxPasses.toNat - 1, by omega⟩
  rw [Registry.expandAll_of_checkCycles hcycles, hleft, replacePasses, replacePass_idle hplaces]
  exact ⟨rfl, rfl⟩

theorem follow_eq_expandDocument {documents : Table Json} {rank : String → Nat}
    (ranked : Ranked documents rank) {key : String} {document : Json}
    (found : documents.get? key = some document) :
    SameOutcome (follow documents documents.length [] (.text key))
      (expandDocument documents document) := by
  have bound := ranked.bounded (Table.mem_keys_of_get? found)
  obtain ⟨left, hleft⟩ : ∃ left, documents.length = left + 1 := ⟨documents.length - 1, by omega⟩
  unfold expandDocument
  rw [hleft] at bound ⊢
  rw [follow_known found List.not_mem_nil]
  refine expandWith_congr (agreeOn_of_ranked fun k hk => ?_)
  have hlt := ranked.lower found hk
  exact follow_of_ranked ranked (ranked.mem_keys found hk) (by omega) (by omega)
    (above_append (by simp) hlt) (by simp)

theorem componentDocuments_plain {components : List (String × Component)}
    {documents : List (String × Json)} (h : componentDocuments components = .ok documents) :
    ∀ entry ∈ documents, isMarker entry.2 = false := by
  induction components generalizing documents with
  | nil =>
    obtain rfl := Except.ok.inj h
    simp
  | cons component rest ih =>
    obtain ⟨name, c⟩ := component
    obtain ⟨document, hdocument, h⟩ := bind_eq_ok_iff.mp h
    obtain ⟨documents', hrest, h⟩ := bind_eq_ok_iff.mp h
    obtain rfl := Except.ok.inj h
    refine List.forall_mem_cons.mpr ⟨?_, ih hrest⟩
    have hschema : document = componentSchema c := by
      rw [checkComponent] at hdocument
      split at hdocument
      · obtain ⟨_, _, hdocument⟩ := bind_eq_ok_iff.mp hdocument
        exact (Except.ok.inj hdocument).symm
      · cases hdocument
    subst hschema
    unfold componentSchema
    split <;> rfl

theorem Registry.ofComponents_plainTops {components : Option Components} {maxPasses : Int}
    {r : Registry} (h : Registry.ofComponents components maxPasses = .ok r) :
    PlainTops r.documents := by
  obtain ⟨documents, hdocuments, h⟩ := bind_eq_ok_iff.mp h
  obtain rfl := Except.ok.inj h
  intro key document found
  exact componentDocuments_plain hdocuments _ (Table.mem_of_get? found)

/-- Where replacing references in place ends well, every document has become what it expanded to
before, no reference is left at any depth, and replacing again changes nothing. The documents of a
contract description meet the condition on tops. -/
theorem expandAll_complete {r : Registry} (passes : 1 ≤ r.maxPasses) (plain : PlainTops r.documents)
    {n : Nat} (done : r.expandAll.2.result = .ok n) :
    r.expandAll.1.documents.keys = r.documents.keys ∧
      (∀ key document, r.documents.get? key = some document →
        ∃ value, r.expandAll.1.documents.get? key = some value ∧ r.expand document = .ok value ∧
          RefFree value) ∧
      (r.expandAll.1.expandAll.1 = r.expandAll.1 ∧ r.expandAll.1.expandAll.2.result = .ok 0) ∧
      ∀ components maxPasses described, Registry.ofComponents components maxPasses = .ok described →
        PlainTops described.documents := by
  have cycles := Registry.checkCycles_of_expandAll done
  obtain ⟨rank, ranked, preserved⟩ := Registry.preserved_expandAll plain.stableTops cycles
  have free (key : String) (document : Json)
    (found : r.expandAll.1.documents.get? key = some document) :
      RefFree document := Registry.refFree_expandAll passes plain done found
  refine ⟨preserved.keys, fun key document found => ?_,
    Registry.expandAll_of_refFree (r.maxPasses_expandAll.symm ▸ passes) preserved.ranked.known free,
    fun _ _ _ => Registry.ofComponents_plainTops⟩
  have known := Table.mem_keys_of_get? found
  obtain ⟨value, hvalue⟩ := Table.exists_get?_of_mem_keys (preserved.keys.symm ▸ known)
  refine ⟨value, hvalue, ?_, free key value hvalue⟩
  have bound := ranked.bounded known
  have above : ∀ k ∈ ([] : List String), rank key < rank k := by simp
  have after := preserved.follow known bound above
  obtain ⟨length, hlength⟩ : ∃ length, r.documents.length = length + 1 :=
    ⟨r.documents.length - 1, by omega⟩
  rw [hlength, follow_known hvalue List.not_mem_nil, (free key value hvalue).expandWith_eq,
    ← hlength] at after
  exact (after.trans (follow_eq_expandDocument ranked found)).symm.eq_of_ok

def chained : Registry where
  documents :=
    [("A", .object [("items", .array [.object [("$ref", .text "B"), ("title", .text "b")]])]),
     ("B", .object [("c", .object [("$ref", .text "C")])]),
     ("C", .object [("type", .text "integer")])]

theorem chained_plainTops : PlainTops chained.documents := by
  intro key document found
  have hmem := Table.mem_of_get? found
  simp only [chained, List.mem_cons, Prod.mk.injEq, List.not_mem_nil, or_false] at hmem
  rcases hmem with ⟨-, rfl⟩ | ⟨-, rfl⟩ | ⟨-, rfl⟩ <;> rfl

theorem expandAll_complete_chained :
    PlainTops chained.documents ∧ chained.expandAll.2.result = .ok 3 ∧
      (∃ value, chained.expandAll.1.documents.get? "B" = some value ∧
        chained.expand (.object [("c", .object [("$ref", .text "C")])]) = .ok value ∧
          RefFree value) ∧
      chained.expandAll.1.expandAll.2.result = .ok 0 := by
  have done : chained.expandAll.2.result = .ok 3 := by cbv
  have passes : 1 ≤ chained.maxPasses := by decide
  obtain ⟨-, documents, ⟨-, again⟩, -⟩ := expandAll_complete passes chained_plainTops done
  exact ⟨chained_plainTops, done, documents "B" _ rfl, again⟩

end LedgerFlow.Schema
