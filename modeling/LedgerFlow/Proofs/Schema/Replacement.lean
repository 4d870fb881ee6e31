import LedgerFlow.Proofs.Schema.Acyclic
import LedgerFlow.Proofs.Schema.Outcome
import Mathlib.Logic.Relation

/-!
Expanding documents in place, one marker after the other. No single replacement changes what any
reference comes to, so no sequence of them does, wherever it ends.
-/
namespace LedgerFlow.Schema
open Json (Place)

/-- A marker in one document gives way to the document that it names. -/
inductive Replaces (documents : Table Json) : Table Json → Prop
  | step {key name : String} {document target : Json} {place : Place}
      (found : documents.get? key = some document) (marker : MarkerAt document place (.text name))
      (named : documents.get? name = some target) :
      Replaces documents (documents.insert key (document.putAt target place))

/-- No document is a bare text, or where the top of a document is a marker, its reference is a text.
Either way replacements below the top of a document cannot make a reference at its top out of
something else. -/
def StableTops (documents : Table Json) : Prop :=
  (∀ key document, documents.get? key = some document → document.text? = none) ∨
    ∀ key document ref, documents.get? key = some document → document.get? refKey = some ref →
      ref.text? ≠ none

theorem StableTops.keepsTop {documents : Table Json} (stable : StableTops documents)
    {key name : String} {document target : Json} (found : documents.get? key = some document)
    (named : documents.get? name = some target) : KeepsTop document target := by
  rcases stable with bare | tops
  · exact .inl (bare name target named)
  · exact .inr fun ref href => tops key document ref found href

theorem resolve_eq_ok_iff {documents : Table Json} {ref target : Json} {name : String} :
    resolve documents ref = .ok (name, target) ↔ ref = .text name ∧
      documents.get? name = some target := by
  cases ref with
  | text key =>
    rw [resolve]
    cases hget : documents.get? key with
    | none =>
      simp only [reduceCtorEq, Json.text.injEq, false_iff, not_and]
      rintro rfl
      simp [hget]
    | some document =>
      simp only [Except.ok.injEq, Prod.mk.injEq, Json.text.injEq]
      constructor
      · rintro ⟨rfl, rfl⟩
        exact ⟨rfl, hget⟩
      · rintro ⟨rfl, hget'⟩
        exact ⟨rfl, Option.some.inj (hget.symm.trans hget')⟩
  | _ => simp [resolve]

section
variable {documents : Table Json} {left : Nat} {path : List String} {key : String}

theorem follow_notText {ref : Json} (h : ref.text? = none) :
    follow documents left path ref = .error (.refNotText ref) := by
  cases left <;> cases ref <;> first | rfl | simp [Json.text?] at h

theorem follow_unknown (h : key ∉ documents.keys) :
    follow documents left path (.text key) = .error (.unresolvedRef key) := by
  have hget : documents.get? key = none := Table.get?_eq_none_iff.mpr h
  cases left <;> rw [follow, resolve, hget] <;> rfl

theorem follow_known {document : Json} (found : documents.get? key = some document)
    (off : key ∉ path) :
    follow documents (left + 1) path (.text key) =
      expandWith (follow documents left (path ++ [key])) document := by
  rw [follow, resolve_text_of_get? found]
  have hoff : path.contains key = false := by simpa using off
  change (if path.contains key = true then _ else _) = _
  rw [hoff]
  rfl

theorem follow_again {document : Json} (found : documents.get? key = some document)
    (again : key ∈ path) :
    follow documents (left + 1) path (.text key) = .error (cycleError path key) := by
  rw [follow, resolve_text_of_get? found]
  have hagain : path.contains key = true := by simpa using again
  change (if path.contains key = true then _ else _) = _
  rw [if_pos hagain]

theorem agreeOn_of_ranked {documents' : Table Json} {left' : Nat} {path' : List String}
    {keys : List String} (h : ∀ k ∈ keys,
      SameOutcome (follow documents left path (.text k))
        (follow documents' left' path' (.text k))) :
    AgreeOn (follow documents left path) (follow documents' left' path') keys where
  texts := h
  others v w hv hw := by
    rw [follow_notText hv, follow_notText hw]
    exact .notText v w

variable {rank : String → Nat}

theorem above_append (above : ∀ k ∈ path, rank key < rank k) {lower : String}
    (h : rank lower < rank key) : ∀ k ∈ path ++ [key], rank lower < rank k := by
  intro k hk
  rcases List.mem_append.mp hk with hk | hk
  · exact Nat.lt_trans h (above k hk)
  · exact List.mem_singleton.mp hk ▸ h

theorem off_path (above : ∀ k ∈ path, rank key < rank k) : key ∉ path :=
  fun hmem => Nat.lt_irrefl _ (above key hmem)

/-- The way to a reference and the length left for it do not count, as long as it leads down from
higher ranks and is not too short. -/
theorem follow_of_ranked (ranked : Ranked documents rank) {left' : Nat} {path' : List String}
    (known : key ∈ documents.keys) (room : rank key < left) (room' : rank key < left')
    (above : ∀ k ∈ path, rank key < rank k) (above' : ∀ k ∈ path', rank key < rank k) :
    SameOutcome (follow documents left path (.text key))
      (follow documents left' path' (.text key)) := by
  induction left generalizing left' path path' key with
  | zero => omega
  | succ left ih =>
    cases left' with
    | zero => omega
    | succ left' =>
      obtain ⟨document, found⟩ := Table.exists_get?_of_mem_keys known
      rw [follow_known found (off_path above), follow_known found (off_path above')]
      refine expandWith_congr (agreeOn_of_ranked fun k hk => ?_)
      have hlt := ranked.lower found hk
      exact ih (ranked.mem_keys found hk) (by omega) (by omega) (above_append above hlt)
        (above_append above' hlt)

end

namespace Replaces
variable {documents documents' : Table Json} {rank : String → Nat}

theorem keys_eq (h : Replaces documents documents') : documents'.keys = documents.keys := by
  cases h with
  | step found _ _ => exact Table.keys_insert_of_mem (Table.mem_keys_of_get? found) _

theorem length_eq (h : Replaces documents documents') : documents'.length = documents.length := by
  rw [← Table.length_keys, h.keys_eq, Table.length_keys]

theorem get?_cases (h : Replaces documents documents') {key : String} {document : Json}
    (found : documents'.get? key = some document) :
    documents.get? key = some document ∨
      ∃ name old target place, documents.get? key = some old ∧ MarkerAt old place (.text name) ∧
        documents.get? name = some target ∧ document = old.putAt target place := by
  cases h with
  | @step changed name old target place hold marker named =>
    by_cases hkey : key = changed
    · subst hkey
      rw [Table.get?_insert_self] at found
      exact .inr ⟨name, old, target, place, hold, marker, named, (Option.some.inj found).symm⟩
    · rw [Table.get?_insert_of_ne hkey] at found
      exact .inl found

theorem stableTops (h : Replaces documents documents') (stable : StableTops documents) :
    StableTops documents' := by
  rcases stable with bare | tops
  · refine .inl fun key document found => ?_
    rcases h.get?_cases found with found | ⟨_, old, target, place, _, marker, _, rfl⟩
    · exact bare key document found
    · exact marker.text?_putAt target
  · refine .inr fun key document ref found href => ?_
    rcases h.get?_cases found with found | ⟨name, old, target, place, hold, marker, named, rfl⟩
    · exact tops key document ref found href
    · have marks : isMarker old = true := by
        rw [← marker.isMarker_putAt target]
        exact Option.isSome_iff_exists.mpr ⟨ref, href⟩
      obtain ⟨top, htop⟩ := Option.isSome_iff_exists.mp marks
      have text := tops key old top hold htop
      rcases marker.get?_putAt (StableTops.keepsTop (.inr tops) hold named) htop with
        same | ⟨_, _, bare, _⟩
      · obtain rfl := Option.some.inj (same.symm.trans href)
        exact text
      · exact absurd bare text

theorem ranked (h : Replaces documents documents') (stable : StableTops documents)
    (ranked : Ranked documents rank) : Ranked documents' rank := by
  obtain @⟨changed, name, old, new, place, hold, marker, named⟩ := h
  have hkeys := (Replaces.step hold marker named).keys_eq
  -- a reference that the new document got is one of the document in the place of the marker
  have gained : ∀ target ∈ collectRefs (old.putAt new place),
      target ∈ documents.keys ∧ rank target < rank changed := by
    intro target htarget
    rcases marker.mem_collectRefs_putAt (stable.keepsTop hold named) htarget with
      hin | ⟨hnew, hname⟩
    · exact ⟨ranked.mem_keys hold hin, ranked.lower hold hin⟩
    · have hlt := ranked.lower hold (hname name rfl)
      exact ⟨ranked.mem_keys named hnew, Nat.lt_trans (ranked.lower named hnew) hlt⟩
  constructor
  · intro entry hentry target htarget
    rw [hkeys]
    rcases Table.mem_insert hentry with rfl | hentry
    · exact (gained target htarget).1
    · exact ranked.known entry hentry target htarget
  · intro key document target found htarget
    by_cases hkey : key = changed
    · subst hkey
      rw [Table.get?_insert_self] at found
      exact (gained target (Option.some.inj found ▸ htarget)).2
    · rw [Table.get?_insert_of_ne hkey] at found
      exact ranked.lower found htarget
  · intro key hkey
    rw [(Replaces.step hold marker named).length_eq]
    exact ranked.bounded (hkeys ▸ hkey)

theorem follow_same (h : Replaces documents documents') (stable : StableTops documents)
    (ranked : Ranked documents rank) {left : Nat} {path : List String} {key : String}
    (known : key ∈ documents.keys) (room : rank key < left)
    (above : ∀ k ∈ path, rank key < rank k) :
    SameOutcome (follow documents' left path (.text key))
      (follow documents left path (.text key)) := by
  induction left generalizing path key with
  | zero => omega
  | succ left ih =>
    obtain ⟨document, found⟩ := Table.exists_get?_of_mem_keys (h.keys_eq.symm ▸ known)
    have agree : ∀ old, documents.get? key = some old →
        AgreeOn (follow documents' left (path ++ [key])) (follow documents left (path ++ [key]))
          (collectRefs old) := by
      intro old hold
      refine agreeOn_of_ranked fun k hk => ?_
      have hlt := ranked.lower hold hk
      exact ih (ranked.mem_keys hold hk) (by omega) (above_append above hlt)
    rw [follow_known found (off_path above)]
    rcases h.get?_cases found with same | ⟨name, old, target, place, hold, marker, named, rfl⟩
    · rw [follow_known same (off_path above)]
      exact expandWith_congr (agree document same)
    · rw [follow_known hold (off_path above)]
      refine marker.expandWith_putAt (stable.keepsTop hold named) (agree old hold) fun hname => ?_
      -- the marker leads one document further down than the value in its place
      have hlt := ranked.lower hold (hname name rfl)
      have above' := above_append above hlt
      obtain ⟨left, rfl⟩ : ∃ n, left = n + 1 := ⟨left - 1, by omega⟩
      rw [follow_known named (off_path above')]
      refine expandWith_congr (agreeOn_of_ranked fun k hk => ?_)
      have hlt' := ranked.lower named hk
      have hkey := Nat.lt_trans hlt' hlt
      have hknown := ranked.mem_keys named hk
      refine (ih hknown (by omega) (above_append above hkey)).trans ?_
      exact follow_of_ranked ranked hknown (by omega) (by omega) (above_append above hkey)
        (above_append above' hlt')

end Replaces

/-- What holds after any run of replacements: the keys are the same, and so is what each reference
comes to. -/
structure Preserved (documents : Table Json) (rank : String → Nat)
    (documents' : Table Json) : Prop where
  keys : documents'.keys = documents.keys
  stable : StableTops documents'
  ranked : Ranked documents' rank
  follow : ∀ {left path key}, key ∈ documents.keys → rank key < left →
    (∀ k ∈ path, rank key < rank k) →
    SameOutcome (follow documents' left path (.text key)) (follow documents left path (.text key))

theorem preserved_of_replaces {documents documents' : Table Json} {rank : String → Nat}
    (h : Relation.ReflTransGen Replaces documents documents') (stable : StableTops documents)
    (ranked : Ranked documents rank) : Preserved documents rank documents' := by
  induction h with
  | refl => exact ⟨rfl, stable, ranked, fun _ _ _ => .refl _⟩
  | tail _ step ih =>
    refine ⟨step.keys_eq.trans ih.keys, step.stableTops ih.stable,
      step.ranked ih.stable ih.ranked, ?_⟩
    intro left path key known room above
    have hlast := step.follow_same ih.stable ih.ranked (ih.keys.symm ▸ known) room above
    exact hlast.trans (ih.follow known room above)

theorem Preserved.expandDocument {documents documents' : Table Json} {rank : String → Nat}
    (h : Preserved documents rank documents') (ranked : Ranked documents rank) (v : Json) :
    SameOutcome (expandDocument documents' v) (expandDocument documents v) := by
  have hlen : documents'.length = documents.length := by
    rw [← Table.length_keys, h.keys, Table.length_keys]
  unfold Schema.expandDocument
  rw [hlen]
  refine expandWith_congr (agreeOn_of_ranked fun key _ => ?_)
  by_cases known : key ∈ documents.keys
  · exact h.follow known (ranked.bounded known) (by simp)
  · rw [follow_unknown known, follow_unknown (h.keys ▸ known)]
    exact .refl _

end LedgerFlow.Schema
