import LedgerFlow.Proofs.Schema.Failure
import Mathlib.Data.Nat.Find

/-!
How many passes suffice. A pass puts documents in the place of markers as they stand by then, so
what is left leads down twice as far as before, and the passes end when it would have to lead
further than there are ranks. The length of the longest chain of references below a document is a
rank of it.
-/
namespace LedgerFlow.Schema
open Relation (TransGen)

/-- References name documents, and lead down by one rank at least. -/
def LeadsDown (documents : Table Json) (rank : String → Nat) : Prop :=
  ∀ key target, Mentions documents key target → target ∈ documents.keys ∧ rank target + 1 ≤ rank key

namespace LeadsDown
variable {documents : Table Json} {rank : String → Nat}

theorem checkCycles (down : LeadsDown documents rank) (distinct : documents.keys.Nodup) :
    checkCycles documents = .ok () := by
  rw [checkCycles_ok_iff distinct]
  have lowest {key target : String} (leads : TransGen (Mentions documents) key target) :
      rank target < rank key := by
    induction leads with
    | single edge => exact (down _ _ edge).2
    | tail _ edge ih => exact Nat.lt_trans (down _ _ edge).2 ih
  rintro (⟨key, target, edge, missing⟩ | ⟨key, cycle⟩)
  · exact missing (down key target edge).1
  · exact Nat.lt_irrefl _ (lowest cycle)

theorem spaced (down : LeadsDown documents rank) (texts : ∀ entry ∈ documents, TextRefs entry.2)
    (plain : PlainTops documents) (top : Nat) : Spaced documents rank top fun _ => 1 where
  below {key document _ _} found marker := by
    obtain ⟨name, hname, rfl⟩ := (texts _ (Table.mem_of_get? found)).exists_of_markerAt marker
    obtain ⟨known, lower⟩ := down key name ⟨document, found, hname⟩
    exact ⟨name, known, rfl, lower⟩
  tops {key document ref} found top := by
    have bare := plain key document found
    simp [isMarker, top] at bare

end LeadsDown

section
variable {documents : Table Json} {rank : String → Nat} {top least : Nat}

theorem Spaced.unexpanded_eq_nil (h : Spaced documents rank top fun _ => least)
    (distinct : documents.keys.Nodup) (above : ∀ key ∈ documents.keys, rank key < least)
    (deep : least ≤ top) : unexpanded documents = [] := by
  refine List.map_eq_nil_iff.mpr (List.filter_eq_nil_iff.mpr ?_)
  rintro ⟨key, document⟩ hentry
  have found := Table.get?_of_mem distinct hentry
  have low := above key (Table.mem_keys_of_get? found)
  have plain : isMarker document = false := by
    refine Option.isSome_eq_false_iff.mpr (Option.isNone_iff_eq_none.mpr ?_)
    refine Option.eq_none_iff_forall_ne_some.mpr fun ref href => ?_
    obtain ⟨name, -, -, drop⟩ := h.tops found href
    omega
  have free : RefFree document := by
    refine refFree_of_not_markerAt plain fun place ref marker => ?_
    obtain ⟨name, -, -, drop⟩ := h.below found marker
    omega
  simp [free.collectRefs_eq_nil]

theorem mul_two_pow_succ (n left : Nat) : n * 2 ^ (left + 1) = (n + n) * 2 ^ left := by
  rw [Nat.pow_succ, ← Nat.two_mul, Nat.mul_comm 2 n, Nat.mul_assoc, Nat.mul_comm 2]

/-- Passes come to an end if the gap doubled by each of them gets above all ranks. -/
theorem replacePasses_doubled {maxPasses : Int} {left pass total : Nat}
    (h : Spaced documents rank top fun _ => least) (distinct : documents.keys.Nodup)
    (pos : 0 < least) (above : ∀ key ∈ documents.keys, rank key < least * 2 ^ left)
    (deep : least * 2 ^ left ≤ top) :
    ∃ n, (replacePasses maxPasses left pass total documents).2.result = .ok n := by
  induction left generalizing pass total least documents with
  | zero =>
    rw [Nat.pow_zero, Nat.mul_one] at above deep
    rw [replacePasses, h.unexpanded_eq_nil distinct above deep]
    exact ⟨total, rfl⟩
  | succ left ih =>
    have grows : least ≤ least * 2 ^ (left + 1) := Nat.le_mul_of_pos_right _ (Nat.two_pow_pos _)
    obtain ⟨after, n, passed, keys, spaced⟩ :=
      replacePass_spaced h pos (fun _ => Nat.le_refl _) (Nat.le_add_left _ _) (Nat.le_refl _)
        (by omega) fun _ => id
    have spaced' : Spaced after rank top fun _ => least + least :=
      spaced.mono fun key hkey => by simp [keys ▸ hkey]
    rw [replacePasses, passed]
    dsimp only
    split
    · exact ⟨total, rfl⟩
    · rw [mul_two_pow_succ] at above deep
      exact ih spaced' (keys ▸ distinct) (by omega) (keys ▸ above) deep

end

/-! The longest chain of references below a document. -/

section
open Classical
variable {documents : Table Json} {bound : Nat}

/-- How long a chain of references below this key can get, up to a bound. -/
noncomputable def chainHeight (documents : Table Json) (bound : Nat) (key : String) : Nat :=
  Nat.findGreatest (fun n => ∃ below, (key :: below).IsChain (Mentions documents) ∧
    below.length = n) bound

theorem chainHeight_le (key : String) : chainHeight documents bound key ≤ bound :=
  Nat.findGreatest_le bound

theorem exists_chain (documents : Table Json) (bound : Nat) (key : String) :
    ∃ below, (key :: below).IsChain (Mentions documents) ∧
      below.length = chainHeight documents bound key :=
  Nat.findGreatest_spec (P := fun n => ∃ below, (key :: below).IsChain (Mentions documents) ∧
    below.length = n) (Nat.zero_le bound) ⟨[], List.isChain_singleton key, rfl⟩

theorem chainHeight_lt
    (bounded : ∀ chain : List String, chain.IsChain (Mentions documents) → chain.length ≤ bound + 1)
    {key target : String} (edge : Mentions documents key target) :
    chainHeight documents bound target + 1 ≤ chainHeight documents bound key := by
  obtain ⟨below, chain, length⟩ := exists_chain documents bound target
  have longer : (key :: target :: below).IsChain (Mentions documents) :=
    List.isChain_cons_cons.mpr ⟨edge, chain⟩
  have short := bounded _ longer
  rw [List.length_cons, List.length_cons, length] at short
  refine Nat.le_findGreatest (by omega) ⟨target :: below, longer, ?_⟩
  rw [List.length_cons, length]

end

end LedgerFlow.Schema
