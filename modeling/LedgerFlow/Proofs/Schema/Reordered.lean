import LedgerFlow.Proofs.Schema.Resolved

/-!
Documents in another order. Expanding in place goes through the documents in order, and what a pass
finds depends on what it has replaced before; but where it ends well each document has become what a
reference to it comes to, and that depends on nothing but what stands under the keys.
-/
namespace LedgerFlow.Schema

structure SameLookup (documents documents' : Table Json) : Prop where
  get?_eq : ∀ key, documents.get? key = documents'.get? key
  length_eq : documents.length = documents'.length

theorem SameLookup.of_perm {documents documents' : Table Json} (distinct : documents.keys.Nodup)
    (perm : documents.Perm documents') : SameLookup documents documents' :=
  ⟨Table.get?_of_perm distinct perm, perm.length_eq⟩

namespace SameLookup
variable {documents documents' : Table Json}

theorem resolve_eq (same : SameLookup documents documents') :
    resolve documents = resolve documents' := by
  funext ref
  cases ref with
  | text key => rw [resolve, resolve, same.get?_eq key]
  | _ => rfl

theorem follow_eq (same : SameLookup documents documents') (left : Nat) (path : List String) :
    follow documents left path = follow documents' left path := by
  induction left generalizing path with
  | zero =>
    funext ref
    rw [follow, follow, same.resolve_eq]
  | succ left ih =>
    funext ref
    rw [follow, follow, same.resolve_eq]
    simp only [ih]

theorem expandDocument_eq (same : SameLookup documents documents') :
    expandDocument documents = expandDocument documents' := by
  funext v
  rw [expandDocument, expandDocument, same.length_eq, same.follow_eq]

end SameLookup

theorem Registry.perm_expandAll {r r' : Registry} (distinct : r.documents.keys.Nodup)
    (perm : r.documents.Perm r'.documents) (passes : 1 ≤ r.maxPasses) (passes' : 1 ≤ r'.maxPasses)
    (plain : PlainTops r.documents) {n n' : Nat} (done : r.expandAll.2.result = .ok n)
    (done' : r'.expandAll.2.result = .ok n') :
    r.expandAll.1.documents.Perm r'.expandAll.1.documents := by
  have same := SameLookup.of_perm distinct perm
  have plain' : PlainTops r'.documents := fun key document found =>
    plain key document ((same.get?_eq key).trans found)
  apply Table.perm_of_get?
  · rwa [Registry.keys_expandAll]
  · rw [Registry.keys_expandAll]
    exact (perm.map _).nodup_iff.mp distinct
  · intro key
    rw [Registry.get?_expandAll passes plain done, Registry.get?_expandAll passes' plain' done',
      Registry.expand, Registry.expand, same.expandDocument_eq]

theorem Registry.get?_definitions_of_perm {r r' : Registry} (perm : r.documents.Perm r'.documents)
    (derived : r.derived = r'.derived) (bare : (r.documents.keys.map refName).Nodup)
    (key : String) :
    r.definitions.get? key = r'.definitions.get? key := by
  unfold Registry.definitions
  rw [Table.get?_ofPairs, Table.get?_ofPairs, List.reverse_append, List.reverse_append, derived,
    Table.get?_append, Table.get?_append]
  congr 1
  refine Table.get?_of_perm ?_ ?_ key
  · rw [Table.keys, List.map_reverse, List.nodup_reverse, List.map_map]
    rwa [Table.keys, List.map_map] at bare
  · exact (List.reverse_perm _).trans ((perm.map _).trans (List.reverse_perm _).symm)

end LedgerFlow.Schema
