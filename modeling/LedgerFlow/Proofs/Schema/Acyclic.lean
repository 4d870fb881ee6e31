import LedgerFlow.Proofs.Result
import LedgerFlow.Proofs.Table
import LedgerFlow.Schema.Dependency
import Mathlib.Data.List.Perm.Subperm

/-!
What the search for cycles finds out. Where it ends without a cycle, the documents can be ranked:
every reference leads to a document of a lower rank. The ranks are the order in which the visits
ended.
-/
namespace LedgerFlow.Schema

/-- Every reference leads to a document of a lower rank, and the ranks stay below the number of
documents. -/
structure Ranked (documents : Table Json) (rank : String → Nat) : Prop where
  known : ∀ entry ∈ documents, ∀ target ∈ collectRefs entry.2, target ∈ documents.keys
  lower : ∀ {key document target}, documents.get? key = some document →
    target ∈ collectRefs document → rank target < rank key
  bounded : ∀ {key}, key ∈ documents.keys → rank key < documents.length

theorem Ranked.mem_keys {documents : Table Json} {rank : String → Nat}
    (ranked : Ranked documents rank) {key target : String} {document : Json}
    (found : documents.get? key = some document)
    (h : target ∈ collectRefs document) : target ∈ documents.keys :=
  ranked.known _ (Table.mem_of_get? found) target h

/-- Keys whose visits have ended, the last one first: each refers to keys behind it only. -/
def Finished (deps : Dependencies) : List String → Prop
  | [] => True
  | key :: done => key ∉ done ∧ (∀ target ∈ deps.of key, target ∈ done) ∧ Finished deps done

def heightIn : List String → String → Nat
  | [], _ => 0
  | k :: done, key => if k = key then done.length else heightIn done key

theorem heightIn_lt {done : List String} {key : String} (h : key ∈ done) :
    heightIn done key < done.length := by
  induction done with
  | nil => simp at h
  | cons k done ih =>
    rw [heightIn, List.length_cons]
    split
    · omega
    · rename_i hne
      have := ih ((List.mem_cons.mp h).resolve_left fun e => hne e.symm)
      omega

theorem Finished.behind {deps : Dependencies} {done : List String} (finished : Finished deps done)
    {key target : String} (hkey : key ∈ done) (htarget : target ∈ deps.of key) :
    target ∈ done ∧ heightIn done target < heightIn done key := by
  induction done with
  | nil => simp at hkey
  | cons k done ih =>
    obtain ⟨fresh, targets, finished⟩ := finished
    have step : ∀ other ∈ done, heightIn (k :: done) other = heightIn done other := by
      intro other hmem
      rw [heightIn, if_neg fun e => fresh (by rwa [e])]
    by_cases hk : k = key
    · subst hk
      have hmem := targets target htarget
      refine ⟨List.mem_cons_of_mem _ hmem, ?_⟩
      rw [step target hmem, heightIn, if_pos rfl]
      exact heightIn_lt hmem
    · have hkey : key ∈ done := (List.mem_cons.mp hkey).resolve_left fun e => hk e.symm
      obtain ⟨hmem, hlt⟩ := ih finished hkey
      refine ⟨List.mem_cons_of_mem _ hmem, ?_⟩
      rwa [step target hmem, step key hkey]

theorem Finished.nodup {deps : Dependencies} {done : List String} (finished : Finished deps done) :
    done.Nodup := by
  induction done with
  | nil => exact List.nodup_nil
  | cons k done ih => exact List.nodup_cons.mpr ⟨finished.1, ih finished.2.2⟩

/-- A visit under way: it may get as much longer as there are keys off its path, and no key on the
path has ended. -/
structure Visiting (deps : Dependencies) (left : Nat) (path done : List String) : Prop where
  room : left + path.length = deps.keys.length
  distinct : path.Nodup
  onKeys : ∀ key ∈ path, key ∈ deps.keys
  finished : Finished deps done
  doneKeys : ∀ key ∈ done, key ∈ deps.keys
  apart : ∀ key ∈ path, key ∉ done

namespace Visiting
variable {deps : Dependencies} {left : Nat} {path done : List String} {key : String}

theorem room_pos (h : Visiting deps left path done) (hkey : key ∈ deps.keys)
    (off : key ∉ path) : 0 < left := by
  have hnodup : (key :: path).Nodup := List.nodup_cons.mpr ⟨off, h.distinct⟩
  have hsub : (key :: path) ⊆ deps.keys := by
    intro k hk
    rcases List.mem_cons.mp hk with rfl | hk
    · exact hkey
    · exact h.onKeys k hk
  have hlen := (List.subperm_of_subset hnodup hsub).length_le
  have hroom := h.room
  rw [List.length_cons] at hlen
  omega

theorem enter (h : Visiting deps (left + 1) path done) (hkey : key ∈ deps.keys) (off : key ∉ path)
    (fresh : key ∉ done) : Visiting deps left (path ++ [key]) done where
  room := by
    have hroom := h.room
    rw [List.length_append, List.length_singleton]
    omega
  distinct := List.nodup_append'.mpr ⟨h.distinct, List.nodup_singleton _, by simpa using off⟩
  onKeys k hk := by
    rcases List.mem_append.mp hk with hk | hk
    · exact h.onKeys k hk
    · exact List.mem_singleton.mp hk ▸ hkey
  finished := h.finished
  doneKeys := h.doneKeys
  apart k hk := by
    rcases List.mem_append.mp hk with hk | hk
    · exact h.apart k hk
    · exact List.mem_singleton.mp hk ▸ fresh

theorem leave {after : List String} (before : Visiting deps (left + 1) path done)
    (hkey : key ∈ deps.keys) (off : key ∉ path) (h : Visiting deps left (path ++ [key]) after)
    (targets : ∀ target ∈ deps.of key, target ∈ after) :
    Visiting deps (left + 1) path (key :: after) where
  room := before.room
  distinct := before.distinct
  onKeys := before.onKeys
  finished := ⟨h.apart key (by simp), targets, h.finished⟩
  doneKeys k hk := by
    rcases List.mem_cons.mp hk with rfl | hk
    · exact hkey
    · exact h.doneKeys k hk
  apart k hk hmem := by
    rcases List.mem_cons.mp hmem with rfl | hmem
    · exact off hk
    · exact h.apart k (by simp [hk]) hmem

end Visiting

def VisitEnds (deps : Dependencies) (left : Nat) : Prop :=
  ∀ {path done key after}, Visiting deps left path done → key ∈ deps.keys → key ∉ path →
    key ∉ done → visit deps left path done key = .ok after →
    Visiting deps left path after ∧ done ⊆ after ∧ key ∈ after

theorem visitAll_ends {deps : Dependencies} {left : Nat} (ends : VisitEnds deps left)
    {path : List String} {targets done after : List String} (h : Visiting deps left path done)
    (hkeys : ∀ t ∈ targets, t ∈ deps.keys)
    (hok : visitAll deps left path done targets = .ok after) :
    Visiting deps left path after ∧ done ⊆ after ∧ ∀ t ∈ targets, t ∈ after := by
  induction targets generalizing done with
  | nil =>
    rw [visitAll] at hok
    obtain rfl := Except.ok.inj hok
    exact ⟨h, List.Subset.refl _, by simp⟩
  | cons target rest ih =>
    have hrest : ∀ t ∈ rest, t ∈ deps.keys := fun t ht => hkeys t (List.mem_cons_of_mem _ ht)
    rw [visitAll] at hok
    split at hok
    · cases hok
    rename_i off
    split at hok
    · rename_i hdone
      obtain ⟨hv, hsub, hall⟩ := ih h hrest hok
      refine ⟨hv, hsub, List.forall_mem_cons.mpr ⟨hsub ?_, hall⟩⟩
      simpa using hdone
    · rename_i fresh
      obtain ⟨between, hvisit, hok⟩ := bind_eq_ok_iff.mp hok
      obtain ⟨hv, hsub, hmem⟩ :=
        ends h (hkeys target List.mem_cons_self) (by simpa using off) (by simpa using fresh) hvisit
      obtain ⟨hv, hsub', hall⟩ := ih hv hrest hok
      exact ⟨hv, List.Subset.trans hsub hsub', List.forall_mem_cons.mpr ⟨hsub' hmem, hall⟩⟩

theorem visit_ends {deps : Dependencies}
    (closed : ∀ key, ∀ target ∈ deps.of key, target ∈ deps.keys)
    (left : Nat) : VisitEnds deps left := by
  induction left with
  | zero =>
    intro path done key after h hkey off _ _
    exact absurd (h.room_pos hkey off) (Nat.lt_irrefl 0)
  | succ left ih =>
    intro path done key after h hkey off fresh hok
    rw [visit] at hok
    obtain ⟨inner, hall, hok⟩ := bind_eq_ok_iff.mp hok
    obtain rfl := Except.ok.inj hok
    obtain ⟨hv, hsub, htargets⟩ := visitAll_ends ih (h.enter hkey off fresh) (closed key) hall
    exact ⟨h.leave hkey off hv htargets, fun k hk => List.mem_cons_of_mem _ (hsub hk),
      List.mem_cons_self⟩

theorem checkTargets_ok {documents : Table Json} {targets : List String}
    (h : checkTargets documents targets = .ok ()) :
    ∀ target ∈ targets, target ∈ documents.keys := by
  induction targets with
  | nil => simp
  | cons key rest ih =>
    rw [checkTargets] at h
    obtain ⟨_, hkey, hrest⟩ := bind_eq_ok_iff.mp h
    refine List.forall_mem_cons.mpr ⟨?_, ih hrest⟩
    rw [resolve] at hkey
    split at hkey
    · rename_i hget
      exact Table.mem_keys_of_get? hget
    · cases hkey

theorem dependencies_of {documents : Table Json} {key : String} {document : Json}
    (h : documents.get? key = some document) :
    (dependencies documents).of key = collectRefs document := by
  rw [Dependencies.of, dependencies, Table.get?_mapValues, h]
  rfl

theorem mem_dependencies {documents : Table Json} {entry : String × Json} (h : entry ∈ documents)
    {target : String} (htarget : target ∈ collectRefs entry.2) :
    target ∈ (dependencies documents).flatMap (·.2) :=
  List.mem_flatMap.mpr ⟨_, List.mem_map_of_mem h, htarget⟩

/-- Documents that pass the search for missing and cyclic references can be ranked. -/
theorem exists_ranked_of_checkCycles {documents : Table Json} (h : checkCycles documents = .ok ()) :
    ∃ rank, Ranked documents rank := by
  obtain ⟨_, hall, hvisits⟩ := bind_eq_ok_iff.mp h
  obtain ⟨done, hvisits, -⟩ := bind_eq_ok_iff.mp hvisits
  have hkeys : (dependencies documents).keys = documents.keys := Table.keys_mapValues _ _
  have known : ∀ entry ∈ documents, ∀ target ∈ collectRefs entry.2, target ∈ documents.keys :=
    fun entry hentry target htarget => checkTargets_ok hall target (mem_dependencies hentry htarget)
  have closed : ∀ key, ∀ target ∈ (dependencies documents).of key, target ∈
      (dependencies documents).keys := by
    intro key target htarget
    cases found : documents.get? key with
    | none => simp [Dependencies.of, dependencies, Table.get?_mapValues, found] at htarget
    | some document =>
      rw [dependencies_of found] at htarget
      exact hkeys ▸ known _ (Table.mem_of_get? found) target htarget
  have start : Visiting (dependencies documents) documents.length [] [] :=
    ⟨by rw [hkeys, Table.length_keys]; rfl, List.nodup_nil, by simp, trivial, by simp, by simp⟩
  obtain ⟨ended, -, hmem⟩ := visitAll_ends (visit_ends closed _) start (fun _ ht => ht) hvisits
  refine ⟨heightIn done, known, ?_, ?_⟩
  · intro key document target found htarget
    refine (ended.finished.behind (hmem key ?_) (dependencies_of found ▸ htarget)).2
    exact hkeys ▸ Table.mem_keys_of_get? found
  · intro key hkey
    have hlt := heightIn_lt (hmem key (hkeys ▸ hkey))
    have hlen := (List.subperm_of_subset ended.finished.nodup ended.doneKeys).length_le
    rw [hkeys, Table.length_keys] at hlen
    omega

end LedgerFlow.Schema
