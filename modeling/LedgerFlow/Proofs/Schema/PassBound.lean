import LedgerFlow.Proofs.Schema.Tight

/-!
The number of passes that references take: enough for two to this number to exceed the length of all
chains of references. A row of documents in which each refers to the next one takes as many.
-/
namespace LedgerFlow.Schema
open Json (throughout_object throughout_text)

theorem heightIn_append_cons {before : List String} {key : String} (fresh : key ∉ before)
    (after : List String) : heightIn (before ++ key :: after) key = after.length := by
  induction before with
  | nil => exact if_pos rfl
  | cons other before ih =>
    rw [List.cons_append, heightIn, if_neg (Ne.symm (List.ne_of_not_mem_cons fresh))]
    exact ih (List.not_mem_of_not_mem_cons fresh)

theorem heightIn_le (keys : List String) (key : String) : heightIn keys key ≤ keys.length - 1 := by
  induction keys with
  | nil => exact Nat.le_refl 0
  | cons other rest ih =>
    rw [heightIn, List.length_cons]
    split <;> omega

theorem heightIn_falling {keys : List String} (distinct : keys.Nodup) :
    keys.Pairwise fun key later => heightIn keys later < heightIn keys key := by
  induction keys with
  | nil => exact .nil
  | cons key rest ih =>
    obtain ⟨fresh, distinct⟩ := List.nodup_cons.mp distinct
    have inside {other : String} (hother : other ∈ rest) :
        heightIn (key :: rest) other = heightIn rest other := by
      rw [heightIn, if_neg fun e => fresh (by rwa [e])]
    refine List.pairwise_cons.mpr
      ⟨fun other hother => ?_, (ih distinct).imp_of_mem fun hkey hlater low => ?_⟩
    · rw [inside hother, heightIn, if_pos rfl]
      exact heightIn_lt hother
    · rwa [inside hkey, inside hlater]

/-- Each document refers to the next one and to nothing else, and the last one to nothing. -/
structure HeadToTail (documents : Table Json) : Prop where
  refers : documents.IsChain fun entry next => ∀ target, target ∈ collectRefs entry.2 ↔
    target = next.1
  ends : ∀ last ∈ documents.getLast?, collectRefs last.2 = []

namespace HeadToTail
variable {documents : Table Json}

theorem links (row : HeadToTail documents) (distinct : documents.keys.Nodup) {key : String}
    {document : Json} (found : documents.get? key = some document) :
    (heightIn documents.keys key = 0 ∧ collectRefs document = []) ∨
      ∃ next ∈ documents.keys, (∀ target, target ∈ collectRefs document ↔ target = next) ∧
        heightIn documents.keys next + 1 = heightIn documents.keys key := by
  obtain ⟨before, after, rfl⟩ := List.append_of_mem (Table.mem_of_get? found)
  have keys : Table.keys (before ++ (key, document) :: after) = before.map (·.1) ++
      key :: after.map (·.1) := by
    simp [Table.keys]
  rw [keys] at distinct ⊢
  have fresh : key ∉ before.map (·.1) :=
    fun h => (List.nodup_append'.mp distinct).2.2 h List.mem_cons_self
  rw [heightIn_append_cons fresh]
  cases after with
  | nil => exact .inl ⟨rfl, row.ends (key, document) (by simp)⟩
  | cons next after =>
    obtain ⟨-, chain, -⟩ := List.isChain_append.mp row.refers
    have regrouped : before.map (·.1) ++ key :: (next :: after).map (·.1) =
        (before.map (·.1) ++ [key]) ++ next.1 :: after.map (·.1) := by simp
    have later : next.1 ∉ before.map (·.1) ++ [key] := by
      rw [regrouped] at distinct
      exact fun h => (List.nodup_append'.mp distinct).2.2 h List.mem_cons_self
    refine .inr ⟨next.1, by simp, (List.isChain_cons_cons.mp chain).1, ?_⟩
    rw [regrouped, heightIn_append_cons later, List.map_cons, List.length_cons]

theorem leadsDown (row : HeadToTail documents) (distinct : documents.keys.Nodup) :
    LeadsDown documents (heightIn documents.keys) := by
  rintro key target ⟨document, found, htarget⟩
  rcases row.links distinct found with ⟨-, none⟩ | ⟨next, known, only, step⟩
  · rw [none] at htarget
    cases htarget
  · obtain rfl := (only target).mp htarget
    exact ⟨known, step.le⟩

theorem tight (row : HeadToTail documents) (distinct : documents.keys.Nodup)
    (texts : ∀ entry ∈ documents, TextRefs entry.2) (plain : PlainTops documents) (top : Nat) :
    Tight documents (heightIn documents.keys) top fun _ => 1 where
  spaced := (row.leadsDown distinct).spaced texts plain top
  linked key known high := by
    obtain ⟨document, found⟩ := Table.exists_get?_of_mem_keys known
    rcases row.links distinct found with ⟨low, -⟩ | ⟨next, -, only, step⟩
    · omega
    obtain ⟨place, ref, marker⟩ : ∃ place ref, MarkerAt document place ref := by
      by_contra none
      have free := refFree_of_not_markerAt (plain key document found) fun place ref h =>
        none ⟨place, ref, h⟩
      have hnext := (only next).mpr rfl
      rw [free.collectRefs_eq_nil] at hnext
      cases hnext
    obtain ⟨name, hname, rfl⟩ := (texts _ (Table.mem_of_get? found)).exists_of_markerAt marker
    obtain rfl := (only name).mp hname
    exact ⟨document, place, name, found, marker, step⟩
  plain := plain

end HeadToTail

/-- Where all references are texts and no document is a reference itself, an expansion ends well if
two to the number of passes is more than the length of any chain of references, whatever the order
of the documents. In a row of documents, each of which refers to the next one, it runs out of passes
if the length is just two to their number. -/
theorem expandAll_doubles {r : Registry} (distinct : r.documents.keys.Nodup)
    (texts : ∀ entry ∈ r.documents, TextRefs entry.2) (plain : PlainTops r.documents) :
    (∀ h : Nat, (∀ key target, Mentions r.documents key target → target ∈ r.documents.keys) →
      (∀ chain : List String, chain.IsChain (Mentions r.documents) → chain.length ≤ h + 1) →
      h < 2 ^ r.maxPasses.toNat → ∃ n, r.expandAll.2.result = .ok n) ∧
    ∀ m : Nat, HeadToTail r.documents → r.documents.length = 2 ^ m + 1 → r.maxPasses = m →
      ∃ keys, r.expandAll.2.result = .error (.unexpandedRefs m keys) := by
  constructor
  · intro h known bounded room
    have down : LeadsDown r.documents (chainHeight r.documents h) := fun key target edge =>
      ⟨known key target edge, chainHeight_lt bounded edge⟩
    rw [Registry.expandAll_of_checkCycles (down.checkCycles distinct)]
    refine replacePasses_doubled (down.spaced texts plain _) distinct Nat.one_pos (fun key _ => ?_)
      (Nat.le_refl _)
    rw [Nat.one_mul]
    exact Nat.lt_of_le_of_lt (chainHeight_le key) room
  · intro m row length passes
    have cycles := (row.leadsDown distinct).checkCycles distinct
    have falling := heightIn_falling distinct
    have tight := row.tight distinct texts plain (1 * 2 ^ m)
    obtain ⟨key, known, high⟩ : ∃ key ∈ r.documents.keys, heightIn r.documents.keys key =
        2 ^ m := by
      cases documents : r.documents with
      | nil => simp [documents] at length
      | cons entry rest =>
        have fresh : entry.1 ∉ ([] : List String) := List.not_mem_nil
        refine ⟨entry.1, List.mem_cons_self, (heightIn_append_cons fresh _).trans ?_⟩
        rw [documents, List.length_cons] at length
        rw [List.length_map]
        exact Nat.succ.inj length
    rw [Registry.expandAll_of_checkCycles cycles, passes, Int.toNat_natCast]
    exact tight.replacePasses Nat.one_pos falling known (by rw [high, Nat.one_mul]) (Nat.le_refl _)

def rowOf : List String → Table Json
  | [] => []
  | [last] => [(last, ofType "string")]
  | key :: next :: rest => (key, .object [("next", .object [("$ref", .text next)])]) ::
      rowOf (next :: rest)

theorem keys_rowOf (keys : List String) : (rowOf keys).keys = keys := by
  induction keys using rowOf.induct with
  | case1 => rfl
  | case2 last => rfl
  | case3 key next rest ih => exact congrArg (key :: ·) ih

theorem rowOf_cases (keys : List String) : ∀ entry ∈ rowOf keys, entry.2 = ofType "string" ∨
    ∃ next, entry.2 = .object [("next", .object [("$ref", .text next)])] := by
  induction keys using rowOf.induct with
  | case1 => exact fun _ h => absurd h List.not_mem_nil
  | case2 last => exact List.forall_mem_singleton.mpr (.inl rfl)
  | case3 key next rest ih => exact List.forall_mem_cons.mpr ⟨.inr ⟨next, rfl⟩, ih⟩

theorem textRefs_rowOf (keys : List String) : ∀ entry ∈ rowOf keys, TextRefs entry.2 := by
  intro entry hentry
  rcases rowOf_cases keys entry hentry with h | ⟨next, h⟩ <;> rw [h] <;>
    simp [ofType, TextRefs, throughout_object, throughout_text, refKey, Json.fieldsOf, Json.text?]

theorem plainTops_rowOf (keys : List String) : PlainTops (rowOf keys) := by
  intro key document found
  rcases rowOf_cases keys _ (Table.mem_of_get? found) with rfl | ⟨next, rfl⟩ <;> rfl

theorem headToTail_rowOf (keys : List String) : HeadToTail (rowOf keys) := by
  induction keys using rowOf.induct with
  | case1 => exact ⟨.nil, nofun⟩
  | case2 last =>
    refine ⟨List.isChain_singleton _, fun entry hentry => ?_⟩
    obtain rfl := Option.some.inj hentry
    rfl
  | case3 key next rest ih =>
    obtain ⟨document, after, later⟩ :
        ∃ document after, rowOf (next :: rest) = (next, document) :: after := by
      cases rest <;> exact ⟨_, _, rfl⟩
    rw [later] at ih
    rw [rowOf, later]
    refine ⟨List.isChain_cons_cons.mpr ⟨fun target => ?_, ih.refers⟩, fun entry hentry =>
      ih.ends entry ?_⟩
    · exact List.mem_singleton
    · rwa [List.getLast?_cons_cons] at hentry

theorem LeadsDown.length_le {documents : Table Json} {rank : String → Nat}
    (down : LeadsDown documents rank) {key : String} {below : List String}
    (chain : (key :: below).IsChain (Mentions documents)) : below.length ≤ rank key := by
  induction below generalizing key with
  | nil => exact Nat.zero_le _
  | cons next below ih =>
    obtain ⟨edge, rest⟩ := List.isChain_cons_cons.mp chain
    exact Nat.le_trans (Nat.succ_le_succ (ih rest)) (down key next edge).2

theorem expandAll_doubles_rowOf : (rowOf ["A", "B", "C"]).keys.Nodup ∧
    (∀ entry ∈ rowOf ["A", "B", "C"], TextRefs entry.2) ∧ PlainTops (rowOf ["A", "B", "C"]) ∧
    HeadToTail (rowOf ["A", "B", "C"]) ∧
    (∃ keys, (Registry.expandAll { documents := rowOf ["A", "B", "C"], maxPasses := 1 }).2.result =
      .error (.unexpandedRefs 1 keys)) ∧
    ∃ n, (Registry.expandAll { documents := rowOf ["A", "B", "C"], maxPasses := 2 }).2.result =
      .ok n := by
  have row := headToTail_rowOf ["A", "B", "C"]
  have distinct : (rowOf ["A", "B", "C"]).keys.Nodup := by decide
  have down := row.leadsDown distinct
  have bounded (chain : List String) (h : chain.IsChain (Mentions (rowOf ["A", "B", "C"]))) :
      chain.length ≤ 2 + 1 := by
    cases chain with
    | nil => decide
    | cons key below =>
      have short := Nat.le_trans (down.length_le h) (heightIn_le _ key)
      rw [keys_rowOf] at short
      exact Nat.succ_le_succ short
  have texts := textRefs_rowOf ["A", "B", "C"]
  have plain := plainTops_rowOf ["A", "B", "C"]
  obtain ⟨-, runsOut⟩ :=
    expandAll_doubles (r := { documents := rowOf ["A", "B", "C"], maxPasses := 1 }) distinct
      texts plain
  obtain ⟨ends, -⟩ :=
    expandAll_doubles (r := { documents := rowOf ["A", "B", "C"], maxPasses := 2 }) distinct
      texts plain
  have known (key target : String) (edge : Mentions (rowOf ["A", "B", "C"]) key target) :=
    (down key target edge).1
  exact ⟨distinct, texts, plain, row, runsOut 1 row rfl rfl, ends 2 known bounded (by decide)⟩

end LedgerFlow.Schema
