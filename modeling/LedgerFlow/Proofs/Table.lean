import LedgerFlow.Table
import Mathlib.Data.List.Forall2
import Mathlib.Data.List.Nodup

/-!
Looking up, writing and changing entries of tables, and what becomes of the keys.
-/
namespace LedgerFlow.Table
variable {α β : Type}

theorem get?_append (s t : Table α) (key : String) :
    get? (s ++ t) key = (get? s key).or (get? t key) := by
  induction s with
  | nil => rfl
  | cons entry s ih =>
    obtain ⟨k, v⟩ := entry
    by_cases h : k = key <;> simp [get?, h, ih]

theorem mem_of_get? {t : Table α} {key : String} {v : α}
    (h : get? t key = some v) : (key, v) ∈ t := by
  induction t with
  | nil => simp at h
  | cons entry t ih =>
    obtain ⟨k, w⟩ := entry
    rw [get?] at h
    split at h
    · rename_i hk
      obtain rfl := Option.some.inj h
      exact hk ▸ List.mem_cons_self
    · exact List.mem_cons_of_mem _ (ih h)

theorem mem_keys_of_get? {t : Table α} {key : String} {v : α}
    (h : get? t key = some v) : key ∈ keys t :=
  List.mem_map_of_mem (mem_of_get? h)

theorem exists_get?_of_mem_keys {t : Table α} {key : String}
    (h : key ∈ keys t) : ∃ v, get? t key = some v :=
  Option.isSome_iff_exists.mp ((contains_iff_mem_keys t key).mpr h)

theorem get?_eq_none_iff {t : Table α} {key : String} : get? t key = none ↔ key ∉ keys t := by
  rw [← contains_iff_mem_keys, contains, Bool.not_eq_true, Option.isSome_eq_false_iff,
    Option.isNone_iff_eq_none]

theorem get?_of_mem {t : Table α} (distinct : (keys t).Nodup) {key : String} {v : α}
    (h : (key, v) ∈ t) : get? t key = some v := by
  induction t with
  | nil => simp at h
  | cons entry t ih =>
    obtain ⟨k, w⟩ := entry
    obtain ⟨notMem, distinct⟩ := List.nodup_cons.mp distinct
    rcases List.mem_cons.mp h with heq | h
    · obtain ⟨rfl, rfl⟩ := Prod.mk.inj heq
      exact get?_cons_self _ _ _
    · have hne : k ≠ key := by
        rintro rfl
        exact notMem (List.mem_map.mpr ⟨_, h, rfl⟩)
      rw [get?_cons_of_ne hne, ih distinct h]

theorem keys_insert_of_mem {t : Table α} {key : String} (h : key ∈ keys t) (v : α) :
    keys (insert t key v) = keys t := by
  induction t with
  | nil => simp [keys] at h
  | cons entry t ih =>
    obtain ⟨k, w⟩ := entry
    by_cases hk : k = key
    · simp [insert, keys, hk]
    · have hmem : key ∈ keys t := by simpa [keys, Ne.symm hk] using h
      simpa [insert, keys, hk] using ih hmem

theorem mem_keys_insert {t : Table α} {key other : String} {v : α} :
    other ∈ keys (insert t key v) ↔ other = key ∨ other ∈ keys t := by
  by_cases h : key ∈ keys t
  · rw [keys_insert_of_mem h]
    exact ⟨.inr, fun | .inl e => e ▸ h | .inr mem => mem⟩
  · rw [insert_of_not_mem h]
    simp [keys, or_comm]

theorem mem_insert {t : Table α} {key : String} {v : α} {entry : String × α}
    (h : entry ∈ insert t key v) : entry = (key, v) ∨ entry ∈ t := by
  induction t with
  | nil => exact .inl (by simpa [insert] using h)
  | cons other t ih =>
    obtain ⟨k, w⟩ := other
    by_cases hk : k = key
    · rw [insert, if_pos hk] at h
      rcases List.mem_cons.mp h with heq | h
      · exact .inl (hk ▸ heq)
      · exact .inr (List.mem_cons_of_mem _ h)
    · rw [insert, if_neg hk] at h
      rcases List.mem_cons.mp h with heq | h
      · exact .inr (List.mem_cons.mpr (.inl heq))
      · exact (ih h).imp_right (List.mem_cons_of_mem _)

theorem get?_mapValues (f : α → β) (t : Table α) (key : String) :
    get? (mapValues f t) key = (get? t key).map f := by
  induction t with
  | nil => rfl
  | cons entry t ih =>
    obtain ⟨k, v⟩ := entry
    by_cases h : k = key
    · simp [mapValues, get?, h]
    · simpa [mapValues, get?, h] using ih

@[simp] theorem keys_mapValues (f : α → β) (t : Table α) : keys (mapValues f t) = keys t := by
  simp [keys, mapValues, Function.comp_def]

theorem get?_update (t : Table α) (key other : String) (f : α → α) :
    get? (update t key f) other = (get? t other).map fun v => if other = key then f v else v := by
  induction t with
  | nil => rfl
  | cons entry t ih =>
    obtain ⟨k, v⟩ := entry
    rw [update] at ih ⊢
    by_cases h : k = other
    · simp [get?, h]
    · simpa [get?, h] using ih

theorem get?_update_self {t : Table α} {key : String} {v : α} (h : get? t key = some v)
    (f : α → α) :
    get? (update t key f) key = some (f v) := by
  rw [get?_update, h, Option.map_some, if_pos rfl]

@[simp] theorem keys_update (t : Table α) (key : String) (f : α → α) :
    keys (update t key f) = keys t := by
  simp [keys, update, Function.comp_def]

theorem keys_filter (t : Table α) (p : String → Bool) :
    keys (t.filter fun entry => p entry.1) = (keys t).filter p := by
  rw [keys, keys, List.filter_map]
  rfl

theorem get?_filter_of_pos {t : Table α} {p : String → Bool} {key : String} (hp : p key = true) :
    get? (t.filter fun entry => p entry.1) key = get? t key := by
  induction t with
  | nil => rfl
  | cons entry t ih =>
    obtain ⟨k, v⟩ := entry
    rw [List.filter_cons]
    by_cases hk : k = key
    · subst hk
      rw [if_pos hp, get?_cons_self, get?_cons_self]
    · rw [get?_cons_of_ne hk, ← ih]
      split
      · exact get?_cons_of_ne hk _ _
      · rfl

theorem keys_append (s t : Table α) : keys (s ++ t) = keys s ++ keys t := List.map_append

private theorem update_of_not_mem {t : Table α} {key : String} (h : key ∉ keys t) (f : α → α) :
    update t key f = t := by
  induction t with
  | nil => rfl
  | cons entry t ih =>
    obtain ⟨k, v⟩ := entry
    have hne : k ≠ key := by
      rintro rfl
      exact h List.mem_cons_self
    have rest := ih fun hmem => h (List.mem_cons_of_mem _ hmem)
    rw [update] at rest ⊢
    simp only [List.map_cons, rest, if_neg hne]

theorem exists_split {t : Table α} (distinct : (keys t).Nodup) {key : String} {v : α}
    (h : get? t key = some v) (f : α → α) : ∃ before after, t = before ++ (key, v) :: after ∧
      update t key f = before ++ (key, f v) :: after := by
  obtain ⟨before, after, rfl⟩ := List.append_of_mem (mem_of_get? h)
  rw [keys_append, List.nodup_append'] at distinct
  obtain ⟨-, hafter, apart⟩ := distinct
  have notAfter : key ∉ keys after := (List.nodup_cons.mp hafter).1
  have notBefore : key ∉ keys before := fun hmem => apart hmem List.mem_cons_self
  refine ⟨before, after, rfl, ?_⟩
  have hbefore := update_of_not_mem notBefore f
  have hafter := update_of_not_mem notAfter f
  rw [update] at hbefore hafter ⊢
  rw [List.map_append, List.map_cons, hbefore, hafter]
  simp

theorem flatMap_update {t : Table α} (distinct : (keys t).Nodup) {key : String} {v : α}
    (h : get? t key = some v) (f : α → α) {gather : String × α → List β} {extra : List β}
    (more : (gather (key, f v)).Perm (gather (key, v) ++ extra)) :
    ((update t key f).flatMap gather).Perm (t.flatMap gather ++ extra) := by
  obtain ⟨before, after, hold, hnew⟩ := exists_split distinct h f
  rw [hnew, hold]
  simp only [List.flatMap_append, List.flatMap_cons, List.append_assoc]
  refine List.Perm.append_left _ ((more.append_right _).trans ?_)
  rw [List.append_assoc]
  exact List.Perm.append_left _ List.perm_append_comm

theorem flatMap_update_of_same {key : String} {f : α → α} {gather : String × α → List β}
    (same : ∀ v, gather (key, f v) = gather (key, v)) (t : Table α) :
    (update t key f).flatMap gather = t.flatMap gather := by
  rw [update, List.flatMap_map]
  refine List.flatMap_congr fun entry _ => ?_
  obtain ⟨k, v⟩ := entry
  by_cases h : k = key
  · subst h
    simp [same]
  · simp [h]

theorem mem_keys_ofPairs {pairs : List (String × α)} {key : String} :
    key ∈ keys (ofPairs pairs) ↔ key ∈ keys pairs := by
  have fold (t : Table α) : key ∈ keys (pairs.foldl (fun t entry => insert t entry.1 entry.2) t) ↔
      key ∈ keys t ∨ key ∈ keys pairs := by
    induction pairs generalizing t with
    | nil => simp [keys]
    | cons entry pairs ih =>
      rw [List.foldl_cons, ih, mem_keys_insert, or_comm (a := key = entry.1), or_assoc]
      simp [keys]
  rw [ofPairs, fold]
  simp [keys]

private theorem foldl_insert {t : Table α} {pairs : List (String × α)}
    (distinct : (keys (t ++ pairs)).Nodup) :
    pairs.foldl (fun t entry => insert t entry.1 entry.2) t = t ++ pairs := by
  induction pairs generalizing t with
  | nil => simp
  | cons entry pairs ih =>
    have fresh : entry.1 ∉ keys t := by
      rw [keys_append, List.nodup_append'] at distinct
      exact fun hmem => distinct.2.2 hmem List.mem_cons_self
    rw [List.append_cons] at distinct
    rw [List.foldl_cons, insert_of_not_mem fresh, ih distinct, List.append_assoc,
      List.singleton_append]

theorem ofPairs_of_nodup {pairs : List (String × α)}
    (distinct : (keys pairs).Nodup) : ofPairs pairs = pairs :=
  foldl_insert distinct

theorem length_keys (t : Table α) : (keys t).length = t.length := List.length_map _

theorem nodup_keys_insert {t : Table α} (distinct : (keys t).Nodup) (key : String) (v : α) :
    (keys (insert t key v)).Nodup := by
  by_cases h : key ∈ keys t
  · rwa [keys_insert_of_mem h]
  · rw [insert_of_not_mem h, keys_append, List.nodup_append']
    refine ⟨distinct, List.nodup_singleton key, ?_⟩
    intro other old new
    obtain rfl := List.mem_singleton.mp new
    exact h old

theorem nodup_keys_ofPairs (pairs : List (String × α)) : (keys (ofPairs pairs)).Nodup := by
  have fold (t : Table α) (distinct : (keys t).Nodup) :
      (keys (pairs.foldl (fun t entry => insert t entry.1 entry.2) t)).Nodup := by
    induction pairs generalizing t with
    | nil => exact distinct
    | cons entry pairs ih => exact ih _ (nodup_keys_insert distinct entry.1 entry.2)
  exact fold [] List.nodup_nil

theorem ofPairs_subset (pairs : List (String × α)) : ofPairs pairs ⊆ pairs := by
  have fold (t : Table α) (entry : String × α)
      (h : entry ∈ pairs.foldl (fun t entry => insert t entry.1 entry.2) t) :
        entry ∈ t ∨ entry ∈ pairs := by
    induction pairs generalizing t with
    | nil => exact .inl h
    | cons first pairs ih =>
      rcases ih _ h with h | h
      · rcases mem_insert h with rfl | h
        · exact .inr List.mem_cons_self
        · exact .inl h
      · exact .inr (List.mem_cons_of_mem _ h)
  intro entry h
  exact (fold [] entry h).resolve_left List.not_mem_nil

/-- Two tables with the same names in order, and values in a relation. -/
abbrev Pairs (R : α → β → Prop) (s : Table α) (t : Table β) : Prop :=
  List.Forall₂ (fun a b => b.1 = a.1 ∧ R a.2 b.2) s t

theorem Pairs.keys_eq {R : α → β → Prop} {s : Table α} {t : Table β}
    (h : Pairs R s t) : keys t = keys s := by
  induction h with
  | nil => rfl
  | cons head _ ih => exact congrArg₂ List.cons head.1 ih

theorem Pairs.get? {R : α → β → Prop} {s : Table α} {t : Table β} (h : Pairs R s t) {key : String}
    {b : β} (found : t.get? key = some b) : ∃ a, s.get? key = some a ∧ R a b := by
  induction h with
  | nil => cases found
  | @cons own other _ _ head _ ih =>
    obtain ⟨_, a⟩ := own
    obtain ⟨name, b'⟩ := other
    obtain ⟨rfl, related⟩ := head
    by_cases hname : name = key
    · subst hname
      rw [get?_cons_self] at found
      exact ⟨a, get?_cons_self _ _ _, Option.some.inj found ▸ related⟩
    · rw [get?_cons_of_ne hname] at found ⊢
      exact ih found

theorem Pairs.refl {R : α → α → Prop} (same : ∀ v, R v v) (t : Table α) : Pairs R t t :=
  List.forall₂_same.mpr fun entry _ => ⟨rfl, same entry.2⟩

theorem Pairs.trans {R : α → α → Prop} (trans : ∀ {u v w}, R u v → R v w → R u w) {s t u : Table α}
    (h : Pairs R s t) (h' : Pairs R t u) : Pairs R s u := by
  induction h generalizing u with
  | nil => exact h'
  | cons head _ ih =>
    cases h' with
    | cons head' rest' => exact .cons ⟨head'.1.trans head.1, trans head.2 head'.2⟩ (ih rest')

theorem pairs_update {R : α → α → Prop} (same : ∀ v, R v v) {f : α → α} (changed : ∀ v, R v (f v))
    (t : Table α) (key : String) : Pairs R t (t.update key f) := by
  rw [update, Pairs, List.forall₂_map_right_iff]
  refine List.forall₂_same.mpr fun entry _ => ⟨rfl, ?_⟩
  dsimp only
  split
  · exact changed entry.2
  · exact same entry.2

theorem Pairs.exists_left {R : α → β → Prop} {s : Table α} {t : Table β} (h : Pairs R s t)
    {entry : String × β} (mem : entry ∈ t) :
    ∃ other ∈ s, entry.1 = other.1 ∧ R other.2 entry.2 := by
  induction h with
  | nil => cases mem
  | cons head _ ih =>
    rcases List.mem_cons.mp mem with rfl | mem
    · exact ⟨_, List.mem_cons_self, head⟩
    · obtain ⟨other, hmem, related⟩ := ih mem
      exact ⟨other, List.mem_cons_of_mem _ hmem, related⟩

theorem Pairs.pairwise {R : α → β → Prop} {s : Table α} {t : Table β} (h : Pairs R s t)
    {S : String × α → String × α → Prop} {S' : String × β → String × β → Prop}
    (carries : ∀ {a a' : α} {b b' : β} {name name'}, R a b → R a' b' → S (name, a) (name', a') →
      S' (name, b) (name', b'))
    (pairwise : s.Pairwise S) : t.Pairwise S' := by
  induction h with
  | nil => exact .nil
  | @cons own other s t head rest ih =>
    obtain ⟨name, a⟩ := own
    obtain ⟨_, b⟩ := other
    obtain ⟨rfl, related⟩ := head
    obtain ⟨first, later⟩ := List.pairwise_cons.mp pairwise
    refine List.pairwise_cons.mpr ⟨fun entry hmem => ?_, ih later⟩
    obtain ⟨name', b'⟩ := entry
    obtain ⟨⟨_, a'⟩, hmem', rfl, related'⟩ := Pairs.exists_left rest hmem
    exact carries related related' (first _ hmem')

theorem get?_of_perm {s t : Table α} (distinct : (keys s).Nodup) (perm : s.Perm t) (key : String) :
    get? s key = get? t key := by
  cases found : get? s key with
  | some v =>
    have distinct' : (keys t).Nodup := (perm.map _).nodup_iff.mp distinct
    exact (get?_of_mem distinct' (perm.subset (mem_of_get? found))).symm
  | none =>
    have absent : key ∉ keys t :=
      fun known => get?_eq_none_iff.mp found ((perm.map _).symm.subset known)
    exact (get?_eq_none_iff.mpr absent).symm

theorem perm_of_get? {s t : Table α} (distinct : (keys s).Nodup) (distinct' : (keys t).Nodup)
    (same : ∀ key, get? s key = get? t key) : s.Perm t := by
  refine (List.perm_ext_iff_of_nodup (.of_map _ distinct) (.of_map _ distinct')).mpr fun entry => ?_
  constructor
  · intro h
    exact mem_of_get? ((same entry.1).symm.trans (get?_of_mem distinct h))
  · intro h
    exact mem_of_get? ((same entry.1).trans (get?_of_mem distinct' h))

/-- In a table made from pairs the last pair with a key counts. -/
theorem get?_ofPairs (pairs : List (String × α)) (key : String) :
    get? (ofPairs pairs) key = get? pairs.reverse key := by
  have fold (t : Table α) : get? (pairs.foldl (fun t entry => insert t entry.1 entry.2) t) key =
      (get? pairs.reverse key).or (get? t key) := by
    induction pairs generalizing t with
    | nil => rfl
    | cons entry pairs ih =>
      rw [List.foldl_cons, ih, List.reverse_cons, get?_append, Option.or_assoc]
      congr 1
      by_cases hkey : key = entry.1
      · rw [hkey, get?_insert_self, get?_cons_self, Option.some_or]
      · rw [get?_insert_of_ne hkey, get?_cons_of_ne (Ne.symm hkey), get?_nil, Option.none_or]
  rw [ofPairs, fold, get?_nil, Option.or_none]

end LedgerFlow.Table
