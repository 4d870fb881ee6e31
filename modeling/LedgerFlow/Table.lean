/-!
Tables: entries by name, in the order in which the names first came. Writing to a name that is
present keeps its place and replaces its value.
-/
namespace LedgerFlow

abbrev Table (α : Type) := List (String × α)

namespace Table
variable {α β : Type}

def get? : Table α → String → Option α
  | [], _ => none
  | (k, v) :: t, key => if k = key then some v else get? t key

def contains (t : Table α) (key : String) : Bool := (get? t key).isSome

def insert : Table α → String → α → Table α
  | [], key, value => [(key, value)]
  | (k, v) :: t, key, value =>
    if k = key then (k, value) :: t else (k, v) :: insert t key value

def update (t : Table α) (key : String) (f : α → α) : Table α :=
  t.map fun (k, v) => (k, if k = key then f v else v)

def ofPairs (pairs : List (String × α)) : Table α :=
  pairs.foldl (fun t entry => insert t entry.1 entry.2) []

def keys (t : Table α) : List String := t.map (·.1)

def mapValues (f : α → β) (t : Table α) : Table β := t.map fun (k, v) => (k, f v)

@[simp] theorem get?_nil (key : String) : get? ([] : Table α) key = none := rfl

@[simp] theorem get?_cons_self (key : String) (v : α) (t : Table α) :
    get? ((key, v) :: t) key = some v := by simp [get?]

theorem get?_cons_of_ne {k key : String} (h : k ≠ key) (v : α) (t : Table α) :
    get? ((k, v) :: t) key = get? t key := by simp [get?, h]

theorem get?_insert_self (t : Table α) (key : String) (value : α) :
    get? (insert t key value) key = some value := by
  induction t with
  | nil => simp [insert]
  | cons entry t ih =>
    obtain ⟨k, v⟩ := entry
    by_cases h : k = key <;> simp [insert, get?, h, ih]

theorem get?_insert_of_ne {key other : String} (h : other ≠ key) (t : Table α) (value : α) :
    get? (insert t key value) other = get? t other := by
  induction t with
  | nil => simp [insert, get?, Ne.symm h]
  | cons entry t ih =>
    obtain ⟨k, v⟩ := entry
    by_cases hk : k = key
    · subst hk
      simp [insert, get?, Ne.symm h]
    · rw [insert, if_neg hk]
      by_cases ho : k = other <;> simp [get?, ho, ih]

theorem contains_iff_mem_keys (t : Table α) (key : String) :
    contains t key = true ↔ key ∈ keys t := by
  induction t with
  | nil => simp [contains, keys]
  | cons entry t ih =>
    obtain ⟨k, v⟩ := entry
    by_cases h : k = key
    · simp [contains, get?, keys, h]
    · have hne : ¬ key = k := fun e => h e.symm
      simp only [contains, keys, get?, h, ↓reduceIte, List.map_cons, List.mem_cons, hne, false_or]
        at ih ⊢
      exact ih

theorem insert_of_not_mem {t : Table α} {key : String} (h : key ∉ keys t) (value : α) :
    insert t key value = t ++ [(key, value)] := by
  induction t with
  | nil => rfl
  | cons entry t ih =>
    obtain ⟨k, v⟩ := entry
    simp only [keys, List.map_cons, List.mem_cons, not_or] at h
    simp only [insert, if_neg (Ne.symm h.1), List.cons_append]
    rw [ih h.2]

end Table

end LedgerFlow
