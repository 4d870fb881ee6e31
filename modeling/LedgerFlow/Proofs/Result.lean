import LedgerFlow.Log.Traced
import Mathlib.Data.List.Forall2

/-!
When a sequence of computations comes to a result: each of them does. What a list of them comes to
is paired with the list item by item.
-/
namespace LedgerFlow
variable {α β : Type}

theorem bind_eq_ok_iff {ε : Type} {x : Except ε α} {f : α → Except ε β} {b : β} :
    (x >>= f) = .ok b ↔ ∃ a, x = .ok a ∧ f a = .ok b := by
  cases x with
  | error e => simp [bind, Except.bind]
  | ok a => simp [bind, Except.bind]

theorem map_eq_ok_iff {ε : Type} {x : Except ε α} {f : α → β} {b : β} :
    x.map f = .ok b ↔ ∃ a, x = .ok a ∧ f a = b := by
  cases x <;> simp [Except.map]

theorem bind_eq_error_iff {ε : Type} {x : Except ε α} {f : α → Except ε β} {e : ε} :
    (x >>= f) = .error e ↔ x = .error e ∨ ∃ a, x = .ok a ∧ f a = .error e := by
  cases x with
  | error e => simp [bind, Except.bind]
  | ok a => simp [bind, Except.bind]

theorem map_eq_error_iff {ε : Type} {x : Except ε α} {f : α → β} {e : ε} :
    x.map f = .error e ↔ x = .error e := by
  cases x <;> simp [Except.map]

theorem mapM_eq_ok_iff {ε : Type} {f : α → Except ε β} {l : List α} {m : List β} :
    l.mapM f = .ok m ↔ List.Forall₂ (fun a b => f a = .ok b) l m := by
  induction l generalizing m with
  | nil =>
    rw [List.mapM_nil, List.forall₂_nil_left_iff]
    exact ⟨fun h => (Except.ok.inj h).symm, fun h => congrArg Except.ok h.symm⟩
  | cons a l ih =>
    rw [List.mapM_cons, bind_eq_ok_iff]
    constructor
    · rintro ⟨b, hb, h⟩
      obtain ⟨rest, hrest, done⟩ := bind_eq_ok_iff.mp h
      obtain rfl := Except.ok.inj done
      exact .cons hb (ih.mp hrest)
    · rintro (_ | ⟨hb, hrest⟩)
      exact ⟨_, hb, bind_eq_ok_iff.mpr ⟨_, ih.mpr hrest, rfl⟩⟩

theorem mapM_congr {ε : Type} {f g : α → Except ε β} {l : List α} (h : ∀ a ∈ l, f a = g a) :
    l.mapM f = l.mapM g := by
  induction l with
  | nil => rfl
  | cons a l ih =>
    obtain ⟨here, later⟩ := List.forall_mem_cons.mp h
    rw [List.mapM_cons, List.mapM_cons, here, ih later]

theorem mapM_eq_error_iff {ε : Type} {f : α → Except ε β} {l : List α} {e : ε} :
    l.mapM f = .error e ↔
      ∃ before a after, l = before ++ a :: after ∧ (∀ b ∈ before, ∀ e, f b ≠ .error e) ∧
        f a = .error e := by
  induction l with
  | nil => exact ⟨nofun, fun ⟨before, a, after, h, _⟩ => absurd h.symm (by simp)⟩
  | cons first rest ih =>
    rw [List.mapM_cons, bind_eq_error_iff]
    constructor
    · rintro (failed | ⟨_, passed, h⟩)
      · exact ⟨[], first, rest, rfl, nofun, failed⟩
      · rcases bind_eq_error_iff.mp h with h | ⟨_, -, done⟩
        · obtain ⟨before, a, after, rfl, earlier, failed⟩ := ih.mp h
          refine ⟨first :: before, a, after,
            rfl, List.forall_mem_cons.mpr ⟨fun e failed => ?_, earlier⟩, failed⟩
          rw [passed] at failed
          cases failed
        · cases done
    · rintro ⟨_ | ⟨_, before⟩, a, after, h, earlier, failed⟩
      · obtain ⟨rfl, rfl⟩ := List.cons.inj h
        exact .inl failed
      · obtain ⟨rfl, rfl⟩ := List.cons.inj h
        obtain ⟨first, earlier⟩ := List.forall_mem_cons.mp earlier
        cases passed : f _ with
        | error e => exact absurd passed (first e)
        | ok b => exact .inr ⟨b, rfl, bind_eq_error_iff.mpr
            (.inl (ih.mpr ⟨before, a, after, rfl, earlier, failed⟩))⟩

theorem exists_ok_of_observed {ε : Type} {x : Except ε α} {observe : α → β} {b : β}
    (h : x.toOption.map observe = some b) : ∃ a, x = .ok a ∧ observe a = b := by
  cases x with
  | error e => cases h
  | ok a => exact ⟨a, rfl, Option.some.inj h⟩

theorem Traced.bind_result_ok_iff {x : Traced α} {f : α → Traced β} {b : β} :
    (x >>= f).result = .ok b ↔ ∃ a, x.result = .ok a ∧ (f a).result = .ok b := by
  rw [result_bind, bind_eq_ok_iff]

theorem Traced.mem_records_bind {x : Traced α} {f : α → Traced β} {record : Log.Record} :
    record ∈ (x >>= f).records ↔ record ∈ x.records ∨ ∃ a, x.result = .ok a ∧
      record ∈ (f a).records := by
  obtain ⟨records, result⟩ := x
  cases result with
  | error e => simp [bind]
  | ok a => simp [bind]

theorem getElem?_of_forall₂ {R : α → β → Prop} {l : List α} {m : List β} (h : List.Forall₂ R l m)
    {i : Nat} {a : α} (ha : l[i]? = some a) : ∃ b, m[i]? = some b ∧ R a b := by
  induction h generalizing i with
  | nil => cases ha
  | cons hab _ ih =>
    cases i with
    | zero => exact ⟨_, rfl, Option.some.inj ha ▸ hab⟩
    | succ i => exact ih ha

theorem exists_mem_of_forall₂ {R : α → β → Prop} {l : List α} {m : List β} (h : List.Forall₂ R l m)
    {a : α} (ha : a ∈ l) : ∃ b ∈ m, R a b := by
  obtain ⟨i, hi⟩ := List.mem_iff_getElem?.mp ha
  obtain ⟨b, hb, hab⟩ := getElem?_of_forall₂ h hi
  exact ⟨b, List.mem_of_getElem? hb, hab⟩

theorem exists_forall₂ {R : α → β → Prop} {l : List α} (h : ∀ a ∈ l, ∃ b, R a b) :
    ∃ m, List.Forall₂ R l m := by
  induction l with
  | nil => exact ⟨[], .nil⟩
  | cons a l ih =>
    obtain ⟨⟨b, hb⟩, later⟩ := List.forall_mem_cons.mp h
    obtain ⟨m, hm⟩ := ih later
    exact ⟨b :: m, .cons hb hm⟩

end LedgerFlow
