import LedgerFlow.Json.Place
import Mathlib.Data.List.Basic

/-!
Putting a value in the place of a child. An array or object that has a child can be split around it,
and the split shows what changes and what stays; names of fields always stay.
-/
namespace LedgerFlow.Json

private theorem items_split {items : List Json} {i : Nat} {child : Json}
    (h : items[i]? = some child) :
    ∃ before after, items = before ++ child :: after ∧
      ∀ new, items.set i new = before ++ new :: after := by
  induction items generalizing i with
  | nil => simp at h
  | cons item items ih =>
    cases i with
    | zero =>
      obtain rfl : item = child := by simpa using h
      exact ⟨[], items, rfl, fun _ => rfl⟩
    | succ i =>
      obtain ⟨before, after, rfl, hset⟩ := ih (by simpa using h)
      exact ⟨item :: before, after, rfl, fun new => by simp [hset]⟩

private theorem fields_split {fields : List (String × Json)} {i : Nat} {child : Json}
    (h : (fields.map (·.2))[i]? = some child) :
    ∃ before name after, fields = before ++ (name, child) :: after ∧
      ∀ new, (fields.modify i fun (name, _) => (name, new)) = before ++ (name, new) :: after := by
  induction fields generalizing i with
  | nil => simp at h
  | cons field fields ih =>
    obtain ⟨name, v⟩ := field
    cases i with
    | zero =>
      obtain rfl : v = child := by simpa using h
      exact ⟨[], name, fields, rfl, fun _ => rfl⟩
    | succ i =>
      obtain ⟨before, other, after, rfl, hset⟩ := ih (by simpa using h)
      exact ⟨(name, v) :: before, other, after, rfl, fun new => by simp [hset]⟩

inductive Split (v : Json) (i : Nat) (child : Json) : Prop
  | array (before after : List Json) (whole : v = .array (before ++ child :: after))
      (put : ∀ new, v.setChild i new = .array (before ++ new :: after))
  | object (before : List (String × Json)) (name : String) (after : List (String × Json))
      (whole : v = .object (before ++ (name, child) :: after))
      (put : ∀ new, v.setChild i new = .object (before ++ (name, new) :: after))

theorem split_of_children {v : Json} {i : Nat} {child : Json} (h : v.children[i]? = some child) :
    Split v i child := by
  cases v with
  | array items =>
    obtain ⟨before, after, rfl, hset⟩ := items_split h
    exact .array before after rfl fun new => by rw [← hset new]; rfl
  | object fields =>
    obtain ⟨before, name, after, rfl, hset⟩ := fields_split h
    exact .object before name after rfl fun new => by rw [← hset new]; rfl
  | _ => simp [children] at h

theorem children_setChild_self {v : Json} {i : Nat} {child : Json} (h : v.children[i]? = some child)
    (new : Json) : (v.setChild i new).children[i]? = some new := by
  cases v with
  | array items =>
    have hi : i < items.length := (List.getElem?_eq_some_iff.mp h).1
    exact List.getElem?_set_self hi
  | object fields =>
    obtain ⟨name, hfield⟩ : ∃ name, fields[i]? = some (name, child) := by simpa [children] using h
    simp [setChild, children, hfield]
  | _ => simp [children] at h

theorem children_setChild_of_ne {i j : Nat} (h : i ≠ j) (v new : Json) :
    (v.setChild i new).children[j]? = v.children[j]? := by
  cases v with
  | array items => simp [setChild, children, h]
  | object fields => simp [setChild, children, h]
  | _ => rfl

theorem putAt_cons_of_children {v : Json} {i : Nat} {child : Json} (h : v.children[i]? = some child)
    (new : Json) (place : Place) :
    v.putAt new (i :: place) = v.setChild i (child.putAt new place) := by
  rw [putAt, h]

theorem at?_cons_of_children {v : Json} {i : Nat} {child : Json} (h : v.children[i]? = some child)
    (place : Place) : v.at? (i :: place) = child.at? place := by
  rw [at?, h]

@[simp] theorem text?_setChild (v new : Json) (i : Nat) : (v.setChild i new).text? = v.text? := by
  cases v <;> rfl

@[simp] theorem isObject_setChild (v new : Json) (i : Nat) :
    (v.setChild i new).isObject = v.isObject := by
  cases v <;> rfl

theorem text?_of_isObject {v : Json} (h : v.isObject = true) : v.text? = none := by
  cases v <;> first | rfl | cases h

theorem text?_eq_none_of_children {v child : Json} {i : Nat} (h : v.children[i]? = some child) :
    v.text? = none := by
  cases v <;> first | rfl | simp [children] at h

theorem children_induct {P : Json → Prop} (step : ∀ v : Json, (∀ c ∈ v.children, P c) → P v)
    (v : Json) : P v := by
  induction v using induct with
  | array items ih => exact step _ ih
  | object fields ih =>
    refine step _ fun c hc => ?_
    obtain ⟨field, hfield, rfl⟩ := List.mem_map.mp hc
    exact ih field hfield
  | _ => exact step _ (by simp [children])

end LedgerFlow.Json
