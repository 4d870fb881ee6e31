import LedgerFlow.Json.Reader
import LedgerFlow.Proofs.Result

/-!
What the readers have seen when they come to a result.
-/
namespace LedgerFlow.Json
open Number Text

theorem numeral?_readNumber {cs rest : List Char} {v : Json} (h : readNumber cs = .ok (v, rest)) :
    v.numeral?.isSome = true := by
  unfold readNumber at h
  dsimp only at h
  split at h
  · cases h
  · obtain ⟨number, hnumber, heq⟩ := map_eq_ok_iff.mp h
    obtain ⟨rfl, -⟩ := Prod.mk.inj heq
    unfold numberOf at hnumber
    split at hnumber
    · split at hnumber
      · obtain rfl := Except.ok.inj hnumber
        rfl
      · cases hnumber
    · obtain rfl := Except.ok.inj hnumber
      rfl

inductive ReadsItems (fuel : Nat) (cs rest : List Char) : List Json → Prop
  | last {v : Json} {behind : List Char} (value : readValue fuel cs = .ok (v, behind))
      (closed : skipGap behind = ']' :: rest) : ReadsItems fuel cs rest [v]
  | more {v : Json} {behind next : List Char} {items : List Json}
      (value : readValue fuel cs = .ok (v, behind)) (comma : skipGap behind = ',' :: next)
      (later : readItems fuel (skipGap next) = .ok (items, rest)) :
      ReadsItems fuel cs rest (v :: items)

theorem of_readItems {fuel : Nat} {cs rest : List Char} {items : List Json}
    (h : readItems fuel cs = .ok (items, rest)) :
    ∃ below, fuel = below + 1 ∧ ReadsItems below cs rest items := by
  cases fuel with
  | zero => cases h
  | succ fuel =>
    refine ⟨fuel, rfl, ?_⟩
    unfold readItems at h
    split at h
    · cases h
    · rename_i value
      split at h
      · rename_i closed
        obtain ⟨rfl, rfl⟩ := Prod.mk.inj (Except.ok.inj h)
        exact .last value closed
      · rename_i comma
        obtain ⟨_, later, heq⟩ := map_eq_ok_iff.mp h
        obtain ⟨rfl, rfl⟩ := Prod.mk.inj heq
        exact .more value comma later
      · cases h

inductive ReadsField (fuel : Nat) (cs behind : List Char) : String × Json → Prop
  | of {opened named valued name : List Char} {v : Json} (opens : cs = '"' :: opened)
      (names : readText cs.length 0 opened = .ok (name, named))
      (colon : skipGap named = ':' :: valued)
      (value : readValue fuel (skipGap valued) = .ok (v, behind)) :
      ReadsField fuel cs behind (String.ofList name, v)

inductive ReadsFields (fuel : Nat) (cs rest : List Char) : List (String × Json) → Prop
  | last {own : String × Json} {behind : List Char} (field : ReadsField fuel cs behind own)
      (closed : skipGap behind = '}' :: rest) : ReadsFields fuel cs rest [own]
  | more {own : String × Json} {behind next : List Char} {fields : List (String × Json)}
      (field : ReadsField fuel cs behind own) (comma : skipGap behind = ',' :: next)
      (later : readFields fuel (skipGap next) = .ok (fields, rest)) :
      ReadsFields fuel cs rest (own :: fields)

theorem of_readFields {fuel : Nat} {cs rest : List Char} {fields : List (String × Json)}
    (h : readFields fuel cs = .ok (fields, rest)) :
    ∃ below, fuel = below + 1 ∧ ReadsFields below cs rest fields := by
  cases fuel with
  | zero => cases h
  | succ fuel =>
    refine ⟨fuel, rfl, ?_⟩
    unfold readFields at h
    split at h
    · split at h
      · cases h
      · rename_i names
        split at h
        · rename_i colon
          split at h
          · cases h
          · rename_i value
            split at h
            · rename_i closed
              obtain ⟨rfl, rfl⟩ := Prod.mk.inj (Except.ok.inj h)
              exact .last (.of rfl names colon value) closed
            · rename_i comma
              obtain ⟨_, later, heq⟩ := map_eq_ok_iff.mp h
              obtain ⟨rfl, rfl⟩ := Prod.mk.inj heq
              exact .more (.of rfl names colon value) comma later
            · cases h
        · cases h
    · cases h

theorem of_readValue_array {fuel : Nat} {cs rest : List Char} {v : Json}
    (h : readValue fuel ('[' :: cs) = .ok (v, rest)) :
    (v = .array [] ∧ skipGap cs = ']' :: rest) ∨
      ∃ below items, v = .array items ∧ readItems below (skipGap cs) = .ok (items, rest) := by
  cases fuel with
  | zero => cases h
  | succ fuel =>
    rw [readValue] at h
    split at h
    · rename_i closed
      obtain ⟨rfl, rfl⟩ := Prod.mk.inj (Except.ok.inj h)
      exact .inl ⟨rfl, closed⟩
    · obtain ⟨⟨items, _⟩, hitems, heq⟩ := map_eq_ok_iff.mp h
      obtain ⟨rfl, rfl⟩ := Prod.mk.inj heq
      exact .inr ⟨fuel, items, rfl, hitems⟩

theorem of_readValue_object {fuel : Nat} {cs rest : List Char} {v : Json}
    (h : readValue fuel ('{' :: cs) = .ok (v, rest)) :
    (v = .object [] ∧ skipGap cs = '}' :: rest) ∨
      ∃ below fields, v = .object (Table.ofPairs fields) ∧
        readFields below (skipGap cs) = .ok (fields, rest) := by
  cases fuel with
  | zero => cases h
  | succ fuel =>
    rw [readValue] at h
    split at h
    · rename_i closed
      obtain ⟨rfl, rfl⟩ := Prod.mk.inj (Except.ok.inj h)
      exact .inl ⟨rfl, closed⟩
    · obtain ⟨⟨fields, _⟩, hfields, heq⟩ := map_eq_ok_iff.mp h
      obtain ⟨rfl, rfl⟩ := Prod.mk.inj heq
      exact .inr ⟨fuel, fields, rfl, hfields⟩

end LedgerFlow.Json
