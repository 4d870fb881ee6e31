import LedgerFlow.Argument.Declared
import LedgerFlow.Proofs.Text.Blank
import LedgerFlow.Proofs.Text.Split
import LedgerFlow.Trigger

/-!
What a text of arguments declares: the arguments of its entries one after the other, each named by
what stands before the first colon. A parameter whose name has neither separator nor blanks at its
ends declares itself.
-/
namespace LedgerFlow
open Text

namespace Argument

theorem parseEntry_eq (entry : List Char) :
    parseEntry entry =
      if (trim (splitFirst ':' entry).1).isEmpty then none
      else some
        { name := String.ofList (trim (splitFirst ':' entry).1), type :=
          literalType (trim (splitFirst ':' entry).2) } := by
  have colon : isBlank ':' = false := by decide
  by_cases h : ':' ∈ entry
  -- Trimming from either end stops at a colon, so it leaves the first one where it is.
  · obtain ⟨front, back, rfl, apart⟩ := List.eq_append_cons_of_mem h
    have apart' : ':' ∉ trimStart front := fun mem => apart ((List.dropWhile_sublist _).subset mem)
    rw [parseEntry, trim_append_cons colon, splitFirst_append_sep apart,
      splitFirst_append_sep apart']
    simp only [trim_trimStart, trim_trimEnd]
  · have h' : ':' ∉ trim entry := fun mem => h (trim_subset _ mem)
    rw [parseEntry, splitFirst_of_not_mem h, splitFirst_of_not_mem h']
    simp only [trim_trim]

theorem parseEntry_comp_trim : parseEntry ∘ trim = parseEntry := by
  funext entry
  rw [Function.comp_apply, parseEntry, trim_trim, parseEntry]

theorem parseDelimited_eq (text : String) :
    parseDelimited text = (splitAll ',' text.toList).filterMap parseEntry := by
  rw [parseDelimited, ← parseEntry_comp_trim, ← List.filterMap_map, map_trim_splitAll (by decide),
    List.filterMap_map]

theorem parseDelimited_of_no_comma {text : String} (h : ',' ∉ text.toList) :
    parseDelimited text = (parseEntry text.toList).toList := by
  rw [parseDelimited_eq, splitAll_of_not_mem h]
  cases entry : parseEntry text.toList <;> simp [entry]

theorem parseDelimited_join (texts : List String) :
    parseDelimited (join "," texts) = texts.flatMap parseDelimited := by
  induction texts with
  | nil => rfl
  | cons text rest ih =>
    cases rest with
    | nil => rw [join, List.flatMap_singleton]
    | cons next rest =>
      have comma : ",".toList = [','] := rfl
      rw [parseDelimited_eq, toList_join_cons, comma, List.append_assoc, List.singleton_append,
        splitAll_append_sep, List.filterMap_append, ← parseDelimited_eq, ← parseDelimited_eq, ih]
      rfl

/-- A name that a text of arguments gives back as it is. -/
structure PlainName (name : String) : Prop where
  filled : name ≠ ""
  trimmed : trimmed name = name
  noComma : ',' ∉ name.toList
  noColon : ':' ∉ name.toList

instance (name : String) : Decidable (PlainName name) :=
  decidable_of_iff (name ≠ "" ∧ Text.trimmed name = name ∧ ',' ∉ name.toList ∧ ':' ∉ name.toList)
    ⟨fun ⟨filled, trimmed, noComma, noColon⟩ => ⟨filled, trimmed, noComma, noColon⟩,
      fun h => ⟨h.filled, h.trimmed, h.noComma, h.noColon⟩⟩

theorem PlainName.isEmpty_trim {name : String} (h : PlainName name) :
    (trim name.toList).isEmpty = false := by
  rw [trimmed_eq_self_iff.mp h.trimmed, List.isEmpty_eq_false_iff]
  exact fun empty => h.filled (String.toList_eq_nil_iff.mp empty)

end Argument

open Argument

theorem argumentType_mem (p : Parameter) : argumentType p ∈ primitiveTypes := by
  unfold argumentType
  cases h : p.type?.filter primitiveTypes.contains with
  | none => decide
  | some type => exact List.contains_iff_mem.mp (Option.filter_eq_some_iff.mp h).2

/-- The literal of a parameter tells the type of the argument, and only texts go without one. -/
theorem typeDefault?_spec (p : Parameter) :
    match typeDefault? p.type? with
    | some literal => ',' ∉ literal.toList ∧ literalType (trim literal.toList) = argumentType p
    | none => argumentType p = "string" := by
  unfold argumentType
  cases p.type? with
  | none => rfl
  | some type =>
    by_cases primitive : type ∈ primitiveTypes
    · simp only [primitiveTypes, List.mem_cons, List.not_mem_nil, or_false] at primitive
      rcases primitive with rfl | rfl | rfl | rfl
      · rfl
      · exact ⟨by decide, by decide⟩
      · exact ⟨by decide, by decide⟩
      · exact ⟨by decide, by decide⟩
    · have other : typeDefault? (some type) = none := by
        unfold typeDefault?
        split
        · rename_i boolean
          exact absurd (Option.some.inj boolean ▸ by decide) primitive
        · rename_i integer
          exact absurd (Option.some.inj integer ▸ by decide) primitive
        · rename_i number
          exact absurd (Option.some.inj number ▸ by decide) primitive
        · rfl
      rw [other]
      simp [Option.filter, primitive]

namespace Argument

theorem parseDelimited_delimitedArgument {p : Parameter} (plain : PlainName p.name) :
    parseDelimited (delimitedArgument p) = [{ name := p.name, type := argumentType p }] := by
  have name : String.ofList (trim p.name.toList) = p.name := plain.trimmed
  have spec := typeDefault?_spec p
  unfold delimitedArgument
  cases h : typeDefault? p.type? with
  | none =>
    rw [h] at spec
    rw [parseDelimited_of_no_comma plain.noComma, parseEntry_eq,
      splitFirst_of_not_mem plain.noColon, if_neg (Bool.eq_false_iff.mp plain.isEmpty_trim),
        name, spec]
    rfl
  | some literal =>
    rw [h] at spec
    have text : (p.name ++ ":" ++ literal).toList = p.name.toList ++ ':' :: literal.toList := by
      simp [String.toList_append]
    have noComma : ',' ∉ (p.name ++ ":" ++ literal).toList := by
      simp [text, plain.noComma, spec.1]
    rw [parseDelimited_of_no_comma noComma, text, parseEntry_eq,
      splitFirst_append_sep plain.noColon, if_neg (Bool.eq_false_iff.mp plain.isEmpty_trim),
        name, spec.2]
    rfl

theorem literalType_mem (literal : List Char) : literalType literal ∈ primitiveTypes := by
  simp only [literalType, apply_ite (· ∈ primitiveTypes)]
  simp [primitiveTypes]

theorem plain_of_mem_parseDelimited {text : String} {a : Attribute} (h : a ∈ parseDelimited text) :
    PlainName a.name ∧ a.type ∈ primitiveTypes := by
  rw [parseDelimited_eq] at h
  obtain ⟨entry, hentry, h⟩ := List.mem_filterMap.mp h
  have noComma : ',' ∉ entry := not_mem_of_mem_splitAll entry hentry
  rw [parseEntry_eq] at h
  split at h
  · cases h
  · rename_i filled
    obtain rfl := Option.some.inj h
    refine ⟨⟨?_, ?_, ?_, ?_⟩, literalType_mem _⟩
    · intro empty
      exact filled (List.isEmpty_iff.mpr (String.ofList_eq_empty_iff.mp empty))
    · rw [trimmed_eq_self_iff, String.toList_ofList, trim_trim]
    · rw [String.toList_ofList]
      exact fun mem => noComma ((List.takeWhile_sublist _).subset (trim_subset _ mem))
    · rw [String.toList_ofList]
      exact fun mem => absurd (List.mem_takeWhile_imp (trim_subset _ mem)) (by decide)

end Argument

end LedgerFlow
