import LedgerFlow.Proofs.Text.Blank
import LedgerFlow.Text.Split
import Mathlib.Data.List.TakeWhile

/-!
Cutting at a separator: the parts hold none, a text without one is a single part, and the parts on
the two sides of a separator are cut on their own. Blanks around a text belong to its first and its
last part.
-/
namespace LedgerFlow.Text
variable {sep : Char}

theorem splitAll_sep_cons (cs : List Char) : splitAll sep (sep :: cs) = [] :: splitAll sep cs := by
  rw [splitAll, if_pos rfl]

theorem splitAll_cons_of_ne {c : Char} (h : c ≠ sep) {cs part : List Char}
    {parts : List (List Char)} (cut : splitAll sep cs = part :: parts) :
    splitAll sep (c :: cs) = (c :: part) :: parts := by
  rw [splitAll, if_neg h, cut]

theorem exists_splitAll_cons (sep : Char) (cs : List Char) :
    ∃ part parts, splitAll sep cs = part :: parts :=
  List.exists_cons_of_ne_nil (splitAll_ne_nil sep cs)

theorem splitAll_append_sep (cs ds : List Char) :
    splitAll sep (cs ++ sep :: ds) = splitAll sep cs ++ splitAll sep ds := by
  induction cs with
  | nil => exact splitAll_sep_cons ds
  | cons c cs ih =>
    by_cases h : c = sep
    · subst h
      rw [List.cons_append, splitAll_sep_cons, splitAll_sep_cons, ih, List.cons_append]
    · obtain ⟨part, parts, cut⟩ := exists_splitAll_cons sep cs
      rw [cut, List.cons_append] at ih
      rw [List.cons_append, splitAll_cons_of_ne h ih, splitAll_cons_of_ne h cut, List.cons_append]

theorem splitAll_append_left {front : List Char} (apart : sep ∉ front) {cs part : List Char}
    {parts : List (List Char)} (cut : splitAll sep cs = part :: parts) :
    splitAll sep (front ++ cs) = (front ++ part) :: parts := by
  induction front with
  | nil => exact cut
  | cons c front ih =>
    rw [List.mem_cons, not_or] at apart
    exact splitAll_cons_of_ne (Ne.symm apart.1) (ih apart.2)

theorem splitAll_append_right {back : List Char} (apart : sep ∉ back) (cs : List Char) :
    ∃ parts part, splitAll sep cs = parts ++ [part] ∧
      splitAll sep (cs ++ back) = parts ++ [part ++ back] := by
  induction cs with
  | nil =>
    have whole : splitAll sep (back ++ []) = [back ++ []] := splitAll_append_left apart rfl
    rw [List.append_nil] at whole
    exact ⟨[], [], rfl, whole⟩
  | cons c cs ih =>
    obtain ⟨parts, part, cut, longer⟩ := ih
    by_cases h : c = sep
    · subst h
      refine ⟨[] :: parts, part, ?_, ?_⟩
      · rw [splitAll_sep_cons, cut, List.cons_append]
      · rw [List.cons_append, splitAll_sep_cons, longer, List.cons_append]
    · cases parts with
      | nil => exact ⟨[], c :: part, splitAll_cons_of_ne h cut, splitAll_cons_of_ne h longer⟩
      | cons first parts => exact ⟨(c :: first) :: parts, part, splitAll_cons_of_ne h cut,
          splitAll_cons_of_ne h longer⟩

theorem splitAll_of_not_mem {cs : List Char} (apart : sep ∉ cs) : splitAll sep cs = [cs] := by
  have whole : splitAll sep (cs ++ []) = [cs ++ []] := splitAll_append_left apart rfl
  rwa [List.append_nil] at whole

theorem not_mem_of_mem_splitAll {cs : List Char} : ∀ part ∈ splitAll sep cs, sep ∉ part := by
  induction cs with
  | nil => simp [splitAll]
  | cons c cs ih =>
    obtain ⟨part, parts, cut⟩ := exists_splitAll_cons sep cs
    rw [cut] at ih
    by_cases h : c = sep
    · subst h
      rw [splitAll_sep_cons, cut]
      exact List.forall_mem_cons.mpr ⟨List.not_mem_nil, ih⟩
    · obtain ⟨first, later⟩ := List.forall_mem_cons.mp ih
      rw [splitAll_cons_of_ne h cut]
      exact List.forall_mem_cons.mpr ⟨List.not_mem_cons_of_ne_of_not_mem (Ne.symm h) first, later⟩

/-- It makes no difference to trimmed parts whether the whole was trimmed before. -/
theorem map_trim_splitAll (solid : isBlank sep = false) (cs : List Char) :
    (splitAll sep (trim cs)).map trim = (splitAll sep cs).map trim := by
  have apart {blanks : List Char} (h : ∀ c ∈ blanks, isBlank c = true) : sep ∉ blanks := by
    intro member
    rw [h sep member] at solid
    cases solid
  obtain ⟨before, after, split, hbefore, hafter⟩ := exists_trim cs
  obtain ⟨first, rest, inner⟩ := exists_splitAll_cons sep (trim cs)
  have outer : splitAll sep (before ++ trim cs) = (before ++ first) :: rest :=
    splitAll_append_left (apart hbefore) inner
  have front : (splitAll sep (before ++ trim cs)).map trim = (splitAll sep (trim cs)).map trim := by
    rw [outer, inner, List.map_cons, List.map_cons, trim_append_left hbefore]
  obtain ⟨parts, last, cut, longer⟩ := splitAll_append_right (apart hafter) (before ++ trim cs)
  have back : (splitAll sep (before ++ trim cs ++ after)).map trim =
      (splitAll sep (before ++ trim cs)).map trim := by
    rw [longer, cut, List.map_append, List.map_append, List.map_singleton, List.map_singleton,
      trim_append_right hafter]
  rw [split, back, front, ← split]

theorem splitFirst_append_sep {front : List Char} (apart : sep ∉ front) (cs : List Char) :
    splitFirst sep (front ++ sep :: cs) = (front, cs) := by
  have others : ∀ c ∈ front, decide (c ≠ sep) = true := fun c hc => decide_eq_true fun e =>
    apart (e ▸ hc)
  rw [splitFirst, List.takeWhile_append_of_pos others, List.dropWhile_append_of_pos others]
  simp

theorem splitFirst_of_not_mem {cs : List Char} (apart : sep ∉ cs) :
    splitFirst sep cs = (cs, []) := by
  have others : ∀ c ∈ cs, decide (c ≠ sep) = true := fun c hc => decide_eq_true fun e =>
    apart (e ▸ hc)
  rw [splitFirst, List.takeWhile_eq_self_iff.mpr others, List.dropWhile_eq_nil_iff.mpr others,
    List.drop_nil]

theorem splitFirst_fst_append_sep (cs ds : List Char) :
    (splitFirst sep (cs ++ sep :: ds)).1 = (splitFirst sep cs).1 := by
  by_cases h : sep ∈ cs
  · obtain ⟨front, back, rfl, apart⟩ := List.eq_append_cons_of_mem h
    rw [List.append_assoc, List.cons_append, splitFirst_append_sep apart,
      splitFirst_append_sep apart]
  · rw [splitFirst_append_sep h, splitFirst_of_not_mem h]

theorem afterLast_append_sep (cs ds : List Char) :
    afterLast sep (cs ++ sep :: ds) = afterLast sep ds := by
  have ends (front : List Char) : List.takeWhile (· ≠ sep) (sep :: front) = [] := by simp
  unfold afterLast
  rw [List.reverse_append, List.reverse_cons, List.append_assoc, List.singleton_append]
  by_cases h : sep ∈ ds
  · obtain ⟨front, back, split, apart⟩ := List.eq_append_cons_of_mem (List.mem_reverse.mpr h)
    have others : ∀ c ∈ front, decide (c ≠ sep) = true := fun c hc => decide_eq_true fun e =>
      apart (e ▸ hc)
    rw [split, List.append_assoc, List.cons_append, List.takeWhile_append_of_pos others,
      List.takeWhile_append_of_pos others, ends, ends]
  · have others : ∀ c ∈ ds.reverse, decide (c ≠ sep) = true :=
      fun c hc => decide_eq_true fun e => h (e ▸ List.mem_reverse.mp hc)
    rw [List.takeWhile_append_of_pos others, ends, List.append_nil,
      List.takeWhile_eq_self_iff.mpr others]

theorem afterLast_of_not_mem {cs : List Char} (apart : sep ∉ cs) : afterLast sep cs = cs := by
  have others : ∀ c ∈ cs.reverse, decide (c ≠ sep) = true :=
    fun c hc => decide_eq_true fun e => apart (e ▸ List.mem_reverse.mp hc)
  rw [afterLast, List.takeWhile_eq_self_iff.mpr others, List.reverse_reverse]

theorem append_left_cancel {front s t : String} (h : front ++ s = front ++ t) : s = t := by
  have chars := congrArg String.toList h
  simp only [String.toList_append, List.append_cancel_left_eq] at chars
  exact String.toList_inj.mp chars

theorem toList_join_cons (s part next : String) (parts : List String) :
    (join s (part :: next :: parts)).toList = part.toList ++ s.toList ++
      (join s (next :: parts)).toList := by
  rw [join, String.toList_append, String.toList_append]
  simp

end LedgerFlow.Text
