import LedgerFlow.Text.Blank
import Mathlib.Data.List.TakeWhile

/-!
What trimming takes away: blanks at the two ends and nothing else. Blanks that are put around a text
go again.
-/
namespace LedgerFlow.Text
variable {cs ds : List Char} {c : Char}

theorem trimStart_append (h : ∀ c ∈ cs, isBlank c = true) : trimStart (cs ++ ds) = trimStart ds :=
  List.dropWhile_append_of_pos h

theorem trimEnd_append (h : ∀ c ∈ ds, isBlank c = true) : trimEnd (cs ++ ds) = trimEnd cs := by
  have reversed : ∀ c ∈ ds.reverse, isBlank c = true := fun c hc => h c (List.mem_reverse.mp hc)
  rw [trimEnd, List.reverse_append, List.dropWhile_append_of_pos reversed, trimEnd]

theorem trimStart_append_cons (h : isBlank c = false) :
    trimStart (cs ++ c :: ds) = trimStart cs ++ c :: ds := by
  rw [trimStart, List.dropWhile_append, trimStart]
  split
  · rename_i none
    rw [List.isEmpty_iff.mp none, List.nil_append]
    exact trimStart_cons_of_not_blank h
  · rfl

theorem trimEnd_append_cons (h : isBlank c = false) :
    trimEnd (cs ++ c :: ds) = cs ++ c :: trimEnd ds := by
  have front : (ds.reverse ++ c :: cs.reverse).dropWhile isBlank = ds.reverse.dropWhile isBlank ++
      c :: cs.reverse :=
    trimStart_append_cons h
  rw [trimEnd, List.reverse_append, List.reverse_cons, List.append_assoc, List.singleton_append,
    front, trimEnd]
  simp

theorem trim_append_cons (h : isBlank c = false) :
    trim (cs ++ c :: ds) = trimStart cs ++ c :: trimEnd ds := by
  rw [trim, trimStart_append_cons h, trimEnd_append_cons h]

theorem exists_trimEnd (cs : List Char) :
    ∃ after, cs = trimEnd cs ++ after ∧ ∀ c ∈ after, isBlank c = true := by
  refine ⟨(cs.reverse.takeWhile isBlank).reverse, ?_, ?_⟩
  · rw [trimEnd, ← List.reverse_append, List.takeWhile_append_dropWhile, List.reverse_reverse]
  · intro c hc
    exact List.mem_takeWhile_imp (List.mem_reverse.mp hc)

theorem exists_trim (cs : List Char) : ∃ before after, cs = before ++ trim cs ++ after ∧
    (∀ c ∈ before, isBlank c = true) ∧ ∀ c ∈ after, isBlank c = true := by
  obtain ⟨after, split, blank⟩ := exists_trimEnd (trimStart cs)
  refine ⟨cs.takeWhile isBlank, after, ?_, fun c hc => List.mem_takeWhile_imp hc, blank⟩
  rw [trim, List.append_assoc, ← split, trimStart, List.takeWhile_append_dropWhile]

theorem trim_append_left (h : ∀ c ∈ cs, isBlank c = true) : trim (cs ++ ds) = trim ds := by
  rw [trim, trimStart_append h, trim]

theorem trim_append_right (h : ∀ c ∈ ds, isBlank c = true) : trim (cs ++ ds) = trim cs := by
  rw [trim, trimStart, List.dropWhile_append, trim, trimStart]
  split
  · rename_i none
    rw [List.isEmpty_iff.mp none, List.dropWhile_eq_nil_iff.mpr h]
  · exact trimEnd_append h

theorem trim_trim (cs : List Char) : trim (trim cs) = trim cs := by
  obtain ⟨before, after, split, hbefore, hafter⟩ := exists_trim cs
  calc
    trim (trim cs) = trim (before ++ trim cs ++ after) := by
      rw [trim_append_right hafter, trim_append_left hbefore]
    _ = trim cs := by rw [← split]

theorem trim_trimStart (cs : List Char) : trim (trimStart cs) = trim cs := by
  have split : cs.takeWhile isBlank ++ trimStart cs = cs := List.takeWhile_append_dropWhile
  calc
    trim (trimStart cs) = trim (cs.takeWhile isBlank ++ trimStart cs) :=
      (trim_append_left fun c hc => List.mem_takeWhile_imp hc).symm
    _ = trim cs := by rw [split]

theorem trim_trimEnd (cs : List Char) : trim (trimEnd cs) = trim cs := by
  obtain ⟨after, split, blank⟩ := exists_trimEnd cs
  calc
    trim (trimEnd cs) = trim (trimEnd cs ++ after) := (trim_append_right blank).symm
    _ = trim cs := by rw [← split]

theorem trim_subset (cs : List Char) : trim cs ⊆ cs := by
  obtain ⟨before, after, split, -, -⟩ := exists_trim cs
  intro c hc
  rw [split]
  exact List.mem_append_left _ (List.mem_append_right _ hc)

theorem trim_of_no_blank (h : ∀ c ∈ cs, isBlank c = false) : trim cs = cs := by
  obtain ⟨before, after, split, hbefore, hafter⟩ := exists_trim cs
  have none {part : List Char} (inside : part ⊆ cs) (blank : ∀ c ∈ part, isBlank c = true) :
      part = [] := by
    refine List.eq_nil_iff_forall_not_mem.mpr fun c hc => ?_
    have notBlank := h c (inside hc)
    rw [blank c hc] at notBlank
    cases notBlank
  have hb : before ⊆ cs := fun c hc => split ▸ List.mem_append_left _ (List.mem_append_left _ hc)
  have ha : after ⊆ cs := fun c hc => split ▸ List.mem_append_right _ hc
  rw [none hb hbefore, none ha hafter, List.nil_append, List.append_nil] at split
  exact split.symm

theorem toList_trimmed (s : String) : (trimmed s).toList = trim s.toList := by
  rw [trimmed, String.toList_ofList]

theorem trimmed_eq_self_iff {s : String} : trimmed s = s ↔ trim s.toList = s.toList := by
  rw [← String.toList_inj, toList_trimmed]

end LedgerFlow.Text
