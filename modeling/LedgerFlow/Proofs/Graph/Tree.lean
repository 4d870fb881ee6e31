import LedgerFlow.Graph.Basic
import Mathlib.Data.List.Perm.Basic
import Mathlib.Data.List.Nodup

/-!
Links that make a tree of some names: every name but the root is the target of one link, and every
name is reached from the root.
-/
namespace LedgerFlow.Graph
open scoped List

variable {root : Option String} {links links' : List (String × Link)} {names names' : List String}

inductive Reached (root : Option String) (links : List (String × Link)) : String → Prop
  | root {name : String} (top : root = some name) : Reached root links name
  | step {name : String} {link : Link} (above : Reached root links name)
      (follow : (name, link) ∈ links) :
      Reached root links link.target

theorem Reached.mono (sub : links ⊆ links') {name : String} (h : Reached root links name) :
    Reached root links' name := by
  induction h with
  | root top => exact .root top
  | step _ follow ih => exact .step ih (sub follow)

theorem not_reached_of_no_root {name : String} : ¬ Reached none links name := by
  intro h
  generalize hroot : (none : Option String) = root at h
  induction h with
  | root top => rw [top] at hroot; cases hroot
  | step _ _ ih => exact ih

/-- The targets of the links and the root are the names, each of them once, and all are reached. -/
structure Tree (root : Option String) (links : List (String × Link))
    (names : List String) : Prop where
  arrivals : (links.map (·.2.target) ++ root.toList).Perm names
  reached : ∀ name ∈ names, Reached root links name

theorem Tree.nil : Tree none [] [] := ⟨.refl _, by simp⟩

theorem Tree.eq_nil (tree : Tree none links names) : links = [] ∧ names = [] := by
  have hnames : names = [] := List.eq_nil_iff_forall_not_mem.mpr fun name hname =>
    not_reached_of_no_root (tree.reached name hname)
  have harrivals := tree.arrivals
  rw [hnames, List.perm_nil] at harrivals
  exact ⟨by simpa using harrivals, hnames⟩

theorem Tree.of_perm (tree : Tree root links names)
    (h : names.Perm names') : Tree root links names' :=
  ⟨tree.arrivals.trans h, fun name hname => tree.reached name (h.mem_iff.mpr hname)⟩

theorem Tree.singleton (name : String) : Tree (some name) [] [name] := by
  refine ⟨.refl _, fun other hother => ?_⟩
  rw [List.mem_singleton.mp hother]
  exact .root rfl

theorem Tree.below (tree : Tree root links names) {source : String} {link : Link}
    (known : source ∈ names) (hlinks : links'.Perm (links ++ [(source, link)]))
    (hnames : names'.Perm (names ++ [link.target])) : Tree root links' names' := by
  constructor
  · calc links'.map (·.2.target) ++ root.toList
      _ ~ (links ++ [(source, link)]).map (·.2.target) ++ root.toList :=
        (hlinks.map _).append_right _
      _ = links.map (·.2.target) ++ ([link.target] ++ root.toList) := by simp
      _ ~ links.map (·.2.target) ++ (root.toList ++ [link.target]) :=
        List.perm_append_comm.append_left _
      _ = links.map (·.2.target) ++ root.toList ++ [link.target] := (List.append_assoc _ _ _).symm
      _ ~ names ++ [link.target] := tree.arrivals.append_right _
      _ ~ names' := hnames.symm
  · intro name hname
    have sub : links ⊆ links' := fun entry h => hlinks.mem_iff.mpr (List.mem_append_left _ h)
    rcases List.mem_append.mp (hnames.mem_iff.mp hname) with h | h
    · exact (tree.reached name h).mono sub
    · rw [List.mem_singleton.mp h]
      exact .step ((tree.reached source known).mono sub) (hlinks.mem_iff.mpr (by simp))

end LedgerFlow.Graph
