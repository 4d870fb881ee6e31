import LedgerFlow.Proofs.Schema.Acyclic
import Mathlib.Data.List.Chain
import Mathlib.Data.List.TakeWhile
import Mathlib.Logic.Relation

/-!
Why the search for missing and cyclic references fails: a reference names no document, or references
lead back to where they start. The keys on the path of a visit refer to each other in order, so a
key that comes up again closes a cycle of references.
-/
namespace LedgerFlow.Schema

def Dependencies.Refers (deps : Dependencies) (key target : String) : Prop := target ∈ deps.of key

/-- A row of keys each of which refers to the next one, and which ends as it starts. -/
structure IsCycle (deps : Dependencies) (cycle : List String) : Prop where
  chain : cycle.IsChain deps.Refers
  closed : ∃ key between, cycle = key :: between ++ [key]

theorem transGen_of_isChain {deps : Dependencies} {key last : String} {between : List String}
    (chain : (key :: between ++ [last]).IsChain deps.Refers) :
    Relation.TransGen deps.Refers key last := by
  induction between generalizing key with
  | nil => exact .single (List.isChain_pair.mp chain)
  | cons next between ih =>
    obtain ⟨first, rest⟩ := List.isChain_cons_cons.mp chain
    exact .head first (ih rest)

theorem IsCycle.exists_transGen {deps : Dependencies} {cycle : List String}
    (h : IsCycle deps cycle) :
    ∃ key, Relation.TransGen deps.Refers key key := by
  obtain ⟨key, between, rfl⟩ := h.closed
  exact ⟨key, transGen_of_isChain h.chain⟩

def ReportsCycle (deps : Dependencies) (e : Error) : Prop :=
  ∃ cycle, IsCycle deps cycle ∧ e = .refCycle (cycle.map refName)

theorem reportsCycle_of_mem {deps : Dependencies} {path : List String} {target : String}
    (again : target ∈ path) (chain : (path ++ [target]).IsChain deps.Refers) :
    ReportsCycle deps (cycleError path target) := by
  refine ⟨path.dropWhile (· ≠ target) ++ [target], ⟨?_, ?_⟩, rfl⟩
  · rw [← List.takeWhile_append_dropWhile (p := (· ≠ target)) (l := path), List.append_assoc]
      at chain
    exact chain.right_of_append
  · cases hdrop : path.dropWhile (· ≠ target) with
    | nil =>
      rw [List.dropWhile_eq_nil_iff] at hdrop
      simpa using hdrop target again
    | cons key between =>
      have head := List.head?_dropWhile_not (· ≠ target) path
      rw [hdrop] at head
      obtain rfl : key = target := by simpa using head
      exact ⟨key, between, rfl⟩

def VisitReports (deps : Dependencies) (left : Nat) : Prop :=
  ∀ {path done key e}, (path ++ [key]).IsChain deps.Refers →
    visit deps left path done key = .error e → ReportsCycle deps e

theorem visitAll_error {deps : Dependencies} {left : Nat} (reports : VisitReports deps left)
    {path targets done : List String} {e : Error}
    (chains : ∀ target ∈ targets, (path ++ [target]).IsChain deps.Refers)
    (h : visitAll deps left path done targets = .error e) : ReportsCycle deps e := by
  induction targets generalizing done with
  | nil => simp [visitAll] at h
  | cons target rest ih =>
    obtain ⟨chain, later⟩ := List.forall_mem_cons.mp chains
    rw [visitAll] at h
    split at h
    · rename_i again
      obtain rfl := Except.error.inj h
      exact reportsCycle_of_mem (by simpa using again) chain
    split at h
    · exact ih later h
    rcases bind_eq_error_iff.mp h with hvisit | ⟨_, _, h⟩
    · exact reports chain hvisit
    · exact ih later h

theorem visit_error (deps : Dependencies) (left : Nat) : VisitReports deps left := by
  induction left with
  | zero =>
    intro path done key e _ h
    rw [visit] at h
    cases h
  | succ left ih =>
    intro path done key e chain h
    rw [visit] at h
    rcases bind_eq_error_iff.mp h with hall | ⟨_, _, h⟩
    · refine visitAll_error ih (fun target htarget => ?_) hall
      rw [List.isChain_append]
      refine ⟨chain, List.isChain_singleton target, ?_⟩
      simpa [Dependencies.Refers] using htarget
    · cases h

theorem checkTargets_error {documents : Table Json} {targets : List String} {e : Error}
    (h : checkTargets documents targets = .error e) :
    ∃ target ∈ targets, target ∉ documents.keys ∧ e = .unresolvedRef target := by
  induction targets with
  | nil => cases h
  | cons key rest ih =>
    cases found : documents.get? key with
    | none =>
      rw [checkTargets, resolve, found] at h
      exact ⟨key, List.mem_cons_self, Table.get?_eq_none_iff.mp found, (Except.error.inj h).symm⟩
    | some document =>
      rw [checkTargets, resolve_text_of_get? found] at h
      obtain ⟨target, htarget, missing⟩ := ih h
      exact ⟨target, List.mem_cons_of_mem _ htarget, missing⟩

theorem checkCycles_error {documents : Table Json} {e : Error}
    (h : checkCycles documents = .error e) :
    (∃ target ∈ (dependencies documents).flatMap (·.2), target ∉ documents.keys ∧
      e = .unresolvedRef target) ∨ ReportsCycle (dependencies documents) e := by
  unfold checkCycles at h
  rcases bind_eq_error_iff.mp h with htargets | ⟨_, -, h⟩
  · exact .inl (checkTargets_error htargets)
  rcases bind_eq_error_iff.mp h with hvisits | ⟨_, -, h⟩
  · exact .inr (visitAll_error (visit_error _ _)
      (fun target _ => List.isChain_singleton target) hvisits)
  · cases h

end LedgerFlow.Schema
