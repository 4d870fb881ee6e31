import LedgerFlow.Proofs.Graph.Run
import LedgerFlow.Proofs.Table
import Mathlib.Data.List.Perm.Subperm

/-!
Generated names. They are never empty and never in use, so a new node takes the place of no other.
-/
namespace LedgerFlow.Builder
open Number

theorem numberedName_injective (stem : String) : Function.Injective (numberedName stem) := by
  intro m n h
  have hlists := congrArg String.toList h
  simp only [numberedName, String.toList_append, String.toList_ofList] at hlists
  have hdigits : decimalDigits m = decimalDigits n := List.append_cancel_left hlists
  have hvalues := congrArg (fun digits => Nat.ofDigitChars 10 digits 0) hdigits
  simpa [decimalDigits] using hvalues

theorem numberedName_ne_empty (stem : String) (n : Nat) : numberedName stem n ≠ "" := by
  intro h
  have hlist := congrArg String.toList h
  simp [numberedName] at hlist

theorem le_of_taken {nodes : Table Node} (stem : String) {low high : Nat}
    (taken : ∀ m, low < m → m < high → numberedName stem m ∈ nodes.keys) :
    high ≤ low + nodes.length + 1 := by
  let used := (List.range' (low + 1) (high - (low + 1))).map (numberedName stem)
  have distinct : used.Nodup := List.Nodup.map (numberedName_injective stem) List.nodup_range'
  have known : used ⊆ nodes.keys := by
    intro name hname
    obtain ⟨m, hm, rfl⟩ := List.mem_map.mp hname
    obtain ⟨hlow, hhigh⟩ := List.mem_range'_1.mp hm
    exact taken m (by omega) (by omega)
  have hle := (List.subperm_of_subset distinct known).length_le
  rw [List.length_map, List.length_range', Table.length_keys] at hle
  omega

theorem taken_before_freeNumber {nodes : Table Node} {stem : String} {fuel n m : Nat} (hlow : n < m)
    (hhigh : m < freeNumber nodes stem fuel n) : numberedName stem m ∈ nodes.keys := by
  induction fuel generalizing n with
  | zero =>
    rw [freeNumber] at hhigh
    omega
  | succ fuel ih =>
    rw [freeNumber] at hhigh
    split at hhigh
    · rename_i hnext
      rcases Nat.lt_or_ge (n + 1) m with hm | hm
      · exact ih hm hhigh
      · obtain rfl : m = n + 1 := by omega
        exact (Table.contains_iff_mem_keys _ _).mp hnext
    · omega

theorem freeNumber_eq_of_taken {nodes : Table Node} {stem : String} {fuel n : Nat}
    (taken : numberedName stem (freeNumber nodes stem fuel n) ∈ nodes.keys) :
    freeNumber nodes stem fuel n = n + fuel + 1 := by
  induction fuel generalizing n with
  | zero => rfl
  | succ fuel ih =>
    rw [freeNumber] at taken ⊢
    split at taken
    · rename_i hnext
      rw [if_pos hnext, ih taken]
      omega
    · rename_i hnext
      exact absurd ((Table.contains_iff_mem_keys _ _).mpr taken) hnext

/-- There are more numbers to try than names to run into. -/
theorem freeNumber_fresh (nodes : Table Node) (stem : String) (n : Nat) :
    numberedName stem (freeNumber nodes stem nodes.length n) ∉ nodes.keys := by
  intro taken
  have last := freeNumber_eq_of_taken taken
  have hle : n + nodes.length + 2 ≤ n + nodes.length + 1 := by
    refine le_of_taken stem fun m hlow hhigh => ?_
    rcases Nat.lt_or_ge m (freeNumber nodes stem nodes.length n) with hm | hm
    · exact taken_before_freeNumber hlow hm
    · obtain rfl : m = freeNumber nodes stem nodes.length n := by omega
      exact taken
  omega

theorem newNoop_eq : newNoop = do
    let activity ← findActivity noopRef
    let name ← nextName activity
    setNode name { activity, linked := true }
    return name := rfl

theorem Runs.nextName {activity : Activity} {b b' : Builder} {name : String}
    (run : Runs (nextName activity) b name b') :
    name ∉ b.nodes.keys ∧ name ≠ "" ∧ ∃ sequence, b' = { b with sequence } := by
  simp only [Builder.nextName, setNumber, runs_bind, runs_get] at run
  obtain ⟨_, _, ⟨rfl, rfl⟩, run⟩ := run
  split at run
  · simp only [runs_bind, runs_modify, runs_pure] at run
    obtain ⟨_, _, rfl, rfl, rfl⟩ := run
    exact ⟨freeNumber_fresh _ _ _, numberedName_ne_empty _ _, _, rfl⟩
  · simp at run

end LedgerFlow.Builder
