import LedgerFlow.Proofs.Text.Lower
import LedgerFlow.Text.SnakeCase

/-!
Snake case is one local pass. Each of the two cutting passes goes on behind what it took, but no
place where it could cut is among that, and the first pass leaves and makes none for the second; so
whether there is a cut between two characters depends on them and on the next one only. What is in
snake case stays as it is.
-/
namespace LedgerFlow.Text
variable {a b c : Char}

/-! Letters. -/

theorem isCapital_iff : isCapital c = true ↔ 0x41 ≤ c.toNat ∧ c.toNat ≤ 0x5A := by
  rw [isCapital, Bool.and_eq_true, decide_eq_true_eq, decide_eq_true_eq, Char.le_def, Char.le_def,
    UInt32.le_iff_toNat_le, UInt32.le_iff_toNat_le]
  rfl

theorem isSmall_iff : isSmall c = true ↔ 0x61 ≤ c.toNat ∧ c.toNat ≤ 0x7A := by
  rw [isSmall, Bool.and_eq_true, decide_eq_true_eq, decide_eq_true_eq, Char.le_def, Char.le_def,
    UInt32.le_iff_toNat_le, UInt32.le_iff_toNat_le]
  rfl

theorem isSmallOrDigit_iff :
    isSmallOrDigit c = true ↔ (0x61 ≤ c.toNat ∧ c.toNat ≤ 0x7A) ∨ 0x30 ≤ c.toNat ∧
      c.toNat ≤ 0x39 := by
  rw [isSmallOrDigit, Bool.or_eq_true, isSmall_iff, Bool.and_eq_true, decide_eq_true_eq,
    decide_eq_true_eq, Char.le_def, Char.le_def, UInt32.le_iff_toNat_le, UInt32.le_iff_toNat_le]
  rfl

theorem not_capital_of_small (h : isSmall c = true) : isCapital c = false := by
  rw [← Bool.not_eq_true, isCapital_iff]
  have bounds := isSmall_iff.mp h
  omega

theorem not_smallOrDigit_of_capital (h : isCapital c = true) : isSmallOrDigit c = false := by
  rw [← Bool.not_eq_true, isSmallOrDigit_iff]
  have bounds := isCapital_iff.mp h
  omega

/-! The passes, two characters at a time. -/

theorem cutRuns_cons_of_not_capital (h : isCapital a = false) (rest : List Char) :
    cutRuns (a :: rest) = a :: cutRuns rest := by
  match rest with
  | [] => rfl
  | [b] => rfl
  | b :: c :: rest => rw [cutRuns, h, Bool.false_and, Bool.false_and, if_neg Bool.false_ne_true]

theorem cutRuns_cons_cons (a b : Char) (rest : List Char) :
    cutRuns (a :: b :: rest) =
      if isCapital a && isCapital b && rest.head?.any isSmall then a :: '_' :: cutRuns (b :: rest)
      else a :: cutRuns (b :: rest) := by
  match rest with
  | [] => simp [cutRuns]
  | c :: rest =>
    rw [cutRuns, List.head?_cons, Option.any_some]
    split
    · rename_i cut
      have small : isSmall c = true := (Bool.and_eq_true_iff.mp cut).2
      have next := not_capital_of_small small
      have kept : cutRuns (b :: c :: rest) = b :: cutRuns (c :: rest) := by
        match rest with
        | [] => rfl
        | d :: rest => rw [cutRuns, next, Bool.and_false, Bool.false_and, if_neg Bool.false_ne_true]
      rw [kept, cutRuns_cons_of_not_capital next]
    · rfl

theorem exists_cutRuns (b : Char) (rest : List Char) : ∃ tail, cutRuns (b :: rest) = b :: tail := by
  match rest with
  | [] => exact ⟨_, rfl⟩
  | c :: rest =>
    rw [cutRuns_cons_cons]
    split <;> exact ⟨_, rfl⟩

theorem cutHumps_cons_of_not_smallOrDigit (h : isSmallOrDigit a = false) (rest : List Char) :
    cutHumps (a :: rest) = a :: cutHumps rest := by
  match rest with
  | [] => rfl
  | b :: rest => rw [cutHumps, h, Bool.false_and, if_neg Bool.false_ne_true]

theorem cutHumps_cons_cons (a b : Char) (rest : List Char) :
    cutHumps (a :: b :: rest) =
      if isSmallOrDigit a && isCapital b then a :: '_' :: cutHumps (b :: rest)
          else a :: cutHumps (b :: rest) := by
  rw [cutHumps]
  split
  · rename_i cut
    have capital : isCapital b = true := (Bool.and_eq_true_iff.mp cut).2
    rw [cutHumps_cons_of_not_smallOrDigit (not_smallOrDigit_of_capital capital)]
  · rfl

/-- The two passes cut where the one pass does. -/
theorem cutHumps_cutRuns (cs : List Char) : cutHumps (cutRuns cs) = cutWords cs := by
  match cs with
  | [] => rfl
  | [a] => rfl
  | a :: b :: rest =>
    obtain ⟨tail, next⟩ := exists_cutRuns b rest
    have later := cutHumps_cutRuns (b :: rest)
    rw [next] at later
    rw [cutRuns_cons_cons, cutWords, startsWord, next, ← later]
    cases capital : isCapital b with
    | false =>
      rw [Bool.and_false, Bool.false_and, Bool.false_and, if_neg Bool.false_ne_true,
        if_neg Bool.false_ne_true, cutHumps_cons_cons, capital, Bool.and_false,
          if_neg Bool.false_ne_true]
    | true =>
      rw [Bool.and_true, Bool.true_and]
      cases run : isCapital a && rest.head?.any isSmall with
      | true =>
        -- The underscore is neither a capital nor a small letter, so that the second pass cuts next
        -- to it nowhere.
        have before : cutHumps (a :: '_' :: b :: tail) = a :: cutHumps ('_' :: b :: tail) := by
          rw [cutHumps_cons_cons, show isCapital '_' = false by
            decide, Bool.and_false, if_neg Bool.false_ne_true]
        rw [if_pos rfl, Bool.or_true, if_pos rfl, before,
          cutHumps_cons_of_not_smallOrDigit (by decide)]
      | false =>
        rw [if_neg Bool.false_ne_true, Bool.or_false, cutHumps_cons_cons, capital, Bool.and_true]

/-! Where nothing is cut. -/

theorem cutWords_of_no_capital {cs : List Char}
    (h : ∀ c ∈ cs, isCapital c = false) : cutWords cs = cs := by
  match cs with
  | [] => rfl
  | [a] => rfl
  | a :: b :: rest =>
    have later := (List.forall_mem_cons.mp h).2
    have next := later b List.mem_cons_self
    rw [cutWords, startsWord, next, Bool.false_and, if_neg Bool.false_ne_true,
      cutWords_of_no_capital later]

theorem snakeChars_eq (cs : List Char) :
    snakeChars cs = lower ((cutWords cs).map fun c => if c = '-' then '_' else c) := by
  rw [snakeChars, cutHumps_cutRuns]

theorem of_mem_snakeChars {cs : List Char} (h : c ∈ snakeChars cs) :
    Settled c.toNat ∧ c ≠ '-' ∧ isCapital c = false := by
  obtain ⟨settled, own⟩ := of_mem_lower h
  refine ⟨settled, ?_, ?_⟩
  · rintro rfl
    rcases own with member | low
    · obtain ⟨d, -, same⟩ := List.mem_map.mp member
      split at same
      · cases same
      · contradiction
    · exact absurd low (by decide)
  · rw [← Bool.not_eq_true, isCapital_iff]
    exact not_capital_of_settled settled

theorem snakeChars_snakeChars (cs : List Char) : snakeChars (snakeChars cs) = snakeChars cs := by
  have whole : cutWords (snakeChars cs) = snakeChars cs :=
    cutWords_of_no_capital fun c hc => (of_mem_snakeChars hc).2.2
  have noDash : (snakeChars cs).map (fun c => if c = '-' then '_' else c) = snakeChars cs := by
    refine (List.map_congr_left fun c hc => ?_).trans (List.map_id _)
    exact if_neg (of_mem_snakeChars hc).2.1
  rw [snakeChars_eq (snakeChars cs), whole, noDash]
  exact lowerFrom_of_settled fun c hc => (of_mem_snakeChars hc).1

/-- Snake case cuts words in one local pass, puts underscores for dashes and goes to lower case. No
dash and no ASCII capital is left, and once more changes nothing. -/
theorem snakeCase_onePass (s : String) :
    snakeCase s = String.ofList
      (lower ((cutWords s.toList).map fun c => if c = '-' then '_' else c)) ∧
      (∀ c ∈ (snakeCase s).toList, c ≠ '-' ∧ isCapital c = false) ∧
        snakeCase (snakeCase s) = snakeCase s := by
  have chars : (snakeCase s).toList = snakeChars s.toList := String.toList_ofList
  refine ⟨congrArg String.ofList (snakeChars_eq s.toList), fun c hc => ?_, ?_⟩
  · rw [chars] at hc
    exact (of_mem_snakeChars hc).2
  · rw [snakeCase, chars, snakeChars_snakeChars, ← chars, String.ofList_toList]

example : snakeCase "HTTPRequest-v2Raw" = "http_request_v2_raw" := by decide +kernel

end LedgerFlow.Text
