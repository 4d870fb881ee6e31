import LedgerFlow.Number.Integer
import LedgerFlow.Text.Blank

/-!
Reading back the decimal text of an integer: of any integer whose digits are not too many.
-/
namespace LedgerFlow.Number
open Text

theorem digitValue?_of_isDigit {c : Char} (h : c.isDigit = true) :
    digitValue? c = some (c.toNat - '0'.toNat) := by
  have range : 0x30 ≤ c.toNat ∧ c.toNat < 0x30 + 10 := by
    have bounds := Char.isDigit_iff_toNat.mp h
    exact ⟨bounds.1, Nat.lt_succ_of_le bounds.2⟩
  rw [digitValue?, digitZeros, List.findSome?_cons, if_pos range]
  rfl

theorem isBlank_of_isDigit {c : Char} (h : c.isDigit = true) : isBlank c = false := by
  have bounds := Char.isDigit_iff_toNat.mp h
  have low : 48 ≤ c.toNat := bounds.1
  have high : c.toNat ≤ 57 := bounds.2
  simp only [isBlank, Bool.or_eq_false_iff, Bool.and_eq_false_iff, decide_eq_false_iff_not,
    beq_eq_false_iff_ne]
  omega

theorem digitRow?_of_digits {cs : List Char} (filled : cs ≠ [])
    (digits : ∀ c ∈ cs, c.isDigit = true) :
    digitRow? cs = some (cs.map fun c => c.toNat - '0'.toNat) := by
  induction cs with
  | nil => exact absurd rfl filled
  | cons c rest ih =>
    obtain ⟨first, later⟩ := List.forall_mem_cons.mp digits
    have value := digitValue?_of_isDigit first
    cases rest with
    | nil =>
      unfold digitRow?
      rw [value, List.map_singleton]
    | cons next tail =>
      -- An underscore would be passed over, and what follows it read as the next digit.
      have noUnderscore : next ≠ '_' := by
        rintro rfl
        exact absurd (later '_' List.mem_cons_self) (by decide)
      unfold digitRow?
      rw [value]
      simp only [if_neg noUnderscore]
      rw [ih (List.cons_ne_nil _ _) later]
      rfl

theorem isDigit_of_mem_decimalDigits {n : Nat} {c : Char}
    (h : c ∈ decimalDigits n) : c.isDigit = true :=
  Nat.isDigit_of_mem_toDigits (by decide) (by decide) h

theorem digitRow?_decimalDigits (n : Nat) :
    digitRow? (decimalDigits n) = some ((decimalDigits n).map fun c => c.toNat - '0'.toNat) :=
  digitRow?_of_digits Nat.toDigits_ne_nil fun _ => isDigit_of_mem_decimalDigits

theorem ofDigits_decimalDigits (n : Nat) :
    ofDigits ((decimalDigits n).map fun c => c.toNat - '0'.toNat) = n := by
  rw [ofDigits, List.foldl_map]
  exact Nat.ofDigitChars_ten_toDigits

theorem splitSign_of_isDigit {c : Char} (h : c.isDigit = true) (cs : List Char) :
    splitSign (c :: cs) = (false, c :: cs) := by
  unfold splitSign
  split
  · rename_i minus
    obtain ⟨rfl, -⟩ := List.cons.inj minus
    cases h
  · rename_i plus
    obtain ⟨rfl, -⟩ := List.cons.inj plus
    cases h
  · rfl

theorem splitSign_decimalDigits (n : Nat) :
    splitSign (decimalDigits n) = (false, decimalDigits n) := by
  cases digits : decimalDigits n with
  | nil => exact absurd digits Nat.toDigits_ne_nil
  | cons c cs => exact splitSign_of_isDigit (isDigit_of_mem_decimalDigits
      (digits ▸ List.mem_cons_self)) cs

theorem integer?_decimalText {n : Int} (short : (decimalDigits n.natAbs).length ≤ digitLimit) :
    integer? (decimalText n) = some n := by
  cases n with
  | ofNat n =>
    have short : (decimalDigits n).length ≤ digitLimit := short
    simp only [integer?, decimalText, splitSign_decimalDigits, digitRow?_decimalDigits,
      List.length_map, if_pos short, ofDigits_decimalDigits]
    rfl
  | negSucc n =>
    have short : (decimalDigits (n + 1)).length ≤ digitLimit := short
    simp only [integer?, decimalText, splitSign, digitRow?_decimalDigits, List.length_map,
      if_pos short, ofDigits_decimalDigits]
    rfl

theorem mem_decimalText {n : Int} {c : Char} (h : c ∈ decimalText n) :
    c = '-' ∨ c.isDigit = true := by
  cases n with
  | ofNat n => exact .inr (isDigit_of_mem_decimalDigits h)
  | negSucc n => exact (List.mem_cons.mp h).imp_right isDigit_of_mem_decimalDigits

theorem isBlank_of_mem_decimalText {n : Int} {c : Char}
    (h : c ∈ decimalText n) : isBlank c = false := by
  rcases mem_decimalText h with rfl | digit
  · decide
  · exact isBlank_of_isDigit digit

theorem not_mem_decimalText_point (n : Int) : '.' ∉ decimalText n := by
  intro h
  rcases mem_decimalText h with minus | digit
  · cases minus
  · cases digit

end LedgerFlow.Number
