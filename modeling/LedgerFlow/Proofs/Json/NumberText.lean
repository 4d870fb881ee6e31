import LedgerFlow.Json.Reader
import LedgerFlow.Number.FloatText
import LedgerFlow.Proofs.Number.Integer
import LedgerFlow.Proofs.Result

/-!
The characters of a number. A number that has digits is written with them, signs, a point and the
mark of an exponent; the reader takes such characters only, so that two readers that stop before
another character have taken the same.
-/
namespace LedgerFlow.Json
open Number Text

def isNumeric (c : Char) : Bool :=
  isAsciiDigit c || c = '-' || c = '+' || c = '.' || c = 'e' || c = 'E'

def afterNumber (cs : List Char) : List Char := cs.dropWhile isNumeric

theorem afterNumber_append {cs : List Char} (h : ∀ c ∈ cs, isNumeric c = true) (rest : List Char) :
    afterNumber (cs ++ rest) = afterNumber rest :=
  List.dropWhile_append_of_pos h

theorem isNumeric_of_isAsciiDigit {c : Char} (h : isAsciiDigit c = true) : isNumeric c = true := by
  simp [isNumeric, h]

/-! Reading. -/

theorem afterNumber_cons {c : Char} (h : isNumeric c = true) (cs : List Char) :
    afterNumber (c :: cs) = afterNumber cs :=
  List.dropWhile_cons_of_pos h

theorem afterNumber_dropWhile (cs : List Char) :
    afterNumber (cs.dropWhile isAsciiDigit) = afterNumber cs := by
  induction cs with
  | nil => rfl
  | cons c cs ih =>
    rw [List.dropWhile_cons]
    split
    · rename_i digit
      rw [ih, afterNumber_cons (isNumeric_of_isAsciiDigit digit)]
    · rfl

theorem afterNumber_splitWhole {cs whole rest : List Char}
    (h : splitWhole cs = some (whole, rest)) :
    afterNumber cs = afterNumber rest := by
  unfold splitWhole at h
  split at h
  · obtain ⟨-, rfl⟩ := Prod.mk.inj (Option.some.inj h)
    exact afterNumber_cons rfl _
  · split at h
    · rename_i digit
      obtain ⟨-, rfl⟩ := Prod.mk.inj (Option.some.inj h)
      rw [afterNumber_cons (isNumeric_of_isAsciiDigit digit), afterNumber_dropWhile]
    · cases h
  · cases h

theorem afterNumber_splitFraction (cs : List Char) :
    afterNumber (splitFraction cs).2 = afterNumber cs := by
  unfold splitFraction
  split
  · split
    · rename_i digit
      rw [afterNumber_dropWhile,
        afterNumber_cons rfl, afterNumber_cons (isNumeric_of_isAsciiDigit digit)]
    · rfl
  · rfl

theorem afterNumber_splitSign (cs : List Char) : afterNumber (splitSign cs).2 = afterNumber cs := by
  unfold splitSign
  split
  · exact (afterNumber_cons rfl _).symm
  · exact (afterNumber_cons rfl _).symm
  · rfl

theorem afterNumber_splitExponent (cs : List Char) :
    afterNumber (splitExponent cs).2 = afterNumber cs := by
  unfold splitExponent
  split
  · split
    · rename_i mark _ hmark
      have numeric : isNumeric mark = true := by
        simp only [Bool.or_eq_true, decide_eq_true_eq] at hmark
        rcases hmark with rfl | rfl <;> rfl
      dsimp only
      split
      · rfl
      · rw [afterNumber_dropWhile, afterNumber_splitSign, afterNumber_cons numeric]
    · rfl
  · rfl

theorem afterNumber_readNumber {cs rest : List Char} {v : Json}
    (h : readNumber cs = .ok (v, rest)) :
    afterNumber cs = afterNumber rest := by
  unfold readNumber at h
  dsimp only at h
  split at h
  · cases h
  · rename_i whole rest' hwhole
    obtain ⟨number, -, heq⟩ := map_eq_ok_iff.mp h
    obtain ⟨-, rfl⟩ := Prod.mk.inj heq
    rw [afterNumber_splitExponent, afterNumber_splitFraction, ← afterNumber_splitWhole hwhole]
    split
    · exact afterNumber_cons rfl _
    · rfl

/-! Writing. -/

structure Numeric (cs : List Char) : Prop where
  filled : cs ≠ []
  each : ∀ c ∈ cs, isNumeric c = true

theorem isNumeric_of_isDigit {c : Char} (h : c.isDigit = true) : isNumeric c = true :=
  isNumeric_of_isAsciiDigit h

theorem numeric_decimalDigits (n : Nat) : Numeric (decimalDigits n) :=
  ⟨Nat.toDigits_ne_nil, fun _ h => isNumeric_of_isDigit (isDigit_of_mem_decimalDigits h)⟩

theorem Numeric.minus {cs : List Char} (h : Numeric cs) : Numeric ('-' :: cs) :=
  ⟨List.cons_ne_nil _ _, List.forall_mem_cons.mpr ⟨rfl, h.each⟩⟩

theorem numeric_decimalText (n : Int) : Numeric (decimalText n) := by
  cases n with
  | ofNat n => exact numeric_decimalDigits n
  | negSucc n => exact (numeric_decimalDigits (n + 1)).minus

theorem isNumeric_of_mem_replicate {n : Nat} {c : Char}
    (h : c ∈ List.replicate n '0') : isNumeric c = true := by
  obtain rfl := List.eq_of_mem_replicate h
  rfl

theorem Numeric.positional {digits : List Char} (h : Numeric digits) (point : Int) :
    Numeric (positional digits point) := by
  unfold Number.positional
  dsimp only
  split_ifs with small short
  · refine ⟨List.cons_ne_nil _ _, ?_⟩
    simp only [List.cons_append, List.forall_mem_cons, List.forall_mem_append]
    exact ⟨rfl, rfl, fun c => isNumeric_of_mem_replicate, h.each⟩
  · refine ⟨by simp, ?_⟩
    simp only [List.forall_mem_cons, List.forall_mem_append]
    exact ⟨⟨h.each, fun c => isNumeric_of_mem_replicate⟩, rfl, rfl, nofun⟩
  · refine ⟨by simp, ?_⟩
    simp only [List.forall_mem_cons, List.forall_mem_append]
    exact ⟨fun c hc => h.each c (List.mem_of_mem_take hc),
      rfl, fun c hc => h.each c (List.mem_of_mem_drop hc)⟩

theorem isNumeric_of_mem_exponentText {x : Int} {c : Char}
    (h : c ∈ exponentText x) : isNumeric c = true := by
  unfold exponentText at h
  dsimp only at h
  rcases List.mem_append.mp h with h | h
  · rcases List.mem_cons.mp h with rfl | h
    · split <;> rfl
    · exact isNumeric_of_mem_replicate h
  · exact (numeric_decimalDigits _).each c h

theorem Numeric.scientific {digits : List Char} (h : Numeric digits) (x : Int) :
    Numeric (scientific digits x) := by
  unfold Number.scientific
  split
  · exact absurd rfl h.filled
  · refine ⟨List.cons_ne_nil _ _, ?_⟩
    simp only [List.forall_mem_cons]
    exact ⟨h.each _ List.mem_cons_self, rfl, fun c => isNumeric_of_mem_exponentText⟩
  · refine ⟨List.cons_ne_nil _ _, ?_⟩
    simp only [List.cons_append, List.forall_mem_cons, List.forall_mem_append]
    exact ⟨h.each _ List.mem_cons_self, rfl, fun c hc => h.each c (List.mem_cons_of_mem _ hc), rfl,
      fun c => isNumeric_of_mem_exponentText⟩

theorem numeric_magnitudeText (layout : FloatLayout) (m : Nat) (e : Int) :
    Numeric (magnitudeText layout m e) := by
  unfold magnitudeText
  split
  · refine ⟨List.cons_ne_nil _ _, ?_⟩
    simp only [List.forall_mem_cons]
    exact ⟨rfl, rfl, rfl, nofun⟩
  · dsimp only
    split
    · exact (numeric_decimalDigits _).positional _
    · exact (numeric_decimalDigits _).scientific _

theorem float_text_cases (x : Binary64) :
    Numeric (x.text .json) ∨ x = .nan ∨ ∃ negative, x = .infinite negative := by
  cases x with
  | nan => exact .inr (.inl rfl)
  | infinite negative => exact .inr (.inr ⟨negative, rfl⟩)
  | finite negative m e =>
    cases negative with
    | false => exact .inl (numeric_magnitudeText .json m e)
    | true => exact .inl (numeric_magnitudeText .json m e).minus

end LedgerFlow.Json
