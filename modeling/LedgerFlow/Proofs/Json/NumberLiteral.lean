import LedgerFlow.Json.Reader
import LedgerFlow.Proofs.Number.Literal
import LedgerFlow.Proofs.Result

/-!
Number literals in JSON. They are just what the reader takes for a number, an integer of too many
digits apart, and it gives the value that they write: an integer where there is nothing but a whole
part, the nearest floating-point number otherwise.
-/
namespace LedgerFlow.Number
open Json Text

def fractionDigits (fraction : Option DigitRow) : List Char := (fraction.map DigitRow.chars).getD []

def exponentDigits (exponent : Option ExponentPart) : Option (Bool × List Char) :=
  exponent.map fun e => (e.sign.isMinus, e.row.chars)

namespace DigitRow
variable {rest : List Char}

theorem exists_cons (r : DigitRow) :
    ∃ c cs, r.chars = c :: cs ∧ isAsciiDigit c = true ∧ ∀ d ∈ cs, isAsciiDigit d = true := by
  obtain ⟨c, cs, row⟩ := List.exists_cons_of_ne_nil r.filled
  exact ⟨c, cs, row, r.digits c (row ▸ List.mem_cons_self),
    fun d hd => r.digits d (row ▸ List.mem_cons_of_mem c hd)⟩

theorem splitWhole_append (r : DigitRow) (alone : r.chars.head? = some '0' → r.chars = ['0'])
    (stops : Stops isAsciiDigit rest) : splitWhole (r.chars ++ rest) = some (r.chars, rest) := by
  obtain ⟨c, cs, row, first, later⟩ := r.exists_cons
  rw [row] at alone ⊢
  by_cases zero : c = '0'
  · subst zero
    rw [alone rfl]
    rfl
  · rw [List.cons_append]
    unfold splitWhole
    split
    · rename_i other
      exact absurd (List.cons.inj other).1 zero
    · rename_i other
      obtain ⟨rfl, rfl⟩ := List.cons.inj other
      rw [if_pos first, takeWhile_append_of_stops later stops,
        dropWhile_append_of_stops later stops]
    · rename_i other
      cases other

theorem splitFraction_append (r : DigitRow) (stops : Stops isAsciiDigit rest) :
    splitFraction ('.' :: (r.chars ++ rest)) = (r.chars, rest) := by
  obtain ⟨c, cs, row, first, later⟩ := r.exists_cons
  rw [row, List.cons_append, splitFraction, if_pos first, takeWhile_append_of_stops later stops,
    dropWhile_append_of_stops later stops]

end DigitRow

theorem ExponentPart.splitExponent_chars (e : ExponentPart) :
    splitExponent e.chars = (some (e.sign.isMinus, e.row.chars), []) := by
  have digits : ∀ d ∈ e.row.chars, isAsciiDigit d = true := e.row.digits
  have taken := takeWhile_append_of_stops digits (stops_nil _)
  have dropped := dropWhile_append_of_stops digits (stops_nil _)
  rw [List.append_nil] at taken dropped
  have mark : (decide (e.mark = 'e') || decide (e.mark = 'E')) = true := e.isMark
  unfold splitExponent chars
  simp only [if_pos mark, splitSign_chars, taken, dropped]
  split
  · rename_i none
    exact absurd none e.row.filled
  · rfl

theorem splitFraction_exponentChars (exponent : Option ExponentPart) :
    splitFraction (exponentChars exponent) = ([], exponentChars exponent) := by
  cases exponent with
  | none => rfl
  | some e =>
    rw [exponentChars, ExponentPart.chars]
    rcases eq_of_isExponentMark e.isMark with e | e <;> rw [e] <;> rfl

theorem splitFraction_chars (fraction : Option DigitRow) (exponent : Option ExponentPart) :
    splitFraction (fractionChars fraction ++ exponentChars exponent) =
      (fractionDigits fraction, exponentChars exponent) := by
  cases fraction with
  | some row => exact row.splitFraction_append (stops_exponentChars rfl rfl exponent)
  | none => exact splitFraction_exponentChars exponent

theorem splitExponent_chars (exponent : Option ExponentPart) :
    splitExponent (exponentChars exponent) = (exponentDigits exponent, []) := by
  cases exponent with
  | none => rfl
  | some e => exact e.splitExponent_chars

theorem exponentOf_digits (exponent : Option ExponentPart) :
    exponentOf (exponentDigits exponent) = exponentValue exponent := by
  cases exponent <;> rfl

theorem map_digitNumber_fractionDigits (fraction : Option DigitRow) :
    (fractionDigits fraction).map digitNumber = fractionValues fraction := by
  cases fraction <;> rfl

theorem length_fractionDigits (fraction : Option DigitRow) :
    (fractionDigits fraction).length = (fractionValues fraction).length := by
  rw [← map_digitNumber_fractionDigits, List.length_map]

theorem isEmpty_fractionDigits (fraction : Option DigitRow) :
    (fractionDigits fraction).isEmpty = fraction.isNone := by
  cases fraction with
  | none => rfl
  | some row =>
    have filled : row.chars.isEmpty = false := by simpa using row.filled
    exact filled

namespace NumberLiteral
variable {l : NumberLiteral}

def value (l : NumberLiteral) : Json := if l.isWhole then .int l.integer else .float l.nearest

/-- The whole part is not too long for an integer, if it is to be one. -/
def Short (l : NumberLiteral) : Prop := l.isWhole = true → l.whole.chars.length ≤ digitLimit

theorem splitWhole_unsigned (l : NumberLiteral) :
    splitWhole l.unsigned = some
      (l.whole.chars, fractionChars l.fraction ++ exponentChars l.exponent) :=
  l.whole.splitWhole_append l.noLeadingZero
    (stops_fractionChars rfl (stops_exponentChars rfl rfl _) _)

def ofParts (l : NumberLiteral) : Except Refusal Json :=
  numberOf l.negative l.whole.chars (fractionDigits l.fraction) (exponentDigits l.exponent)

theorem ofParts_eq (l : NumberLiteral) : l.ofParts =
    if l.isWhole = true ∧ ¬ l.whole.chars.length ≤ digitLimit then .error
      (.tooManyDigits l.whole.chars.length)
    else .ok l.value := by
  have plain : ((fractionDigits l.fraction).isEmpty && (exponentDigits l.exponent).isNone) =
      l.isWhole := by
    rw [isEmpty_fractionDigits, exponentDigits, Option.isNone_map, isWhole]
  rw [ofParts, numberOf, plain, value]
  cases l.isWhole with
  | true =>
    by_cases short : l.whole.chars.length ≤ digitLimit
    · rw [if_pos rfl, if_pos short, if_neg fun long => long.2 short, if_pos rfl]
      rfl
    · rw [if_pos rfl, if_neg short, if_pos ⟨rfl, short⟩]
  | false =>
    rw [if_neg Bool.false_ne_true, if_neg fun long => Bool.false_ne_true long.1,
      if_neg Bool.false_ne_true, List.map_append, map_digitNumber_fractionDigits, exponentOf_digits,
        length_fractionDigits]
    rfl

theorem ofParts_eq_ok_iff {v : Json} : l.ofParts = .ok v ↔ l.Short ∧ l.value = v := by
  rw [ofParts_eq]
  split
  · rename_i long
    exact ⟨nofun, fun h => absurd (h.1 long.1) long.2⟩
  · rename_i notLong
    have short : l.Short := fun plain => by_contra fun long => notLong ⟨plain, long⟩
    exact ⟨fun h => ⟨short, Except.ok.inj h⟩, fun h => congrArg _ h.2⟩

theorem readNumber_chars (short : l.Short) : readNumber l.chars = .ok (l.value, []) := by
  have parts : l.ofParts = .ok l.value := ofParts_eq_ok_iff.mpr ⟨short, rfl⟩
  unfold readNumber
  split
  rename_i negative body signed
  obtain ⟨rfl, rfl⟩ : negative = l.negative ∧ body = l.unsigned := by
    split at signed
    · rename_i rest minus
      have same : splitSign ('-' :: rest) = (l.negative, l.unsigned) := minus ▸ l.splitSign_chars
      exact Prod.mk.inj (signed.symm.trans same)
    · rename_i noMinus
      have positive : l.negative = false := by
        cases negative : l.negative with
        | true => exact absurd (by rw [chars, negative]; rfl) (noMinus l.unsigned)
        | false => rfl
      have same : l.chars = l.unsigned := by
        rw [chars, positive]
        rfl
      rw [same, ← positive] at signed
      exact Prod.mk.inj signed.symm
  simp only [splitWhole_unsigned, splitFraction_chars, splitExponent_chars]
  exact congrArg (Except.map (·, ([] : List Char))) parts

end NumberLiteral

end LedgerFlow.Number

namespace LedgerFlow.Json
open Number Text

/-! What the reader takes is a literal. -/

theorem exists_of_splitWhole {cs whole rest : List Char} (h : splitWhole cs = some (whole, rest)) :
    ∃ r : DigitRow, r.chars = whole ∧ (r.chars.head? = some '0' → r.chars = ['0']) ∧
      cs = r.chars ++ rest := by
  unfold splitWhole at h
  split at h
  · obtain ⟨rfl, rfl⟩ := Prod.mk.inj (Option.some.inj h)
    exact ⟨⟨['0'], List.cons_ne_nil _ _, List.forall_mem_singleton.mpr rfl⟩, rfl, fun _ => rfl, rfl⟩
  · rename_i c tail nonzero
    split at h
    · rename_i digit
      obtain ⟨rfl, rfl⟩ := Prod.mk.inj (Option.some.inj h)
      have digits : ∀ d ∈ c :: tail.takeWhile isAsciiDigit, d.isDigit = true :=
        List.forall_mem_cons.mpr ⟨digit, fun _ => List.mem_takeWhile_imp⟩
      refine ⟨⟨_, List.cons_ne_nil _ _, digits⟩,
        rfl, fun zero => absurd (Option.some.inj zero) nonzero, ?_⟩
      rw [List.cons_append, List.takeWhile_append_dropWhile]
    · cases h
  · cases h

theorem exists_of_splitFraction {cs fraction rest : List Char}
    (h : splitFraction cs = (fraction, rest)) :
    ∃ r : Option DigitRow, fraction = fractionDigits r ∧ cs = fractionChars r ++ rest := by
  unfold splitFraction at h
  split at h
  · rename_i c tail
    split at h
    · rename_i digit
      obtain ⟨rfl, rfl⟩ := Prod.mk.inj h
      have digits : ∀ d ∈ c :: tail.takeWhile isAsciiDigit, d.isDigit = true :=
        List.forall_mem_cons.mpr ⟨digit, fun _ => List.mem_takeWhile_imp⟩
      refine ⟨some ⟨_, List.cons_ne_nil _ _, digits⟩, rfl, ?_⟩
      rw [fractionChars, List.cons_append, List.cons_append, List.takeWhile_append_dropWhile]
    · obtain ⟨rfl, rfl⟩ := Prod.mk.inj h
      exact ⟨none, rfl, rfl⟩
  · obtain ⟨rfl, rfl⟩ := Prod.mk.inj h
    exact ⟨none, rfl, rfl⟩

theorem exists_of_splitSign (cs : List Char) :
    ∃ sign : ExponentSign, sign.isMinus = (splitSign cs).1 ∧
      cs = sign.chars ++ (splitSign cs).2 := by
  unfold splitSign
  split
  · exact ⟨.minus, rfl, rfl⟩
  · exact ⟨.plus, rfl, rfl⟩
  · exact ⟨.none, rfl, rfl⟩

theorem exists_of_splitExponent {cs rest : List Char} {exponent : Option (Bool × List Char)}
    (h : splitExponent cs = (exponent, rest)) :
    ∃ e : Option ExponentPart, exponent = exponentDigits e ∧ cs = exponentChars e ++ rest := by
  unfold splitExponent at h
  split at h
  · rename_i mark tail
    split at h
    · rename_i isMark
      obtain ⟨sign, minus, signed⟩ := exists_of_splitSign tail
      dsimp only at h
      split at h
      · obtain ⟨rfl, rfl⟩ := Prod.mk.inj h
        exact ⟨none, rfl, rfl⟩
      · rename_i filled
        obtain ⟨rfl, rfl⟩ := Prod.mk.inj h
        refine ⟨some ⟨mark, isMark, sign, _, filled, fun _ => List.mem_takeWhile_imp⟩, ?_, ?_⟩
        · rw [← minus]
          rfl
        · rw [exponentChars, ExponentPart.chars, List.cons_append, List.append_assoc,
            List.takeWhile_append_dropWhile, ← signed]
    · obtain ⟨rfl, rfl⟩ := Prod.mk.inj h
      exact ⟨none, rfl, rfl⟩
  · obtain ⟨rfl, rfl⟩ := Prod.mk.inj h
    exact ⟨none, rfl, rfl⟩

/-- The reader takes a whole text for a number just when it is a literal, and gives what the literal
writes. -/
theorem readNumber_eq_ok_iff {cs : List Char} {v : Json} :
    readNumber cs = .ok (v, []) ↔ ∃ l : NumberLiteral, l.Short ∧ l.chars = cs ∧ l.value = v := by
  constructor
  · intro h
    unfold readNumber at h
    split at h
    rename_i negative body signed
    split at h
    · cases h
    rename_i whole rest hwhole
    obtain ⟨⟨fraction, tail⟩, hfraction⟩ : ∃ parts, splitFraction rest = parts := ⟨_, rfl⟩
    obtain ⟨⟨exponent, left⟩, hexponent⟩ : ∃ parts, splitExponent tail = parts := ⟨_, rfl⟩
    rw [hfraction] at h
    dsimp only at h
    rw [hexponent] at h
    obtain ⟨number, hnumber, heq⟩ := map_eq_ok_iff.mp h
    obtain ⟨rfl, rfl⟩ := Prod.mk.inj heq
    obtain ⟨r, rfl, alone, hbody⟩ := exists_of_splitWhole hwhole
    obtain ⟨f, rfl, hrest⟩ := exists_of_splitFraction hfraction
    obtain ⟨e, rfl, htail⟩ := exists_of_splitExponent hexponent
    let l : NumberLiteral := ⟨negative, r, alone, f, e⟩
    have unsigned : l.unsigned = body := by
      rw [hbody, hrest, htail, List.append_nil]
      rfl
    have parts : l.ofParts = .ok number := hnumber
    obtain ⟨short, value⟩ := NumberLiteral.ofParts_eq_ok_iff.mp parts
    refine ⟨l, short, ?_, value⟩
    rw [NumberLiteral.chars, unsigned]
    split at signed
    · obtain ⟨rfl, rfl⟩ := Prod.mk.inj signed
      rfl
    · obtain ⟨rfl, rfl⟩ := Prod.mk.inj signed
      rfl
  · rintro ⟨l, short, rfl, rfl⟩
    exact NumberLiteral.readNumber_chars short

end LedgerFlow.Json
