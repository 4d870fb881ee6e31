import LedgerFlow.Number.Decimal
import LedgerFlow.Proofs.Number.Integer
import Mathlib.Data.List.TakeWhile

/-!
Number literals: an optional minus, a whole part without leading zeros, and behind it perhaps a
fraction and perhaps an exponent. As a floating-point number each of them can be read; as an integer
only one with neither of the two.
-/
namespace LedgerFlow.Number
open Text

/-! Cutting a text where a test first fails. -/

/-- The text does not start with a character that passes the test. -/
def Stops (p : Char → Bool) (cs : List Char) : Prop := ∀ c ∈ cs.head?, p c = false

theorem stops_nil (p : Char → Bool) : Stops p [] := nofun

theorem stops_cons {p : Char → Bool} {c : Char} (h : p c = false)
    (cs : List Char) : Stops p (c :: cs) := by
  rintro _ ⟨⟩
  exact h

theorem Stops.mono {p q : Char → Bool} {cs : List Char} (stops : Stops q cs)
    (wider : ∀ c, p c = true → q c = true) : Stops p cs := by
  intro c hc
  by_contra passes
  have ends := stops c hc
  rw [wider c (Bool.of_not_eq_false passes)] at ends
  cases ends

section
variable {p : Char → Bool} {cs rest : List Char}

theorem takeWhile_append_of_stops (passes : ∀ c ∈ cs, p c = true) (stops : Stops p rest) :
    (cs ++ rest).takeWhile p = cs := by
  rw [List.takeWhile_append_of_pos passes]
  cases rest with
  | nil => simp
  | cons c rest => simp [stops c rfl]

theorem dropWhile_append_of_stops (passes : ∀ c ∈ cs, p c = true) (stops : Stops p rest) :
    (cs ++ rest).dropWhile p = rest := by
  rw [List.dropWhile_append_of_pos passes]
  cases rest with
  | nil => rfl
  | cons c rest => simp [stops c rfl]

end

/-! The grammar. -/

structure DigitRow where
  chars : List Char
  filled : chars ≠ []
  digits : ∀ c ∈ chars, c.isDigit = true

namespace DigitRow

def values (r : DigitRow) : List Nat := r.chars.map fun c => c.toNat - '0'.toNat

def number (r : DigitRow) : Nat := ofDigits r.values

theorem digitRow?_chars (r : DigitRow) : digitRow? r.chars = some r.values :=
  digitRow?_of_digits r.filled r.digits

theorem optionalRow?_chars (r : DigitRow) : optionalRow? r.chars = some r.values := by
  rw [optionalRow?, if_neg (by simpa using r.filled), r.digitRow?_chars]

theorem splitSign_append (r : DigitRow) (cs : List Char) :
    splitSign (r.chars ++ cs) = (false, r.chars ++ cs) := by
  obtain ⟨_ | ⟨c, rest⟩, filled, digits⟩ := r
  · exact absurd rfl filled
  · exact splitSign_of_isDigit (digits c List.mem_cons_self) (rest ++ cs)

theorem digitRow?_append_cons (r : DigitRow) {c : Char} (noDigit : digitValue? c = none)
    (noUnderscore : c ≠ '_') (cs : List Char) : digitRow? (r.chars ++ c :: cs) = none := by
  obtain ⟨chars, filled, digits⟩ := r
  induction chars with
  | nil => exact absurd rfl filled
  | cons first rest ih =>
    obtain ⟨digit, later⟩ := List.forall_mem_cons.mp digits
    have value := digitValue?_of_isDigit digit
    cases rest with
    | nil =>
      have stops : digitRow? (c :: cs) = none := by
        unfold digitRow?
        rw [noDigit]
      unfold digitRow?
      simp only [List.cons_append, List.nil_append, value, if_neg noUnderscore, stops,
        Option.map_none]
    | cons next tail =>
      have passes : next ≠ '_' := by
        rintro rfl
        exact absurd (later '_' List.mem_cons_self) (by decide)
      have stops : digitRow? (next :: (tail ++ c :: cs)) = none := ih (List.cons_ne_nil _ _) later
      unfold digitRow?
      simp only [List.cons_append, value, if_neg passes, stops, Option.map_none]

end DigitRow

inductive ExponentSign where
  | none
  | plus
  | minus

def ExponentSign.chars : ExponentSign → List Char
  | .none => []
  | .plus => ['+']
  | .minus => ['-']

def ExponentSign.isMinus : ExponentSign → Bool
  | .minus => true
  | _ => false

structure ExponentPart where
  mark : Char
  isMark : isExponentMark mark = true
  sign : ExponentSign
  row : DigitRow

def ExponentPart.chars (e : ExponentPart) : List Char := e.mark :: (e.sign.chars ++ e.row.chars)

def ExponentPart.value (e : ExponentPart) : Int :=
  if e.sign.isMinus then -(e.row.number : Int) else e.row.number

theorem ExponentPart.splitSign_chars (e : ExponentPart) :
    splitSign (e.sign.chars ++ e.row.chars) = (e.sign.isMinus, e.row.chars) := by
  cases e.sign with
  | none =>
    have unsigned := e.row.splitSign_append []
    rw [List.append_nil] at unsigned
    exact unsigned
  | plus => rfl
  | minus => rfl

theorem ExponentPart.exponent?_chars (e : ExponentPart) : exponent? e.chars = some e.value := by
  simp only [exponent?, chars, splitSign_chars, e.row.digitRow?_chars, Option.map_some]
  rfl

theorem eq_of_isExponentMark {c : Char} (h : isExponentMark c = true) : c = 'e' ∨ c = 'E' := by
  rwa [isExponentMark, Bool.or_eq_true, decide_eq_true_eq, decide_eq_true_eq] at h

def fractionChars : Option DigitRow → List Char
  | none => []
  | some row => '.' :: row.chars

def fractionValues (fraction : Option DigitRow) : List Nat := (fraction.map DigitRow.values).getD []

def exponentChars : Option ExponentPart → List Char
  | none => []
  | some e => e.chars

def exponentValue (exponent : Option ExponentPart) : Int := (exponent.map ExponentPart.value).getD 0

structure NumberLiteral where
  negative : Bool := false
  whole : DigitRow
  noLeadingZero : whole.chars.head? = some '0' → whole.chars = ['0']
  fraction : Option DigitRow := none
  exponent : Option ExponentPart := none

namespace NumberLiteral

def unsigned (l : NumberLiteral) : List Char :=
  l.whole.chars ++ (fractionChars l.fraction ++ exponentChars l.exponent)

def chars (l : NumberLiteral) : List Char := if l.negative then '-' :: l.unsigned else l.unsigned

def isWhole (l : NumberLiteral) : Bool := l.fraction.isNone && l.exponent.isNone

def integer (l : NumberLiteral) : Int :=
  if l.negative then -(l.whole.number : Int) else l.whole.number

/-- The floating-point number nearest to the one that the literal writes: all its digits, times a
power of ten. -/
def nearest (l : NumberLiteral) : Binary64 :=
  .ofDecimal l.negative (ofDigits (l.whole.values ++ fractionValues l.fraction))
    (exponentValue l.exponent - (fractionValues l.fraction).length)

end NumberLiteral

/-! The characters of a literal. -/

section
variable {c : Char}

theorem isExponentMark_of_isDigit (h : c.isDigit = true) : isExponentMark c = false := by
  rw [isExponentMark, Bool.or_eq_false_iff, decide_eq_false_iff_not, decide_eq_false_iff_not]
  constructor <;> rintro rfl <;> cases h

theorem mem_fractionChars {fraction : Option DigitRow} (h : c ∈ fractionChars fraction) :
    c.isDigit = true ∨ c = '.' := by
  cases fraction with
  | none => cases h
  | some row =>
    rcases List.mem_cons.mp h with point | digit
    · exact .inr point
    · exact .inl (row.digits c digit)

theorem mem_exponentChars {exponent : Option ExponentPart} (h : c ∈ exponentChars exponent) :
    c.isDigit = true ∨ c ∈ ['+', '-', 'e', 'E'] := by
  cases exponent with
  | none => cases h
  | some e =>
    rcases List.mem_cons.mp h with rfl | h
    · rcases eq_of_isExponentMark e.isMark with e | e <;> simp [e]
    rcases List.mem_append.mp h with sign | digit
    · unfold ExponentSign.chars at sign
      split at sign <;> simp_all
    · exact .inl (e.row.digits c digit)

end

theorem stops_exponentChars {p : Char → Bool} (e : p 'e' = false) (capital : p 'E' = false)
    (exponent : Option ExponentPart) : Stops p (exponentChars exponent) := by
  cases exponent with
  | none => exact stops_nil p
  | some given =>
    refine stops_cons ?_ _
    rcases eq_of_isExponentMark given.isMark with mark | mark
    · rw [mark, e]
    · rw [mark, capital]

theorem stops_fractionChars {p : Char → Bool} (point : p '.' = false) {rest : List Char}
    (stops : Stops p rest) (fraction : Option DigitRow) :
    Stops p (fractionChars fraction ++ rest) := by
  cases fraction with
  | none => exact stops
  | some row => exact stops_cons point _

namespace NumberLiteral
variable {l : NumberLiteral} {c : Char}

theorem splitSign_chars (l : NumberLiteral) : splitSign l.chars = (l.negative, l.unsigned) := by
  unfold chars
  cases l.negative with
  | true => rfl
  | false => exact l.whole.splitSign_append _

theorem mem_chars_iff : c ∈ l.chars ↔ l.negative = true ∧ c = '-' ∨ c ∈ l.unsigned := by
  unfold chars
  cases l.negative <;> simp

theorem mem_chars (h : c ∈ l.chars) : c.isDigit = true ∨ c ∈ ['.', '+', '-', 'e', 'E'] := by
  rcases mem_chars_iff.mp h with ⟨-, rfl⟩ | h
  · exact .inr (by decide)
  rcases List.mem_append.mp h with h | h
  · exact .inl (l.whole.digits c h)
  rcases List.mem_append.mp h with h | h
  · exact (mem_fractionChars h).imp_right fun point => List.mem_cons.mpr (.inl point)
  · exact (mem_exponentChars h).imp_right (List.mem_cons_of_mem _)

theorem isBlank_of_mem_chars (h : c ∈ l.chars) : isBlank c = false := by
  have others : ∀ c ∈ ['.', '+', '-', 'e', 'E'], isBlank c = false := by
    simp only [List.forall_mem_cons]
    exact ⟨rfl, rfl, rfl, rfl, rfl, nofun⟩
  rcases mem_chars h with digit | other
  · exact isBlank_of_isDigit digit
  · exact others c other

theorem point_mem_chars : '.' ∈ l.chars ↔ l.fraction.isSome = true := by
  have inWhole : '.' ∉ l.whole.chars := fun h => absurd (l.whole.digits '.' h) (by decide)
  have inExponent : '.' ∉ exponentChars l.exponent := by
    intro h
    rcases mem_exponentChars h with digit | other
    · exact absurd digit (by decide)
    · exact absurd other (by decide)
  have inFraction : '.' ∈ fractionChars l.fraction ↔ l.fraction.isSome = true := by
    cases l.fraction <;> simp [fractionChars]
  rw [mem_chars_iff, unsigned, List.mem_append, List.mem_append, ← inFraction]
  simp [inWhole, inExponent]

/-! As a floating-point number. -/

theorem isExponentMark_of_mem_mantissa (h : c ∈ l.whole.chars ++ fractionChars l.fraction) :
    (!isExponentMark c) = true := by
  rw [Bool.not_eq_true']
  rcases List.mem_append.mp h with h | h
  · exact isExponentMark_of_isDigit (l.whole.digits c h)
  · rcases mem_fractionChars h with digit | rfl
    · exact isExponentMark_of_isDigit digit
    · rfl

theorem ne_point_of_mem_whole (h : c ∈ l.whole.chars) : decide (c ≠ '.') = true := by
  rw [decide_eq_true_eq]
  rintro rfl
  exact absurd (l.whole.digits '.' h) (by decide)

theorem optionalRow?_fractionChars (fraction : Option DigitRow) :
    optionalRow? ((fractionChars fraction).drop 1) = some (fractionValues fraction) := by
  cases fraction with
  | none => rfl
  | some row => exact row.optionalRow?_chars

theorem exponent?_exponentChars (exponent : Option ExponentPart) :
    exponent? (exponentChars exponent) = some (exponentValue exponent) := by
  cases exponent with
  | none => rfl
  | some e => exact e.exponent?_chars

/-- Every literal reads as a floating-point number, and as the one nearest to what it writes. -/
theorem float?_chars (l : NumberLiteral) : float? l.chars = some l.nearest := by
  have cut : l.unsigned = (l.whole.chars ++ fractionChars l.fraction) ++ exponentChars l.exponent :=
    (List.append_assoc ..).symm
  have marked := stops_exponentChars (p := fun c => !isExponentMark c) rfl rfl l.exponent
  have mantissa : l.unsigned.takeWhile (fun c => !isExponentMark c) =
      l.whole.chars ++ fractionChars l.fraction := by
    rw [cut, takeWhile_append_of_stops (fun _ => isExponentMark_of_mem_mantissa) marked]
  have exponent : l.unsigned.dropWhile (fun c => !isExponentMark c) = exponentChars l.exponent := by
    rw [cut, dropWhile_append_of_stops (fun _ => isExponentMark_of_mem_mantissa) marked]
  have pointed : Stops (· ≠ '.') (fractionChars l.fraction) := by
    have stops := stops_fractionChars (p := (· ≠ '.')) rfl (stops_nil _) l.fraction
    rwa [List.append_nil] at stops
  have whole : (l.whole.chars ++ fractionChars l.fraction).takeWhile (· ≠ '.') = l.whole.chars :=
    takeWhile_append_of_stops (fun _ => ne_point_of_mem_whole) pointed
  have fraction : (l.whole.chars ++ fractionChars l.fraction).dropWhile (· ≠ '.') =
      fractionChars l.fraction :=
    dropWhile_append_of_stops (fun _ => ne_point_of_mem_whole) pointed
  have filled : l.whole.values.isEmpty = false := by
    simpa [DigitRow.values] using l.whole.filled
  simp only [float?, splitSign_chars, mantissa, exponent, whole, fraction,
    l.whole.optionalRow?_chars, optionalRow?_fractionChars, exponent?_exponentChars, filled,
      Bool.false_and, if_neg Bool.false_ne_true]
  rfl

/-! As an integer. -/

theorem unsigned_of_isWhole (plain : l.isWhole = true) : l.unsigned = l.whole.chars := by
  rw [isWhole, Bool.and_eq_true, Option.isNone_iff_eq_none, Option.isNone_iff_eq_none] at plain
  obtain ⟨noFraction, noExponent⟩ := plain
  rw [unsigned, noFraction, noExponent, fractionChars, exponentChars, List.append_nil,
    List.append_nil]

theorem integer?_of_isWhole (plain : l.isWhole = true) (short : l.whole.chars.length ≤ digitLimit) :
    integer? l.chars = some l.integer := by
  have short : l.whole.values.length ≤ digitLimit := by
    rwa [DigitRow.values, List.length_map]
  simp only [integer?, splitSign_chars, unsigned_of_isWhole plain, l.whole.digitRow?_chars,
    if_pos short]
  rfl

theorem integer?_of_exponent (noFraction : l.fraction = none) {e : ExponentPart}
    (given : l.exponent = some e) : integer? l.chars = none := by
  have unsigned : l.unsigned = l.whole.chars ++ e.mark :: (e.sign.chars ++ e.row.chars) := by
    rw [NumberLiteral.unsigned, noFraction, given]
    rfl
  have mark : digitValue? e.mark = none ∧ e.mark ≠ '_' := by
    rcases eq_of_isExponentMark e.isMark with e | e <;> rw [e] <;> decide
  simp only [integer?, splitSign_chars, unsigned, l.whole.digitRow?_append_cons mark.1 mark.2]

end NumberLiteral

end LedgerFlow.Number
