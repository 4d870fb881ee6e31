import LedgerFlow.Proofs.Number.Literal
import Mathlib.Data.List.Basic

/-!
Number texts in the digits of any script, as a grammar beside the readers: a row of digits with
single underscores inside, an integer as a sign and a row, and a number with a point as a sign, a
row, the point, perhaps a row, and perhaps a power of ten. The readers take just these texts, each
as the number that the grammar gives it.
-/
namespace LedgerFlow.Number
open Text

/-- A row of digits of any script, with the value of each. -/
inductive ScriptRow : List Char → List Nat → Prop
  | last {c : Char} {d : Nat} (digit : digitValue? c = some d) : ScriptRow [c] [d]
  | next {c : Char} {d : Nat} {cs : List Char} {ds : List Nat} (digit : digitValue? c = some d)
      (later : ScriptRow cs ds) : ScriptRow (c :: cs) (d :: ds)
  | underscore {c : Char} {d : Nat} {cs : List Char} {ds : List Nat}
      (digit : digitValue? c = some d) (later : ScriptRow cs ds) :
      ScriptRow (c :: '_' :: cs) (d :: ds)

variable {cs : List Char} {ds : List Nat} {c : Char}

theorem isDecimal_of_digitValue? {d : Nat}
    (digit : digitValue? c = some d) : isDecimal c = true := by
  rw [isDecimal, digit]
  rfl

namespace ScriptRow

theorem exists_cons (row : ScriptRow cs ds) :
    ∃ first rest, cs = first :: rest ∧ isDecimal first = true := by
  cases row with
  | last digit => exact ⟨_, _, rfl, isDecimal_of_digitValue? digit⟩
  | next digit => exact ⟨_, _, rfl, isDecimal_of_digitValue? digit⟩
  | underscore digit => exact ⟨_, _, rfl, isDecimal_of_digitValue? digit⟩

theorem exists_append (row : ScriptRow cs ds) :
    ∃ front last, cs = front ++ [last] ∧ isDecimal last = true := by
  induction row with
  | last digit => exact ⟨[], _, rfl, isDecimal_of_digitValue? digit⟩
  | @next c _ _ _ digit later ih =>
    obtain ⟨front, last, rfl, decimal⟩ := ih
    exact ⟨c :: front, last, rfl, decimal⟩
  | @underscore c _ _ _ digit later ih =>
    obtain ⟨front, last, rfl, decimal⟩ := ih
    exact ⟨c :: '_' :: front, last, rfl, decimal⟩

theorem mem (row : ScriptRow cs ds) (h : c ∈ cs) : isDecimal c = true ∨ c = '_' := by
  induction row with
  | last digit =>
    obtain rfl := List.mem_singleton.mp h
    exact .inl (isDecimal_of_digitValue? digit)
  | next digit later ih =>
    rcases List.mem_cons.mp h with rfl | h
    · exact .inl (isDecimal_of_digitValue? digit)
    · exact ih h
  | underscore digit later ih =>
    rcases List.mem_cons.mp h with rfl | h
    · exact .inl (isDecimal_of_digitValue? digit)
    · rcases List.mem_cons.mp h with rfl | h
      · exact .inr rfl
      · exact ih h

theorem not_mem (row : ScriptRow cs ds) (noDigit : isDecimal c = false)
    (noUnderscore : c ≠ '_') : c ∉ cs := by
  intro h
  rcases row.mem h with digit | underscore
  · rw [noDigit] at digit
    cases digit
  · exact noUnderscore underscore

theorem digitRow?_eq (row : ScriptRow cs ds) : digitRow? cs = some ds := by
  induction row with
  | last digit =>
    unfold digitRow?
    rw [digit]
  | @next c d cs ds digit later ih =>
    obtain ⟨first, rest, rfl, decimal⟩ := later.exists_cons
    have noUnderscore : first ≠ '_' := by
      rintro rfl
      cases decimal
    unfold digitRow?
    simp only [digit, if_neg noUnderscore, ih, Option.map_some]
  | underscore digit later ih =>
    unfold digitRow?
    simp only [digit, ↓reduceIte, ih, Option.map_some]

end ScriptRow

theorem digitRow?_eq_some_iff : digitRow? cs = some ds ↔ ScriptRow cs ds := by
  refine ⟨fun read => ?_, ScriptRow.digitRow?_eq⟩
  fun_induction digitRow? cs generalizing ds with
  | case1 => cases read
  | case2 => cases read
  | case3 c d digit =>
    obtain rfl := Option.some.inj read
    exact .last digit
  | case4 c d tail digit ih =>
    obtain ⟨later, row, rfl⟩ := Option.map_eq_some_iff.mp read
    exact .underscore digit (ih row)
  | case5 c d next tail digit other ih =>
    obtain ⟨later, row, rfl⟩ := Option.map_eq_some_iff.mp read
    exact .next digit (ih row)

inductive OptionalRow : List Char → List Nat → Prop
  | absent : OptionalRow [] []
  | given {cs : List Char} {ds : List Nat} (row : ScriptRow cs ds) : OptionalRow cs ds

theorem OptionalRow.not_mem (row : OptionalRow cs ds) (noDigit : isDecimal c = false)
    (noUnderscore : c ≠ '_') : c ∉ cs := by
  cases row with
  | absent => exact List.not_mem_nil
  | given row => exact row.not_mem noDigit noUnderscore

theorem optionalRow?_eq_some_iff : optionalRow? cs = some ds ↔ OptionalRow cs ds := by
  cases cs with
  | nil =>
    constructor
    · rintro ⟨⟩
      exact .absent
    · rintro (_ | row)
      · rfl
      · obtain ⟨_, _, filled, -⟩ := row.exists_cons
        cases filled
  | cons c cs =>
    rw [optionalRow?, List.isEmpty_cons, if_neg Bool.false_ne_true, digitRow?_eq_some_iff]
    refine ⟨.given, ?_⟩
    rintro (_ | row)
    exact row

/-! Signs. -/

def ExponentSign.signed (sign : ExponentSign) (n : Nat) : Int :=
  if sign.isMinus then -(n : Int) else n

theorem splitSign_append {sign : ExponentSign} (unsigned : ∀ c ∈ cs.head?, c ≠ '-' ∧ c ≠ '+') :
    splitSign (sign.chars ++ cs) = (sign.isMinus, cs) := by
  cases sign with
  | none =>
    change splitSign cs = (false, cs)
    unfold splitSign
    split
    · exact absurd rfl (unsigned '-' rfl).1
    · exact absurd rfl (unsigned '+' rfl).2
    · rfl
  | plus => rfl
  | minus => rfl

theorem exists_splitSign (cs : List Char) :
    ∃ (sign : ExponentSign) (body : List Char), cs = sign.chars ++ body ∧
      splitSign cs = (sign.isMinus, body) := by
  unfold splitSign
  split
  · exact ⟨.minus, _, rfl, rfl⟩
  · exact ⟨.plus, _, rfl, rfl⟩
  · exact ⟨.none, _, rfl, rfl⟩

theorem ScriptRow.splitSign_append (row : ScriptRow cs ds) (sign : ExponentSign)
    (rest : List Char) :
    splitSign (sign.chars ++ (cs ++ rest)) = (sign.isMinus, cs ++ rest) := by
  obtain ⟨first, tail, rfl, decimal⟩ := row.exists_cons
  refine Number.splitSign_append ?_
  rintro _ ⟨⟩
  constructor <;> (rintro rfl; cases decimal)

/-! Integers. -/

/-- A sign and a row that is not too long. -/
inductive ScriptInteger : List Char → Int → Prop
  | of (sign : ExponentSign) {cs : List Char} {ds : List Nat} (row : ScriptRow cs ds)
      (short : ds.length ≤ digitLimit) :
      ScriptInteger (sign.chars ++ cs) (sign.signed (ofDigits ds))

theorem integer?_eq_some_iff {n : Int} : integer? cs = some n ↔ ScriptInteger cs n := by
  constructor
  · intro read
    obtain ⟨sign, body, rfl, split⟩ := exists_splitSign cs
    rw [integer?, split] at read
    dsimp only at read
    cases row : digitRow? body with
    | none =>
      rw [row] at read
      cases read
    | some ds =>
      rw [row] at read
      obtain ⟨short, value⟩ := Option.ite_none_right_eq_some.mp read
      obtain rfl := Option.some.inj value
      exact .of sign (digitRow?_eq_some_iff.mp row) short
  · rintro ⟨sign, row, short⟩
    have split := row.splitSign_append sign []
    rw [List.append_nil] at split
    simp only [integer?, split, row.digitRow?_eq, if_pos short]
    rfl

/-! Numbers with a point. -/

inductive ScriptPower : List Char → Int → Prop
  | absent : ScriptPower [] 0
  | given {mark : Char} (isMark : isExponentMark mark = true) (sign : ExponentSign) {cs : List Char}
      {ds : List Nat} (row : ScriptRow cs ds) :
      ScriptPower (mark :: (sign.chars ++ cs)) (sign.signed (ofDigits ds))

inductive ScriptFraction : List Char → Binary64 → Prop
  | of (sign : ExponentSign) {whole fraction power : List Char} {ds es : List Nat} {e : Int}
      (row : ScriptRow whole ds) (behind : OptionalRow fraction es) (tens : ScriptPower power e) :
      ScriptFraction (sign.chars ++ (whole ++ '.' :: (fraction ++ power)))
        (.ofDecimal sign.isMinus (ofDigits (ds ++ es)) (e - es.length))

theorem not_mem_chars_point (sign : ExponentSign) : '.' ∉ sign.chars := by
  cases sign <;> decide

theorem ScriptPower.not_mem_point {e : Int} (tens : ScriptPower cs e) : '.' ∉ cs := by
  cases tens with
  | absent => exact List.not_mem_nil
  | given isMark sign row =>
    intro h
    rcases List.mem_cons.mp h with rfl | h
    · cases isMark
    · rcases List.mem_append.mp h with h | h
      · exact not_mem_chars_point sign h
      · exact row.not_mem (by decide) (by decide) h

theorem ScriptPower.exponent?_eq {e : Int} (tens : ScriptPower cs e) : exponent? cs = some e := by
  cases tens with
  | absent => rfl
  | given isMark sign row =>
    have split := row.splitSign_append sign []
    rw [List.append_nil] at split
    simp only [exponent?, split, row.digitRow?_eq, Option.map_some]
    rfl

theorem scriptPower_of_exponent? {e : Int} (marked : ∀ c ∈ cs.head?, isExponentMark c = true)
    (read : exponent? cs = some e) : ScriptPower cs e := by
  cases cs with
  | nil =>
    obtain rfl := Option.some.inj read
    exact .absent
  | cons mark rest =>
    obtain ⟨sign, body, rfl, split⟩ := exists_splitSign rest
    simp only [exponent?, split] at read
    obtain ⟨ds, row, rfl⟩ := Option.map_eq_some_iff.mp read
    exact .given (marked mark rfl) sign (digitRow?_eq_some_iff.mp row)

theorem ScriptPower.stops {e : Int} (tens : ScriptPower cs e) :
    Stops (fun c => !isExponentMark c) cs := by
  cases tens with
  | absent => exact stops_nil _
  | given isMark sign row => exact stops_cons (by rw [isMark, Bool.not_true]) _

theorem OptionalRow.plain (row : OptionalRow cs ds) (h : c ∈ cs) :
    (!isExponentMark c) = true ∧ decide (c ≠ '.') = true := by
  rw [Bool.not_eq_true', decide_eq_true_eq]
  constructor
  · by_contra mark
    rcases eq_of_isExponentMark (Bool.of_not_eq_false mark) with rfl | rfl <;>
      exact row.not_mem (by decide) (by decide) h
  · rintro rfl
    exact row.not_mem (by decide) (by decide) h

theorem ScriptFraction.float?_eq {x : Binary64}
    (number : ScriptFraction cs x) : float? cs = some x := by
  obtain @⟨sign, whole, fraction, power, ds, es, e, row, behind, tens⟩ := number
  have front := OptionalRow.given row
  have split := row.splitSign_append sign ('.' :: (fraction ++ power))
  have cut : whole ++ '.' :: (fraction ++ power) = (whole ++ '.' :: fraction) ++ power := by
    rw [List.append_assoc, List.cons_append]
  have unmarked : ∀ c ∈ whole ++ '.' :: fraction, (!isExponentMark c) = true := by
    intro c hc
    rcases List.mem_append.mp hc with hc | hc
    · exact (front.plain hc).1
    · rcases List.mem_cons.mp hc with rfl | hc
      · rfl
      · exact (behind.plain hc).1
  have mantissa := takeWhile_append_of_stops unmarked tens.stops
  have exponent := dropWhile_append_of_stops unmarked tens.stops
  have pointed : Stops (· ≠ '.') ('.' :: fraction) := stops_cons rfl _
  have before := takeWhile_append_of_stops (fun _ hc => (front.plain hc).2) pointed
  have after := dropWhile_append_of_stops (fun _ hc => (front.plain hc).2) pointed
  have filled : ds.isEmpty = false := by cases row <;> rfl
  rw [float?, split, cut]
  dsimp only
  rw [mantissa, exponent, before, after, List.drop_succ_cons, List.drop_zero,
    optionalRow?_eq_some_iff.mpr front, optionalRow?_eq_some_iff.mpr behind, tens.exponent?_eq]
  simp only [filled, Bool.false_and, if_neg Bool.false_ne_true]

theorem stops_dropWhile (p : Char → Bool) (cs : List Char) : Stops p (cs.dropWhile p) := by
  intro c hc
  have first := List.head?_dropWhile_not p cs
  rw [Option.mem_def.mp hc] at first
  exact first

theorem exists_parts_of_float? {x : Binary64} (read : float? cs = some x) :
    ∃ (sign : ExponentSign) (before rest power : List Char) (ds es : List Nat) (e : Int),
      cs = sign.chars ++ (before ++ (rest ++ power)) ∧ OptionalRow before ds ∧
        Stops (· ≠ '.') rest ∧
      OptionalRow (rest.drop 1) es ∧ ScriptPower power e ∧
      x = .ofDecimal sign.isMinus (ofDigits (ds ++ es)) (e - es.length) := by
  obtain ⟨sign, body, rfl, split⟩ := exists_splitSign cs
  have marked := stops_dropWhile (fun c => !isExponentMark c) body
  have mantissa := List.takeWhile_append_dropWhile (p := fun c => !isExponentMark c) (l := body)
  rw [float?, split] at read
  dsimp only at read
  generalize body.takeWhile (fun c => !isExponentMark c) = number at read mantissa
  generalize body.dropWhile (fun c => !isExponentMark c) = power at read mantissa marked
  have whole := List.takeWhile_append_dropWhile (p := (· ≠ '.')) (l := number)
  have first := stops_dropWhile (· ≠ '.') number
  generalize number.takeWhile (· ≠ '.') = before at read whole
  generalize number.dropWhile (· ≠ '.') = rest at read whole first
  split at read
  case h_2 => cases read
  rename_i ds es e readRow readRest readPower
  obtain ⟨-, value⟩ := Option.ite_none_left_eq_some.mp read
  have tens := scriptPower_of_exponent? (fun c hc => by simpa using marked c hc) readPower
  refine ⟨sign, before, rest, power, ds, es, e, ?_, optionalRow?_eq_some_iff.mp readRow, first,
    optionalRow?_eq_some_iff.mp readRest, tens, (Option.some.inj value).symm⟩
  rw [← mantissa, ← whole, List.append_assoc]

theorem scriptFraction_of_float? {x : Binary64} {front back : List Char}
    (pointed : cs = front ++ c :: '.' :: back) (digit : isDecimal c = true)
    (read : float? cs = some x) : ScriptFraction cs x := by
  obtain ⟨sign, before, rest, power, ds, es, e, rfl, row, first, behind, tens, rfl⟩ :=
    exists_parts_of_float? read
  have inPower := tens.not_mem_point
  have inRow : '.' ∉ before := row.not_mem (by decide) (by decide)
  have inSign := not_mem_chars_point sign
  cases rest with
  | nil =>
    -- Without a point behind the first row there is none at all.
    have point : '.' ∈ sign.chars ++ (before ++ ([] ++ power)) := pointed ▸ by simp
    simp [inPower, inRow, inSign] at point
  | cons mark fraction =>
    obtain rfl : mark = '.' := by simpa using first mark rfl
    rw [List.cons_append] at pointed ⊢
    cases row with
    | given row => exact .of sign row behind tens
    | absent =>
      have later : '.' ∉ fraction ++ power := by
        have inFraction : '.' ∉ fraction := behind.not_mem (by decide) (by decide)
        simp [inFraction, inPower]
      -- Then the digit before the point would be the sign.
      have cut : (front ++ [c]) ++ '.' :: back = sign.chars ++ '.' :: (fraction ++ power) := by
        rw [List.append_assoc]
        exact pointed.symm
      obtain ⟨signed, -⟩ := (List.append_cons_inj_of_notMem inSign later).mp cut.symm
      have own : c ∈ sign.chars := signed ▸ List.mem_append_right front List.mem_cons_self
      cases sign with
      | none => cases own
      | plus | minus =>
        obtain rfl := List.mem_singleton.mp own
        cases digit

end LedgerFlow.Number
