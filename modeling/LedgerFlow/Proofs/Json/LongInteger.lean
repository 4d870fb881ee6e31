import LedgerFlow.Proofs.Json.NumberLiteral
import LedgerFlow.Proofs.Json.Reader
import Mathlib.Data.List.Infix

/-!
Texts that are refused for an integer. The readers leave an end of the text that they are given, so
where one of them comes upon too many digits, these stand in a row in the text as a whole.
-/
namespace LedgerFlow.Json
open Number Text

/-- So many digits stand in a row somewhere in the text, and an integer may not have that many. -/
structure LongRow (count : Nat) (cs : List Char) : Prop where
  long : digitLimit < count
  row : ∃ digits, digits <:+: cs ∧ digits.length = count ∧ ∀ d ∈ digits, isAsciiDigit d = true

theorem LongRow.mono {count : Nat} {cs rest : List Char} (h : LongRow count rest)
    (sub : rest <:+ cs) : LongRow count cs := by
  obtain ⟨digits, inside, length, each⟩ := h.row
  exact ⟨h.long, digits, inside.trans sub.isInfix, length, each⟩

/-- What reading a text can come to: an end of the text is left, or the text is refused, for too
many digits only where it has them. -/
inductive Leaves {α : Type} (cs : List Char) : Reader α → Prop
  | value {a : α} {rest : List Char} (left : rest <:+ cs) : Leaves cs (.ok (a, rest))
  | fault {fault : Fault} {remaining : Nat} : Leaves cs (.error (.fault fault remaining))
  | tooLong {count : Nat} (row : LongRow count cs) : Leaves cs (.error (.tooManyDigits count))

namespace Leaves
variable {α β : Type} {cs more : List Char}

theorem mono {r : Reader α} (h : Leaves cs r) (sub : cs <:+ more) : Leaves more r := by
  cases h with
  | value left => exact .value (left.trans sub)
  | fault => exact .fault
  | tooLong row => exact .tooLong (row.mono sub)

theorem map {r : Reader α} (h : Leaves cs r) (f : α → β) :
    Leaves cs (r.map fun p => (f p.1, p.2)) := by
  cases h with
  | value left => exact .value left
  | fault => exact .fault
  | tooLong row => exact .tooLong row

theorem error {e : Refusal} (h : Leaves cs (.error e : Reader α)) :
    Leaves cs (.error e : Reader β) := by
  cases h with
  | fault => exact .fault
  | tooLong row => exact .tooLong row

theorem left {a : α} {rest : List Char}
    (h : Leaves cs (.ok (a, rest) : Reader α)) : rest <:+ cs := by
  cases h
  assumption

end Leaves

theorem skipGap_suffix (cs : List Char) : skipGap cs <:+ cs := List.dropWhile_suffix _

theorem suffix_of_skipGap {c : Char} {cs rest : List Char}
    (h : skipGap cs = c :: rest) : rest <:+ cs :=
  (List.suffix_cons c rest).trans (h ▸ skipGap_suffix cs)

theorem escape_error {cs : List Char} {e : Refusal} (h : escape cs = .error e) :
    ∃ fault remaining, e = .fault fault remaining := by
  unfold escape unicodeEscape refuse at h
  split at h
  · split at h
    · split_ifs at h
      · exact ⟨_, _, (Except.error.inj h).symm⟩
      · split at h
        · exact ⟨_, _, (Except.error.inj h).symm⟩
        · split_ifs at h
          split at h
          · split at h
            · exact ⟨_, _, (Except.error.inj h).symm⟩
            · cases h
          · cases h
    · exact ⟨_, _, (Except.error.inj h).symm⟩
  · split at h
    · cases h
    · exact ⟨_, _, (Except.error.inj h).symm⟩
  · exact ⟨_, _, (Except.error.inj h).symm⟩

theorem leaves_readText (opening skip : Nat) (cs : List Char) :
    Leaves cs (readText opening skip cs) := by
  induction cs generalizing skip with
  | nil => cases skip <;> exact .fault
  | cons c cs ih =>
    have later (skip : Nat) : Leaves (c :: cs) (readText opening skip cs) :=
      (ih skip).mono (List.suffix_cons c cs)
    cases skip with
    | succ skip => exact later skip
    | zero =>
      rw [readText]
      split_ifs with quote escaped nothing control
      · exact .value (List.suffix_cons c cs)
      · exact .fault
      · cases hescape : escape cs with
        | error e =>
          obtain ⟨fault, remaining, rfl⟩ := escape_error hescape
          exact .fault
        | ok pair => exact (later pair.2).map (pair.1 :: ·)
      · exact .fault
      · exact (later 0).map (c :: ·)

/-! Numbers. -/

theorem splitFraction_suffix (cs : List Char) : (splitFraction cs).2 <:+ cs := by
  have split : splitFraction cs = ((splitFraction cs).1, (splitFraction cs).2) := rfl
  obtain ⟨_, -, parts⟩ := exists_of_splitFraction split
  exact ⟨_, parts.symm⟩

theorem splitExponent_suffix (cs : List Char) : (splitExponent cs).2 <:+ cs := by
  have split : splitExponent cs = ((splitExponent cs).1, (splitExponent cs).2) := rfl
  obtain ⟨_, -, parts⟩ := exists_of_splitExponent split
  exact ⟨_, parts.symm⟩

theorem numberOf_cases (negative : Bool) (whole fraction : List Char)
    (exponent : Option (Bool × List Char)) :
    (∃ v, numberOf negative whole fraction exponent = .ok v) ∨
      digitLimit < whole.length ∧ numberOf negative whole fraction exponent =
        .error (.tooManyDigits whole.length) := by
  unfold numberOf
  split
  · split
    · exact .inl ⟨_, rfl⟩
    · rename_i long
      exact .inr ⟨Nat.lt_of_not_le long, rfl⟩
  · exact .inl ⟨_, rfl⟩

private theorem leaves_unsigned {cs body : List Char} (sub : body <:+ cs) (negative : Bool) :
    Leaves cs (match splitWhole body with
      | none => refuse .expectingValue cs
      | some (whole, rest) =>
        (numberOf negative whole (splitFraction rest).1
          (splitExponent (splitFraction rest).2).1).map
          (·, (splitExponent (splitFraction rest).2).2)) := by
  cases split : splitWhole body with
  | none => exact .fault
  | some parts =>
    obtain ⟨whole, rest⟩ := parts
    obtain ⟨r, rfl, -, rfl⟩ := exists_of_splitWhole split
    dsimp only
    rcases numberOf_cases negative r.chars (splitFraction rest).1
      (splitExponent (splitFraction rest).2).1 with
      ⟨v, hv⟩ | ⟨long, hlong⟩
    · rw [hv]
      refine .value (List.IsSuffix.trans ?_ sub)
      exact (splitExponent_suffix _).trans ((splitFraction_suffix _).trans (List.suffix_append _ _))
    · rw [hlong]
      exact .tooLong ⟨long, r.chars, (List.prefix_append _ _).isInfix.trans sub.isInfix,
        rfl, r.digits⟩

theorem leaves_readNumber (cs : List Char) : Leaves cs (readNumber cs) := by
  unfold readNumber
  split
  rename_i negative body signed
  have sub : body <:+ cs := by
    split at signed
    · obtain ⟨-, rfl⟩ := Prod.mk.inj signed
      exact List.suffix_cons _ _
    · obtain ⟨-, rfl⟩ := Prod.mk.inj signed
      exact List.suffix_refl _
  exact leaves_unsigned sub negative

/-! Values. -/

structure ReadersLeave (fuel : Nat) : Prop where
  value : ∀ cs, Leaves cs (readValue fuel cs)
  items : ∀ cs, Leaves cs (readItems fuel cs)
  fields : ∀ cs, Leaves cs (readFields fuel cs)

theorem ReadersLeave.step_value {fuel : Nat} (h : ReadersLeave fuel) (cs : List Char) :
    Leaves cs (readValue (fuel + 1) cs) := by
  have literal (word : List Char) {v : Json} {rest : List Char} : Leaves (word ++ rest)
      (.ok (v, rest) : Reader Json) :=
    .value (List.suffix_append word rest)
  unfold readValue
  split
  · exact ((leaves_readText _ 0 _).mono (List.suffix_cons _ _)).map fun s => text (String.ofList s)
  · split
    · rename_i closed
      exact .value ((suffix_of_skipGap closed).trans (List.suffix_cons _ _))
    · exact ((h.fields _).mono ((skipGap_suffix _).trans (List.suffix_cons _ _))).map fun fields =>
        object (Table.ofPairs fields)
  · split
    · rename_i closed
      exact .value ((suffix_of_skipGap closed).trans (List.suffix_cons _ _))
    · exact ((h.items _).mono ((skipGap_suffix _).trans (List.suffix_cons _ _))).map array
  · exact literal ['n', 'u', 'l', 'l']
  · exact literal ['t', 'r', 'u', 'e']
  · exact literal ['f', 'a', 'l', 's', 'e']
  · exact literal ['N', 'a', 'N']
  · exact literal ['I', 'n', 'f', 'i', 'n', 'i', 't', 'y']
  · exact literal ['-', 'I', 'n', 'f', 'i', 'n', 'i', 't', 'y']
  · exact leaves_readNumber _

theorem ReadersLeave.step_items {fuel : Nat} (h : ReadersLeave fuel) (cs : List Char) :
    Leaves cs (readItems (fuel + 1) cs) := by
  have first := h.value cs
  rw [readItems]
  cases value : readValue fuel cs with
  | error e =>
    rw [value] at first
    exact first.error
  | ok p =>
    obtain ⟨v, rest⟩ := p
    rw [value] at first
    dsimp only
    split
    · rename_i closed
      exact .value ((suffix_of_skipGap closed).trans first.left)
    · rename_i comma
      have sub := (skipGap_suffix _).trans ((suffix_of_skipGap comma).trans first.left)
      exact ((h.items _).mono sub).map (v :: ·)
    · exact .fault

theorem ReadersLeave.step_fields {fuel : Nat} (h : ReadersLeave fuel) (cs : List Char) :
    Leaves cs (readFields (fuel + 1) cs) := by
  unfold readFields
  split
  · rename_i opened
    have name := (leaves_readText ('"' :: opened).length 0 opened).mono
      (List.suffix_cons '"' opened)
    split
    · rename_i failed
      rw [failed] at name
      exact name.error
    · rename_i named
      rw [named] at name
      split
      · rename_i colon
        have sub := (skipGap_suffix _).trans ((suffix_of_skipGap colon).trans name.left)
        have value := (h.value _).mono sub
        split
        · rename_i failed
          rw [failed] at value
          exact value.error
        · rename_i valued
          rw [valued] at value
          split
          · rename_i closed
            exact .value ((suffix_of_skipGap closed).trans value.left)
          · rename_i comma
            have sub := (skipGap_suffix _).trans ((suffix_of_skipGap comma).trans value.left)
            exact ((h.fields _).mono sub).map _
          · exact .fault
      · exact .fault
  · exact .fault

theorem readersLeave (fuel : Nat) : ReadersLeave fuel := by
  induction fuel with
  | zero => exact ⟨fun _ => .fault, fun _ => .fault, fun _ => .fault⟩
  | succ fuel ih => exact ⟨ih.step_value, ih.step_items, ih.step_fields⟩

theorem longRow_of_readChars {cs : List Char} {count : Nat}
    (h : readChars cs = .error (.tooManyDigits count)) : LongRow count cs := by
  have value := ((readersLeave (2 * cs.length + 2)).value (skipGap cs)).mono (skipGap_suffix cs)
  unfold readChars at h
  split at h
  · rename_i failed
    rw [failed, Except.error.inj h] at value
    cases value
    assumption
  · split at h <;> cases h

theorem longRow_of_ofText {s : String} {count : Nat}
    (h : ofText s = .error (.tooManyDigits count)) :
    LongRow count s.toList := by
  unfold ofText at h
  split at h
  · rename_i chars
    split_ifs at h
    · cases h
    · exact chars ▸ longRow_of_readChars h
  · rename_i chars
    exact chars ▸ longRow_of_readChars h

/-! A text with nothing but such an integer. -/

theorem splitWhole_ones (n : Nat) (rest : List Char) :
    splitWhole ('1' :: (List.replicate n '1' ++ ']' :: rest)) =
      some ('1' :: List.replicate n '1', ']' :: rest) := by
  have ones : ∀ c ∈ List.replicate n '1', isAsciiDigit c = true := by
    intro c hc
    obtain rfl := List.eq_of_mem_replicate hc
    rfl
  have digit : isAsciiDigit '1' = true := rfl
  have bracket : isAsciiDigit ']' = false := rfl
  rw [splitWhole, if_pos digit, List.takeWhile_append_of_pos ones,
    List.dropWhile_append_of_pos ones, List.takeWhile_cons_of_neg (by simp [bracket]),
      List.dropWhile_cons_of_neg (by simp [bracket]), List.append_nil]
  decide

theorem numberOf_long {whole : List Char} (long : digitLimit < whole.length) (negative : Bool) :
    numberOf negative whole [] none = .error (.tooManyDigits whole.length) := by
  simp only [numberOf, List.isEmpty_nil, Option.isNone_none, Bool.and_true, ↓reduceIte,
    if_neg (Nat.not_le_of_lt long)]

theorem readNumber_ones {n : Nat} (long : digitLimit < n + 1) (rest : List Char) :
    readNumber ('1' :: (List.replicate n '1' ++ ']' :: rest)) =
      .error (.tooManyDigits (n + 1)) := by
  have length : ('1' :: List.replicate n '1').length = n + 1 := by
    rw [List.length_cons, List.length_replicate]
  have number := numberOf_long (length ▸ long) false
  rw [length] at number
  have fraction : splitFraction (']' :: rest) = ([], ']' :: rest) := rfl
  have exponent : splitExponent (']' :: rest) = (none, ']' :: rest) := rfl
  have unsigned (cs : List Char) : readNumber ('1' :: cs) =
      match splitWhole ('1' :: cs) with
      | none => refuse .expectingValue ('1' :: cs)
      | some (whole, rest) =>
        (numberOf false whole (splitFraction rest).1 (splitExponent (splitFraction rest).2).1).map
          (·, (splitExponent (splitFraction rest).2).2) := rfl
  rw [unsigned, splitWhole_ones]
  simp only [fraction, exponent, number, Except.map]

def onesText (n : Nat) : String := "[" ++ String.ofList (List.replicate n '1') ++ "]"

theorem ofText_ones {n : Nat} (long : digitLimit < n + 1) :
    ofText (onesText (n + 1)) = .error (.tooManyDigits (n + 1)) := by
  have chars : (onesText (n + 1)).toList = '[' :: '1' :: (List.replicate n '1' ++ [']']) := by
    simp [onesText, List.replicate_succ]
  have fuel : 2 * ('[' :: '1' :: (List.replicate n '1' ++ [']'])).length + 2 = (2 * n + 5) + 3 := by
    simp only [List.length_cons, List.length_append, List.length_replicate, List.length_nil]
    omega
  have number (fuel : Nat) (cs : List Char) : readValue (fuel + 1)
    ('1' :: cs) = readNumber ('1' :: cs) := rfl
  have items (fuel : Nat) (cs : List Char) : readValue (fuel + 1) ('[' :: '1' :: cs) =
      (readItems fuel ('1' :: cs)).map fun read => (.array read.1, read.2) := rfl
  have value : readValue ((2 * n + 5) + 3) ('[' :: '1' :: (List.replicate n '1' ++ [']'])) =
      .error (.tooManyDigits (n + 1)) := by
    rw [items, readItems, number, readNumber_ones long]
    rfl
  have mark : ¬ '['.toNat = 0xFEFF := by decide
  have gap (cs : List Char) : skipGap ('[' :: cs) = '[' :: cs := rfl
  rw [ofText, chars]
  simp only [if_neg mark]
  rw [readChars, gap, fuel, value]

end LedgerFlow.Json
