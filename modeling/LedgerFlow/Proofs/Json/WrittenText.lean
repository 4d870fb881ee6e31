import LedgerFlow.Json.Reader
import LedgerFlow.Json.Writer
import Mathlib.Tactic.IntervalCases
import Mathlib.Tactic.SplitIfs

/-!
Texts as literals: between quotes, each character stands for itself, behind a short escape, or as
one or two escapes by code unit. The writer spells every text so, and the reader takes every such
spelling for its text, up to the closing quote and no further; so no literal is the start of another
one.
-/
namespace LedgerFlow.Json
open Number Text

/-! Four hexadecimal digits. -/

theorem hexValue?_digitChar {d : Nat} (h : d < 16) : hexValue? d.digitChar = some d := by
  interval_cases d <;> decide

theorem hexPadded_one {n : Nat} (h : n < 16) : hexPadded 1 n = [n.digitChar] := by
  rw [hexPadded, hexDigits, Nat.toDigits_of_lt_base h]
  rfl

theorem hexPadded_succ (width n : Nat) :
    hexPadded (width + 2) n = hexPadded (width + 1) (n / 16) ++ [(n % 16).digitChar] := by
  by_cases small : n < 16
  · have whole : n / 16 = 0 := Nat.div_eq_of_lt small
    rw [whole, Nat.mod_eq_of_lt small]
    simp only [hexPadded, hexDigits, Nat.toDigits_of_lt_base small, Nat.toDigits_zero,
      List.length_singleton]
    rw [show width + 2 - 1 = width + 1 from rfl, List.replicate_succ']
    rfl
  · have digits : hexDigits n = hexDigits (n / 16) ++ [(n % 16).digitChar] :=
      Nat.toDigits_of_base_le (by decide) (Nat.le_of_not_lt small)
    rw [hexPadded, hexPadded, digits, List.length_append, List.length_singleton, List.append_assoc]
    congr 2
    omega

theorem exists_hexPadded_four {n : Nat} (h : n < 0x10000) :
    ∃ a b c d, hexPadded 4 n = [a, b, c, d] ∧ codeUnit? a b c d = some n := by
  refine ⟨(n / 16 / 16 / 16).digitChar, (n / 16 / 16 % 16).digitChar, (n / 16 % 16).digitChar,
    (n % 16).digitChar, ?_, ?_⟩
  · rw [hexPadded_succ, hexPadded_succ, hexPadded_succ, hexPadded_one (by omega)]
    rfl
  · have digit (m : Nat) : hexValue? (m % 16).digitChar = some (m % 16) :=
      hexValue?_digitChar (Nat.mod_lt m (by decide))
    have first : hexValue? (n / 16 / 16 / 16).digitChar = some (n / 16 / 16 / 16) :=
      hexValue?_digitChar (by omega)
    simp only [codeUnit?, first, digit, Option.bind_eq_bind, Option.bind_some, Option.pure_def,
      Option.some.injEq]
    omega

/-! Spellings. -/

/-- The ways to write a character between quotes. -/
inductive Spelling : Char → List Char → Prop
  | plain {c : Char} (noQuote : c ≠ '"') (noBackslash : c ≠ '\\') (visible : 0x20 ≤ c.toNat) :
      Spelling c [c]
  | short {mark c : Char} (known : shortEscape? mark = some c) : Spelling c ['\\', mark]
  | unit {a b d e : Char} {n : Nat} (digits : codeUnit? a b d e = some n)
      (notHigh : isHighSurrogate n = false) (notLow : isLowSurrogate n = false) :
      Spelling (Char.ofNat n) ['\\', 'u', a, b, d, e]
  | pair {a b d e a' b' d' e' : Char} {high low : Nat} (digits : codeUnit? a b d e = some high)
      (isHigh : isHighSurrogate high = true) (digits' : codeUnit? a' b' d' e' = some low)
      (isLow : isLowSurrogate low = true) :
      Spelling (pairChar high low) ['\\', 'u', a, b, d, e, '\\', 'u', a', b', d', e']

inductive Spelled : List Char → List Char → Prop
  | nil : Spelled [] []
  | cons {c : Char} {cs spelling body : List Char} (first : Spelling c spelling)
      (later : Spelled cs body) :
      Spelled (c :: cs) (spelling ++ body)

inductive TextLiteral : List Char → String → Prop
  | of {s : String} {body : List Char} (spelled : Spelled s.toList body) :
      TextLiteral ('"' :: (body ++ ['"'])) s

/-! Writing. -/

theorem isSurrogate_toNat (c : Char) :
    isHighSurrogate c.toNat = false ∧ isLowSurrogate c.toNat = false := by
  have valid : c.toNat < 0xD800 ∨ 0xDFFF < c.toNat ∧ c.toNat < 0x110000 := c.valid
  simp only [isHighSurrogate, isLowSurrogate, Bool.and_eq_false_iff, decide_eq_false_iff_not]
  omega

theorem spelling_unitEscape {c : Char} (plane : c.toNat < 0x10000) :
    Spelling c (unitEscape c.toNat) := by
  obtain ⟨_, _, _, _, digits, value⟩ := exists_hexPadded_four plane
  have spelling := Spelling.unit value (isSurrogate_toNat c).1 (isSurrogate_toNat c).2
  rwa [Char.ofNat_toNat, ← digits] at spelling

theorem exists_pair {c : Char} (plane : 0x10000 ≤ c.toNat) :
    ∃ high low, high < 0x10000 ∧ low < 0x10000 ∧
    isHighSurrogate high = true ∧ isLowSurrogate low = true ∧ pairChar high low = c ∧
      charEscape c = unitEscape high ++ unitEscape low := by
  have valid : c.toNat < 0xD800 ∨ 0xDFFF < c.toNat ∧ c.toNat < 0x110000 := c.valid
  refine ⟨0xD800 + (c.toNat - 0x10000) / 0x400, 0xDC00 + (c.toNat - 0x10000) % 0x400, by
    omega, by omega, ?_, ?_, ?_, ?_⟩
  · simp only [isHighSurrogate, Bool.and_eq_true, decide_eq_true_eq]
    omega
  · simp only [isLowSurrogate, Bool.and_eq_true, decide_eq_true_eq]
    omega
  · have sum : 0x10000 + (0xD800 + (c.toNat - 0x10000) / 0x400 - 0xD800) * 0x400 +
        (0xDC00 + (c.toNat - 0x10000) % 0x400 - 0xDC00) = c.toNat := by omega
    rw [pairChar, sum, Char.ofNat_toNat]
  · exact if_neg (Nat.not_lt.mpr plane)

theorem spelling_charEscape (c : Char) : Spelling c (charEscape c) := by
  by_cases plane : c.toNat < 0x10000
  · rw [charEscape, if_pos plane]
    exact spelling_unitEscape plane
  · obtain ⟨high, low, hhigh, hlow, first, second, rfl, written⟩ :=
      exists_pair (Nat.not_lt.mp plane)
    obtain ⟨_, _, _, _, digits, value⟩ := exists_hexPadded_four hhigh
    obtain ⟨_, _, _, _, digits', value'⟩ := exists_hexPadded_four hlow
    rw [written, unitEscape, unitEscape, digits, digits']
    exact .pair value first value' second

theorem spelling_writeChar (asciiOnly : Bool) (c : Char) : Spelling c (writeChar asciiOnly c) := by
  unfold writeChar
  split_ifs with quote backslash newline carriage tab backspace feed control escaped
  · exact .short (by rw [quote]; rfl)
  · exact .short (by rw [backslash]; rfl)
  · exact .short (by rw [newline]; rfl)
  · exact .short (by rw [carriage]; rfl)
  · exact .short (by rw [tab]; rfl)
  · exact .short (by rw [← Char.ofNat_toNat c, backspace]; rfl)
  · exact .short (by rw [← Char.ofNat_toNat c, feed]; rfl)
  · exact spelling_unitEscape (by omega)
  · exact spelling_charEscape c
  · exact .plain quote backslash (Nat.not_lt.mp control)

theorem spelled_written (asciiOnly : Bool) (cs : List Char) :
    Spelled cs (cs.flatMap (writeChar asciiOnly)) := by
  induction cs with
  | nil => exact .nil
  | cons c cs ih => exact .cons (spelling_writeChar asciiOnly c) ih

theorem textLiteral_writeText (asciiOnly : Bool) (s : String) :
    TextLiteral (writeText asciiOnly s) s :=
  .of (spelled_written asciiOnly s.toList)

/-! Reading. -/

theorem readText_skip (opening : Nat) (passed rest : List Char) :
    readText opening passed.length (passed ++ rest) = readText opening 0 rest := by
  induction passed with
  | nil => rfl
  | cons c passed ih => exact ih

theorem readText_escape (body : List Char) {c next : Char} {rest : List Char}
    (spells : escape (body ++ next :: rest) = .ok (c, body.length)) (opening : Nat) :
    readText opening 0 ('\\' :: body ++ next :: rest) =
      (readText opening 0 (next :: rest)).map fun (s, after) => (c :: s, after) := by
  rw [List.cons_append, readText, if_neg (by decide), if_pos rfl, if_neg (by simp), spells]
  dsimp only
  rw [readText_skip]

theorem Spelling.readText_append {c : Char} {spelling : List Char} (h : Spelling c spelling)
    (opening : Nat) (next : Char) (rest : List Char) :
    readText opening 0 (spelling ++ next :: rest) =
      (readText opening 0 (next :: rest)).map fun (s, after) => (c :: s, after) := by
  cases h with
  | plain noQuote noBackslash visible =>
    rw [List.singleton_append, readText, if_neg noQuote, if_neg noBackslash,
      if_neg (Nat.not_lt.mpr visible)]
  | @short mark c known =>
    have other : mark ≠ 'u' := by
      rintro rfl
      cases known
    refine readText_escape [mark] ?_ opening
    rw [List.singleton_append, escape, known]
    · rfl
    · exact other
  | @unit a b d e n digits notHigh notLow =>
    refine readText_escape ['u', a, b, d, e] ?_ opening
    simp only [List.cons_append, List.nil_append, escape, unicodeEscape, List.isEmpty_cons, digits,
      notHigh, scalarChar, notLow, Bool.or_self, Bool.false_eq_true, if_false, List.length_cons,
        List.length_nil]
  | @pair a b d e a' b' d' e' high low digits isHigh digits' isLow =>
    refine readText_escape ['u', a, b, d, e, '\\', 'u', a', b', d', e'] ?_ opening
    simp only [List.cons_append, List.nil_append, escape, unicodeEscape, List.isEmpty_cons, digits,
      isHigh, digits', isLow, if_true, Bool.false_eq_true, if_false, List.length_cons,
        List.length_nil]

/-- What is spelled between the quotes is the text, and the reader stops behind it. -/
theorem Spelled.readText_append {cs body : List Char} (h : Spelled cs body) (opening : Nat)
    (rest : List Char) : readText opening 0 (body ++ '"' :: rest) = .ok (cs, rest) := by
  induction h with
  | nil => rw [List.nil_append, readText, if_pos rfl]
  | @cons c cs spelling body first later ih =>
    obtain ⟨next, tail, htail⟩ := List.exists_cons_of_ne_nil (show body ++ '"' :: rest ≠ [] by simp)
    rw [List.append_assoc, htail, first.readText_append, ← htail, ih]
    rfl

theorem readText_written (asciiOnly : Bool) (opening : Nat) (cs rest : List Char) :
    readText opening 0 (cs.flatMap (writeChar asciiOnly) ++ '"' :: rest) = .ok (cs, rest) :=
  (spelled_written asciiOnly cs).readText_append opening rest

theorem writeText_append (asciiOnly : Bool) (s : String) (rest : List Char) :
    writeText asciiOnly s ++ rest =
      '"' :: (s.toList.flatMap (writeChar asciiOnly) ++ '"' :: rest) := by
  simp [writeText]

/-- Where two literals stand at the same place, they are of the same text and end at the same
place. -/
theorem TextLiteral.append_inj {l l' rest rest' : List Char} {s s' : String} (h : TextLiteral l s)
    (h' : TextLiteral l' s') (same : l ++ rest = l' ++ rest') : s = s' ∧ rest = rest' := by
  obtain ⟨spelled⟩ := h
  obtain ⟨spelled'⟩ := h'
  simp only [List.cons_append, List.append_assoc, List.nil_append] at same
  have read := spelled.readText_append 0 rest
  rw [(List.cons.inj same).2, spelled'.readText_append 0 rest'] at read
  obtain ⟨texts, rests⟩ := Prod.mk.inj (Except.ok.inj read)
  exact ⟨String.toList_injective texts.symm, rests.symm⟩

end LedgerFlow.Json
