import LedgerFlow.Argument.Decode
import LedgerFlow.Proofs.Json.NumberLiteral
import LedgerFlow.Proofs.Text.Blank

/-!
Number literals as arguments. What a literal is read as depends on whether it has a point: with one
it is read as a floating-point number, without one as an integer. This suits every literal but those
with an exponent and no fraction.
-/
namespace LedgerFlow.Argument
open Number Text

variable {l : NumberLiteral} {data : String}

theorem trim_of_numberLiteral {before after : List Char}
    (written : data.toList = before ++ l.chars ++ after) (hbefore : ∀ c ∈ before, isBlank c = true)
    (hafter : ∀ c ∈ after, isBlank c = true) : trim data.toList = l.chars := by
  rw [written, trim_append_right hafter, trim_append_left hbefore,
    trim_of_no_blank fun _ => NumberLiteral.isBlank_of_mem_chars]

section
variable (holds : trim data.toList = l.chars) (name : Option String)
include holds

theorem decodeNumber_of_fraction (pointed : l.fraction.isSome = true) :
    decodeNumber name data = pure (.float l.nearest) := by
  have point : l.chars.contains '.' = true :=
    List.contains_iff_mem.mpr (NumberLiteral.point_mem_chars.mpr pointed)
  rw [decodeNumber, holds, if_pos point, l.float?_chars]

theorem decodeNumber_of_no_fraction (noFraction : l.fraction = none) :
    decodeNumber name data = decodeInteger name data := by
  have noPoint : l.chars.contains '.' ≠ true := by
    rw [ne_eq, List.contains_iff_mem, NumberLiteral.point_mem_chars, noFraction]
    exact Bool.false_ne_true
  rw [decodeNumber, holds, if_neg noPoint]

theorem decodeNumber_of_isWhole (plain : l.isWhole = true) (short : l.Short) :
    decodeNumber name data = pure (.int l.integer) := by
  have noFraction : l.fraction = none := by
    rw [NumberLiteral.isWhole, Bool.and_eq_true, Option.isNone_iff_eq_none] at plain
    exact plain.1
  rw [decodeNumber_of_no_fraction holds name noFraction, decodeInteger, holds,
    NumberLiteral.integer?_of_isWhole plain (short plain)]

theorem decodeNumber_of_exponent (noFraction : l.fraction = none)
    (given : l.exponent.isSome = true) :
    decodeNumber name data = fallback name "integer" data (.int 0) := by
  obtain ⟨e, he⟩ := Option.isSome_iff_exists.mp given
  rw [decodeNumber_of_no_fraction holds name noFraction, decodeInteger, holds,
    NumberLiteral.integer?_of_exponent noFraction he]

end

/-- A number literal with blanks around it decodes to the number that it writes, and in silence, if
it has a fraction or no exponent. With an exponent alone it counts as zero, with a warning, although
both readers of numbers take it. -/
theorem decodeValue_numberLiteral (l : NumberLiteral) (short : l.Short) (data : String)
    (before after : List Char) (written : data.toList = before ++ l.chars ++ after)
    (hbefore : ∀ c ∈ before, isBlank c = true) (hafter : ∀ c ∈ after, isBlank c = true)
    (name : Option String) :
    Json.readNumber l.chars = .ok (l.value, []) ∧ float? l.chars = some l.nearest ∧
    (l.fraction.isSome = true ∨ l.exponent.isNone = true →
      decodeValue "number" name data = pure l.value) ∧
    (l.fraction.isNone = true → l.exponent.isSome = true →
      ∃ message, decodeValue "number" name data =
        ⟨[⟨.warning, .arguments, message⟩], .ok (.int 0)⟩) := by
  have holds := trim_of_numberLiteral written hbefore hafter
  refine ⟨NumberLiteral.readNumber_chars short, l.float?_chars, fun routed => ?_,
    fun noFraction given => ?_⟩
  · change decodeNumber name data = _
    cases whole : l.isWhole with
    | true =>
      rw [decodeNumber_of_isWhole holds name whole short, NumberLiteral.value, if_pos whole]
    | false =>
      have pointed : l.fraction.isSome = true := by
        refine routed.elim id fun noExponent => ?_
        rw [NumberLiteral.isWhole, noExponent, Bool.and_true] at whole
        exact Option.isNone_eq_false_iff.mp whole
      rw [decodeNumber_of_fraction holds name pointed, NumberLiteral.value,
        if_neg (by simp [whole])]
  · exact ⟨_, decodeNumber_of_exponent holds name (Option.isNone_iff_eq_none.mp noFraction) given⟩

def weighed : NumberLiteral where
  negative := true
  whole := ⟨['1', '2'], by decide, List.all_eq_true.mp rfl⟩
  noLeadingZero := by decide
  fraction := some ⟨['5', '0'], by decide, List.all_eq_true.mp rfl⟩
  exponent := some ⟨'e', rfl, .plus, ['1'], by decide, List.all_eq_true.mp rfl⟩

theorem decodeValue_numberLiteral_weighed : weighed.Short ∧
    decodeValue "number" none "\u2003-12.50e+1\n" =
      pure (.float (.finite true 8796093022208000 (-46))) := by
  have short : weighed.Short := nofun
  have value : weighed.value = .float (.finite true 8796093022208000 (-46)) := by rfl
  obtain ⟨-, -, decoded, -⟩ :=
    decodeValue_numberLiteral weighed short "\u2003-12.50e+1\n" ['\u2003'] ['\n'] (by decide)
    (List.all_eq_true.mp rfl) (List.all_eq_true.mp rfl) none
  exact ⟨short, value ▸ decoded (.inl rfl)⟩

def rounded : NumberLiteral where
  whole := ⟨['1'], by decide, List.all_eq_true.mp rfl⟩
  noLeadingZero := by decide
  exponent := some ⟨'e', rfl, .none, ['5'], by decide, List.all_eq_true.mp rfl⟩

/-- It writes a hundred thousand, and decodes to zero. -/
theorem decodeValue_numberLiteral_rounded : rounded.Short ∧ rounded.chars = "1e5".toList ∧
    rounded.value = .float (.finite false 6871947673600000 (-36)) ∧
    (decodeValue "number" none "1e5").records.length = 1 ∧
      (decodeValue "number" none "1e5").result = .ok (.int 0) ∧
    decodeValue "number" none "1e5" ≠ pure rounded.value := by
  have records : (decodeValue "number" none "1e5").records.length = 1 := by decide
  refine ⟨nofun, by decide, by rfl, records, by rfl, fun silent => ?_⟩
  rw [silent] at records
  cases records

end LedgerFlow.Argument
