import LedgerFlow.Proofs.Argument.Decoding
import LedgerFlow.Proofs.Argument.Delimited
import LedgerFlow.Proofs.Number.Script
import LedgerFlow.Proofs.Text.Lower

/-!
What the default of an argument implies. Its type is told from parts of it: a digit, or a digit with
a point behind it. So the default is a literal of this type where nothing else is in it, and
otherwise its own type does not take it.
-/
namespace LedgerFlow.Argument
open Number Text

def entries (text : String) : List (String × String) :=
  (splitAll ',' text.toList).filterMap fun entry =>
    let name := trim (splitFirst ':' entry).1
    if name.isEmpty then none
      else some (String.ofList name, String.ofList (trim (splitFirst ':' entry).2))

def IsWord (cs : List Char) : Prop := lower cs = "true".toList ∨ lower cs = "false".toList

instance (cs : List Char) : Decidable (IsWord cs) := inferInstanceAs (Decidable (_ ∨ _))

/-- What a default says, and as which type. -/
inductive Literal : String → List Char → Json → Prop
  | yes {word : String} (listed : word ∈ ["TRUE", "true", "True"]) :
      Literal "boolean" word.toList (.bool true)
  | no {word : String} (listed : word ∈ ["FALSE", "false", "False"]) :
      Literal "boolean" word.toList (.bool false)
  | whole {cs : List Char} {n : Int} (number : ScriptInteger cs n) : Literal "integer" cs (.int n)
  | pointed {cs : List Char} {x : Binary64} (number : ScriptFraction cs x) :
      Literal "number" cs (.float x)
  | text {cs : List Char} (noDigit : ∀ c ∈ cs, isDecimal c = false)
      (noWord : ¬ IsWord cs) : Literal "string" cs (.text (String.ofList cs))

variable {cs : List Char} {c : Char} {v : Json} {type : String}

/-! The type of a literal. -/

theorem literalType_eq (cs : List Char) : literalType cs =
    if IsWord cs then "boolean" else if hasDecimalPoint cs then "number"
    else if cs.any isDecimal then "integer" else "string" := by
  refine if_congr ?_ rfl rfl
  rw [Bool.or_eq_true, decide_eq_true_eq, decide_eq_true_eq, IsWord]

theorem hasDecimalPoint_iff :
    hasDecimalPoint cs = true ↔ ∃ front c back, cs = front ++ c :: '.' :: back ∧
      isDecimal c = true := by
  fun_induction hasDecimalPoint cs with
  | case1 c d rest ih =>
    rw [Bool.or_eq_true, Bool.and_eq_true, decide_eq_true_eq, ih]
    constructor
    · rintro (⟨digit, rfl⟩ | ⟨front, e, back, later, digit⟩)
      · exact ⟨[], c, rest, rfl, digit⟩
      · exact ⟨c :: front, e, back, by rw [later, List.cons_append], digit⟩
    · rintro ⟨_ | ⟨first, front⟩, e, back, cut, digit⟩
      · obtain ⟨rfl, rest⟩ := List.cons.inj cut
        exact .inl ⟨digit, (List.cons.inj rest).1⟩
      · exact .inr ⟨front, e, back, (List.cons.inj cut).2, digit⟩
  | case2 cs short =>
    refine ⟨nofun, ?_⟩
    rintro ⟨_ | ⟨first, _ | ⟨second, front⟩⟩, e, back, cut, -⟩
    · exact absurd cut (short _ _ _)
    · exact absurd cut (short _ _ _)
    · exact absurd cut (short _ _ _)

theorem literalType_of_isDecimal (digit : isDecimal c = true) (h : c ∈ cs) :
    literalType cs = if hasDecimalPoint cs then "number" else "integer" := by
  have noWord : ¬ IsWord cs :=
    not_or.mpr ⟨lower_ne_of_isDecimal (by decide) digit h,
      lower_ne_of_isDecimal (by decide) digit h⟩
  rw [literalType_eq, if_neg noWord, if_pos (List.any_eq_true.mpr ⟨c, h, digit⟩)]

theorem Literal.literalType_eq (h : Literal type cs v) : literalType cs = type := by
  cases h with
  | yes listed =>
    simp only [List.mem_cons, List.not_mem_nil, or_false] at listed
    rcases listed with rfl | rfl | rfl <;> decide
  | no listed =>
    simp only [List.mem_cons, List.not_mem_nil, or_false] at listed
    rcases listed with rfl | rfl | rfl <;> decide
  | whole number =>
    obtain ⟨sign, row, short⟩ := number
    obtain ⟨first, rest, rfl, digit⟩ := row.exists_cons
    rw [literalType_of_isDecimal digit (List.mem_append_right _ List.mem_cons_self), if_neg]
    rw [hasDecimalPoint_iff]
    rintro ⟨front, e, back, cut, -⟩
    have point : '.' ∈ sign.chars ++ first :: rest := cut ▸ by simp
    rcases List.mem_append.mp point with h | h
    · exact not_mem_chars_point sign h
    · exact row.not_mem (by decide) (by decide) h
  | pointed number =>
    obtain @⟨sign, _, fraction, power, _, _, _, row, -, -⟩ := number
    obtain ⟨front, last, rfl, digit⟩ := row.exists_append
    rw [literalType_of_isDecimal digit (by simp), if_pos]
    rw [hasDecimalPoint_iff]
    refine ⟨sign.chars ++ front, last, fraction ++ power, ?_, digit⟩
    rw [List.append_assoc, List.append_assoc, List.singleton_append]
  | text noDigit noWord =>
    have none : cs.any isDecimal = false := List.any_eq_false.mpr fun c hc =>
      Bool.eq_false_iff.mp (noDigit c hc)
    have noPoint : hasDecimalPoint cs ≠ true := by
      rw [ne_eq, hasDecimalPoint_iff]
      rintro ⟨front, c, back, rfl, digit⟩
      rw [noDigit c (by simp)] at digit
      cases digit
    rw [literalType_eq, if_neg noWord, if_neg noPoint, if_neg (Bool.eq_false_iff.mp none)]

/-! Literals and what decodes. -/

theorem trimmed_ofList (apart : trim cs = cs) : trimmed (String.ofList cs) = String.ofList cs :=
  trimmed_eq_self_iff.mpr (by rw [String.toList_ofList, apart])

theorem Literal.decodeValue_eq (h : Literal type cs v) (apart : trim cs = cs)
    (name : Option String) :
    decodeValue type name (String.ofList cs) = pure v := by
  cases h with
  | @yes word listed =>
    have known : ∀ word ∈ ["TRUE", "true", "True"], trueWords.contains word = true := by decide
    have same : trimmed word = word := trimmed_eq_self_iff.mpr apart
    rw [String.ofList_toList]
    change decodeBoolean name word = _
    simp only [decodeBoolean, same, if_pos (known word listed)]
  | @no word listed =>
    have known : ∀ word ∈ ["FALSE", "false", "False"],
      trueWords.contains word ≠ true ∧ falseWords.contains word = true := by decide
    have same : trimmed word = word := trimmed_eq_self_iff.mpr apart
    rw [String.ofList_toList]
    change decodeBoolean name word = _
    simp only [decodeBoolean, same, if_neg (known word listed).1, if_pos (known word listed).2]
  | whole number =>
    change decodeInteger name (String.ofList cs) = _
    simp only [decodeInteger, String.toList_ofList, apart, integer?_eq_some_iff.mpr number]
  | pointed number =>
    have point : cs.contains '.' = true := by
      obtain ⟨sign, row, behind, tens⟩ := number
      simp
    change decodeNumber name (String.ofList cs) = _
    simp only [decodeNumber, String.toList_ofList, apart, if_pos point, number.float?_eq]
  | text => exact congrArg (fun s => pure (Json.text s)) (trimmed_ofList apart)

theorem not_isWord_of_short : ∀ word ∈ ["1", "t", "T", "0", "f", "F"], ¬ IsWord word.toList := by
  decide

/-- Of the words that count as a truth value, only those that are more than one character long tell
this type. -/
theorem literal_of_isWord {word : String} (told : IsWord word.toList)
    (h : word ∈ trueWords ∧ v = .bool true ∨ word ∈ falseWords ∧ v = .bool false) :
    Literal "boolean" word.toList v := by
  rcases h with ⟨listed, rfl⟩ | ⟨listed, rfl⟩
  · have listed : word ∈ ["1", "t", "T"] ++ ["TRUE", "true", "True"] := listed
    rcases List.mem_append.mp listed with short | listed
    · exact absurd told (not_isWord_of_short word (List.mem_append_left ["0", "f", "F"] short))
    · exact .yes listed
  · have listed : word ∈ ["0", "f", "F"] ++ ["FALSE", "false", "False"] := listed
    rcases List.mem_append.mp listed with short | listed
    · exact absurd told (not_isWord_of_short word (List.mem_append_right ["1", "t", "T"] short))
    · exact .no listed

/-- As the type that its parts tell, a default is decoded just where it is a literal. -/
theorem literal_of_decodes (apart : trim cs = cs)
    (h : Decodes (literalType cs) (String.ofList cs) v) : Literal (literalType cs) cs v := by
  have same := trimmed_ofList apart
  rw [literalType_eq] at h ⊢
  split_ifs at h ⊢ with word point digit
  · rw [Decodes, same] at h
    have whole : (String.ofList cs).toList = cs := String.toList_ofList
    rw [← whole] at word ⊢
    exact literal_of_isWord word h
  · obtain ⟨front, c, back, cut, digit⟩ := hasDecimalPoint_iff.mp point
    have pointed : '.' ∈ cs := by
      rw [cut]
      simp
    rw [Decodes, String.toList_ofList, apart, if_pos pointed] at h
    obtain ⟨x, read, rfl⟩ := h
    exact .pointed (scriptFraction_of_float? cut digit read)
  · obtain ⟨n, read, rfl⟩ := h
    rw [String.toList_ofList, apart] at read
    exact .whole (integer?_eq_some_iff.mp read)
  · obtain rfl : v = .text (trimmed (String.ofList cs)) := h
    rw [same]
    refine .text (fun c hc => ?_) word
    exact Bool.eq_false_iff.mpr (List.any_eq_false.mp (Bool.eq_false_iff.mpr digit) c hc)

/-! Entries. -/

theorem parseDelimited_eq_map (text : String) : parseDelimited text =
    (entries text).map fun entry => { name := entry.1, type := literalType entry.2.toList } := by
  rw [parseDelimited_eq, entries, List.map_filterMap]
  congr 1
  funext entry
  rw [parseEntry_eq]
  dsimp only
  split
  · rfl
  · rw [Option.map_some, String.toList_ofList]

theorem trim_default {text : String} {entry : String × String} (h : entry ∈ entries text) :
    trim entry.2.toList = entry.2.toList := by
  obtain ⟨written, -, found⟩ := List.mem_filterMap.mp h
  obtain ⟨-, given⟩ := Option.ite_none_left_eq_some.mp found
  obtain rfl := Option.some.inj given
  rw [String.toList_ofList, trim_trim]

/-- What the type of an argument makes of its default: a literal is of this type and decodes to what
it says, and anything else gives the zero value and a warning. -/
structure Implies (default : String) (type : String) : Prop where
  only : ∀ type' v, Literal type' default.toList v → type' = type
  decoded : ∀ v name, Literal type default.toList v → decodeValue type name default = pure v
  other : (∀ v, ¬ Literal type default.toList v) → type ≠ "string" ∧ ∀ name, ∃ message,
    decodeValue type name default = ⟨[⟨.warning, .arguments, message⟩], .ok (zeroOf type default)⟩

theorem not_json_of_mem_primitiveTypes (primitive : type ∈ primitiveTypes) :
    ¬ (type = "array" ∨ type = "object") := by
  rintro (rfl | rfl) <;> exact absurd primitive (by decide)

theorem implies_literalType (apart : trim cs = cs) :
    Implies (String.ofList cs) (literalType cs) := by
  refine ⟨fun type' v h => ?_, fun v name h => ?_, fun none => ?_⟩
  · rw [String.toList_ofList] at h
    exact h.literalType_eq.symm
  · rw [String.toList_ofList] at h
    exact h.decodeValue_eq apart name
  · rw [String.toList_ofList] at none
    refine ⟨fun string => ?_, fun name => ?_⟩
    · have told : Decodes (literalType cs) (String.ofList cs)
          (.text (trimmed (String.ofList cs))) := by
        rw [string, Decodes] <;> simp
      exact none _ (literal_of_decodes apart told)
    · have outcome := decodeValue_outcome name (String.ofList cs) (literalType cs)
      generalize decodeValue (literalType cs) name (String.ofList cs) = result at outcome
      cases outcome with
      | decoded told => exact absurd (literal_of_decodes apart told) (none _)
      | zero silent short fits message => exact ⟨message, rfl⟩
      | overlong long => exact absurd long.typed (not_json_of_mem_primitiveTypes
          (literalType_mem cs))

/-- An argument has its name from its entry, and its type from the default there. The default is
decoded as this type in silence just where it is a literal. -/
theorem parseDelimited_defaults (text : String) :
    List.Forall₂ (fun entry a => a.name = entry.1 ∧ Implies entry.2 a.type) (entries text)
      (parseDelimited text) := by
  rw [parseDelimited_eq_map, List.forall₂_map_right_iff, List.forall₂_same]
  intro entry h
  have implies := implies_literalType (trim_default h)
  rw [String.ofList_toList] at implies
  exact ⟨rfl, implies⟩

/-- A date has digits in it and is no integer. -/
theorem parseDelimited_defaults_date :
    parseDelimited "due:2024-01-31" = [{ name := "due", type := "integer" }] ∧
    (decodeValue "integer" none "2024-01-31").records.length = 1 ∧
    (decodeValue "integer" none "2024-01-31").result = .ok (.int 0) :=
  ⟨by decide, by decide, by rfl⟩

end LedgerFlow.Argument
