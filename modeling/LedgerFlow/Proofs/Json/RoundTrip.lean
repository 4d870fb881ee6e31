import LedgerFlow.Proofs.Json.Distinct
import LedgerFlow.Proofs.Json.NumberLiteral
import LedgerFlow.Proofs.Json.Reread
import LedgerFlow.Proofs.Json.Unambiguous

/-!
Values read back from their texts. A style may put gaps between the parts of a value, which the
reader skips; so where the fields of objects have different names and no number is a floating-point
one or too long to be read, the text of a value reads as this value, and up to its end.
-/
namespace LedgerFlow.Json
open Number Text

/-- What a value must be to come back from its texts. -/
structure Readable (v : Json) : Prop where
  plain : v.FloatFree
  distinct : v.Distinct
  short : v.ShortIntegers

theorem readable_array {items : List Json} :
    (Json.array items).Readable ↔ ∀ v ∈ items, v.Readable := by
  constructor
  · rintro ⟨plain, distinct, short⟩ v hv
    exact ⟨floatFree_array.mp plain v hv, distinct_array.mp distinct v hv,
      (throughout_array.mp short).2 v hv⟩
  · intro each
    exact ⟨floatFree_array.mpr fun v hv => (each v hv).plain, distinct_array.mpr fun v hv =>
      (each v hv).distinct, throughout_array.mpr ⟨nofun, fun v hv => (each v hv).short⟩⟩

theorem readable_object {fields : List (String × Json)} :
    (Json.object fields).Readable ↔ (Table.keys fields).Nodup ∧
      ∀ field ∈ fields, field.2.Readable := by
  constructor
  · rintro ⟨plain, distinct, short⟩
    obtain ⟨nodup, distinct⟩ := distinct_object.mp distinct
    exact ⟨nodup, fun field hf => ⟨floatFree_object.mp plain field hf, distinct field hf,
      (throughout_object.mp short).2 field hf⟩⟩
  · rintro ⟨nodup, each⟩
    exact ⟨floatFree_object.mpr fun field hf => (each field hf).plain,
      distinct_object.mpr ⟨nodup, fun field hf => (each field hf).distinct⟩,
      throughout_object.mpr ⟨nofun, fun field hf => (each field hf).short⟩⟩

theorem readable_leaf {v : Json} (leaf : v.children = []) (plain : ∀ x, v ≠ .float x)
    (short : ∀ n, v = .int n → (decimalDigits n.natAbs).length ≤ digitLimit) : v.Readable :=
  ⟨(throughout_leaf leaf).mpr plain, distinct_leaf leaf, (throughout_leaf leaf).mpr short⟩

structure Style.Gapped (style : Style) : Prop where
  item : ∀ c ∈ style.itemGap, isGap c = true
  key : ∀ c ∈ style.keyGap, isGap c = true

variable {style : Style} {depth outer fuel : Nat} {cs tail : List Char} {c : Char}

/-! Gaps. -/

theorem skipGap_append (gap : ∀ c ∈ cs, isGap c = true) (rest : List Char) :
    skipGap (cs ++ rest) = skipGap rest :=
  List.dropWhile_append_of_pos gap

theorem isGap_of_mem_lineBreak (h : c ∈ style.lineBreak depth) : isGap c = true := by
  unfold Style.lineBreak at h
  split at h
  · cases h
  · rcases List.mem_cons.mp h with rfl | h
    · rfl
    · obtain rfl := List.eq_of_mem_replicate h
      rfl

theorem Style.Gapped.gap (h : style.Gapped) : ∀ c ∈ style.gap depth, isGap c = true := by
  intro c hc
  exact (List.mem_append.mp hc).elim (h.item c) isGap_of_mem_lineBreak

theorem skipGap_lineBreak (solid : isGap c = false) (cs : List Char) :
    skipGap (style.lineBreak depth ++ c :: cs) = c :: cs := by
  rw [skipGap_append fun _ => isGap_of_mem_lineBreak, skipGap_cons solid]

theorem isGap_of_kindOfFirst {kind : String} (h : kindOfFirst c = some kind) : isGap c = false := by
  by_contra gap
  simp only [isGap, Bool.not_eq_false, Bool.or_eq_true, decide_eq_true_eq] at gap
  rcases gap with ((rfl | rfl) | rfl) | rfl <;> cases h

theorem skipGap_written {v : Json} (plain : v.FloatFree) (rest : List Char) :
    skipGap (write style depth v ++ rest) = write style depth v ++ rest := by
  obtain ⟨c, later, written, kind⟩ := exists_first style depth (plain [] v rfl)
  rw [written]
  exact skipGap_cons (isGap_of_kindOfFirst kind) _

/-! Integers. -/

theorem decimalDigits_leading (n : Nat) :
    (decimalDigits n).head? = some '0' → decimalDigits n = ['0'] := by
  induction n using Nat.strongRecOn with
  | ind n ih =>
    intro zero
    by_cases small : n < 10
    · rw [decimalDigits, Nat.toDigits_of_lt_base small] at zero ⊢
      rw [Option.some.inj zero]
    · have digits : decimalDigits n = decimalDigits (n / 10) ++ [(n % 10).digitChar] :=
        Nat.toDigits_of_base_le (by decide) (Nat.le_of_not_lt small)
      obtain ⟨first, rest, front, -⟩ := exists_decimalDigits (n / 10)
      have lead : (decimalDigits (n / 10)).head? = some '0' := by
        rw [digits, front] at zero
        rw [front]
        exact zero
      -- Then the front part would be zero, and the number below ten.
      have value := ofDigits_decimalDigits (n / 10)
      rw [ih (n / 10) (Nat.div_lt_self (by omega) (by decide)) lead] at value
      have : n / 10 = 0 := value.symm
      omega

def digitRow (n : Nat) : DigitRow :=
  ⟨decimalDigits n, (numeric_decimalDigits n).filled, fun _ => isDigit_of_mem_decimalDigits⟩

theorem splitFraction_of_stops (stops : Stops isNumeric tail) :
    splitFraction tail = ([], tail) := by
  unfold splitFraction
  split
  · cases stops '.' rfl
  · rfl

theorem splitExponent_of_stops (stops : Stops isNumeric tail) :
    splitExponent tail = (none, tail) := by
  unfold splitExponent
  split
  · rename_i mark rest
    have other := stops mark rfl
    split
    · rename_i e
      simp only [Bool.or_eq_true, decide_eq_true_eq] at e
      rcases e with rfl | rfl <;> cases other
    · rfl
  · rfl

theorem readNumber_unsigned {n : Nat} (short : (decimalDigits n).length ≤ digitLimit)
    (stops : Stops isNumeric tail) (negative : Bool) :
    splitWhole (decimalDigits n ++ tail) = some (decimalDigits n, tail) ∧
      numberOf negative (decimalDigits n)
        [] none = .ok (.int (if negative then -(n : Int) else n)) := by
  have digits : Stops isAsciiDigit tail := stops.mono fun _ => isNumeric_of_isAsciiDigit
  refine ⟨(digitRow n).splitWhole_append (decimalDigits_leading n) digits, ?_⟩
  have value : ofDigits ((decimalDigits n).map digitNumber) = n := ofDigits_decimalDigits n
  simp only [numberOf, List.isEmpty_nil, Option.isNone_none, Bool.and_self, if_pos short, value,
    ↓reduceIte]

theorem readNumber_decimalText {n : Int} (short : (decimalDigits n.natAbs).length ≤ digitLimit)
    (stops : Stops isNumeric tail) : readNumber (decimalText n ++ tail) = .ok (.int n, tail) := by
  unfold readNumber
  cases n with
  | ofNat n =>
    have short : (decimalDigits n).length ≤ digitLimit := short
    obtain ⟨whole, number⟩ := readNumber_unsigned short stops false
    split
    rename_i negative body signed
    obtain ⟨rfl, rfl⟩ : negative = false ∧ body = decimalDigits n ++ tail := by
      split at signed
      · rename_i minus
        exact absurd minus.symm (minus_cons_ne_decimalDigits n)
      · exact (Prod.mk.inj signed).imp Eq.symm Eq.symm
    simp only [whole, splitFraction_of_stops stops, splitExponent_of_stops stops, number]
    rfl
  | negSucc n =>
    have short : (decimalDigits (n + 1)).length ≤ digitLimit := short
    obtain ⟨whole, number⟩ := readNumber_unsigned short stops true
    simp only [decimalText, List.cons_append, whole, splitFraction_of_stops stops,
      splitExponent_of_stops stops, number]
    rfl

theorem readValue_decimalText (fuel : Nat) (n : Int) (tail : List Char) :
    readValue (fuel + 1) (decimalText n ++ tail) = readNumber (decimalText n ++ tail) := by
  obtain ⟨c, rest, digits, digit⟩ := exists_decimalDigits n.natAbs
  have later : ∀ d ∈ rest, d.isDigit = true :=
    fun d hd => isDigit_of_mem_decimalDigits (n := n.natAbs) (digits ▸ List.mem_cons_of_mem c hd)
  cases n with
  | ofNat n =>
    have text : decimalText (.ofNat n) = c :: rest := digits
    rw [text]
    unfold readValue
    split
    case h_10 => rfl
    all_goals
      rename_i heq
      obtain ⟨rfl, -⟩ := List.cons.inj heq
      cases digit
  | negSucc n =>
    have text : decimalText (.negSucc n) = '-' :: c :: rest := congrArg _ digits
    rw [text]
    unfold readValue
    split
    case h_9 heq =>
      obtain ⟨rfl, -⟩ := List.cons.inj (List.cons.inj heq).2
      cases digit
    case h_10 => rfl
    all_goals
      rename_i heq
      cases (List.cons.inj heq).1

/-! Values. -/

/-- In front of what ends a number the value reads as itself, and to its end. -/
def ReadsSelf (style : Style) (v : Json) : Prop :=
  ∀ depth fuel tail, (write style depth v).length ≤ fuel → Stops isNumeric tail →
    readValue fuel (write style depth v ++ tail) = .ok (v, tail)

theorem readsSelf_of_succ {v : Json} (plain : v.FloatFree)
    (reads : ∀ depth fuel tail, (write style depth v).length ≤ fuel + 1 → Stops isNumeric tail →
      readValue (fuel + 1) (write style depth v ++ tail) = .ok (v, tail)) : ReadsSelf style v := by
  intro depth fuel tail enough stops
  obtain ⟨c, rest, written, -⟩ := exists_first style depth (plain [] v rfl)
  cases fuel with
  | zero =>
    rw [written] at enough
    cases enough
  | succ fuel => exact reads depth fuel tail enough stops

theorem isNumeric_of_isGap (gap : isGap c = true) : isNumeric c = false := by
  by_contra numeric
  rw [isGap_of_isNumeric (Bool.of_not_eq_false numeric)] at gap
  cases gap

theorem stops_lineBreak (other : isNumeric c = false) (cs : List Char) :
    Stops isNumeric (style.lineBreak depth ++ c :: cs) := by
  obtain ⟨d, rest, ending, first⟩ := exists_lineBreak_append style depth c cs
  rw [ending]
  rcases first with rfl | rfl
  · exact stops_cons rfl rest
  · exact stops_cons other rest

theorem stops_writeItems (items : List Json) :
    Stops isNumeric (writeItems style depth items ++ (style.lineBreak outer ++ ']' :: tail)) := by
  cases items with
  | nil => exact stops_lineBreak rfl tail
  | cons v items => exact stops_cons rfl _

theorem stops_writeFields (fields : List (String × Json)) :
    Stops isNumeric (writeFields style depth fields ++ (style.lineBreak outer ++ '}' :: tail)) := by
  cases fields with
  | nil => exact stops_lineBreak rfl tail
  | cons field fields => exact stops_cons rfl _

theorem ReadsItems.readItems_eq {rest : List Char} {items : List Json}
    (h : ReadsItems fuel cs rest items) : readItems (fuel + 1) cs = .ok (items, rest) := by
  unfold readItems
  cases h with
  | last value closed =>
    rw [value]
    simp only [closed]
  | more value comma later =>
    rw [value]
    simp only [comma, later]
    rfl

theorem ReadsFields.readFields_eq {rest : List Char} {fields : List (String × Json)}
    (h : ReadsFields fuel cs rest fields) : readFields (fuel + 1) cs = .ok (fields, rest) := by
  unfold readFields
  cases h with
  | last field closed =>
    cases field with
    | of opens names colon value =>
      subst opens
      simp only [names, colon, value, closed]
  | more field comma later =>
    cases field with
    | of opens names colon value =>
      subst opens
      simp only [names, colon, value, comma, later]
      rfl

theorem skipGap_writeItems (u : Json) (items : List Json) (rest : List Char) :
    skipGap (writeItems style depth (u :: items) ++ rest) =
      ',' :: (style.gap depth ++
        (write style depth u ++ (writeItems style depth items ++ rest))) := by
  simp only [writeItems, List.cons_append, List.append_assoc,
    skipGap_cons (show isGap ',' = false from rfl)]

theorem skipGap_writeFields (name : String) (u : Json) (fields : List (String × Json))
    (rest : List Char) :
    skipGap (writeFields style depth ((name, u) :: fields) ++ rest) =
      ',' :: (style.gap depth ++ (writeText style.asciiOnly name ++ ':' :: (style.keyGap ++
        (write style depth u ++ (writeFields style depth fields ++ rest))))) := by
  simp only [writeFields, List.cons_append, List.append_assoc,
    skipGap_cons (show isGap ',' = false from rfl)]

theorem readItems_written (gapped : style.Gapped) {v : Json} {items : List Json}
    (first : ReadsSelf style v) (later : ∀ u ∈ items, ReadsSelf style u)
    (plain : ∀ u ∈ items, u.FloatFree)
    (enough : (write style depth v).length + (writeItems style depth items).length < fuel) :
    readItems fuel (write style depth v ++
      (writeItems style depth items ++ (style.lineBreak outer ++ ']' :: tail))) =
      .ok (v :: items, tail) := by
  obtain ⟨below, rfl⟩ := Nat.exists_eq_add_one_of_ne_zero (Nat.ne_zero_of_lt enough)
  induction items generalizing v below with
  | nil =>
    have value := first depth below (style.lineBreak outer ++ ']' :: tail) (by omega)
      (stops_lineBreak rfl tail)
    exact (ReadsItems.last value (skipGap_lineBreak rfl tail)).readItems_eq
  | cons u items ih =>
    obtain ⟨next, further⟩ := List.forall_mem_cons.mp later
    obtain ⟨plainNext, plainFurther⟩ := List.forall_mem_cons.mp plain
    have value := first depth below _ (by omega) (stops_writeItems (u :: items) : Stops isNumeric
      (writeItems style depth (u :: items) ++ (style.lineBreak outer ++ ']' :: tail)))
    simp only [writeItems, List.length_append, List.length_cons] at enough
    obtain ⟨below, rfl⟩ := Nat.exists_eq_add_one_of_ne_zero (show below ≠ 0 by omega)
    refine (ReadsItems.more value (skipGap_writeItems u items _) ?_).readItems_eq
    rw [skipGap_append gapped.gap, skipGap_written plainNext]
    exact ih next further plainFurther below (by omega)

theorem readsField_written (gapped : style.Gapped) (name : String) {v : Json} (plain : v.FloatFree)
    {behind : List Char}
    (value : readValue fuel (write style depth v ++ behind) = .ok (v, behind)) :
    ReadsField fuel (writeText style.asciiOnly name ++
      ':' :: (style.keyGap ++ (write style depth v ++ behind))) behind (name, v) := by
  have read := readText_written style.asciiOnly
    (writeText style.asciiOnly name ++
      ':' :: (style.keyGap ++ (write style depth v ++ behind))).length name.toList
    (':' :: (style.keyGap ++ (write style depth v ++ behind)))
  have field := ReadsField.of (writeText_append ..) read (skipGap_cons rfl _)
    ((skipGap_append gapped.key _ ▸ skipGap_written plain behind).symm ▸ value)
  rwa [String.ofList_toList] at field

theorem readFields_written (gapped : style.Gapped) {name : String} {v : Json}
    {fields : List (String × Json)} (first : ReadsSelf style v)
    (later : ∀ field ∈ fields, ReadsSelf style field.2) (plain : v.FloatFree)
    (plainLater : ∀ field ∈ fields, field.2.FloatFree)
    (enough : (write style depth v).length + (writeFields style depth fields).length < fuel) :
    readFields fuel (writeText style.asciiOnly name ++
      ':' :: (style.keyGap ++ (write style depth v ++
      (writeFields style depth fields ++ (style.lineBreak outer ++ '}' :: tail))))) =
      .ok ((name, v) :: fields, tail) := by
  obtain ⟨below, rfl⟩ := Nat.exists_eq_add_one_of_ne_zero (Nat.ne_zero_of_lt enough)
  induction fields generalizing name v below with
  | nil =>
    have value := first depth below (style.lineBreak outer ++ '}' :: tail) (by omega)
      (stops_lineBreak rfl tail)
    exact (ReadsFields.last (readsField_written gapped name plain value)
      (skipGap_lineBreak rfl tail)).readFields_eq
  | cons field fields ih =>
    obtain ⟨nextName, u⟩ := field
    obtain ⟨(next : ReadsSelf style u), further⟩ := List.forall_mem_cons.mp later
    obtain ⟨(plainNext : u.FloatFree), plainFurther⟩ := List.forall_mem_cons.mp plainLater
    have value := first depth below _ (by omega)
      (stops_writeFields ((nextName, u) :: fields) : Stops isNumeric
      (writeFields style depth ((nextName, u) :: fields) ++ (style.lineBreak outer ++ '}' :: tail)))
    simp only [writeFields, List.length_append, List.length_cons] at enough
    obtain ⟨below, rfl⟩ := Nat.exists_eq_add_one_of_ne_zero (show below ≠ 0 by omega)
    have field := readsField_written gapped name plain value
    refine (ReadsFields.more field (skipGap_writeFields nextName u fields _) ?_).readFields_eq
    rw [skipGap_append gapped.gap, skipGap_writeText]
    exact ih next further plainNext plainFurther below (by omega)

theorem readValue_array {rest : List Char} {items : List Json}
    (unclosed : ∀ more, skipGap cs ≠ ']' :: more)
    (reads : readItems fuel (skipGap cs) = .ok (items, rest)) :
    readValue (fuel + 1) ('[' :: cs) = .ok (.array items, rest) := by
  rw [readValue]
  split
  · rename_i closed
    exact absurd closed (unclosed _)
  · rw [reads]
    rfl

theorem readValue_object {rest : List Char} {fields : List (String × Json)}
    (unclosed : ∀ more, skipGap cs ≠ '}' :: more)
    (reads : readFields fuel (skipGap cs) = .ok (fields, rest)) :
    readValue (fuel + 1) ('{' :: cs) = .ok (.object (Table.ofPairs fields), rest) := by
  rw [readValue]
  split
  · rename_i closed
    exact absurd closed (unclosed _)
  · rw [reads]
    rfl

theorem readsSelf_array (gapped : style.Gapped) {items : List Json}
    (each : ∀ v ∈ items, ReadsSelf style v) (plain : (Json.array items).FloatFree) :
    ReadsSelf style (.array items) := by
  refine readsSelf_of_succ plain fun depth fuel tail enough stops => ?_
  cases items with
  | nil => rfl
  | cons v items =>
    obtain ⟨first, later⟩ := List.forall_mem_cons.mp each
    obtain ⟨plainFirst, plainLater⟩ := List.forall_mem_cons.mp (floatFree_array.mp plain)
    simp only [write, List.cons_append, List.nil_append, List.append_assoc, List.length_append,
      List.length_cons] at enough ⊢
    have start (rest : List Char) :
      skipGap (style.lineBreak (depth + 1) ++ (write style (depth + 1) v ++ rest)) =
        write style (depth + 1) v ++ rest := by
      rw [skipGap_append fun _ => isGap_of_mem_lineBreak, skipGap_written plainFirst]
    refine readValue_array (fun more closed => ?_) ?_
    · obtain ⟨c, rest, written, kind⟩ := exists_first style (depth + 1) (plainFirst [] v rfl)
      rw [start, written] at closed
      obtain ⟨rfl, -⟩ := List.cons.inj closed
      cases kind
    · rw [start]
      exact readItems_written gapped first later plainLater (by omega)

theorem readsSelf_object (gapped : style.Gapped) {fields : List (String × Json)}
    (each : ∀ field ∈ fields, ReadsSelf style field.2) (plain : (Json.object fields).FloatFree)
    (distinct : (Table.keys fields).Nodup) : ReadsSelf style (.object fields) := by
  refine readsSelf_of_succ plain fun depth fuel tail enough stops => ?_
  cases fields with
  | nil => rfl
  | cons field fields =>
    obtain ⟨name, v⟩ := field
    obtain ⟨(first : ReadsSelf style v), later⟩ := List.forall_mem_cons.mp each
    obtain ⟨(plainFirst : v.FloatFree), plainLater⟩ :=
      List.forall_mem_cons.mp (floatFree_object.mp plain)
    simp only [write, List.cons_append, List.nil_append, List.append_assoc, List.length_append,
      List.length_cons] at enough ⊢
    have start (rest : List Char) :
      skipGap (style.lineBreak (depth + 1) ++ (writeText style.asciiOnly name ++ rest)) =
        writeText style.asciiOnly name ++ rest := by
      rw [skipGap_append fun _ => isGap_of_mem_lineBreak, skipGap_writeText]
    rw [← Table.ofPairs_of_nodup distinct]
    refine readValue_object (fun more closed => ?_) ?_
    · rw [start, writeText_append] at closed
      cases (List.cons.inj closed).1
    · rw [start]
      exact readFields_written gapped first later plainFirst plainLater (by omega)

theorem readsSelf (gapped : style.Gapped) {v : Json}
    (readable : v.Readable) : ReadsSelf style v := by
  induction v using induct with
  | null => exact readsSelf_of_succ readable.plain fun _ _ _ _ _ => rfl
  | bool b => cases b <;> exact readsSelf_of_succ readable.plain fun _ _ _ _ _ => rfl
  | int n =>
    refine readsSelf_of_succ readable.plain fun depth fuel tail _ stops => ?_
    rw [write, readValue_decimalText, readNumber_decimalText (readable.short [] _ rfl n rfl) stops]
  | float x => exact absurd rfl (readable.plain [] _ rfl x)
  | text s =>
    refine readsSelf_of_succ readable.plain fun depth fuel tail _ _ => ?_
    rw [write, writeText_append, readValue, readText_written]
    simp [Except.map]
  | array items ih =>
    exact readsSelf_array gapped (fun v hv => ih v hv (readable_array.mp readable v hv))
      readable.plain
  | object fields ih =>
    obtain ⟨distinct, each⟩ := readable_object.mp readable
    exact readsSelf_object gapped (fun field hf => ih field hf (each field hf))
      readable.plain distinct

/-! Whole texts. -/

theorem readChars_written (gapped : style.Gapped) {v : Json} (readable : v.Readable)
    (gap : ∀ c ∈ tail, isGap c = true) : readChars (write style 0 v ++ tail) = .ok v := by
  have stops : Stops isNumeric tail :=
    fun c hc => isNumeric_of_isGap (gap c (List.mem_of_mem_head? hc))
  have ended : skipGap tail = [] := List.dropWhile_eq_nil_iff.mpr gap
  have value := readsSelf gapped readable 0 (2 * (write style 0 v ++ tail).length + 2) tail
    (by rw [List.length_append]; omega) stops
  rw [readChars, skipGap_written readable.plain, value]
  simp only [ended]

theorem ofText_written (gapped : style.Gapped) {v : Json} (readable : v.Readable) {s : String}
    (gap : ∀ c ∈ tail, isGap c = true)
    (written : s.toList = write style 0 v ++ tail) : ofText s = .ok v := by
  obtain ⟨c, rest, start, kind⟩ := exists_first style 0 (readable.plain [] v rfl)
  have noMark : ¬ c.toNat = 0xFEFF := by
    intro mark
    obtain rfl : c = Char.ofNat 0xFEFF := by rw [← mark, Char.ofNat_toNat]
    cases kind
  have chars : s.toList = c :: (rest ++ tail) := by rw [written, start, List.cons_append]
  rw [ofText, chars]
  simp only [if_neg noMark]
  rw [← chars, written, readChars_written gapped readable gap]

end LedgerFlow.Json
