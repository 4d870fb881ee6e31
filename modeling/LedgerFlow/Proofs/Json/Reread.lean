import LedgerFlow.Proofs.Json.NumberText
import LedgerFlow.Proofs.Json.Reader
import LedgerFlow.Proofs.Json.WrittenText

/-!
What the text of a value reads as: a value of the same shape with the same texts and names. A number
may come back as another one, and of several fields with one name only the last is read.
-/
namespace LedgerFlow.Json
open Number Text

inductive Namesakes (R : Json → Json → Prop) : String × Json → String × Json → Prop
  | of {name : String} {v w : Json} (values : R v w) : Namesakes R (name, v) (name, w)

/-- What one value may be read as. -/
inductive Reread : Json → Json → Prop
  | same {v : Json} : Reread v v
  | number {v w : Json} (written : v.numeral?.isSome = true) (read : w.numeral?.isSome = true) :
      Reread v w
  | array {items read : List Json} (each : List.Forall₂ Reread items read) :
      Reread (.array items) (.array read)
  | object {fields read : List (String × Json)}
      (each : List.Forall₂ (Namesakes Reread) fields read) :
      Reread (.object fields) (.object (Table.ofPairs read))

theorem Reread.eq_text {v : Json} {s : String} (h : Reread v (.text s)) : v = .text s := by
  cases h with
  | same => rfl
  | number written read => cases read

/-! What follows a value: the end of the text or of a container, or a comma. -/

def isDelimiter (c : Char) : Bool := c = ',' || c = ']' || c = '}'

def Delimited (cs : List Char) : Prop := ∀ c ∈ cs.head?, isDelimiter c = true

theorem delimited_nil : Delimited [] := by
  simp [Delimited]

theorem delimited_cons {c : Char} {cs : List Char}
    (h : isDelimiter c = true) : Delimited (c :: cs) := by
  simpa [Delimited] using h

theorem isDelimiter_cases {c : Char} (h : isDelimiter c = true) :
    isNumeric c = false ∧ isGap c = false := by
  simp only [isDelimiter, Bool.or_eq_true, decide_eq_true_eq] at h
  rcases h with (rfl | rfl) | rfl <;> exact ⟨rfl, rfl⟩

theorem isGap_of_isNumeric {c : Char} (h : isNumeric c = true) : isGap c = false := by
  by_contra gap
  simp only [isGap, Bool.not_eq_false, Bool.or_eq_true, decide_eq_true_eq] at gap
  rcases gap with ((rfl | rfl) | rfl) | rfl <;> cases h

theorem skipGap_cons {c : Char} (h : isGap c = false) (cs : List Char) :
    skipGap (c :: cs) = c :: cs :=
  List.dropWhile_cons_of_neg (by simp [h])

theorem Delimited.skipGap_eq {cs : List Char} (h : Delimited cs) : skipGap cs = cs := by
  cases cs with
  | nil => rfl
  | cons c cs => exact skipGap_cons (isDelimiter_cases (h c rfl)).2 cs

theorem Delimited.afterNumber_eq {cs : List Char} (h : Delimited cs) : afterNumber cs = cs := by
  cases cs with
  | nil => rfl
  | cons c cs => exact List.dropWhile_cons_of_neg (by simp [(isDelimiter_cases (h c rfl)).1])

/-- A reader that finds its delimiter behind a number has left none of the number unread. -/
theorem skipGap_eq_of_afterNumber {rest tail : List Char} (left : afterNumber rest = tail)
    (delimited : Delimited tail) (found : Delimited (skipGap rest)) : skipGap rest = tail := by
  cases rest with
  | nil => exact left
  | cons c rest =>
    by_cases numeric : isNumeric c = true
    · rw [skipGap_cons (isGap_of_isNumeric numeric)] at found
      have delimiter := isDelimiter_cases (found c rfl)
      rw [numeric] at delimiter
      cases delimiter.1
    · obtain rfl : c :: rest = tail := by
        rw [← left]
        exact (List.dropWhile_cons_of_neg numeric).symm
      exact delimited.skipGap_eq

/-! Numbers. -/

theorem readValue_numeric {number tail : List Char} (numeric : Numeric number)
    (delimited : Delimited tail) (fuel : Nat) :
    readValue (fuel + 1) (number ++ tail) = readNumber (number ++ tail) := by
  obtain ⟨c, number, rfl⟩ := List.exists_cons_of_ne_nil numeric.filled
  obtain ⟨first, later⟩ := List.forall_mem_cons.mp numeric.each
  unfold readValue
  split
  case h_9 heq =>
    -- The one literal that starts as a number may.
    obtain ⟨rfl, behind⟩ := List.cons.inj heq
    cases number with
    | nil =>
      obtain rfl : tail = _ := behind
      cases delimited 'I' rfl
    | cons d number =>
      obtain ⟨rfl, -⟩ := List.cons.inj behind
      cases later 'I' List.mem_cons_self
  case h_10 => rfl
  all_goals
    rename_i heq
    obtain ⟨rfl, -⟩ := List.cons.inj heq
    cases first

/-! Values, one after the other. -/

@[simp] theorem lineBreak_compact (depth : Nat) : Style.compact.lineBreak depth = [] := rfl

@[simp] theorem gap_compact (depth : Nat) : Style.compact.gap depth = [] := rfl

@[simp] theorem keyGap_compact : Style.compact.keyGap = [] := rfl

@[simp] theorem asciiOnly_compact : Style.compact.asciiOnly = false := rfl

theorem writeItems_cons (depth : Nat) (v : Json) (rest : List Json) (tail : List Char) :
    writeItems .compact depth (v :: rest) ++ tail =
      ',' :: (write .compact depth v ++ (writeItems .compact depth rest ++ tail)) := by
  simp [writeItems]

theorem writeFields_cons (depth : Nat) (name : String) (v : Json) (rest : List (String × Json))
    (tail : List Char) :
    writeFields .compact depth ((name, v) :: rest) ++ tail =
      ',' :: (writeText false name ++
        ':' :: (write .compact depth v ++ (writeFields .compact depth rest ++ tail))) := by
  simp [writeFields]

theorem write_array (depth : Nat) (v : Json) (rest : List Json) (tail : List Char) :
    write .compact depth (.array (v :: rest)) ++ tail =
      '[' :: (write .compact (depth + 1) v ++
        (writeItems .compact (depth + 1) rest ++ ']' :: tail)) := by
  simp [write]

theorem write_object (depth : Nat) (name : String) (v : Json) (rest : List (String × Json))
    (tail : List Char) :
    write .compact depth (.object ((name, v) :: rest)) ++ tail =
      '{' :: (writeText false name ++ ':' :: (write .compact (depth + 1) v ++
        (writeFields .compact (depth + 1) rest ++ '}' :: tail))) := by
  simp [write]

theorem exists_write (depth : Nat) (v : Json) :
    ∃ c rest, write .compact depth v = c :: rest ∧ isGap c = false ∧ c ≠ ']' := by
  have numeric {number : List Char} (h : Numeric number) : ∃ c rest, number = c :: rest ∧
      isGap c = false ∧ c ≠ ']' := by
    obtain ⟨c, rest, rfl⟩ := List.exists_cons_of_ne_nil h.filled
    have first := h.each c List.mem_cons_self
    refine ⟨c, rest, rfl, isGap_of_isNumeric first, ?_⟩
    rintro rfl
    cases first
  cases v with
  | null => exact ⟨_, _, rfl, rfl, by decide⟩
  | bool b => cases b <;> exact ⟨_, _, rfl, rfl, by decide⟩
  | int n => exact numeric (numeric_decimalText n)
  | float x =>
    rcases float_text_cases x with digits | rfl | ⟨negative, rfl⟩
    · exact numeric digits
    · exact ⟨_, _, rfl, rfl, by decide⟩
    · cases negative <;> exact ⟨_, _, rfl, rfl, by decide⟩
  | text s => exact ⟨_, _, rfl, rfl, by decide⟩
  | array items => cases items <;> exact ⟨_, _, rfl, rfl, by decide⟩
  | object fields => cases fields <;> exact ⟨_, _, rfl, rfl, by decide⟩

theorem skipGap_write (depth : Nat) (v : Json) (rest : List Char) :
    skipGap (write .compact depth v ++ rest) = write .compact depth v ++ rest := by
  obtain ⟨c, later, written, solid, -⟩ := exists_write depth v
  rw [written]
  exact skipGap_cons solid _

theorem skipGap_writeText (asciiOnly : Bool) (s : String) (rest : List Char) :
    skipGap (writeText asciiOnly s ++ rest) = writeText asciiOnly s ++ rest := skipGap_cons rfl _

/-- Before a delimiter the value reads as itself, up to its numbers, and at most a part of a number
is left. -/
def ReadsBack (v : Json) : Prop :=
  ∀ {depth fuel tail w rest}, Delimited tail → readValue fuel (write .compact depth v ++ tail) =
    .ok (w, rest) → Reread v w ∧ afterNumber rest = tail

/-- The reader of a value that reads back finds the delimiter that follows. -/
theorem ReadsBack.settle {v w : Json} (h : ReadsBack v) {depth fuel : Nat} {c d : Char}
    {tail behind rest : List Char}
    (value : readValue fuel (write .compact depth v ++ c :: tail) = .ok (w, behind))
    (written : isDelimiter c = true) (found : skipGap behind = d :: rest)
    (read : isDelimiter d = true) : Reread v w ∧ d = c ∧ rest = tail := by
  obtain ⟨alike, left⟩ := h (delimited_cons written) value
  have same := skipGap_eq_of_afterNumber left (delimited_cons written) (found ▸ delimited_cons read)
  exact ⟨alike, List.cons.inj (found ▸ same)⟩

theorem readItems_write {v : Json} {items : List Json} (first : ReadsBack v)
    (later : ∀ u ∈ items, ReadsBack u) {depth fuel : Nat} {tail rest : List Char} {read : List Json}
    (h : readItems fuel (write .compact depth v ++
      (writeItems .compact depth items ++ ']' :: tail)) = .ok (read, rest)) :
    List.Forall₂ Reread (v :: items) read ∧ rest = tail := by
  induction items generalizing v fuel read with
  | nil =>
    obtain ⟨below, rfl, reads⟩ := of_readItems h
    cases reads with
    | last value closed =>
      obtain ⟨alike, -, rfl⟩ := first.settle value rfl closed rfl
      exact ⟨.cons alike .nil, rfl⟩
    | more value comma _ => cases (first.settle value rfl comma rfl).2.1
  | cons u items ih =>
    rw [writeItems_cons] at h
    obtain ⟨next, further⟩ := List.forall_mem_cons.mp later
    obtain ⟨below, rfl, reads⟩ := of_readItems h
    cases reads with
    | last value closed => cases (first.settle value rfl closed rfl).2.1
    | more value comma more =>
      obtain ⟨alike, -, rfl⟩ := first.settle value rfl comma rfl
      rw [skipGap_write] at more
      obtain ⟨others, rfl⟩ := ih next further more
      exact ⟨.cons alike others, rfl⟩

theorem readField_write {name : String} {own : String × Json} {v : Json} {depth fuel : Nat}
    {tail behind : List Char}
    (h : ReadsField fuel (writeText false name ++ ':' :: (write .compact depth v ++ tail))
      behind own) :
    ∃ w, own = (name, w) ∧ readValue fuel (write .compact depth v ++ tail) = .ok (w, behind) := by
  cases h with
  | of opens names colon value =>
    rw [writeText_append] at opens
    obtain ⟨-, rfl⟩ := List.cons.inj opens
    rw [readText_written] at names
    obtain ⟨rfl, rfl⟩ := Prod.mk.inj (Except.ok.inj names)
    rw [skipGap_cons rfl] at colon
    obtain ⟨-, rfl⟩ := List.cons.inj colon
    rw [skipGap_write] at value
    exact ⟨_, by rw [String.ofList_toList], value⟩

theorem readFields_write {name : String} {v : Json} {fields : List (String × Json)}
    (first : ReadsBack v) (later : ∀ field ∈ fields, ReadsBack field.2) {depth fuel : Nat}
    {tail rest : List Char} {read : List (String × Json)}
    (h : readFields fuel (writeText false name ++ ':' :: (write .compact depth v ++
      (writeFields .compact depth fields ++ '}' :: tail))) = .ok (read, rest)) :
    List.Forall₂ (Namesakes Reread) ((name, v) :: fields) read ∧ rest = tail := by
  induction fields generalizing name v fuel read with
  | nil =>
    obtain ⟨below, rfl, reads⟩ := of_readFields h
    cases reads with
    | last field closed =>
      obtain ⟨w, rfl, value⟩ := readField_write field
      obtain ⟨alike, -, rfl⟩ := first.settle value rfl closed rfl
      exact ⟨.cons (.of alike) .nil, rfl⟩
    | more field comma _ =>
      obtain ⟨w, rfl, value⟩ := readField_write field
      cases (first.settle value rfl comma rfl).2.1
  | cons own fields ih =>
    rw [writeFields_cons] at h
    obtain ⟨next, further⟩ := List.forall_mem_cons.mp later
    obtain ⟨below, rfl, reads⟩ := of_readFields h
    cases reads with
    | last field closed =>
      obtain ⟨w, rfl, value⟩ := readField_write field
      cases (first.settle value rfl closed rfl).2.1
    | more field comma more =>
      obtain ⟨w, rfl, value⟩ := readField_write field
      obtain ⟨alike, -, rfl⟩ := first.settle value rfl comma rfl
      rw [skipGap_writeText] at more
      obtain ⟨others, rfl⟩ := ih next further more
      exact ⟨.cons (.of alike) others, rfl⟩

/-! Whole values. -/

theorem readsBack_exactly {v : Json} (same : ∀ depth fuel tail,
    readValue (fuel + 1) (write .compact depth v ++ tail) = .ok (v, tail)) : ReadsBack v := by
  intro depth fuel tail w rest delimited h
  cases fuel with
  | zero => cases h
  | succ fuel =>
    obtain ⟨rfl, rfl⟩ := Prod.mk.inj (Except.ok.inj ((same depth fuel tail).symm.trans h))
    exact ⟨.same, delimited.afterNumber_eq⟩

theorem readsBack_numeric {v : Json} {number : List Char}
    (written : ∀ depth, write .compact depth v = number) (digits : Numeric number)
    (hv : v.numeral?.isSome = true) : ReadsBack v := by
  intro depth fuel tail w rest delimited h
  cases fuel with
  | zero => cases h
  | succ fuel =>
    rw [written, readValue_numeric digits delimited] at h
    refine ⟨.number hv (numeral?_readNumber h), ?_⟩
    rw [← afterNumber_readNumber h, afterNumber_append digits.each, delimited.afterNumber_eq]

theorem readsBack_text (s : String) : ReadsBack (.text s) := by
  apply readsBack_exactly
  intro depth fuel tail
  rw [write, asciiOnly_compact, writeText_append, readValue, readText_written]
  simp [Except.map]

theorem readsBack_array {items : List Json} (each : ∀ v ∈ items, ReadsBack v) :
    ReadsBack (.array items) := by
  cases items with
  | nil => exact readsBack_exactly fun _ _ _ => rfl
  | cons v items =>
    intro depth fuel tail w rest delimited h
    obtain ⟨first, later⟩ := List.forall_mem_cons.mp each
    rw [write_array] at h
    rcases of_readValue_array h with ⟨-, closed⟩ | ⟨below, read, rfl, reads⟩
    · rw [skipGap_write] at closed
      obtain ⟨c, _, written, -, other⟩ := exists_write (depth + 1) v
      rw [written] at closed
      exact absurd (List.cons.inj closed).1 other
    · rw [skipGap_write] at reads
      obtain ⟨alike, rfl⟩ := readItems_write first later reads
      exact ⟨.array alike, delimited.afterNumber_eq⟩

theorem readsBack_object {fields : List (String × Json)}
    (each : ∀ field ∈ fields, ReadsBack field.2) : ReadsBack (.object fields) := by
  cases fields with
  | nil => exact readsBack_exactly fun _ _ _ => rfl
  | cons field fields =>
    intro depth fuel tail w rest delimited h
    obtain ⟨first, later⟩ := List.forall_mem_cons.mp each
    rw [write_object] at h
    rcases of_readValue_object h with ⟨-, closed⟩ | ⟨below, read, rfl, reads⟩
    · rw [skipGap_writeText, writeText_append] at closed
      cases (List.cons.inj closed).1
    · rw [skipGap_writeText] at reads
      obtain ⟨alike, rfl⟩ := readFields_write first later reads
      exact ⟨.object alike, delimited.afterNumber_eq⟩

theorem readsBack (v : Json) : ReadsBack v := by
  induction v using induct with
  | null => exact readsBack_exactly fun _ _ _ => rfl
  | bool b => cases b <;> exact readsBack_exactly fun _ _ _ => rfl
  | int n => exact readsBack_numeric (fun _ => rfl) (numeric_decimalText n) rfl
  | float x =>
    rcases float_text_cases x with digits | rfl | ⟨negative, rfl⟩
    · exact readsBack_numeric (fun _ => rfl) digits rfl
    · exact readsBack_exactly fun _ _ _ => rfl
    · cases negative <;> exact readsBack_exactly fun _ _ _ => rfl
  | text s => exact readsBack_text s
  | array items ih => exact readsBack_array ih
  | object fields ih => exact readsBack_object ih

/-! Whole texts. -/

theorem reread_of_readChars {v w : Json} {depth : Nat}
    (h : readChars (write .compact depth v) = .ok w) : Reread v w := by
  unfold readChars at h
  split at h
  · cases h
  · rename_i value
    split at h
    · obtain rfl := Except.ok.inj h
      rw [← List.append_nil (write .compact depth v), skipGap_write] at value
      exact (readsBack v delimited_nil value).1
    · cases h

/-- Whatever is read from the text of a value is that value again, up to its numbers. -/
theorem reread_of_ofText {v w : Json} (h : ofText v.compactText = .ok w) : Reread v w := by
  unfold ofText compactText toText at h
  rw [String.toList_ofList] at h
  split at h
  · rename_i written
    split at h
    · cases h
    · exact reread_of_readChars (written ▸ h)
  · rename_i written
    exact reread_of_readChars (written ▸ h)

end LedgerFlow.Json
