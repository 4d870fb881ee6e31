import LedgerFlow.Json.Literal
import LedgerFlow.Proofs.Json.NumberText
import LedgerFlow.Proofs.Json.Throughout
import LedgerFlow.Proofs.Json.WrittenText
import LedgerFlow.Proofs.Number.Literal

/-!
The text of a value is the text of no other value, whatever the style: where no floating-point
numbers are in them, two values that start the same text are the same, and so is what follows them.
-/
namespace LedgerFlow.Json
open Number Text

def FloatFree (v : Json) : Prop := v.Throughout fun part => ∀ x, part ≠ .float x

theorem floatFree_array {items : List Json} :
    (Json.array items).FloatFree ↔ ∀ v ∈ items, v.FloatFree :=
  throughout_array.trans (and_iff_right nofun)

theorem floatFree_object {fields : List (String × Json)} :
    (Json.object fields).FloatFree ↔ ∀ field ∈ fields, field.2.FloatFree :=
  throughout_object.trans (and_iff_right nofun)

theorem floatFree_text (s : String) : (Json.text s).FloatFree := throughout_text.mpr nofun

def OffDigits (cs : List Char) : Prop := ∀ c ∈ cs.head?, c.isDigit = false

theorem offDigits_nil : OffDigits [] := by
  simp [OffDigits]

theorem offDigits_cons {c : Char} (h : c.isDigit = false)
    (cs : List Char) : OffDigits (c :: cs) := by
  simpa [OffDigits] using h

variable {style : Style} {depth : Nat} {s t : List Char}

/-! The parts of a text. -/

theorem takeWhile_isDigit {n : Nat} (off : OffDigits s) :
    (decimalDigits n ++ s).takeWhile Char.isDigit = decimalDigits n :=
  takeWhile_append_of_stops (fun _ => isDigit_of_mem_decimalDigits) off

theorem decimalDigits_append_inj {m n : Nat} (offs : OffDigits s) (offt : OffDigits t)
    (h : decimalDigits m ++ s = decimalDigits n ++ t) : m = n ∧ s = t := by
  have digits : decimalDigits m = decimalDigits n := by
    rw [← takeWhile_isDigit offs, h, takeWhile_isDigit offt]
  refine ⟨?_, List.append_cancel_left (digits ▸ h)⟩
  rw [← ofDigits_decimalDigits m, digits, ofDigits_decimalDigits]

theorem exists_decimalDigits (n : Nat) :
    ∃ c rest, decimalDigits n = c :: rest ∧ c.isDigit = true := by
  obtain ⟨c, rest, digits⟩ := List.exists_cons_of_ne_nil (numeric_decimalDigits n).filled
  exact ⟨c, rest, digits, isDigit_of_mem_decimalDigits (digits ▸ List.mem_cons_self)⟩

theorem minus_cons_ne_decimalDigits (n : Nat) : '-' :: s ≠ decimalDigits n ++ t := by
  obtain ⟨c, rest, digits, digit⟩ := exists_decimalDigits n
  rw [digits]
  intro h
  obtain ⟨rfl, -⟩ := List.cons.inj h
  cases digit

theorem decimalText_append_inj {m n : Int} (offs : OffDigits s) (offt : OffDigits t)
    (h : decimalText m ++ s = decimalText n ++ t) : m = n ∧ s = t := by
  cases m with
  | ofNat m =>
    cases n with
    | ofNat n =>
      obtain ⟨rfl, rest⟩ := decimalDigits_append_inj offs offt h
      exact ⟨rfl, rest⟩
    | negSucc n => exact absurd h.symm (minus_cons_ne_decimalDigits m)
  | negSucc m =>
    cases n with
    | ofNat n => exact absurd h (minus_cons_ne_decimalDigits n)
    | negSucc n =>
      obtain ⟨same, rest⟩ := decimalDigits_append_inj offs offt (List.cons.inj h).2
      exact ⟨by omega, rest⟩

theorem writeText_append_inj {asciiOnly : Bool} {name name' : String}
    (h : writeText asciiOnly name ++ s = writeText asciiOnly name' ++ t) :
    name = name' ∧ s = t := by
  rw [writeText_append, writeText_append] at h
  have read := congrArg (readText 0 0) (List.cons.inj h).2
  rw [readText_written, readText_written] at read
  obtain ⟨chars, rest⟩ := Prod.mk.inj (Except.ok.inj read)
  exact ⟨String.toList_inj.mp chars, rest⟩

def kindOfFirst (c : Char) : Option String :=
  if c = 'n' then some "NoneType"
  else if c = 't' ∨ c = 'f' then some "bool"
  else if c = '"' then some "str"
  else if c = '[' then some "list"
  else if c = '\x7b' then some "dict"
  else if c = '-' ∨ c.isDigit = true then some "int"
  else none

theorem kindOfFirst_of_isDigit {c : Char} (h : c.isDigit = true) : kindOfFirst c = some "int" := by
  unfold kindOfFirst
  split_ifs with null bool text array object number
  · cases null ▸ h
  · rcases bool with rfl | rfl <;> cases h
  · cases text ▸ h
  · cases array ▸ h
  · cases object ▸ h
  · rfl
  · exact absurd (.inr h) number

theorem exists_first (style : Style) (depth : Nat) {v : Json} (plain : ∀ x, v ≠ .float x) :
    ∃ c rest, write style depth v = c :: rest ∧ kindOfFirst c = some v.kindWord := by
  cases v with
  | null => exact ⟨_, _, rfl, rfl⟩
  | bool b => cases b <;> exact ⟨_, _, rfl, rfl⟩
  | int n =>
    cases n with
    | ofNat n =>
      obtain ⟨c, rest, digits, digit⟩ := exists_decimalDigits n
      exact ⟨c, rest, digits, kindOfFirst_of_isDigit digit⟩
    | negSucc n => exact ⟨_, _, rfl, rfl⟩
  | float x => exact absurd rfl (plain x)
  | text s => exact ⟨_, _, rfl, rfl⟩
  | array items => cases items <;> exact ⟨_, _, rfl, rfl⟩
  | object fields => cases fields <;> exact ⟨_, _, rfl, rfl⟩

theorem kindWord_eq {v w : Json} (plain : ∀ x, v ≠ .float x) (plain' : ∀ x, w ≠ .float x)
    (h : write style depth v ++ s = write style depth w ++ t) : v.kindWord = w.kindWord := by
  obtain ⟨c, rest, written, kind⟩ := exists_first style depth plain
  obtain ⟨d, rest', written', kind'⟩ := exists_first style depth plain'
  rw [written, written'] at h
  obtain ⟨rfl, -⟩ := List.cons.inj h
  exact Option.some.inj (kind.symm.trans kind')

/-! Containers. -/

theorem exists_lineBreak_append (style : Style) (depth : Nat) (c : Char) (s : List Char) :
    ∃ d rest, style.lineBreak depth ++ c :: s = d :: rest ∧ (d = '\n' ∨ d = c) := by
  unfold Style.lineBreak
  cases style.indent with
  | none => exact ⟨c, s, rfl, .inr rfl⟩
  | some n => exact ⟨_, _, rfl, .inl rfl⟩

/-- The text of the value determines it, where it is followed by no digit. -/
def Determined (style : Style) (v : Json) : Prop :=
  ∀ (depth : Nat) (w : Json) (s t : List Char), w.FloatFree → OffDigits s → OffDigits t →
    write style depth v ++ s = write style depth w ++ t → v = w ∧ s = t

theorem determined_of_kindWord {v : Json} (plain : ∀ x, v ≠ .float x)
    (alike : ∀ (depth : Nat) (w : Json) (s t : List Char), v.kindWord = w.kindWord → w.FloatFree →
      OffDigits s →
      OffDigits t → write style depth v ++ s = write style depth w ++ t → v = w ∧ s = t) :
        Determined style v := by
  intro depth w s t plain' offs offt h
  exact alike depth w s t (kindWord_eq plain (plain' [] w rfl) h) plain' offs offt h

variable {outer : Nat} {close : Char} {items items' : List Json}
    {fields fields' : List (String × Json)}

theorem comma_cons_ne_lineBreak (notComma : close ≠ ',') :
    ',' :: s ≠ style.lineBreak outer ++ close :: t := by
  obtain ⟨d, rest, ending, first⟩ := exists_lineBreak_append style outer close t
  rw [ending]
  intro h
  obtain ⟨rfl, -⟩ := List.cons.inj h
  rcases first with first | first
  · cases first
  · exact notComma first.symm

theorem offDigits_writeItems (items : List Json) :
    OffDigits (writeItems style depth items ++ (style.lineBreak outer ++ ']' :: s)) := by
  cases items with
  | nil =>
    obtain ⟨d, rest, ending, first⟩ := exists_lineBreak_append style outer ']' s
    rw [writeItems, List.nil_append, ending]
    exact offDigits_cons (by rcases first with rfl | rfl <;> rfl) rest
  | cons v rest => exact offDigits_cons rfl _

theorem offDigits_writeFields (fields : List (String × Json)) :
    OffDigits (writeFields style depth fields ++ (style.lineBreak outer ++ '\x7d' :: s)) := by
  cases fields with
  | nil =>
    obtain ⟨d, rest, ending, first⟩ := exists_lineBreak_append style outer '\x7d' s
    rw [writeFields, List.nil_append, ending]
    exact offDigits_cons (by rcases first with rfl | rfl <;> rfl) rest
  | cons field rest => exact offDigits_cons rfl _

theorem writeItems_append_inj (each : ∀ v ∈ items, Determined style v)
    (plain : ∀ w ∈ items', w.FloatFree)
    (h : writeItems style depth items ++ (style.lineBreak outer ++ ']' :: s) =
      writeItems style depth items' ++ (style.lineBreak outer ++ ']' :: t)) :
        items = items' ∧ s = t := by
  induction items generalizing items' with
  | nil =>
    cases items' with
    | nil => exact ⟨rfl, (List.cons.inj (List.append_cancel_left h)).2⟩
    | cons w items' => exact absurd h.symm (comma_cons_ne_lineBreak (by decide))
  | cons v items ih =>
    cases items' with
    | nil => exact absurd h (comma_cons_ne_lineBreak (by decide))
    | cons w items' =>
      obtain ⟨first, later⟩ := List.forall_mem_cons.mp each
      obtain ⟨plainFirst, plainLater⟩ := List.forall_mem_cons.mp plain
      simp only [writeItems, List.cons_append, List.append_assoc, List.cons.injEq, true_and,
        List.append_cancel_left_eq] at h
      obtain ⟨rfl, rest⟩ := first _ _ _ _ plainFirst (offDigits_writeItems items)
        (offDigits_writeItems items') h
      obtain ⟨rfl, behind⟩ := ih later plainLater rest
      exact ⟨rfl, behind⟩

theorem writeFields_append_inj (each : ∀ field ∈ fields, Determined style field.2)
    (plain : ∀ field ∈ fields', field.2.FloatFree)
    (h : writeFields style depth fields ++ (style.lineBreak outer ++ '\x7d' :: s) =
      writeFields style depth fields' ++ (style.lineBreak outer ++ '\x7d' :: t)) :
        fields = fields' ∧ s = t := by
  induction fields generalizing fields' with
  | nil =>
    cases fields' with
    | nil => exact ⟨rfl, (List.cons.inj (List.append_cancel_left h)).2⟩
    | cons field fields' => exact absurd h.symm (comma_cons_ne_lineBreak (by decide))
  | cons field fields ih =>
    cases fields' with
    | nil => exact absurd h (comma_cons_ne_lineBreak (by decide))
    | cons field' fields' =>
      obtain ⟨name, v⟩ := field
      obtain ⟨name', w⟩ := field'
      obtain ⟨first, later⟩ := List.forall_mem_cons.mp each
      obtain ⟨plainFirst, plainLater⟩ := List.forall_mem_cons.mp plain
      simp only [writeFields, List.cons_append, List.append_assoc, List.cons.injEq, true_and,
        List.append_cancel_left_eq] at h
      obtain ⟨rfl, h⟩ := writeText_append_inj h
      simp only [List.cons.injEq, true_and, List.append_cancel_left_eq] at h
      obtain ⟨rfl, rest⟩ := first _ _ _ _ plainFirst (offDigits_writeFields fields)
        (offDigits_writeFields fields') h
      obtain ⟨rfl, behind⟩ := ih later plainLater rest
      exact ⟨rfl, behind⟩

theorem close_cons_ne_item {w : Json} (plain : ∀ x, w ≠ .float x) :
    ']' :: s ≠ style.lineBreak outer ++ (write style depth w ++ t) := by
  obtain ⟨c, rest, written, kind⟩ := exists_first style depth plain
  rw [written, List.cons_append]
  obtain ⟨d, behind, start, first⟩ := exists_lineBreak_append style outer c (rest ++ t)
  rw [start]
  intro h
  obtain ⟨rfl, -⟩ := List.cons.inj h
  rcases first with first | rfl
  · cases first
  · cases kind

theorem close_cons_ne_field {name : String} :
    '\x7d' :: s ≠ style.lineBreak outer ++ (writeText style.asciiOnly name ++ t) := by
  rw [writeText_append]
  obtain ⟨d, behind, start, first⟩ := exists_lineBreak_append style outer '"' _
  rw [start]
  intro h
  obtain ⟨rfl, -⟩ := List.cons.inj h
  rcases first with first | first <;> cases first

theorem determined_array (each : ∀ v ∈ items, Determined style v)
    (plain : ∀ v ∈ items, v.FloatFree) :
    Determined style (.array items) := by
  refine determined_of_kindWord (by simp) ?_
  intro depth w s t kind plainw _ _ h
  cases w with
  | array items' =>
    have plain' := floatFree_array.mp plainw
    -- An empty array closes where a filled one goes on; two filled ones agree item by item.
    cases items with
    | nil =>
      cases items' with
      | nil => exact ⟨rfl, List.append_cancel_left h⟩
      | cons w items' =>
        simp only [write, List.cons_append, List.append_assoc, List.cons.injEq, true_and,
          List.nil_append] at h
        exact absurd h (close_cons_ne_item (plain' w List.mem_cons_self [] w rfl))
    | cons v items =>
      cases items' with
      | nil =>
        simp only [write, List.cons_append, List.append_assoc, List.cons.injEq, true_and,
          List.nil_append] at h
        exact absurd h.symm (close_cons_ne_item (plain v List.mem_cons_self [] v rfl))
      | cons w items' =>
        obtain ⟨first, later⟩ := List.forall_mem_cons.mp each
        obtain ⟨plainFirst, plainLater⟩ := List.forall_mem_cons.mp plain'
        simp only [write, List.cons_append, List.append_assoc, List.cons.injEq, true_and,
          List.append_cancel_left_eq, List.nil_append] at h
        obtain ⟨rfl, rest⟩ := first _ _ _ _ plainFirst (offDigits_writeItems items)
          (offDigits_writeItems items') h
        obtain ⟨rfl, behind⟩ := writeItems_append_inj later plainLater rest
        exact ⟨rfl, behind⟩
  | _ => simp [kindWord] at kind

theorem determined_object (each : ∀ field ∈ fields, Determined style field.2) :
    Determined style (.object fields) := by
  refine determined_of_kindWord (by simp) ?_
  intro depth w s t kind plainw _ _ h
  cases w with
  | object fields' =>
    cases fields with
    | nil =>
      cases fields' with
      | nil => exact ⟨rfl, List.append_cancel_left h⟩
      | cons field fields' =>
        simp only [write, List.cons_append, List.append_assoc, List.cons.injEq, true_and,
          List.nil_append] at h
        exact absurd h close_cons_ne_field
    | cons field fields =>
      cases fields' with
      | nil =>
        simp only [write, List.cons_append, List.append_assoc, List.cons.injEq, true_and,
          List.nil_append] at h
        exact absurd h.symm close_cons_ne_field
      | cons field' fields' =>
        obtain ⟨name, v⟩ := field
        obtain ⟨name', w⟩ := field'
        obtain ⟨first, later⟩ := List.forall_mem_cons.mp each
        obtain ⟨plainFirst, plainLater⟩ := List.forall_mem_cons.mp (floatFree_object.mp plainw)
        simp only [write, List.cons_append, List.append_assoc, List.cons.injEq, true_and,
          List.append_cancel_left_eq, List.nil_append] at h
        obtain ⟨rfl, h⟩ := writeText_append_inj h
        simp only [List.cons.injEq, true_and, List.append_cancel_left_eq] at h
        obtain ⟨rfl, rest⟩ := first _ _ _ _ plainFirst (offDigits_writeFields fields)
          (offDigits_writeFields fields') h
        obtain ⟨rfl, behind⟩ := writeFields_append_inj later plainLater rest
        exact ⟨rfl, behind⟩
  | _ => simp [kindWord] at kind

theorem determined {v : Json} (plain : v.FloatFree) : Determined style v := by
  induction v using induct with
  | array items ih =>
    have plain := floatFree_array.mp plain
    exact determined_array (fun v hv => ih v hv (plain v hv)) plain
  | object fields ih =>
    have plain := floatFree_object.mp plain
    exact determined_object fun field hfield => ih field hfield (plain field hfield)
  | float x => exact absurd rfl (plain [] _ rfl x)
  | null =>
    refine determined_of_kindWord (by simp) ?_
    intro depth w s t kind _ offs offt h
    cases w with
    | null => exact ⟨rfl, List.append_cancel_left h⟩
    | _ => simp [kindWord] at kind
  | bool b =>
    refine determined_of_kindWord (by simp) ?_
    intro depth w s t kind _ offs offt h
    cases w with
    | bool b' =>
      cases b <;> cases b'
      · exact ⟨rfl, List.append_cancel_left h⟩
      · cases h
      · cases h
      · exact ⟨rfl, List.append_cancel_left h⟩
    | _ => simp [kindWord] at kind
  | int n =>
    refine determined_of_kindWord (by simp) ?_
    intro depth w s t kind _ offs offt h
    cases w with
    | int n' =>
      obtain ⟨rfl, behind⟩ := decimalText_append_inj offs offt h
      exact ⟨rfl, behind⟩
    | _ => simp [kindWord] at kind
  | text name =>
    refine determined_of_kindWord (by simp) ?_
    intro depth w s t kind _ offs offt h
    cases w with
    | text name' =>
      obtain ⟨rfl, behind⟩ := writeText_append_inj h
      exact ⟨rfl, behind⟩
    | _ => simp [kindWord] at kind

/-- In one style, values with one text are one value. -/
theorem toText_inj {v w : Json} (plain : v.FloatFree) (plain' : w.FloatFree)
    (h : toText style v = toText style w) : v = w := by
  have h := String.ofList_inj.mp h
  have h' : write style 0 v ++ [] = write style 0 w ++ [] := congrArg (· ++ []) h
  exact (determined plain 0 w [] [] plain' offDigits_nil offDigits_nil h').1

end LedgerFlow.Json
