import LedgerFlow.Argument.Decode
import LedgerFlow.Proofs.Json.LongInteger
import LedgerFlow.Proofs.Table

/-!
What the texts of arguments come to. A text that says something as its type is decoded in silence,
any other one gives the zero value and a warning. Only JSON with an integer of too many digits is
neither, and it is what all texts fail for.
-/
namespace LedgerFlow.Argument
open Text Number
open Log (Record)

/-- The text says this as an argument of the type. -/
def Decodes (type data : String) (v : Json) : Prop :=
  match type with
  | "array" => Json.ofText data = .ok v ∧ isArray v = true
  | "object" => Json.ofText data = .ok v ∧ v.isObject = true
  | "boolean" => trimmed data ∈ trueWords ∧ v = .bool true ∨ trimmed data ∈ falseWords ∧
      v = .bool false
  | "integer" => ∃ n, integer? (trim data.toList) = some n ∧ v = .int n
  | "number" =>
    if '.' ∈ trim data.toList then ∃ x, float? (trim data.toList) = some x ∧ v = .float x
    else ∃ n, integer? (trim data.toList) = some n ∧ v = .int n
  | _ => v = .text (trimmed data)

/-- What stands for a text that says nothing as its type. The zero of a number is a floating-point
one where the text has a point. -/
def zeroOf (type data : String) : Json :=
  match type with
  | "boolean" => .bool false
  | "integer" => .int 0
  | "number" => if '.' ∈ trim data.toList then .float zeroFloat else .int 0
  | _ => .null

/-- The value is one that an argument of the type can have. -/
def Fits (type data : String) (v : Json) : Prop :=
  match type with
  | "array" => (∃ items, v = .array items) ∨ v = .null
  | "object" => (∃ fields, v = .object fields) ∨ v = .null
  | "boolean" => ∃ b, v = .bool b
  | "integer" => ∃ n, v = .int n
  | "number" => (∃ n, v = .int n) ∨ ∃ x, v = .float x
  | _ => v = .text (trimmed data)

/-- The text is to be read as JSON, and is refused for an integer with so many digits. -/
structure Overlong (type data : String) (count : Nat) : Prop where
  typed : type = "array" ∨ type = "object"
  refused : Json.ofText data = .error (.tooManyDigits count)

theorem Overlong.longRow {type data : String} {count : Nat} (h : Overlong type data count) :
    Json.LongRow count data.toList :=
  Json.longRow_of_ofText h.refused

/-- All that the text of an argument can come to. -/
inductive Outcome (type data : String) : Traced Json → Prop
  | decoded {v : Json} (told : Decodes type data v) (fits : Fits type data v) :
      Outcome type data ⟨[], .ok v⟩
  | zero (silent : ∀ v, ¬ Decodes type data v) (short : ∀ count, ¬ Overlong type data count)
      (fits : Fits type data (zeroOf type data)) (message : String) :
      Outcome type data ⟨[⟨.warning, .arguments, message⟩], .ok (zeroOf type data)⟩
  | overlong {count : Nat} (long : Overlong type data count) :
      Outcome type data ⟨[], .error (.integerTooLong count)⟩

section
variable (name : Option String) (data : String)

theorem not_overlong {type : String} (plain : ¬ (type = "array" ∨ type = "object")) (count : Nat) :
    ¬ Overlong type data count :=
  fun h => plain h.typed

theorem outcome_json {type kind : String} {isKind : Json → Bool}
    (typed : type = "array" ∨ type = "object")
    (decodes : ∀ v, Decodes type data v ↔ Json.ofText data = .ok v ∧ isKind v = true)
    (null : zeroOf type data = .null) (fits : ∀ v, isKind v = true ∨ v = .null → Fits type data v) :
    Outcome type data (decodeJson name kind isKind data) := by
  have zero (refused : ∀ count, Json.ofText data ≠ .error (.tooManyDigits count))
      (silent : ∀ v, Json.ofText data = .ok v → isKind v ≠ true) (message : String) :
      Outcome type data ⟨[⟨.warning, .arguments, message⟩], .ok .null⟩ := by
    rw [← null]
    refine .zero (fun v told => ?_) (fun count long => refused count long.refused)
      (fits _ (.inr null)) message
    obtain ⟨read, kind⟩ := (decodes v).mp told
    exact silent v read kind
  unfold decodeJson
  cases read : Json.ofText data with
  | error refusal =>
    cases refusal with
    | tooManyDigits count => exact .overlong ⟨typed, read⟩
    | fault fault remaining => exact zero (by simp [read]) (by simp [read]) _
  | ok v =>
    dsimp only
    split
    · rename_i kind
      exact .decoded ((decodes v).mpr ⟨read, kind⟩) (fits v (.inl kind))
    · rename_i kind
      refine zero (by simp [read]) (fun w read' => ?_) _
      exact Except.ok.inj (read.symm.trans read') ▸ kind

theorem outcome_array : Outcome "array" data (decodeJson name "array" isArray data) := by
  refine outcome_json name data (.inl rfl) (fun _ => Iff.rfl) rfl fun v h => ?_
  rcases h with kind | rfl
  · cases v with
    | array items => exact .inl ⟨items, rfl⟩
    | _ => cases kind
  · exact .inr rfl

theorem outcome_object : Outcome "object" data (decodeJson name "object" Json.isObject data) := by
  refine outcome_json name data (.inr rfl) (fun _ => Iff.rfl) rfl fun v h => ?_
  rcases h with kind | rfl
  · cases v with
    | object fields => exact .inl ⟨fields, rfl⟩
    | _ => cases kind
  · exact .inr rfl

theorem outcome_boolean : Outcome "boolean" data (decodeBoolean name data) := by
  unfold decodeBoolean
  dsimp only
  split_ifs with yes no
  · exact .decoded (.inl ⟨List.contains_iff_mem.mp yes, rfl⟩) ⟨true, rfl⟩
  · exact .decoded (.inr ⟨List.contains_iff_mem.mp no, rfl⟩) ⟨false, rfl⟩
  · have fits : Fits "boolean" data (zeroOf "boolean" data) := ⟨false, rfl⟩
    refine .zero (fun v told => ?_) (not_overlong data (by decide)) fits _
    rcases told with ⟨word, -⟩ | ⟨word, -⟩
    · exact yes (List.contains_iff_mem.mpr word)
    · exact no (List.contains_iff_mem.mpr word)

theorem outcome_decodeInteger {type : String} (plain : ¬ (type = "array" ∨ type = "object"))
    (decodes : ∀ v, Decodes type data v ↔ ∃ n, integer? (trim data.toList) = some n ∧ v = .int n)
    (zero : zeroOf type data = .int 0) (fits : ∀ n, Fits type data (.int n)) :
    Outcome type data (decodeInteger name data) := by
  unfold decodeInteger
  cases read : integer? (trim data.toList) with
  | some n => exact .decoded ((decodes _).mpr ⟨n, read, rfl⟩) (fits n)
  | none =>
    rw [← zero]
    refine .zero (fun v told => ?_) (not_overlong data plain) (zero ▸ fits 0) _
    obtain ⟨n, read', -⟩ := (decodes v).mp told
    cases read.symm.trans read'

theorem outcome_number : Outcome "number" data (decodeNumber name data) := by
  unfold decodeNumber
  dsimp only
  split_ifs with point
  · have pointed : '.' ∈ trim data.toList := List.contains_iff_mem.mp point
    have decodes (v : Json) : Decodes "number" data v ↔ ∃ x, float? (trim data.toList) = some x ∧
        v = .float x :=
      iff_of_eq (if_pos pointed)
    have zero : zeroOf "number" data = .float zeroFloat := if_pos pointed
    have fits : Fits "number" data (zeroOf "number" data) := .inr ⟨_, zero⟩
    cases read : float? (trim data.toList) with
    | some x => exact .decoded ((decodes _).mpr ⟨x, read, rfl⟩) (.inr ⟨x, rfl⟩)
    | none =>
      dsimp only
      rw [← zero]
      refine .zero (fun v told => ?_) (not_overlong data (by decide)) fits _
      obtain ⟨x, read', -⟩ := (decodes v).mp told
      cases read.symm.trans read'
  · have plain : '.' ∉ trim data.toList := fun h => point (List.contains_iff_mem.mpr h)
    exact outcome_decodeInteger name data (by decide) (fun v => iff_of_eq (if_neg plain))
      (if_neg plain) fun n => .inl ⟨n, rfl⟩

theorem decodeValue_outcome (type : String) : Outcome type data (decodeValue type name data) := by
  unfold decodeValue
  split
  · exact outcome_array name data
  · exact outcome_object name data
  · exact outcome_boolean name data
  · exact outcome_decodeInteger name data (by decide) (fun _ => Iff.rfl) rfl fun n => ⟨n, rfl⟩
  · exact outcome_number name data
  · refine .decoded ?_ ?_
    · unfold Decodes
      split <;> first | contradiction | rfl
    · unfold Fits
      split <;> first | contradiction | rfl

end

theorem Decodes.not_overlong {type data : String} {v : Json} (h : Decodes type data v)
    (count : Nat) :
    ¬ Overlong type data count := by
  rintro ⟨rfl | rfl, refused⟩
  · cases h.1.symm.trans refused
  · cases h.1.symm.trans refused

abbrev Parts := List (List Record × Json)

def Settled (given : List (Attribute × String)) (parts : Parts) : Prop :=
  List.Forall₂ (fun g part => Outcome g.1.type g.2 ⟨part.1, .ok part.2⟩) given parts

/-- All that the texts of arguments can come to: one of them is overlong, or all are settled one by
one. -/
inductive Ends (given : List (Attribute × String))
    (values : Table Json) : Traced (Table Json) → Prop
  | failed {g : Attribute × String} {count : Nat} (hg : g ∈ given)
      (long : Overlong g.1.type g.2 count) (records : List Record) :
      Ends given values ⟨records, .error (.integerTooLong count)⟩
  | settled {parts : Parts} (short : ∀ g ∈ given, ∀ count, ¬ Overlong g.1.type g.2 count)
      (settled : Settled given parts) : Ends given values ⟨parts.flatMap (·.1),
        .ok (((given.map (·.1.name)).zip (parts.map (·.2))).foldl
          (fun t entry => t.insert entry.1 entry.2) values)⟩

theorem Ends.cons {a : Attribute} {data : String} {rest : List (Attribute × String)}
    {values : Table Json} {v : Json} {records : List Record} {later : Traced (Table Json)}
    (here : Outcome a.type data ⟨records, .ok v⟩) (short : ∀ count, ¬ Overlong a.type data count)
    (ends : Ends rest (values.insert a.name v) later) :
    Ends ((a, data) :: rest) values ⟨records ++ later.records, later.result⟩ := by
  cases ends with
  | failed hg long more => exact .failed (List.mem_cons_of_mem _ hg) long (records ++ more)
  | @settled parts shorts settled =>
    have settled : Settled ((a, data) :: rest) ((records, v) :: parts) := .cons here settled
    exact .settled (List.forall_mem_cons.mpr ⟨short, shorts⟩) settled

theorem decodeEach_ends (given : List (Attribute × String)) (values : Table Json) :
    Ends given values (decodeEach given values) := by
  induction given generalizing values with
  | nil => exact .settled (fun _ hg => absurd hg List.not_mem_nil) .nil
  | cons g rest ih =>
    obtain ⟨a, data⟩ := g
    have outcome := decodeValue_outcome (some a.name) data a.type
    rw [decodeEach]
    cases decoded : decodeValue a.type (some a.name) data with
    | mk records result =>
      rw [decoded] at outcome
      cases outcome with
      | decoded told fits => exact .cons (.decoded told fits) told.not_overlong (ih _)
      | zero silent short fits message => exact .cons (.zero silent short fits message) short (ih _)
      | overlong long => exact .failed List.mem_cons_self long []

/-- Texts of arguments are refused for their number, and just when it is not the one of the
arguments. If it is, they fail just when one of them is JSON with an integer of too many digits, and
for nothing else. Otherwise there is one value for each name, that of the last argument of the name;
each text gives what it says without a record, or the zero value of its type with one warning. -/
theorem decodeAll_degrades (arguments : List Attribute) (values : List String) :
    ((∃ expected given, (decodeAll arguments values).result =
      .error (.argumentCount expected given)) ↔ values.length ≠ arguments.length) ∧
    (values.length = arguments.length →
      ((∃ e, (decodeAll arguments values).result = .error e) ↔
        ∃ g ∈ arguments.zip values, ∃ count, Overlong g.1.type g.2 count) ∧
      (∀ e, (decodeAll arguments values).result = .error e →
        ∃ g ∈ arguments.zip values, ∃ count, Overlong g.1.type g.2 count ∧
          Json.LongRow count g.2.toList ∧
          e = .integerTooLong count) ∧
      ∀ table, (decodeAll arguments values).result = .ok table →
        table.keys.Nodup ∧ (∀ name, name ∈ table.keys ↔ ∃ a ∈ arguments, a.name = name) ∧
        ∃ parts, Settled (arguments.zip values) parts ∧ (decodeAll arguments values).records =
          parts.flatMap (·.1) ∧
          table = .ofPairs ((arguments.map (·.name)).zip (parts.map (·.2)))) := by
  by_cases count : values.length = arguments.length
  · have counted : decodeAll arguments values = decodeEach (arguments.zip values) [] := if_pos count
    have names : (arguments.zip values).map (·.1.name) = arguments.map (·.name) := by
      rw [← Function.comp_def Attribute.name, ← List.map_map, List.map_fst_zip count.ge]
    have ends := decodeEach_ends (arguments.zip values) []
    rw [counted]
    generalize decodeEach (arguments.zip values) [] = outcome at ends
    cases ends with
    | @failed g digits hg long records =>
      refine ⟨⟨?_, fun h => absurd count h⟩,
        fun _ => ⟨⟨fun _ => ⟨g, hg, digits, long⟩, fun _ => ⟨_, rfl⟩⟩, ?_, nofun⟩⟩
      · rintro ⟨_, _, h⟩
        cases h
      · intro e h
        exact ⟨g, hg, digits, long, long.longRow, (Except.error.inj h).symm⟩
    | @settled parts short settled =>
      refine ⟨⟨?_, fun h => absurd count h⟩, fun _ => ⟨⟨?_, ?_⟩, nofun, ?_⟩⟩
      · rintro ⟨_, _, h⟩
        cases h
      · rintro ⟨_, h⟩
        cases h
      · rintro ⟨g, hg, digits, long⟩
        exact absurd long (short g hg digits)
      · intro table h
        obtain rfl := Except.ok.inj h
        have fits : (arguments.map (·.name)).length ≤ (parts.map (·.2)).length := by
          have same := settled.length_eq
          rw [List.length_zip, count, Nat.min_self] at same
          rw [List.length_map, List.length_map, same]
        rw [names]
        refine ⟨Table.nodup_keys_ofPairs _, fun name => ?_, parts, settled, rfl, rfl⟩
        refine Table.mem_keys_ofPairs.trans ?_
        rw [Table.keys, List.map_fst_zip fits, List.mem_map]
  · have refused : decodeAll arguments values = .fail (.argumentCount arguments values.length) :=
      if_neg count
    rw [refused]
    exact ⟨⟨fun _ => count, fun _ => ⟨_, _, rfl⟩⟩, fun h => absurd h count⟩

theorem decodeAll_ones {n : Nat} (long : digitLimit < n + 1) (name : String) :
    (decodeAll [{ name, type := "array" }] [Json.onesText (n + 1)]).result =
      .error (.integerTooLong (n + 1)) := by
  have refused := Json.ofText_ones long
  have ends := decodeEach_ends [({ name, type := "array" }, Json.onesText (n + 1))] []
  change (decodeEach [({ name, type := "array" }, Json.onesText (n + 1))] []).result = _
  generalize decodeEach [({ name, type := "array" }, Json.onesText (n + 1))] [] = outcome at ends
  cases ends with
  | failed hg long =>
    obtain rfl := List.mem_singleton.mp hg
    obtain rfl := Json.Refusal.tooManyDigits.inj
      (Except.error.inj (refused.symm.trans long.refused))
    rfl
  | settled short => exact absurd ⟨.inl rfl, refused⟩ (short _ List.mem_cons_self (n + 1))

/-- One text for one argument, and no value: the text is an array, but the integer in it has too
many digits. -/
theorem decodeAll_degrades_ones :
    [Json.onesText 4301].length = [({ name := "amounts", type := "array" } : Attribute)].length ∧
      (decodeAll [{ name := "amounts", type := "array" }] [Json.onesText 4301]).result =
        .error (.integerTooLong 4301) :=
  ⟨rfl, decodeAll_ones (by decide) "amounts"⟩

end LedgerFlow.Argument
