import LedgerFlow.Proofs.Json.Rearranged
import LedgerFlow.Proofs.Schema.WellFormed

/-!
The schema of a sample is well formed, and the sample fits it wherever the first item of an array
speaks for all.
-/
namespace LedgerFlow.Schema
open Json (Reading Rearranged)

/-! What the three kinds of inferred schemas ask for. -/

/-- What a Draft 7 schema finds wrong with a value, where its keywords are looked at in the order of
their names. -/
def violations (schema : Json) : Check := meaning schema.sorted

theorem validate_seven [Library] {schema v : Json}
    (written : Library.draft schema.sorted = .ok .seven) :
    validate schema v = (first? (violations schema v)).mapError .validation := by
  rw [validate, written]
  rfl

def checkReading (schema : Json) : Reading Check := Json.reading checkLeaf checkNode schema

theorem checkReading_fields (fields : List (String × Json)) :
    (checkReading (.object fields)).fields = fields.map fun (name, s) => (name, s, meaning s) :=
  Json.reading_fields checkLeaf checkNode (.object fields)

def keywordReadings (fields : List (String × Json)) : Table (Reading Check) :=
  Table.mapValues checkReading ((Json.sortedFields fields).mergeSort Json.nameLe)

theorem violations_object_eq_nil_iff {fields : List (String × Json)} {v : Json} :
    violations (.object fields) v = [] ↔
      ∀ field ∈ fields, checkKeyword (keywordReadings fields) field.1 (checkReading field.2.sorted)
        v = [] := by
  have node : violations (.object fields) v = checkNode (keywordReadings fields) v := by
    rw [violations, Json.sorted, meaning, Json.reading, Json.fieldReadings_eq_map]
    rfl
  rw [node, checkNode, List.flatMap_eq_nil_iff]
  simp only [keywordReadings, Table.mapValues, List.forall_mem_map,
    (Json.perm_mergeSort_nameLe _).mem_iff]
  rw [Json.sortedFields_eq_map, List.forall_mem_map]

theorem checkPart_eq_nil_iff {schema : Json} {check : Check} {step : Json.Step} {v : Json} :
    checkPart schema check step v = [] ↔ check v = [] := by
  unfold checkPart
  split
  · rfl
  · exact List.map_eq_nil_iff

theorem checkType_eq_nil_iff {name : String} {v : Json} :
    checkType (.text name) v = [] ↔ hasType name v = true := by
  have known (h : hasType name v = true) : name ∈ typeNames := by
    unfold hasType at h
    split at h <;> first | decide | cases h
  by_cases named : name ∈ typeNames
  · cases holds : hasType name v <;>
      simp [checkType, namedTypes, hasSomeType, named, holds, require]
  · have wrong : hasType name v ≠ true := fun h => named (known h)
    simp [checkType, namedTypes, hasSomeType, named, wrong, decided]

theorem checkEach_eq_nil_iff {schema : Reading Check} {start : Nat} {items : List Json} :
    checkEach schema start items = [] ↔ ∀ v ∈ items, schema.meaning v = [] := by
  rw [checkEach, List.flatMap_eq_nil_iff]
  constructor
  · intro h v hv
    obtain ⟨i, hi⟩ := List.getElem?_of_mem hv
    refine checkPart_eq_nil_iff.mp (h (v, start + i) ?_)
    exact List.mk_add_mem_zipIdx_iff_getElem?.mpr hi
  · rintro h ⟨v, i⟩ hmem
    exact checkPart_eq_nil_iff.mpr (h v (List.fst_mem_of_mem_zipIdx hmem))

theorem checkItems_eq_nil_iff {fields : List (String × Json)} {items : List Json} :
    checkItems (checkReading (Json.object fields).sorted) (.array items) = [] ↔
      ∀ v ∈ items, violations (.object fields) v = [] := by
  have single : checkItems (checkReading (Json.object fields).sorted) (.array items) =
      checkEach (checkReading (Json.object fields).sorted) 0 items := rfl
  rw [single, checkEach_eq_nil_iff]
  rfl

theorem checkFields_eq_nil_iff {properties fields : List (String × Json)} :
    checkFields (checkReading (Json.object properties).sorted) (.object fields) = [] ↔
      ∀ field ∈ properties, ∀ v, Table.get? fields field.1 = some v →
        violations field.2 v = [] := by
  rw [Json.sorted, checkFields, checkReading_fields, List.flatMap_eq_nil_iff]
  simp only [List.forall_mem_map, (Json.perm_mergeSort_nameLe _).mem_iff]
  rw [Json.sortedFields_eq_map, List.forall_mem_map]
  refine forall₂_congr fun field _ => ?_
  dsimp only
  cases Table.get? fields field.1 with
  | none => simp
  | some v => simp [checkPart_eq_nil_iff, violations]

theorem violations_ofType {name : String} {v : Json} :
    violations (ofType name) v = [] ↔ hasType name v = true := by
  rw [ofType, violations_object_eq_nil_iff, List.forall_mem_singleton]
  exact checkType_eq_nil_iff

theorem violations_arrayOf {fields : List (String × Json)} {v : Json} :
    violations (arrayOf (.object fields)) v = [] ↔
      ∃ items, v = .array items ∧ ∀ item ∈ items, violations (.object fields) item = [] := by
  rw [arrayOf, violations_object_eq_nil_iff, List.forall_mem_cons, List.forall_mem_singleton]
  constructor
  · rintro ⟨type, items⟩
    obtain ⟨values, rfl⟩ := hasType_array.mp (checkType_eq_nil_iff.mp type)
    exact ⟨values, rfl, checkItems_eq_nil_iff.mp items⟩
  · rintro ⟨values, rfl, items⟩
    exact ⟨checkType_eq_nil_iff.mpr (hasType_array.mpr ⟨values, rfl⟩),
      checkItems_eq_nil_iff.mpr items⟩

theorem violations_objectOf {properties : List (String × Json)} {v : Json} :
    violations (objectOf properties) v = [] ↔ ∃ fields, v = .object fields ∧
      ∀ field ∈ properties, ∀ part, Table.get? fields field.1 = some part →
        violations field.2 part = [] := by
  rw [objectOf, violations_object_eq_nil_iff, List.forall_mem_cons, List.forall_mem_singleton]
  constructor
  · rintro ⟨type, parts⟩
    obtain ⟨fields, rfl⟩ := hasType_object.mp (checkType_eq_nil_iff.mp type)
    exact ⟨fields, rfl, checkFields_eq_nil_iff.mp parts⟩
  · rintro ⟨fields, rfl, parts⟩
    exact ⟨checkType_eq_nil_iff.mpr (hasType_object.mpr ⟨fields, rfl⟩),
      checkFields_eq_nil_iff.mpr parts⟩

/-! The schema of a sample. -/

theorem infer_object_cases (fields : List (String × Json)) :
    infer (.object fields) = objectOf (inferFields fields) ∨
      ∃ name v, fields = [(name, v)] ∧ isLoop name = true ∧
        infer (.object fields) = arrayOf (infer v) := by
  match fields with
  | [(name, v)] =>
    rw [infer]
    by_cases loop : isLoop name = true
    · exact .inr ⟨name, v, rfl, loop, if_pos loop⟩
    · exact .inl (if_neg loop)
  | [] => exact .inl rfl
  | _ :: _ :: _ => exact .inl rfl

theorem exists_infer_eq_object (v : Json) : ∃ fields, infer v = .object fields := by
  cases v with
  | array items => cases items <;> exact ⟨_, rfl⟩
  | object fields =>
    rcases infer_object_cases fields with shown | ⟨_, _, -, -, shown⟩ <;> exact ⟨_, shown⟩
  | _ => exact ⟨_, rfl⟩

def LoopFree (part : Json) : Prop := ∀ name v, part = .object [(name, v)] → isLoop name = false

theorem infer_object {fields : List (String × Json)} (plain : LoopFree (.object fields)) :
    infer (.object fields) = objectOf (inferFields fields) := by
  rcases infer_object_cases fields with shown | ⟨name, v, rfl, loop, -⟩
  · exact shown
  · cases (plain name v rfl).symm.trans loop

theorem distinct_ofType (name : String) : (ofType name).Distinct :=
  Json.distinct_object.mpr ⟨List.nodup_singleton _,
    List.forall_mem_singleton.mpr (Json.distinct_text _)⟩

theorem distinct_typed {name keyword : String} {v : Json} (other : keyword ≠ "type")
    (distinct : v.Distinct) : (Json.object [("type", .text name), (keyword, v)]).Distinct := by
  refine Json.distinct_object.mpr ⟨?_, ?_⟩
  · simpa [Table.keys] using other.symm
  · exact List.forall_mem_cons.mpr ⟨Json.distinct_text name, List.forall_mem_singleton.mpr distinct⟩

theorem distinct_infer {v : Json} (distinct : v.Distinct) : (infer v).Distinct := by
  induction v using Json.induct with
  | array items ih =>
    cases items with
    | nil => exact distinct_ofType _
    | cons v rest =>
      rw [infer]
      exact distinct_typed (by decide)
        (ih v List.mem_cons_self (Json.distinct_array.mp distinct v List.mem_cons_self))
  | object fields ih =>
    obtain ⟨names, distinct⟩ := Json.distinct_object.mp distinct
    have properties : (objectOf (inferFields fields)).Distinct := by
      refine distinct_typed (by decide) (Json.distinct_object.mpr ⟨?_, ?_⟩)
      · rw [inferFields_eq_map]
        exact (Table.keys_mapValues infer fields).symm ▸ names
      · rw [inferFields_eq_map]
        exact List.forall_mem_map.mpr fun field hfield => ih field hfield (distinct field hfield)
    rcases infer_object_cases fields with shown | ⟨name, v, rfl, -, shown⟩
    · exact shown ▸ properties
    · rw [shown]
      exact distinct_typed (by decide)
        (ih (name, v) List.mem_cons_self (distinct (name, v) List.mem_cons_self))
  | _ => exact distinct_ofType _

/-- A value whose inferred schema misses nothing of it: it is not null and no loop, and the items of
an array have one schema, up to the order of fields. -/
structure Regular (part : Json) : Prop where
  notNull : part ≠ .null
  loopFree : LoopFree part
  alike : ∀ items, part = .array items → ∀ v ∈ items, ∀ w ∈ items, Rearranged (infer v) (infer w)

theorem violations_infer {v : Json} (distinct : v.Distinct) (regular : v.Throughout Regular) :
    violations (infer v) v = [] := by
  induction v using Json.induct with
  | null => exact absurd rfl (regular [] _ rfl).notNull
  | array items ih =>
    cases items with
    | nil => exact violations_ofType.mpr rfl
    | cons first rest =>
      obtain ⟨here, below⟩ := Json.throughout_array.mp regular
      have distinct := Json.distinct_array.mp distinct
      obtain ⟨fields, shown⟩ := exists_infer_eq_object first
      rw [infer, shown]
      refine violations_arrayOf.mpr ⟨_, rfl, fun item hitem => ?_⟩
      -- The schema of the first item is that of each other one, but for the order of fields, which
      -- no check looks at.
      have order := here.alike _ rfl first List.mem_cons_self item hitem
      have same := order.sorted_eq (distinct_infer (distinct first List.mem_cons_self))
      rw [← shown, violations, same]
      exact ih item hitem (distinct item hitem) (below item hitem)
  | object fields ih =>
    obtain ⟨here, below⟩ := Json.throughout_object.mp regular
    obtain ⟨names, distinct⟩ := Json.distinct_object.mp distinct
    rw [infer_object here.loopFree, inferFields_eq_map]
    refine violations_objectOf.mpr
      ⟨fields, rfl, List.forall_mem_map.mpr fun field hfield part found => ?_⟩
    obtain rfl := Option.some.inj ((Table.get?_of_mem names hfield).symm.trans found)
    exact ih field hfield (distinct field hfield) (below field hfield)
  | _ => exact violations_ofType.mpr rfl

/-- The schema of any sample is well formed, and finds nothing wrong with the sample if no null and
no loop is in it and each array has items of one schema only. -/
theorem infer_describes (v : Json) : (∀ name, check (infer v) name = .ok ()) ∧
    (v.Distinct → v.Throughout Regular → validate (infer v) v = .ok none) := by
  refine ⟨fun name => check_eq_ok_iff.mpr (wellFormed_infer v), fun distinct regular => ?_⟩
  obtain ⟨fields, shown⟩ := exists_infer_eq_object v
  have written : Library.draft (infer v).sorted = .ok .seven := by
    rw [shown]
    rfl
  rw [validate_seven written, violations_infer distinct regular]
  rfl

theorem infer_describes_parts :
    let sample := Json.object [("name", .text "bolt"), ("parts", .array
      [.object [("size", .int 1), ("spare", .bool true)],
       .object [("spare", .bool false), ("size", .int 2)]])]
    sample.Distinct ∧ sample.Throughout Regular ∧ validate (infer sample) sample = .ok none := by
  intro sample
  have distinct : sample.Distinct := by
    have int (n : Int) : (Json.int n).Distinct := Json.distinct_leaf rfl
    have bool (b : Bool) : (Json.bool b).Distinct := Json.distinct_leaf rfl
    simp [sample, Json.distinct_object, Json.distinct_array, Json.distinct_text, Table.keys,
      int, bool]
  have scalar {v : Json} (leaf : v.children = []) (present : v ≠ .null)
      (plain : ∀ field, v ≠ .object [field]) (single : ∀ items, v ≠ .array items) :
      v.Throughout Regular :=
    (Json.throughout_leaf leaf).mpr
      ⟨present, fun _ _ h => absurd h (plain _), fun _ h => absurd h (single _)⟩
  have int (n : Int) : (Json.int n).Throughout Regular := scalar rfl (by simp) (by simp) (by simp)
  have bool (b : Bool) : (Json.bool b).Throughout Regular := scalar rfl (by simp)
    (by simp) (by simp)
  have text (s : String) : (Json.text s).Throughout Regular := scalar rfl (by simp)
    (by simp) (by simp)
  have pair (a b : String × Json) : Regular (.object [a, b]) :=
    ⟨by simp, fun _ _ h => by simp at h, fun _ h => by simp at h⟩
  have swapped (a b : String × Json) : Rearranged (objectOf [a, b]) (objectOf [b, a]) :=
    .object (.cons (.of .same)
      (.cons (.of (.object (.cons (.of .same) (.cons (.of .same) .nil)) (.swap _ _ _))) .nil))
      (.refl _)
  have alike : Regular (.array
      [.object [("size", .int 1), ("spare", .bool true)],
        .object [("spare", .bool false), ("size", .int 2)]]) := by
    refine ⟨by simp, fun _ _ h => by simp at h, fun items h => ?_⟩
    obtain rfl := Json.array.inj h
    simp only [List.forall_mem_cons, List.not_mem_nil, false_imp_iff, implies_true, and_true]
    exact ⟨⟨.same, swapped _ _⟩, swapped _ _, .same⟩
  have regular : sample.Throughout Regular := by
    simp only [sample, Json.throughout_object, Json.throughout_array, List.forall_mem_cons, int,
      bool, text, alike, pair]
    simp
  exact ⟨distinct, regular, (infer_describes sample).2 distinct regular⟩

end LedgerFlow.Schema
