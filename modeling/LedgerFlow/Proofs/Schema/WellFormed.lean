import LedgerFlow.Proofs.Json.Part
import LedgerFlow.Step

/-!
Well-formed schemas. A schema is well formed if the value of each of its keywords has the shape of
the keyword, and a shape only asks of the parts of a value that they are schemas. The schema of any
sample is well formed.
-/
namespace LedgerFlow.Schema
open Json (Reading)

/-- What is wrong with a value as a schema, with its parts; on demand with a look at patterns. -/
def partReading (patterns : Bool) (v : Json) : Reading (List Violation) :=
  Json.reading leafComplaints (nodeComplaints patterns) v

def complaintsReading (v : Json) : Reading (List Violation) :=
  Json.reading leafComplaints (nodeComplaints true) v

def Shape.Fits (shape : Shape) (v : Json) : Prop := shape.complaints true (complaintsReading v) = []

/-- Nothing is wrong with the value as a schema, patterns included. -/
abbrev WellFormed (v : Json) : Prop := Shape.schema.Fits v

section
variable [Library] {schema : Json} {name : Option String}

theorem check_eq_ok_iff_fault :
    check schema name = .ok () ↔ ∃ draft, Library.draft schema = .ok draft ∧
      draft.fault? schema = .ok none := by
  unfold check
  cases Library.draft schema with
  | error failure => simp [bind, Except.bind, Except.mapError]
  | ok draft =>
    cases found : draft.fault? schema with
    | error failure => simp [bind, Except.bind, Except.mapError, found]
    | ok fault? =>
      cases fault? with
      | none => simp [bind, Except.bind, Except.mapError, found, pure, Except.pure]
      | some fault =>
        cases problems schema with
        | error e => simp [bind, Except.bind, Except.mapError, found]
        | ok all => cases all <;>
            simp [bind, Except.bind, Except.mapError, found, throw, throwThe, MonadExceptOf.throw]

theorem check_seven (written : Library.draft schema = .ok .seven) :
    check schema name = .ok () ↔ WellFormed schema := by
  rw [check_eq_ok_iff_fault, written]
  simp [Draft.seven, first?_eq_ok_none_iff, Shape.Fits, Shape.complaints, complaintsReading,
    complaints]

end

/-! The shapes one by one. -/

@[simp] theorem partReading_value (patterns : Bool) (v : Json) :
    (partReading patterns v).value = v :=
  Json.reading_value leafComplaints (nodeComplaints patterns) v

theorem partReading_items (patterns : Bool) (v : Json) :
    (partReading patterns v).items = v.itemsOf.map fun w => (w, complaints patterns w) :=
  Json.reading_items leafComplaints (nodeComplaints patterns) v

theorem partReading_fields (patterns : Bool) (v : Json) :
    (partReading patterns v).fields = v.fieldsOf.map fun (name, w) =>
      (name, w, complaints patterns w) :=
  Json.reading_fields leafComplaints (nodeComplaints patterns) v

@[simp] theorem complaintsReading_value (v : Json) : (complaintsReading v).value = v :=
  partReading_value true v

@[simp] theorem complaintsReading_items (items : List Json) :
    (complaintsReading (.array items)).items = items.map fun v => (v, complaints true v) :=
  partReading_items true (.array items)

@[simp] theorem complaintsReading_fields (fields : List (String × Json)) :
    (complaintsReading (.object fields)).fields = fields.map fun (name, v) =>
      (name, v, complaints true v) :=
  partReading_fields true (.object fields)

theorem complaints_object (patterns : Bool) (fields : List (String × Json)) :
    complaints patterns (.object fields) =
    nodeComplaints patterns (Table.mapValues (partReading patterns) fields) := by
  rw [complaints, Json.reading, Json.fieldReadings_eq_map]
  rfl

theorem distinct_keywordShapes : (Table.keys keywordShapes).Nodup := by decide

theorem wellFormed_iff {v : Json} : WellFormed v ↔ complaints true v = [] := Iff.rfl

theorem wellFormed_object {fields : List (String × Json)} : WellFormed (.object fields) ↔
    ∀ keyword shape, (keyword, shape) ∈ keywordShapes → ∀ v, Table.get? fields keyword = some v →
      shape.Fits v := by
  rw [wellFormed_iff, complaints_object, nodeComplaints, List.flatMap_eq_nil_iff, Prod.forall]
  refine forall₃_congr fun keyword shape _ => ?_
  dsimp only
  rw [Table.get?_mapValues]
  cases Table.get? fields keyword with
  | none => simp
  | some v => simp [Shape.Fits, complaintsReading, partReading]

theorem requireType_eq_nil_iff {name : String} {v : Json} :
    requireType name v = [] ↔ hasType name v = true :=
  require_eq_nil_iff

theorem requireEither_eq_nil_iff {a b : List Violation} {v : Json} :
    requireEither a b v = [] ↔ a = [] ∨ b = [] := by
  rw [requireEither, require_eq_nil_iff]
  simp

theorem hasType_array {v : Json} : hasType "array" v = true ↔ ∃ items, v = .array items := by
  cases v <;> simp [hasType]

theorem hasType_object {v : Json} : hasType "object" v = true ↔ ∃ fields, v = .object fields := by
  cases v <;> simp [hasType]

theorem fits_list {v : Json} : Shape.list.Fits v ↔ ∃ items, v = .array items := by
  simp [Shape.Fits, Shape.complaints, requireType_eq_nil_iff, hasType_array]

theorem eachNumbered_eq_nil_iff {α : Type} {items : List α} {complaints : α → List Violation} :
    (items.zipIdx.flatMap fun (item, i) => (complaints item).map (·.under (.item i))) = [] ↔
      ∀ item ∈ items, complaints item = [] := by
  rw [List.flatMap_eq_nil_iff]
  constructor
  · intro h item hitem
    obtain ⟨i, hi⟩ := List.getElem?_of_mem hitem
    exact List.map_eq_nil_iff.mp (h (item, i) (List.mem_zipIdx_iff_getElem?.mpr hi))
  · rintro h ⟨item, i⟩ hmem
    exact List.map_eq_nil_iff.mpr
      (h item (List.mem_of_getElem? (List.mem_zipIdx_iff_getElem?.mp hmem)))

theorem itemComplaints_eq_nil_iff {items : List Json} :
    itemComplaints (complaintsReading (.array items)) = [] ↔ ∀ item ∈ items, WellFormed item := by
  have numbered : itemComplaints (complaintsReading (.array items)) = [] ↔
      ∀ entry ∈ (complaintsReading (.array items)).items, entry.2 = [] := eachNumbered_eq_nil_iff
  rw [numbered, complaintsReading_items, List.forall_mem_map]
  rfl

theorem fieldComplaints_eq_nil_iff {fields : List (String × Json)} :
    fieldComplaints (complaintsReading (.object fields)) = [] ↔
      ∀ field ∈ fields, WellFormed field.2 := by
  rw [fieldComplaints, complaintsReading_fields, List.flatMap_eq_nil_iff, List.forall_mem_map]
  exact forall₂_congr fun field _ => List.map_eq_nil_iff

theorem schemaListComplaints_eq_nil_iff {v : Json} :
    schemaListComplaints (complaintsReading v) = [] ↔
    ∃ items, v = .array items ∧ items ≠ [] ∧ ∀ item ∈ items, WellFormed item := by
  rw [schemaListComplaints, List.append_eq_nil_iff, List.append_eq_nil_iff, complaintsReading_value,
    requireType_eq_nil_iff, hasType_array]
  constructor
  · rintro ⟨⟨⟨items, rfl⟩, filled⟩, each⟩
    exact ⟨items, rfl, by
      simpa [requireSome, require_eq_nil_iff] using filled, itemComplaints_eq_nil_iff.mp each⟩
  · rintro ⟨items, rfl, filled, each⟩
    exact ⟨⟨⟨items, rfl⟩, by simpa [requireSome, require_eq_nil_iff] using filled⟩,
      itemComplaints_eq_nil_iff.mpr each⟩

theorem fits_schemaList {v : Json} :
    Shape.schemaList.Fits v ↔ ∃ items, v = .array items ∧ items ≠ [] ∧
      ∀ item ∈ items, WellFormed item :=
  schemaListComplaints_eq_nil_iff

theorem fits_schemaOrList {v : Json} :
    Shape.schemaOrList.Fits v ↔ WellFormed v ∨ Shape.schemaList.Fits v :=
  requireEither_eq_nil_iff

theorem fits_nameList {v : Json} : Shape.nameList.Fits v ↔ requireNames v = [] := by
  rw [Shape.Fits, Shape.complaints, complaintsReading_value]

theorem eachItem_eq_nil_iff {check : Json → List Violation} {items : List Json} :
    eachItem check (.array items) = [] ↔ ∀ item ∈ items, check item = [] :=
  eachNumbered_eq_nil_iff

theorem texts_of_requireNames {v : Json} (h : requireNames v = []) :
    ∃ items, v = .array items ∧ ∀ item ∈ items, ∃ s, item = .text s := by
  rw [requireNames, List.append_eq_nil_iff, List.append_eq_nil_iff, requireType_eq_nil_iff,
    hasType_array] at h
  obtain ⟨⟨⟨items, rfl⟩, each⟩, -⟩ := h
  refine ⟨items, rfl, fun item hitem => ?_⟩
  have text := requireType_eq_nil_iff.mp (eachItem_eq_nil_iff.mp each item hitem)
  cases item <;> simp [hasType] at text
  exact ⟨_, rfl⟩

theorem text_of_requireTypeName {v : Json} (h : requireTypeName v = []) : ∃ s, v = .text s := by
  rw [requireTypeName, require_eq_nil_iff, List.any_map, List.any_eq_true] at h
  obtain ⟨name, -, same⟩ := h
  cases v <;> simp [Json.same] at same
  exact ⟨_, rfl⟩

theorem texts_of_types {v : Json} (h : Shape.types.Fits v) :
    (∃ s, v = .text s) ∨ ∃ items, v = .array items ∧ ∀ item ∈ items, ∃ s, item = .text s := by
  rw [Shape.Fits, Shape.complaints, complaintsReading_value, requireEither_eq_nil_iff] at h
  rcases h with h | h
  · exact .inl (text_of_requireTypeName h)
  · rw [requireTypeNames, List.append_eq_nil_iff, List.append_eq_nil_iff, List.append_eq_nil_iff,
      requireType_eq_nil_iff, hasType_array] at h
    obtain ⟨⟨⟨⟨items, rfl⟩, each⟩, -⟩, -⟩ := h
    exact .inr ⟨items, rfl, fun item hitem =>
      text_of_requireTypeName (eachItem_eq_nil_iff.mp each item hitem)⟩

theorem fits_schemaTable {v : Json} :
    Shape.schemaTable.Fits v ↔ ∃ fields, v = .object fields ∧
      ∀ field ∈ fields, WellFormed field.2 := by
  rw [Shape.Fits, Shape.complaints, List.append_eq_nil_iff, complaintsReading_value,
    requireType_eq_nil_iff, hasType_object]
  constructor
  · rintro ⟨⟨fields, rfl⟩, each⟩
    exact ⟨fields, rfl, fieldComplaints_eq_nil_iff.mp each⟩
  · rintro ⟨fields, rfl, each⟩
    exact ⟨⟨fields, rfl⟩, fieldComplaints_eq_nil_iff.mpr each⟩

theorem fits_patternTable {v : Json} : Shape.patternTable.Fits v ↔
    ∃ fields, v = .object fields ∧ ∀ field ∈ fields, WellFormed field.2 ∧
      Pattern.isPattern field.1 = true := by
  rw [Shape.Fits, Shape.complaints, if_pos rfl, List.append_eq_nil_iff, List.append_eq_nil_iff,
    complaintsReading_value, requireType_eq_nil_iff, hasType_object]
  have names (fields : List (String × Json)) :
      (complaintsReading (.object fields)).fields.flatMap
        (fun entry => requirePattern (.text entry.1)) = [] ↔
        ∀ field ∈ fields, Pattern.isPattern field.1 = true := by
    rw [complaintsReading_fields, List.flatMap_eq_nil_iff, List.forall_mem_map]
    exact forall₂_congr fun field _ => require_eq_nil_iff
  constructor
  · rintro ⟨⟨⟨fields, rfl⟩, each⟩, patterns⟩
    have each := fieldComplaints_eq_nil_iff.mp each
    exact ⟨fields, rfl, fun field hfield =>
      ⟨each field hfield, (names fields).mp patterns field hfield⟩⟩
  · rintro ⟨fields, rfl, each⟩
    refine ⟨⟨⟨fields, rfl⟩, fieldComplaints_eq_nil_iff.mpr fun field hfield =>
      (each field hfield).1⟩, ?_⟩
    exact (names fields).mpr fun field hfield => (each field hfield).2

theorem fits_dependencyTable {v : Json} : Shape.dependencyTable.Fits v ↔
    ∃ fields, v = .object fields ∧ ∀ field ∈ fields, WellFormed field.2 ∨
      Shape.nameList.Fits field.2 := by
  rw [Shape.Fits, Shape.complaints, List.append_eq_nil_iff, complaintsReading_value,
    requireType_eq_nil_iff, hasType_object]
  have entries (fields : List (String × Json)) :
      ((complaintsReading (.object fields)).fields.flatMap fun entry =>
        (requireEither entry.2.2 (requireNames entry.2.1) entry.2.1).map
          (·.under (.field entry.1))) = [] ↔
        ∀ field ∈ fields, WellFormed field.2 ∨ Shape.nameList.Fits field.2 := by
    rw [complaintsReading_fields, List.flatMap_eq_nil_iff, List.forall_mem_map]
    refine forall₂_congr fun field _ => ?_
    rw [List.map_eq_nil_iff, requireEither_eq_nil_iff, fits_nameList, wellFormed_iff]
  constructor
  · rintro ⟨⟨fields, rfl⟩, each⟩
    exact ⟨fields, rfl, (entries fields).mp each⟩
  · rintro ⟨fields, rfl, each⟩
    exact ⟨⟨fields, rfl⟩, (entries fields).mpr each⟩

theorem WellFormed.object_or_bool {v : Json} (h : WellFormed v) :
    (∃ fields, v = .object fields) ∨ ∃ b, v = .bool b := by
  cases v with
  | object fields => exact .inl ⟨fields, rfl⟩
  | bool b => exact .inr ⟨b, rfl⟩
  | _ => cases h

theorem check_eq_ok_iff {schema : Json} {name : Option String} :
    check schema name = .ok () ↔ WellFormed schema := by
  cases absent : Draft.failure? schema with
  | none => exact check_seven (by simp [Library.draft, absent])
  | some failure =>
    have failed : Library.draft schema = .error failure := by simp [Library.draft, absent]
    refine iff_of_false (fun passes => ?_) fun wellFormed => ?_
    · obtain ⟨draft, found, -⟩ := check_eq_ok_iff_fault.mp passes
      cases failed.symm.trans found
    · rcases wellFormed.object_or_bool with ⟨fields, rfl⟩ | ⟨b, rfl⟩ <;> cases absent

theorem WellFormed.text? {v : Json} (h : WellFormed v) : v.text? = none := by
  cases v <;> first | rfl | cases h

/-! Schemas that are put together. -/

theorem wellFormed_of_fields {fields : List (String × Json)}
    (h : ∀ field ∈ fields, ∀ shape, Table.get? keywordShapes field.1 = some shape →
      shape.Fits field.2) :
    WellFormed (.object fields) := by
  refine wellFormed_object.mpr fun keyword shape hkeyword v found => ?_
  exact h (keyword, v) (Table.mem_of_get? found) shape
    (Table.get?_of_mem distinct_keywordShapes hkeyword)

theorem fits_types {name : String} (known : name ∈ typeNames) : Shape.types.Fits (.text name) := by
  rw [Shape.Fits, Shape.complaints, complaintsReading_value, requireEither_eq_nil_iff]
  left
  rw [requireTypeName, require_eq_nil_iff, List.any_map, List.any_eq_true]
  exact ⟨name, known, by simp [Json.same]⟩

theorem wellFormed_ofType {name : String} (known : name ∈ typeNames) :
    WellFormed (ofType name) := by
  refine wellFormed_of_fields (List.forall_mem_singleton.mpr fun shape hshape => ?_)
  obtain rfl := Option.some.inj hshape
  exact fits_types known

theorem wellFormed_typed {name keyword : String} {v : Json} {shape : Shape}
    (known : name ∈ typeNames) (keyed : Table.get? keywordShapes keyword = some shape)
    (fits : shape.Fits v) : WellFormed (.object [("type", .text name), (keyword, v)]) := by
  apply wellFormed_of_fields
  refine List.forall_mem_cons.mpr
    ⟨fun own hown => ?_, List.forall_mem_singleton.mpr fun own hown => ?_⟩
  · obtain rfl := Option.some.inj hown
    exact fits_types known
  · obtain rfl := Option.some.inj (keyed.symm.trans hown)
    exact fits

theorem wellFormed_arrayOf {items : Json} (h : WellFormed items) : WellFormed (arrayOf items) :=
  wellFormed_typed (by decide) rfl (fits_schemaOrList.mpr (.inl h))

theorem wellFormed_objectOf {properties : List (String × Json)}
    (h : ∀ field ∈ properties, WellFormed field.2) : WellFormed (objectOf properties) :=
  wellFormed_typed (by decide) rfl (fits_schemaTable.mpr ⟨properties, rfl, h⟩)

theorem wellFormed_infer (v : Json) : WellFormed (infer v) := by
  induction v using Json.induct with
  | array items ih =>
    cases items with
    | nil => exact wellFormed_ofType (by decide)
    | cons v rest =>
      rw [infer]
      exact wellFormed_arrayOf (ih v List.mem_cons_self)
  | object fields ih =>
    have properties : WellFormed (objectOf (inferFields fields)) := by
      rw [inferFields_eq_map]
      exact wellFormed_objectOf (List.forall_mem_map.mpr ih)
    match fields with
    | [(name, v)] =>
      rw [infer]
      split
      · exact wellFormed_arrayOf (ih (name, v) List.mem_cons_self)
      · exact properties
    | [] => exact properties
    | _ :: _ :: _ => exact properties
  | _ => exact wellFormed_ofType (by decide)

end LedgerFlow.Schema
