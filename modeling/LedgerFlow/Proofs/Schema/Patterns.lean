import LedgerFlow.Proofs.Schema.Places

/-!
The texts in a schema that must be patterns. If all of them are, then looking at patterns finds
nothing more, and if nothing is found with a look at patterns, then all of them are.
-/
namespace LedgerFlow.Schema

def Shape.subschemas : Shape → Json → List Json
  | .schema, v => [v]
  | .schemaOrList, .array items => items
  | .schemaOrList, v => [v]
  | .schemaList, v => v.itemsOf
  | .schemaTable, v => v.fieldsOf.map (·.2)
  | .patternTable, v => v.fieldsOf.map (·.2)
  | .dependencyTable, v => (v.fieldsOf.map (·.2)).filter (·.isObject)
  | _, _ => []

def Shape.patternTexts : Shape → Json → List String
  | .pattern, .text s => [s]
  | .patternTable, v => v.fieldsOf.keys
  | _, _ => []

/-- The schema itself, and the schemas inside of it at any depth. -/
inductive Subschema (s : Json) : Json → Prop
  | here : Subschema s s
  | inside {outer v inner : Json} {keyword : String} {shape : Shape} (around : Subschema s outer)
      (keyed : Table.get? keywordShapes keyword = some shape) (found : outer.get? keyword = some v)
      (part : inner ∈ shape.subschemas v) : Subschema s inner

def PatternsHold (s : Json) : Prop :=
  ∀ (outer v : Json) (keyword : String) (shape : Shape) (text : String), Subschema s outer →
    Table.get? keywordShapes keyword = some shape → outer.get? keyword = some v →
      text ∈ shape.patternTexts v → Pattern.isPattern text = true

variable {s v : Json} {shape : Shape} {keyword : String}

theorem Subschema.trans {inner part : Json} (h : Subschema s inner)
    (h' : Subschema inner part) : Subschema s part := by
  induction h' with
  | here => exact h
  | inside _ keyed found part ih => exact .inside ih keyed found part

theorem PatternsHold.inside (h : PatternsHold s)
    (keyed : Table.get? keywordShapes keyword = some shape) (found : s.get? keyword = some v)
    {inner : Json} (part : inner ∈ shape.subschemas v) : PatternsHold inner :=
  fun outer w name form text within =>
    h outer w name form text (Subschema.trans (.inside .here keyed found part) within)

/-! A well-formed schema. -/

theorem WellFormed.fits (h : WellFormed s) (keyed : Table.get? keywordShapes keyword = some shape)
    (found : s.get? keyword = some v) : shape.Fits v := by
  cases s with
  | object fields => exact wellFormed_object.mp h keyword shape (Table.mem_of_get? keyed) v found
  | _ => cases found

theorem Shape.Fits.subschema (fits : shape.Fits v) {inner : Json}
    (part : inner ∈ shape.subschemas v) : WellFormed inner := by
  cases shape with
  | schema =>
    obtain rfl := List.mem_singleton.mp part
    exact fits
  | schemaOrList =>
    cases v with
    | array items =>
      rcases fits_schemaOrList.mp fits with whole | list
      · cases whole
      · obtain ⟨_, heq, -, each⟩ := fits_schemaList.mp list
        obtain rfl := Json.array.inj heq
        exact each inner part
    | _ =>
      obtain rfl := List.mem_singleton.mp part
      rcases fits_schemaOrList.mp fits with whole | list
      · exact whole
      · obtain ⟨_, heq, -⟩ := fits_schemaList.mp list
        cases heq
  | schemaList =>
    obtain ⟨items, rfl, -, each⟩ := fits_schemaList.mp fits
    exact each inner part
  | schemaTable =>
    obtain ⟨fields, rfl, each⟩ := fits_schemaTable.mp fits
    exact List.forall_mem_map.mpr each inner part
  | patternTable =>
    obtain ⟨fields, rfl, each⟩ := fits_patternTable.mp fits
    exact List.forall_mem_map.mpr (fun field hfield => (each field hfield).1) inner part
  | dependencyTable =>
    obtain ⟨fields, rfl, each⟩ := fits_dependencyTable.mp fits
    obtain ⟨mem, object⟩ := List.mem_filter.mp part
    obtain ⟨field, hfield, rfl⟩ := List.mem_map.mp mem
    rcases each field hfield with whole | names
    · exact whole
    · obtain ⟨_, heq, -⟩ := texts_of_requireNames (fits_nameList.mp names)
      cases heq ▸ object
  | _ => cases part

theorem Shape.Fits.isPattern (fits : shape.Fits v) {text : String}
    (h : text ∈ shape.patternTexts v) :
    Pattern.isPattern text = true := by
  cases shape with
  | pattern =>
    cases v with
    | text s =>
      obtain rfl := List.mem_singleton.mp h
      exact require_eq_nil_iff.mp (List.append_eq_nil_iff.mp fits).2
    | _ => cases h
  | patternTable =>
    obtain ⟨fields, rfl, each⟩ := fits_patternTable.mp fits
    obtain ⟨field, hfield, rfl⟩ := List.mem_map.mp h
    exact (each field hfield).2
  | _ => cases h

theorem WellFormed.subschema (h : WellFormed s) {part : Json}
    (within : Subschema s part) : WellFormed part := by
  induction within with
  | here => exact h
  | inside _ keyed found part ih => exact (ih.fits keyed found).subschema part

theorem WellFormed.patternsHold (h : WellFormed s) : PatternsHold s :=
  fun _ _ _ _ _ within keyed found text => ((h.subschema within).fits keyed found).isPattern text

/-! A schema whose patterns hold. -/

theorem mem_subschemas {inner : Json} (h : inner ∈ shape.subschemas v) :
    inner = v ∨ inner ∈ v.children := by
  have fields (hmem : inner ∈ v.fieldsOf.map (·.2)) : inner ∈ v.children := by
    cases v <;> first | exact hmem | cases hmem
  have items (hmem : inner ∈ v.itemsOf) : inner ∈ v.children := by
    cases v <;> first | exact hmem | cases hmem
  cases shape with
  | schema => exact .inl (List.mem_singleton.mp h)
  | schemaOrList =>
    cases v with
    | array _ => exact .inr h
    | _ => exact .inl (List.mem_singleton.mp h)
  | schemaList => exact .inr (items h)
  | schemaTable | patternTable => exact .inr (fields h)
  | dependencyTable => exact .inr (fields (List.mem_of_mem_filter h))
  | _ => cases h

/-- Where all patterns hold, looking at those of the value itself finds nothing more. -/
theorem shape_complaints_true (hold : ∀ text ∈ shape.patternTexts v, Pattern.isPattern text = true)
    (patterns : Bool) :
    shape.complaints true (partReading patterns v) =
      shape.complaints false (partReading patterns v) := by
  cases shape with
  | pattern =>
    have none : requirePattern v = [] := by
      cases v with
      | text s => exact require_eq_nil_iff.mpr (hold s (List.mem_singleton_self s))
      | _ => rfl
    simp [Shape.complaints, none]
  | patternTable =>
    have none : (partReading patterns v).fields.flatMap
        (fun entry => requirePattern (.text entry.1)) = [] := by
      rw [partReading_fields, List.flatMap_map, List.flatMap_eq_nil_iff]
      exact fun field hfield => require_eq_nil_iff.mpr (hold field.1 (List.mem_map_of_mem hfield))
    simp [Shape.complaints, none]
  | _ => rfl

theorem shape_complaints_congr
    (same : ∀ inner ∈ shape.subschemas v, complaints true inner = complaints false inner) :
    shape.complaints false (partReading true v) = shape.complaints false (partReading false v) := by
  have items (each : ∀ w ∈ v.itemsOf, complaints true w = complaints false w) :
      itemComplaints (partReading true v) = itemComplaints (partReading false v) := by
    rw [itemComplaints_eq, itemComplaints_eq]
    refine List.flatMap_congr fun entry hentry => ?_
    simp only [each entry.1 (List.fst_mem_of_mem_zipIdx hentry)]
  have fields (each : ∀ w ∈ v.fieldsOf.map (·.2), complaints true w = complaints false w) :
      fieldComplaints (partReading true v) = fieldComplaints (partReading false v) := by
    rw [fieldComplaints_eq, fieldComplaints_eq]
    refine List.flatMap_congr fun field hfield => ?_
    simp only [each field.2 (List.mem_map_of_mem hfield)]
  cases shape with
  | schema => exact same v (List.mem_singleton_self v)
  | schemaOrList =>
    cases v with
    | array elements =>
      have each := items same
      simp only [Shape.complaints, schemaListComplaints, partReading_value, each]
      rfl
    | _ =>
      have whole := same _ (List.mem_singleton_self _)
      have none := items (by rintro w hw; cases hw)
      simp only [Shape.complaints, schemaListComplaints, partReading_value, none]
      exact congrArg (requireEither · _ _) whole
  | schemaList =>
    have each := items same
    simp only [Shape.complaints, schemaListComplaints, partReading_value, each]
  | schemaTable | patternTable =>
    have each := fields same
    simp [Shape.complaints, each]
  | dependencyTable =>
    simp only [Shape.complaints, partReading_value, partReading_fields, List.flatMap_map]
    refine congrArg (_ ++ ·) (List.flatMap_congr fun field hfield => ?_)
    have whole : complaints true field.2 = complaints false field.2 := by
      cases inner : field.2 with
      | object fields => exact same _ (List.mem_filter.mpr
          ⟨inner ▸ List.mem_map_of_mem hfield, rfl⟩)
      | _ => rfl
    simp only [whole]
  | _ => simp only [Shape.complaints, partReading_value]

theorem PatternsHold.complaints_eq (hold : PatternsHold s) :
    complaints true s = complaints false s := by
  -- A keyword speaks of its value and of the parts of its value, so those of the fields are carried
  -- along.
  have deep (s : Json) : (PatternsHold s → complaints true s = complaints false s) ∧
      ∀ c ∈ s.children, PatternsHold c → complaints true c = complaints false c := by
    induction s using Json.induct with
    | array items ih => exact ⟨fun _ => rfl, fun c hc => (ih c hc).1⟩
    | object fields ih =>
      refine ⟨fun hold => ?_, List.forall_mem_map.mpr fun field hfield => (ih field hfield).1⟩
      rw [complaints_object, complaints_object, nodeComplaints, nodeComplaints]
      refine List.flatMap_congr fun entry hentry => ?_
      obtain ⟨keyword, shape⟩ := entry
      dsimp only
      rw [Table.get?_mapValues, Table.get?_mapValues]
      cases found : Table.get? fields keyword with
      | none => rfl
      | some v =>
        have keyed := Table.get?_of_mem distinct_keywordShapes hentry
        have own := Table.mem_of_get? found
        have each : ∀ inner ∈ shape.subschemas v, complaints true inner =
            complaints false inner := by
          intro inner part
          have hold := hold.inside keyed found part
          rcases mem_subschemas part with rfl | below
          · exact (ih _ own).1 hold
          · exact (ih _ own).2 inner below hold
        have texts := fun text => hold _ v keyword shape text .here keyed found
        simp only [Option.map_some, shape_complaints_true texts, shape_complaints_congr each]
    | _ => exact ⟨fun _ => rfl, fun c hc => absurd hc List.not_mem_nil⟩
  exact (deep s).1 hold

/-! Patterns that make a validation fail. -/

inductive PatternText (s : Json) (text : String) : Prop
  | intro {outer v : Json} {keyword : String} {shape : Shape} (within : Subschema s outer)
      (keyed : Table.get? keywordShapes keyword = some shape) (found : outer.get? keyword = some v)
      (mem : text ∈ shape.patternTexts v) : PatternText s text

theorem PatternText.outside {text : String} (keyed : Table.get? keywordShapes keyword = some shape)
    (found : s.get? keyword = some v) {inner : Json} (part : inner ∈ shape.subschemas v)
    (h : PatternText inner text) : PatternText s text := by
  obtain ⟨within, keyed', found', mem⟩ := h
  exact .intro (Subschema.trans (.inside .here keyed found part) within) keyed' found' mem

/-- The failures among what is found are such ones. -/
def FailsWithin (P : Failure → Prop) (found : List Violation) : Prop :=
  ∀ x ∈ found, ∀ failure, x.failure? = some failure → P failure

namespace FailsWithin
variable {P : Failure → Prop} {found later : List Violation} {holds : Bool} {cause : Cause}

theorem nil : FailsWithin P [] := nofun

theorem append (h : FailsWithin P found) (h' : FailsWithin P later) :
    FailsWithin P (found ++ later) :=
  fun x hx => (List.mem_append.mp hx).elim (h x) (h' x)

theorem flatMap {α : Type} {l : List α} {f : α → List Violation}
    (h : ∀ a ∈ l, FailsWithin P (f a)) :
    FailsWithin P (l.flatMap f) := by
  intro x hx
  obtain ⟨a, ha, hx⟩ := List.mem_flatMap.mp hx
  exact h a ha x hx

theorem under (h : FailsWithin P found) (step : Json.Step) :
    FailsWithin P (found.map (·.under step)) := by
  intro x hx
  obtain ⟨y, hy, rfl⟩ := List.mem_map.mp hx
  exact h y hy

theorem require (h : ∀ failure, cause = .failed failure → P failure) :
    FailsWithin P (require holds cause) := by
  intro x hx failure failed
  cases holds with
  | true => cases hx
  | false =>
    obtain rfl := List.mem_singleton.mp hx
    cases cause with
    | failed own => exact h failure (congrArg Cause.failed (Option.some.inj failed))
    | _ => cases failed

theorem leaf {patterns : Bool} {v : Json} (h : v.isObject = false) :
    FailsWithin P (complaints patterns v) := by
  have other (cause : Cause) (h : ∀ failure, cause ≠ .failed failure) :
      FailsWithin P (Schema.require false cause) :=
    require fun failure same => absurd same (h failure)
  cases v with
  | object fields => cases h
  | bool b => exact nil
  | _ => exact other _ nofun

theorem requireType (name : String) (v : Json) : FailsWithin P (requireType name v) := require nofun

theorem requirePositive (v : Json) : FailsWithin P (requirePositive v) := by
  unfold Schema.requirePositive
  cases v.numeral? <;> first | exact require nofun | exact nil

theorem requireNonNegative (v : Json) : FailsWithin P (requireNonNegative v) := by
  unfold Schema.requireNonNegative
  cases v.numeral? <;> first | exact require nofun | exact nil

theorem requireSome (v : Json) : FailsWithin P (requireSome v) := by
  cases v <;> first | exact require nofun | exact nil

theorem requireDistinct (v : Json) : FailsWithin P (requireDistinct v) := by
  cases v <;> first | exact require nofun | exact nil

theorem eachItem {check : Json → List Violation} (h : ∀ w, FailsWithin P (check w)) (v : Json) :
    FailsWithin P (eachItem check v) := by
  rw [eachItem_eq]
  exact flatMap fun entry _ => (h entry.1).under _

theorem requireNames (v : Json) : FailsWithin P (requireNames v) :=
  ((requireType _ v).append (eachItem (requireType _) v)).append (requireDistinct v)

theorem requireTypeName (v : Json) : FailsWithin P (requireTypeName v) := require nofun

theorem requireTypeNames (v : Json) : FailsWithin P (requireTypeNames v) :=
  (((requireType _ v).append (eachItem requireTypeName v)).append (requireSome v)).append
    (requireDistinct v)

theorem requireEither {a b : List Violation} {v : Json} (ha : FailsWithin P a)
    (hb : FailsWithin P b) : FailsWithin P (requireEither a b v) := by
  refine require fun failure same => ?_
  split at same
  · rename_i own first
    obtain rfl := Cause.failed.inj same
    obtain ⟨x, hx, failed⟩ := List.exists_of_findSome?_eq_some first
    exact (ha.append hb) x hx own failed
  · cases same

theorem requirePattern {s : String}
    (h : ∀ refusal, Pattern.refusal? s = some refusal → refusal ≠ .malformed →
      P (.pattern refusal)) :
    FailsWithin P (requirePattern (.text s)) := by
  refine require fun failure same => ?_
  unfold strayPattern at same
  split at same
  · cases same
  · cases same
  · rename_i refusal other refused
    obtain rfl := Cause.failed.inj same
    exact h refusal refused other

end FailsWithin

theorem failsWithin_shape {P : Failure → Prop} {patterns : Bool}
    (texts : patterns = true → ∀ text ∈ shape.patternTexts v, ∀ refusal,
      Pattern.refusal? text = some refusal → refusal ≠ .malformed → P (.pattern refusal))
    (inner : ∀ part ∈ shape.subschemas v, FailsWithin P (complaints patterns part)) :
    FailsWithin P (shape.complaints patterns (partReading patterns v)) := by
  have items (each : ∀ w ∈ v.itemsOf, FailsWithin P (complaints patterns w)) :
      FailsWithin P (schemaListComplaints (partReading patterns v)) := by
    rw [schemaListComplaints, partReading_value, itemComplaints_eq]
    refine ((FailsWithin.requireType _ v).append (.requireSome v)).append
      (.flatMap fun entry hentry => ?_)
    exact (each entry.1 (List.fst_mem_of_mem_zipIdx hentry)).under _
  have fields (each : ∀ w ∈ v.fieldsOf.map (·.2), FailsWithin P (complaints patterns w)) :
      FailsWithin P (fieldComplaints (partReading patterns v)) := by
    rw [fieldComplaints_eq]
    exact .flatMap fun field hfield => (each field.2 (List.mem_map_of_mem hfield)).under _
  unfold Shape.complaints
  rw [partReading_value]
  cases shape with
  | anything => exact .nil
  | text | flag | number | list => exact .requireType _ v
  | pattern =>
    refine (FailsWithin.requireType _ v).append ?_
    cases patterns with
    | false => exact .nil
    | true =>
      cases v with
      | text s => exact .requirePattern (texts rfl s (List.mem_singleton_self s))
      | _ => exact .nil
  | positive => exact (FailsWithin.requireType _ v).append (.requirePositive v)
  | count => exact (FailsWithin.requireType _ v).append (.requireNonNegative v)
  | schema => exact inner v (List.mem_singleton_self v)
  | schemaOrList =>
    cases v with
    | array elements => exact .requireEither (.leaf rfl) (items inner)
    | _ => exact .requireEither (inner _ (List.mem_singleton_self _)) (items
        (List.forall_mem_nil _))
  | schemaList => exact items inner
  | schemaTable => exact (FailsWithin.requireType _ v).append (fields inner)
  | patternTable =>
    refine ((FailsWithin.requireType _ v).append (fields inner)).append ?_
    cases patterns with
    | false => exact .nil
    | true =>
      rw [if_pos rfl, partReading_fields, List.flatMap_map]
      exact .flatMap fun field hfield =>
        .requirePattern (texts rfl field.1 (List.mem_map_of_mem hfield))
  | dependencyTable =>
    refine (FailsWithin.requireType _ v).append ?_
    rw [partReading_fields, List.flatMap_map]
    refine .flatMap fun field hfield => FailsWithin.under (.requireEither ?_ (.requireNames _)) _
    cases found : field.2 with
    | object _ => exact inner _ (List.mem_filter.mpr ⟨found ▸ List.mem_map_of_mem hfield, rfl⟩)
    | _ => exact .leaf rfl
  | nameList => exact .requireNames v
  | types => exact .requireEither (.requireTypeName v) (.requireTypeNames v)

/-- The check of a schema fails for nothing but a text that must be a pattern and is refused not for
its form. -/
theorem failsWithin_complaints {P : Failure → Prop} {patterns : Bool}
    (texts : patterns = true → ∀ text, PatternText s text → ∀ refusal,
      Pattern.refusal? text = some refusal →
      refusal ≠ .malformed → P (.pattern refusal)) : FailsWithin P (complaints patterns s) := by
  let Refused (s : Json) : Prop := patterns = true → ∀ text, PatternText s text → ∀ refusal,
    Pattern.refusal? text = some refusal → refusal ≠ .malformed → P (.pattern refusal)
  -- A keyword speaks of its value and of the parts of its value, so those of the fields are carried
  -- along.
  have deep (s : Json) : (Refused s → FailsWithin P (complaints patterns s)) ∧
      ∀ c ∈ s.children, Refused c → FailsWithin P (complaints patterns c) := by
    induction s using Json.induct with
    | array items ih => exact ⟨fun _ => .leaf rfl, fun c hc => (ih c hc).1⟩
    | object fields ih =>
      refine ⟨fun refused => ?_, List.forall_mem_map.mpr fun field hfield => (ih field hfield).1⟩
      rw [complaints_object, nodeComplaints]
      refine .flatMap fun entry hentry => ?_
      obtain ⟨keyword, shape⟩ := entry
      dsimp only
      rw [Table.get?_mapValues]
      cases found : Table.get? fields keyword with
      | none => exact .nil
      | some v =>
        have keyed := Table.get?_of_mem distinct_keywordShapes hentry
        have own := Table.mem_of_get? found
        refine FailsWithin.under (failsWithin_shape ?_ fun inner part => ?_) _
        · exact fun looked text mem => refused looked text (.intro .here keyed found mem)
        · have refused : Refused inner := fun looked text asked =>
            refused looked text (asked.outside keyed found part)
          rcases mem_subschemas part with rfl | below
          · exact (ih _ own).1 refused
          · exact (ih _ own).2 inner below refused
    | _ => exact ⟨fun _ => .leaf rfl, fun c hc => absurd hc List.not_mem_nil⟩
  exact (deep s).1 texts

end LedgerFlow.Schema
