import LedgerFlow.Proofs.App.Annotation
import LedgerFlow.Proofs.Schema.WellFormed
import LedgerFlow.Proofs.Table

/-!
The schemas of what an action is given. A declared schema comes before that of a sample, and a
sample before a mapping, whatever names the three have in common. Only declared schemas are refused;
a sample beside one is good for a warning, unless the library fails on it.
-/
namespace LedgerFlow
open Schema

def Json.isSchemaShaped : Json → Bool
  | .object _ => true
  | .bool _ => true
  | _ => false

section
variable [Library]

/-- Why a schema that is declared under a label cannot be taken. -/
inductive RefusesDeclared (documents : Table Json) (label : String) (declared : Json) : Error → Prop
  | unexpandable {e : Error} (failed : expandDocument documents declared = .error e) :
      RefusesDeclared documents label declared e
  | otherKind {schema : Json} (expands : expandDocument documents declared = .ok schema)
      (kind : schema.isSchemaShaped = false) :
      RefusesDeclared documents label declared (.schemaNotObject label schema.kindWord)
  | malformed {schema : Json} {e : Error} (expands : expandDocument documents declared = .ok schema)
      (kind : schema.isSchemaShaped = true) (failed : Schema.check schema (some label) = .error e) :
      RefusesDeclared documents label declared e

/-- The validation of the sample of a declared schema does not come to an end. -/
inductive SampleFails (documents : Table Json) (input : ActionInput) (entry : String × Json) :
    Error → Prop
  | intro {schema sample : Json} {e : Error}
      (expands : expandDocument documents entry.2 = .ok schema)
      (given : input.sample.get? entry.1 = some sample)
      (failed : validate schema sample = .error e) :
      SampleFails documents input entry e

theorem checkDeclared_of_isSchemaShaped {schema : Json} (kind : schema.isSchemaShaped = true)
    (label : String) : checkDeclared schema label = Schema.check schema (some label) := by
  cases schema <;> first | rfl | cases kind

theorem checkDeclared_of_not_isSchemaShaped {schema : Json} (kind : schema.isSchemaShaped = false)
    (label : String) :
    checkDeclared schema label = .error (.schemaNotObject label schema.kindWord) := by
  cases schema <;> first | rfl | cases kind

/-! Declared schemas, one after the other. -/

variable {documents : Table Json} {action : Action} {input : ActionInput}

theorem refusesDeclared_iff {label : String} {declared : Json} {e : Error} :
    RefusesDeclared documents label declared e ↔ expandDocument documents declared = .error e ∨
      ∃ schema, expandDocument documents declared = .ok schema ∧
        checkDeclared schema label = .error e := by
  constructor
  · rintro (failed | ⟨expands, kind⟩ | ⟨expands, kind, failed⟩)
    · exact .inl failed
    · exact .inr ⟨_, expands, checkDeclared_of_not_isSchemaShaped kind label⟩
    · exact .inr ⟨_, expands, (checkDeclared_of_isSchemaShaped kind label).trans failed⟩
  · rintro (failed | ⟨schema, expands, refused⟩)
    · exact .unexpandable failed
    · cases kind : schema.isSchemaShaped with
      | true => exact .malformed expands kind ((checkDeclared_of_isSchemaShaped kind _).symm.trans
          refused)
      | false =>
        rw [checkDeclared_of_not_isSchemaShaped kind] at refused
        obtain rfl := Except.error.inj refused
        exact .otherKind expands kind

theorem sampleOutcome_eq_error_iff {key : String} {schema : Json} {e : Error} :
    sampleOutcome input key schema = .error e ↔
      ∃ sample, input.sample.get? key = some sample ∧ validate schema sample = .error e := by
  unfold sampleOutcome
  cases input.sample.get? key with
  | none => simp
  | some sample => simp [map_eq_error_iff]

theorem exists_declaredSchema_error_iff {entry : String × Json} :
    (∃ e, declaredSchema documents action input entry = .error e) ↔
      (∃ e, RefusesDeclared documents (action.label ++ "." ++ entry.1) entry.2 e) ∨
        ∃ e, SampleFails documents input entry e := by
  simp only [declaredSchema, bind_eq_error_iff, refusesDeclared_iff]
  constructor
  · rintro ⟨e, failed | ⟨schema, expands, refused | ⟨_, -, failed | ⟨_, -, done⟩⟩⟩⟩
    · exact .inl ⟨e, .inl failed⟩
    · exact .inl ⟨e, .inr ⟨schema, expands, refused⟩⟩
    · obtain ⟨sample, given, failed⟩ := sampleOutcome_eq_error_iff.mp failed
      exact .inr ⟨e, .intro expands given failed⟩
    · cases done
  · rintro (⟨e, failed | ⟨schema, expands, refused⟩⟩ | ⟨e, expands, given, failed⟩)
    · exact ⟨e, .inl failed⟩
    · exact ⟨e, .inr ⟨schema, expands, .inl refused⟩⟩
    · rename_i schema sample
      -- The check comes before the sample, so what is told may be what is wrong with the schema.
      cases checked : checkDeclared schema (action.label ++ "." ++ entry.1) with
      | error e' => exact ⟨e', .inr ⟨schema, expands, .inl checked⟩⟩
      | ok _ =>
        have outcome := sampleOutcome_eq_error_iff.mpr ⟨sample, given, failed⟩
        exact ⟨e, .inr ⟨schema, expands, .inr ⟨(), checked, .inl outcome⟩⟩⟩

inductive SampleWarning (documents : Table Json) (action : Action) (input : ActionInput) :
    Log.Record → Prop
  | misfit {key : String} {written schema sample : Json} {violation : Violation}
      (listed : (key, written) ∈ input.schema)
      (expands : expandDocument documents written = .ok schema)
      (given : input.sample.get? key = some sample)
      (found : validate schema sample = .ok (some violation)) :
      SampleWarning documents action input ⟨.warning, .steps,
        s!"sample input {key} of {action.label} does not match its schema: {violation.text}"⟩

theorem SampleWarning.severity {record : Log.Record}
    (h : SampleWarning documents action input record) : record.severity = .warning := by
  cases h
  rfl

theorem mem_records_checkSample {key : String} {schema sample : Json} {record : Log.Record}
    (h : record ∈ (checkSample action key schema sample).records) :
    ∃ violation, validate schema sample = .ok (some violation) ∧ record = ⟨.warning, .steps,
      s!"sample input {key} of {action.label} does not match its schema: {violation.text}"⟩ := by
  rcases Traced.mem_records_bind.mp h with h | ⟨found, outcome, h⟩
  · exact absurd h List.not_mem_nil
  · cases found with
    | none => exact absurd h List.not_mem_nil
    | some violation => exact ⟨violation, outcome, List.mem_singleton.mp h⟩

theorem sampleWarning_of_mem_records {declared : List (String × Json)}
    (sub : declared ⊆ input.schema) {record : Log.Record}
    (h : record ∈ (declaredSchemas documents action input declared).records) :
    SampleWarning documents action input record := by
  induction declared with
  | nil => exact absurd h List.not_mem_nil
  | cons entry rest ih =>
    obtain ⟨key, written⟩ := entry
    obtain ⟨listed, sub⟩ := List.cons_subset.mp sub
    have later (schema : Json) (h : record ∈ (do
        let rest ← declaredSchemas documents action input rest
        return (key, FlowSchema.ofSchema schema) :: rest : Traced (Table FlowSchema)).records) :
        SampleWarning documents action input record := by
      rcases Traced.mem_records_bind.mp h with h | ⟨_, -, h⟩
      · exact ih sub h
      · exact absurd h List.not_mem_nil
    rw [declaredSchemas] at h
    rcases Traced.mem_records_bind.mp h with h | ⟨schema, expands, h⟩
    · exact absurd h List.not_mem_nil
    rcases Traced.mem_records_bind.mp h with h | ⟨_, -, h⟩
    · exact absurd h List.not_mem_nil
    cases given : input.sample.get? key with
    | none =>
      rw [given] at h
      exact later schema h
    | some sample =>
      rw [given] at h
      rcases Traced.mem_records_bind.mp h with h | ⟨_, -, h⟩
      · obtain ⟨violation, found, rfl⟩ := mem_records_checkSample h
        exact .misfit listed expands given found
      · exact later schema h

end

/-! The schemas of further values. -/

section
variable {schemas : Table FlowSchema} {values : Table Json}

theorem addInferred_eq (schemas : Table FlowSchema)
    (values : Table Json) : addInferred schemas values =
    schemas ++ Table.mapValues (fun v => .ofSchema (infer v))
      (values.filter fun entry => entry.1 ∉ schemas.keys) := by
  refine congrArg (schemas ++ ·) (congrArg (List.map _) (List.filter_congr fun entry _ => ?_))
  simp [← Table.contains_iff_mem_keys]

theorem addInferred_congr {values' : Table Json}
    (same : (values'.filter fun entry => entry.1 ∉ schemas.keys) = values.filter fun entry =>
      entry.1 ∉ schemas.keys) :
    addInferred schemas values' = addInferred schemas values := by
  rw [addInferred_eq, addInferred_eq, same]

theorem keys_addInferred :
    (addInferred schemas values).keys = schemas.keys ++ values.keys.filter (· ∉ schemas.keys) := by
  rw [addInferred_eq, Table.keys_append, Table.keys_mapValues, Table.keys_filter values fun key =>
    key ∉ schemas.keys]

theorem nodup_keys_addInferred (distinct : schemas.keys.Nodup) (distinct' : values.keys.Nodup) :
    (addInferred schemas values).keys.Nodup := by
  rw [keys_addInferred, List.nodup_append']
  refine ⟨distinct, distinct'.filter _, fun key known new => ?_⟩
  have new : key ∉ schemas.keys := by simpa using List.of_mem_filter new
  exact new known

theorem get?_addInferred_of_get? {key : String} {schema : FlowSchema}
    (known : schemas.get? key = some schema) :
    (addInferred schemas values).get? key = some schema := by
  rw [addInferred, Table.get?_append, known, Option.some_or]

theorem get?_addInferred_of_not_mem {key : String} (new : key ∉ schemas.keys) :
    (addInferred schemas values).get? key = (values.get? key).map fun v => .ofSchema (infer v) := by
  rw [addInferred_eq, Table.get?_append, Table.get?_eq_none_iff.mpr new, Option.none_or,
    Table.get?_mapValues, Table.get?_filter_of_pos (p := fun key => key ∉ schemas.keys)
      (decide_eq_true new)]

end

/-! All that an action is given. -/

namespace ActionInput

structure Distinct (input : ActionInput) : Prop where
  schema : input.schema.keys.Nodup
  sample : input.sample.keys.Nodup
  mapping : input.mapping.keys.Nodup

def fill (input : ActionInput) (declared : Table FlowSchema) : Table FlowSchema :=
  addInferred (addInferred declared input.sample) (input.mapping.filter fun (_, v) => v.isContainer)

/-- The schemas of an input: whose they are, and in which order. -/
structure Described (documents : Table Json) (input : ActionInput)
    (schemas : Table FlowSchema) : Prop where
  keys : schemas.keys = input.schema.keys ++ input.sample.keys.filter (· ∉ input.schema.keys) ++
    (Table.keys (input.mapping.filter fun entry => entry.2.isContainer)).filter fun key =>
      key ∉ input.schema.keys ∧ key ∉ input.sample.keys
  nodup : schemas.keys.Nodup
  declared : ∀ key written, input.schema.get? key = some written →
    ∃ schema, expandDocument documents written = .ok schema ∧
      schemas.get? key = some (.ofSchema schema)
  sampled : ∀ key v, key ∉ input.schema.keys → input.sample.get? key = some v →
    schemas.get? key = some (.ofSchema (infer v))
  mapped : ∀ key v, key ∉ input.schema.keys → key ∉ input.sample.keys →
    input.mapping.get? key = some v →
    v.isContainer = true → schemas.get? key = some (.ofSchema (infer v))

def undeclared (input : ActionInput) (values : Table Json) : Table Json :=
  values.filter fun entry => entry.1 ∉ input.schema.keys

/-- Two inputs that differ in nothing but samples and mappings whose names have a declared
schema. -/
structure SameUndeclared (input input' : ActionInput) : Prop where
  schema : input'.schema = input.schema
  sample : input'.undeclared input'.sample = input.undeclared input.sample
  mapping : input'.undeclared input'.mapping = input.undeclared input.mapping

variable {input input' : ActionInput} {declared : Table FlowSchema}

theorem mem_keys_addInferred_sample (own : declared.keys = input.schema.keys) {key : String} :
    key ∈ (addInferred declared input.sample).keys ↔ key ∈ input.schema.keys ∨
      key ∈ input.sample.keys := by
  rw [keys_addInferred, own, List.mem_append, List.mem_filter]
  by_cases known : key ∈ input.schema.keys <;> simp [known]

theorem keys_fill (own : declared.keys = input.schema.keys) : (input.fill declared).keys =
    input.schema.keys ++ input.sample.keys.filter (· ∉ input.schema.keys) ++
      (Table.keys (input.mapping.filter fun entry => entry.2.isContainer)).filter fun key =>
        key ∉ input.schema.keys ∧ key ∉ input.sample.keys := by
  rw [fill, keys_addInferred]
  refine congrArg₂ (· ++ ·) ?_ (List.filter_congr fun key _ => ?_)
  · rw [keys_addInferred, own]
  · simp only [mem_keys_addInferred_sample own, not_or]

theorem nodup_keys_fill (distinct : input.Distinct) (own : declared.keys = input.schema.keys) :
    (input.fill declared).keys.Nodup := by
  refine nodup_keys_addInferred (nodup_keys_addInferred ?_ distinct.sample) ?_
  · rw [own]
    exact distinct.schema
  · exact distinct.mapping.sublist (List.filter_sublist.map _)

theorem get?_fill_of_sample (own : declared.keys = input.schema.keys) {key : String} {v : Json}
    (new : key ∉ input.schema.keys) (given : input.sample.get? key = some v) :
    (input.fill declared).get? key = some (.ofSchema (infer v)) := by
  refine get?_addInferred_of_get? ?_
  rw [get?_addInferred_of_not_mem (own ▸ new), given, Option.map_some]

theorem get?_fill_of_mapping (distinct : input.Distinct) (own : declared.keys = input.schema.keys)
    {key : String} {v : Json} (new : key ∉ input.schema.keys) (unsampled : key ∉ input.sample.keys)
    (given : input.mapping.get? key = some v) (container : v.isContainer = true) :
    (input.fill declared).get? key = some (.ofSchema (infer v)) := by
  have unknown : key ∉ (addInferred declared input.sample).keys := by
    rw [mem_keys_addInferred_sample own, not_or]
    exact ⟨new, unsampled⟩
  have kept : Table.get? (input.mapping.filter fun (_, v) => v.isContainer) key = some v :=
    Table.get?_of_mem (distinct.mapping.sublist (List.filter_sublist.map _))
      (List.mem_filter.mpr ⟨Table.mem_of_get? given, container⟩)
  rw [fill, get?_addInferred_of_not_mem unknown, kept, Option.map_some]

theorem fill_eq (own : declared.keys = input.schema.keys) (same : input.SameUndeclared input') :
    input'.fill declared = input.fill declared := by
  have samples : addInferred declared input'.sample = addInferred declared input.sample := by
    have undeclared := same.sample
    rw [ActionInput.undeclared, ActionInput.undeclared, same.schema, ← own] at undeclared
    exact addInferred_congr undeclared
  have mappings : input.undeclared input'.mapping = input.undeclared input.mapping := by
    rw [← same.mapping, undeclared, undeclared, same.schema]
  -- A name that is still without a schema after the samples is an undeclared one.
  have still (values : Table Json) :
      (values.filter fun entry => entry.2.isContainer).filter
        (fun entry => entry.1 ∉ (addInferred declared input.sample).keys) =
      ((input.undeclared values).filter fun entry => entry.2.isContainer).filter
        fun entry => entry.1 ∉ (addInferred declared input.sample).keys := by
    rw [undeclared, List.filter_filter, List.filter_filter, List.filter_filter]
    refine List.filter_congr fun entry _ => ?_
    simp only [mem_keys_addInferred_sample own]
    by_cases known : entry.1 ∈ input.schema.keys <;> simp [known]
  rw [fill, fill, samples]
  exact addInferred_congr ((still input'.mapping).trans (mappings ▸ (still input.mapping).symm))

end ActionInput

section
variable [Library] {documents : Table Json} {action : Action} {input : ActionInput}

theorem inputSchemas_eq (takes : action.input = some input) : inputSchemas documents action = do
    let declared ← declaredSchemas documents action input input.schema
    return input.fill declared := by
  rw [inputSchemas, takes]
  rfl

theorem result_inputSchemas (takes : action.input = some input) :
    (inputSchemas documents action).result =
      (input.schema.mapM (declaredSchema documents action input)).map input.fill := by
  rw [inputSchemas_eq takes, Traced.result_bind, result_declaredSchemas]
  rfl

theorem exists_inputSchemas_error_iff (takes : action.input = some input) :
    (∃ e, (inputSchemas documents action).result = .error e) ↔ ∃ entry ∈ input.schema,
      (∃ e, RefusesDeclared documents (action.label ++ "." ++ entry.1) entry.2 e) ∨
        ∃ e, SampleFails documents input entry e := by
  simp only [result_inputSchemas takes, map_eq_error_iff, ← exists_declaredSchema_error_iff]
  constructor
  · rintro ⟨e, failed⟩
    obtain ⟨before, entry, after, all, -, failed⟩ := mapM_eq_error_iff.mp failed
    exact ⟨entry, all ▸ List.mem_append_right before List.mem_cons_self, e, failed⟩
  · rintro ⟨entry, listed, e, failed⟩
    cases result : input.schema.mapM (declaredSchema documents action input) with
    | error e' => exact ⟨e', rfl⟩
    | ok declared =>
      -- Had all of them passed, so had this one.
      obtain ⟨_, -, passed⟩ := exists_mem_of_forall₂ (mapM_eq_ok_iff.mp result) listed
      cases passed.symm.trans failed

theorem keys_of_declaredSchemas {declared : Table FlowSchema}
    (h : (declaredSchemas documents action input input.schema).result = .ok declared) :
    declared.keys = input.schema.keys := by
  have pairs : Table.Pairs (fun _ _ => True) input.schema declared :=
    (declaredSchemas_ok h).imp fun _ _ related => ⟨related.1, trivial⟩
  exact pairs.keys_eq

theorem described_of_inputSchemas (takes : action.input = some input) (distinct : input.Distinct)
    {schemas : Table FlowSchema} (h : (inputSchemas documents action).result = .ok schemas) :
    input.Described documents schemas := by
  rw [inputSchemas_eq takes] at h
  obtain ⟨declared, hdeclared, done⟩ := Traced.bind_result_ok_iff.mp h
  obtain rfl := Except.ok.inj done
  have own := keys_of_declaredSchemas hdeclared
  refine ⟨ActionInput.keys_fill own, ActionInput.nodup_keys_fill distinct own,
    fun key written listed => ?_,
    fun key v new given => ActionInput.get?_fill_of_sample own new given,
    fun key v new unsampled given container =>
      ActionInput.get?_fill_of_mapping distinct own new unsampled given container⟩
  have pairs : Table.Pairs
      (fun written own => ∃ schema, expandDocument documents written = .ok schema ∧
        own = .ofSchema schema)
      input.schema declared :=
    (declaredSchemas_ok hdeclared).imp
      fun _ _ ⟨same, schema, expands, _, written⟩ => ⟨same, schema, expands, written⟩
  obtain ⟨schema, found⟩ := Table.exists_get?_of_mem_keys (own ▸ Table.mem_keys_of_get? listed)
  obtain ⟨written', listed', schema', expands, rfl⟩ := pairs.get? found
  obtain rfl := Option.some.inj (listed.symm.trans listed')
  exact ⟨schema', expands, get?_addInferred_of_get? (get?_addInferred_of_get? found)⟩

theorem sampleWarning_of_inputSchemas (takes : action.input = some input) {record : Log.Record}
    (h : record ∈ (inputSchemas documents action).records) :
    SampleWarning documents action input record := by
  rw [inputSchemas_eq takes] at h
  rcases Traced.mem_records_bind.mp h with h | ⟨_, -, h⟩
  · exact sampleWarning_of_mem_records (List.Subset.refl _) h
  · exact absurd h List.not_mem_nil

/-! Samples and mappings of names with a declared schema. -/

theorem declaredSchemas_unique {input' : ActionInput} {entries : List (String × Json)}
    {declared declared' : Table FlowSchema}
    (h : entries.mapM (declaredSchema documents action input) = .ok declared)
    (h' : entries.mapM (declaredSchema documents action input') = .ok declared') :
    declared' = declared := by
  rw [← result_declaredSchemas] at h h'
  exact DeclaredAs.rightUnique.forall₂ (declaredSchemas_ok h') (declaredSchemas_ok h)

section
variable {input' : ActionInput} (takes : action.input = some input)
    (same : input.SameUndeclared input')
include takes same

theorem inputSchemas_unique {schemas schemas' : Table FlowSchema}
    (h : (inputSchemas documents action).result = .ok schemas)
    (h' : (inputSchemas documents { action with input := some input' }).result = .ok schemas') :
    schemas' = schemas := by
  have takes' : ({ action with input := some input' } : Action).input = some input' := rfl
  rw [result_inputSchemas takes'] at h'
  rw [result_inputSchemas takes] at h
  obtain ⟨declared, result, rfl⟩ := map_eq_ok_iff.mp h
  obtain ⟨declared', result', rfl⟩ := map_eq_ok_iff.mp h'
  rw [same.schema] at result'
  obtain rfl := declaredSchemas_unique result result'
  rw [← result_declaredSchemas] at result
  exact ActionInput.fill_eq (keys_of_declaredSchemas result) same

theorem result_inputSchemas_of_sameUndeclared
    (ends : ∀ entry ∈ input.schema, ∀ e,
      ¬ SampleFails documents input entry e ∧ ¬ SampleFails documents input' entry e) :
    (inputSchemas documents { action with input := some input' }).result =
      (inputSchemas documents action).result := by
  have takes' : ({ action with input := some input' } : Action).input = some input' := rfl
  rw [result_inputSchemas takes', result_inputSchemas takes, same.schema]
  have alike : input.schema.mapM (declaredSchema documents action input') =
      input.schema.mapM (declaredSchema documents action input) := by
    refine mapM_congr fun entry listed => ?_
    unfold declaredSchema
    cases expands : expandDocument documents entry.2 with
    | error e => rfl
    | ok schema =>
      have passes {given : ActionInput} (ends : ∀ e, ¬ SampleFails documents given entry e) :
          sampleOutcome given entry.1 schema = .ok () := by
        cases outcome : sampleOutcome given entry.1 schema with
        | ok _ => rfl
        | error e =>
          obtain ⟨sample, found, failed⟩ := sampleOutcome_eq_error_iff.mp outcome
          exact absurd (.intro expands found failed) (ends e)
      change (checkDeclared schema _ >>= fun _ => sampleOutcome input' entry.1 schema >>= _) =
        checkDeclared schema _ >>= fun _ => sampleOutcome input entry.1 schema >>= _
      rw [passes fun e => (ends entry listed e).1, passes fun e => (ends entry listed e).2]
  change (input.schema.mapM (declaredSchema documents action input')).map input'.fill = _
  rw [alike]
  cases result : input.schema.mapM (declaredSchema documents action input) with
  | error e => rfl
  | ok declared =>
    rw [← result_declaredSchemas] at result
    exact congrArg Except.ok (ActionInput.fill_eq (keys_of_declaredSchemas result) same)

end

/-- An input without repeated names, whose declared schemas and samples hold no integer that is too
long to be written or told of. -/
structure ActionInput.Sound (documents : Table Json) (input : ActionInput) : Prop where
  distinct : input.Distinct
  schemas : ∀ entry ∈ input.schema, ∀ schema, expandDocument documents entry.2 = .ok schema →
    schema.ShortIntegers
  samples : ∀ entry ∈ input.sample, entry.2.ShortIntegers

/-- What an action is given has schemas unless a declared one is refused or the library fails on a
sample beside one. Each name has one, and it has that of the first that speaks of it: the
declaration, the sample, a mapping that is an object or an array. What the others say of a declared
name makes no difference beyond warnings and failures of the library. -/
theorem inputSchemas_precedence (documents : Table Json) (action : Action) (input : ActionInput)
    (takes : action.input = some input) (sound : input.Sound documents) :
    ((∃ e, (inputSchemas documents action).result = .error e) ↔ ∃ entry ∈ input.schema,
      (∃ e, RefusesDeclared documents (action.label ++ "." ++ entry.1) entry.2 e) ∨
        ∃ e, SampleFails documents input entry e) ∧
    (∀ schemas, (inputSchemas documents action).result = .ok schemas →
      input.Described documents schemas) ∧
    ∀ input', input.SameUndeclared input' → input'.Sound documents →
      (∀ schemas schemas', (inputSchemas documents action).result = .ok schemas →
        (inputSchemas documents { action with input := some input' }).result = .ok schemas' →
          schemas' = schemas) ∧
      ((∀ entry ∈ input.schema, ∀ e,
          ¬ SampleFails documents input entry e ∧ ¬ SampleFails documents input' entry e) →
        (inputSchemas documents { action with input := some input' }).result =
          (inputSchemas documents action).result) ∧
      (∀ record ∈ (inputSchemas documents action).records, record.severity = .warning) ∧
      ∀ record ∈ (inputSchemas documents { action with input := some input' }).records,
        record.severity = .warning :=
  ⟨exists_inputSchemas_error_iff takes, fun _ h => described_of_inputSchemas takes sound.distinct h,
    fun _ same _ => ⟨fun _ _ h h' => inputSchemas_unique takes same h h',
      fun ends => result_inputSchemas_of_sameUndeclared takes same ends,
      fun _ h => (sampleWarning_of_inputSchemas takes h).severity,
      fun _ h => (sampleWarning_of_inputSchemas rfl h).severity⟩⟩

end

def ActionInput.picking : ActionInput where
  schema := [("quantity", ofType "integer")]
  sample := [("shelf", .object [("row", .int 4)]), ("quantity", .text "ten")]
  mapping :=
    [("quantity", .array []), ("note", .text "$.note"), ("tags", .array [.text "$.tag"]),
      ("shelf", .object [])]

def Action.pick : Action := { activity := "#pick", input := some .picking }

def ActionInput.fitting : ActionInput :=
  { ActionInput.picking with
    sample := [("quantity", .int 10), ("shelf", .object [("row", .int 4)])]
    mapping :=
      [("note", .text "$.note"), ("tags", .array [.text "$.tag"]), ("shelf", .object [])] }

theorem Action.exists_inputSchemas_pick : ∃ schemas, (inputSchemas [] .pick).result = .ok schemas ∧
    schemas.keys = ["quantity", "shelf", "tags"] := by
  apply exists_ok_of_observed
  decide +kernel

theorem Action.exists_inputSchemas_fitting : ∃ schemas,
    (inputSchemas [] { Action.pick with input := some .fitting }).result = .ok schemas ∧
      schemas.keys = ["quantity", "shelf", "tags"] := by
  apply exists_ok_of_observed
  decide +kernel

theorem inputSchemas_precedence_pick : ∃ schemas, (inputSchemas [] .pick).result = .ok schemas ∧
    schemas.keys = ["quantity", "shelf", "tags"] ∧
    schemas.get? "quantity" = some (.ofSchema (ofType "integer")) ∧
    schemas.get? "shelf" = some (.ofSchema (objectOf [("row", ofType "number")])) ∧
    schemas.get? "tags" = some (.ofSchema (arrayOf (ofType "string"))) ∧
    (inputSchemas [] { Action.pick with input := some .fitting }).result = .ok schemas ∧
    (∃ warning, (inputSchemas [] .pick).records = [warning] ∧ warning.severity = .warning) ∧
    (inputSchemas [] { Action.pick with input := some .fitting }).records = [] := by
  obtain ⟨schemas, result, keys⟩ := Action.exists_inputSchemas_pick
  obtain ⟨schemas', result', -⟩ := Action.exists_inputSchemas_fitting
  have expands : expandDocument [] (ofType "integer") = .ok (ofType "integer") := rfl
  have sound (sample mapping : Table Json) (names : sample.keys.Nodup) (names' : mapping.keys.Nodup)
      (short : ∀ entry ∈ sample, entry.2.ShortIntegers) :
      ActionInput.Sound [] { schema := ActionInput.picking.schema, sample, mapping } := by
    refine ⟨⟨List.nodup_singleton _, names, names'⟩,
      List.forall_mem_singleton.mpr fun schema expands' => ?_, short⟩
    obtain rfl := Except.ok.inj (expands.symm.trans expands')
    exact Json.throughout_object.mpr ⟨nofun, by simp [Json.throughout_text]⟩
  have row : (Json.object [("row", .int 4)]).ShortIntegers := by
    refine Json.throughout_object.mpr ⟨nofun, List.forall_mem_singleton.mpr ?_⟩
    exact (Json.throughout_leaf rfl).mpr fun n same => Json.int.inj same ▸ by decide
  have ten : (Json.text "ten").ShortIntegers := Json.throughout_text.mpr nofun
  obtain ⟨-, described, alike⟩ := inputSchemas_precedence [] .pick .picking rfl
    (sound _ _ (by decide) (by decide) (by simp [row, ten]))
  have own := described schemas result
  obtain ⟨schema, expands', quantity⟩ := own.declared "quantity" (ofType "integer") rfl
  obtain rfl := Except.ok.inj (expands.symm.trans expands')
  have fits : (Json.int 10).ShortIntegers :=
    (Json.throughout_leaf rfl).mpr fun n same => Json.int.inj same ▸ by decide
  obtain ⟨unique, -, warnings, -⟩ := alike .fitting ⟨rfl, rfl, rfl⟩
    (sound _ _ (by decide) (by decide) (by simp [row, fits]))
  obtain rfl := unique schemas schemas' result result'
  have one : (inputSchemas [] .pick).records.length = 1 := by decide +kernel
  obtain ⟨warning, only⟩ := List.length_eq_one_iff.mp one
  refine ⟨schemas', result, keys, quantity, own.sampled "shelf" _ (by decide) rfl,
    own.mapped "tags" _ (by decide) (by decide) rfl rfl, result',
    ⟨warning, only, warnings warning (only ▸ List.mem_singleton_self _)⟩, ?_⟩
  decide +kernel

/-! A sample that is matched with two patterns at once, which cannot stand in one. -/

def Schema.joined : Json :=
  .object
    [("additionalProperties", .bool false),
      ("patternProperties", .object [("(?P<x>a)", .object []), ("(?P<x>b)", .object [])])]

def ActionInput.joined : ActionInput where
  schema := [("part", Schema.joined)]
  sample := [("part", .object [("foo", .int 1)])]

def Action.join : Action := { activity := "#pick", input := some .joined }

def Schema.Failure.refusal? : Failure → Option Pattern.Refusal
  | .pattern refusal => some refusal
  | _ => none

theorem Schema.Failure.eq_pattern_of_refusal? {failure : Failure} {refusal : Pattern.Refusal}
    (h : failure.refusal? = some refusal) : failure = .pattern refusal := by
  cases failure with
  | pattern own => exact congrArg Failure.pattern (Option.some.inj h)
  | _ => cases h

theorem Schema.validate_joined :
    validate Schema.joined (.object [("foo", .int 1)]) =
      .error (.validation (.pattern .malformed)) := by
  have order : Schema.joined.sorted = Schema.joined := by
    simp [joined, Json.sorted, Json.sortedFields, Json.nameLe, List.mergeSort,
      List.MergeSort.Internal.splitInTwo]
  have seen : ((meaning Schema.joined (.object [("foo", .int 1)])).head?.bind
    Violation.failure?).bind Failure.refusal? = some .malformed := by decide +kernel
  obtain ⟨failure, failed, refusal⟩ := Option.bind_eq_some_iff.mp seen
  obtain rfl := Failure.eq_pattern_of_refusal? refusal
  rw [validate, order]
  exact congrArg (Except.mapError Error.validation) (first?_eq_error failed)

/-- No declared schema is refused, and all the same there are no schemas; without the sample there
are. -/
theorem inputSchemas_precedence_joined :
    (∀ entry ∈ ActionInput.joined.schema, ∀ e,
      ¬ RefusesDeclared [] (Action.join.label ++ "." ++ entry.1) entry.2 e) ∧
    (inputSchemas [] .join).result = .error (.validation (.pattern .malformed)) ∧
    ActionInput.joined.SameUndeclared { ActionInput.joined with sample := [] } ∧
    ∃ schemas,
      (inputSchemas [] { Action.join with
        input := some { ActionInput.joined with sample := [] } }).result =
        .ok schemas ∧ schemas.keys = ["part"] := by
  have expands : expandDocument [] Schema.joined = .ok Schema.joined := rfl
  have wellFormed : (complaints true Schema.joined).isEmpty := by decide +kernel
  have passes : checkDeclared Schema.joined (Action.join.label ++ "." ++ "part") = .ok () :=
    check_eq_ok_iff.mpr (List.isEmpty_iff.mp wellFormed)
  refine ⟨List.forall_mem_singleton.mpr fun e refused => ?_, ?_, ⟨rfl, rfl, rfl⟩, ?_⟩
  · rcases refusesDeclared_iff.mp refused with failed | ⟨schema, expands', failed⟩
    · cases expands.symm.trans failed
    · obtain rfl := Except.ok.inj (expands.symm.trans expands')
      cases passes.symm.trans failed
  · rw [result_inputSchemas rfl, map_eq_error_iff]
    refine mapM_eq_error_iff.mpr ⟨[], ("part", Schema.joined), [], rfl, nofun, ?_⟩
    have outcome : sampleOutcome .joined "part" Schema.joined =
        .error (.validation (.pattern .malformed)) :=
      sampleOutcome_eq_error_iff.mpr ⟨_, rfl, Schema.validate_joined⟩
    exact bind_eq_error_iff.mpr (.inr ⟨_, expands, bind_eq_error_iff.mpr
      (.inr ⟨_, passes, bind_eq_error_iff.mpr (.inl outcome)⟩)⟩)
  · apply exists_ok_of_observed
    decide +kernel

end LedgerFlow
