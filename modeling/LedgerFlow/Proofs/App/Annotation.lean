import LedgerFlow.Proofs.Schema.Resolved

/-!
The schemas of a task, and where each of them comes from: it is declared, or read off a sample or a
mapping, or put around the records of the ledger.
-/
namespace LedgerFlow
open Schema

def StepSchemas.flowSchemas (s : StepSchemas) : List FlowSchema :=
  s.input.map (·.2) ++ s.result.toList

/-- What a table holds after it is filled up was in it before, or is read off one of the values. -/
theorem of_mem_addInferred {schemas : Table FlowSchema} {values : Table Json}
    {entry : String × FlowSchema} (h : entry ∈ addInferred schemas values) :
    entry ∈ schemas ∨ ∃ v, (entry.1, v) ∈ values ∧ entry.2 = .ofSchema (infer v) := by
  rcases List.mem_append.mp h with h | h
  · exact .inl h
  · obtain ⟨value, hvalue, rfl⟩ := List.mem_map.mp h
    exact .inr ⟨value.2, List.mem_of_mem_filter hvalue, rfl⟩

theorem resolved_compositeKeySchema : Schema.Resolved compositeKeySchema := by
  simp [compositeKeySchema, arrayOf, objectOf, ofType, resolved_object, resolved_text, refKey]

theorem resolved_recordSchema {value : Json} (h : Schema.Resolved value) :
    Schema.Resolved (recordSchema value) := by
  simp [recordSchema, arrayOf, objectOf, ofType, resolved_object, resolved_text, h, refKey]

theorem resolved_historySchema {value : Json} (h : Schema.Resolved value) :
    Schema.Resolved (historySchema value) := by
  apply resolved_recordSchema
  simp [arrayOf, objectOf, ofType, resolved_object, resolved_text, h, refKey]

section
variable [Library]

/-- A schema of a value that an action takes or returns. What an action declares has passed its
check by then. -/
inductive Annotates (documents : Table Json) (action : Action) (activity : Activity) : Json → Prop
  | declared {input : ActionInput} {key : String} {written schema : Json}
      (takes : action.input = some input) (listed : (key, written) ∈ input.schema)
      (expands : expandDocument documents written = .ok schema)
      (checked : checkDeclared schema (action.label ++ "." ++ key) = .ok ()) :
      Annotates documents action activity schema
  | inferred {input : ActionInput} {key : String} {v : Json} (takes : action.input = some input)
      (listed : (key, v) ∈ input.sample ++ input.mapping) :
      Annotates documents action activity (infer v)
  | compositeKeys (ledger : activity.ledger = true) (asked : isOn action.config "keysOnly" = true) :
      Annotates documents action activity compositeKeySchema
  | hashes (ledger : activity.ledger = true) (asked : isOn action.config "privateHash" = true) :
      Annotates documents action activity (recordSchema (ofType "string"))
  | records {written : List (String × Json)} {value : Json} (ledger : activity.ledger = true)
      (declares : action.ledger = some written)
      (expands : expandDocument documents (.object written) = .ok value)
      (checked : checkDeclared value (action.label ++ ".ledger") = .ok ()) :
      Annotates documents action activity (recordSchema value)
  | history {written : List (String × Json)} {value : Json} (ledger : activity.ledger = true)
      (declares : action.ledger = some written)
      (expands : expandDocument documents (.object written) = .ok value)
      (checked : checkDeclared value (action.label ++ ".ledger") = .ok ()) :
      Annotates documents action activity (historySchema value)

/-- What the sample of a declared schema comes to: a misfit is no failure, but the validation may be
one. -/
def sampleOutcome (input : ActionInput) (key : String) (schema : Json) : Except Error Unit :=
  match input.sample.get? key with
  | some sample => (validate schema sample).map fun _ => ()
  | none => .ok ()

/-- What a declared schema becomes: its expansion, once that has passed its check and its sample has
been validated. -/
def declaredSchema (documents : Table Json) (action : Action) (input : ActionInput)
    (entry : String × Json) : Except Error (String × FlowSchema) := do
  let schema ← expandDocument documents entry.2
  checkDeclared schema (action.label ++ "." ++ entry.1)
  sampleOutcome input entry.1 schema
  return (entry.1, .ofSchema schema)

variable {documents : Table Json} {action : Action}

theorem result_checkSample (key : String) (schema sample : Json) :
    (checkSample action key schema sample).result = (validate schema sample).map fun _ => () := by
  unfold checkSample
  rw [Traced.result_bind]
  cases found : validate schema sample with
  | error e => rfl
  | ok violation? => cases violation? <;> rfl

theorem result_declaredSchemas (input : ActionInput) (declared : List (String × Json)) :
    (declaredSchemas documents action input declared).result =
      declared.mapM (declaredSchema documents action input) := by
  induction declared with
  | nil => rfl
  | cons entry rest ih =>
    obtain ⟨key, written⟩ := entry
    rw [List.mapM_cons, ← ih, declaredSchema, declaredSchemas, Traced.result_bind, bind_assoc]
    refine congrArg (expandDocument documents written >>= ·) (funext fun schema => ?_)
    rw [Traced.result_bind, bind_assoc]
    refine congrArg (checkDeclared schema (action.label ++ "." ++ key) >>= ·) (funext fun _ => ?_)
    have last : (do
        let rest ← declaredSchemas documents action input rest
        return (key, FlowSchema.ofSchema schema) :: rest : Traced (Table FlowSchema)).result = do
          let rest ← (declaredSchemas documents action input rest).result
          return (key, FlowSchema.ofSchema schema) :: rest := Traced.result_bind ..
    rw [bind_assoc, sampleOutcome]
    cases input.sample.get? key with
    | none => exact last
    | some sample =>
      dsimp only
      rw [Traced.result_bind, result_checkSample]
      exact congrArg (((validate schema sample).map fun _ => ()) >>= ·) (funext fun _ => last)

/-- The schema under a declared name is what the declaration expands to, and has passed its check. -/
def DeclaredAs (documents : Table Json) (action : Action) (given : String × Json)
    (own : String × FlowSchema) : Prop :=
  own.1 = given.1 ∧ ∃ schema, expandDocument documents given.2 = .ok schema ∧
    checkDeclared schema (action.label ++ "." ++ given.1) = .ok () ∧ own.2 = .ofSchema schema

theorem DeclaredAs.rightUnique : Relator.RightUnique (DeclaredAs documents action) := by
  rintro given own own' ⟨name, schema, expands, -, schemaOf⟩ ⟨name', schema', expands', -, schemaOf'⟩
  obtain rfl := Except.ok.inj (expands.symm.trans expands')
  exact Prod.ext (name.trans name'.symm) (schemaOf.trans schemaOf'.symm)

theorem declaredSchemas_ok {input : ActionInput} {declared : List (String × Json)}
    {schemas : Table FlowSchema}
    (h : (declaredSchemas documents action input declared).result = .ok schemas) :
    List.Forall₂ (DeclaredAs documents action) declared schemas := by
  rw [result_declaredSchemas, mapM_eq_ok_iff] at h
  refine h.imp fun given own passed => ?_
  obtain ⟨schema, expands, passed⟩ := bind_eq_ok_iff.mp passed
  obtain ⟨_, checked, passed⟩ := bind_eq_ok_iff.mp passed
  obtain ⟨_, -, done⟩ := bind_eq_ok_iff.mp passed
  obtain rfl := Except.ok.inj done
  exact ⟨rfl, schema, expands, checked, rfl⟩

section
variable {activity : Activity}

theorem annotates_of_inputSchemas {schemas : Table FlowSchema}
    (h : (inputSchemas documents action).result = .ok schemas) :
    ∀ entry ∈ schemas, ∃ schema, entry.2 = .ofSchema schema ∧
      Annotates documents action activity schema := by
  unfold inputSchemas at h
  split at h
  · obtain rfl := Except.ok.inj h
    exact nofun
  · rename_i input takes
    obtain ⟨declared, hdeclared, h⟩ := Traced.bind_result_ok_iff.mp h
    obtain rfl := Except.ok.inj h
    intro entry hentry
    rcases of_mem_addInferred hentry with hentry | ⟨v, hv, inferred⟩
    · rcases of_mem_addInferred hentry with hentry | ⟨v, hv, inferred⟩
      · obtain ⟨given, hgiven, -, schema, expands, checked, hschema⟩ :=
          exists_mem_of_forall₂ (declaredSchemas_ok hdeclared).flip hentry
        exact ⟨schema, hschema, .declared takes hgiven expands checked⟩
      · exact ⟨_, inferred, .inferred takes (List.mem_append_left _ hv)⟩
    · exact ⟨_, inferred, .inferred takes (List.mem_append_right _ (List.mem_of_mem_filter hv))⟩

theorem annotates_of_ledgerSchema {schema : Json}
    (h : ledgerSchema documents action activity = .ok (some schema)) :
    Annotates documents action activity schema := by
  unfold ledgerSchema at h
  split at h
  · cases h
  rename_i ledger
  have ledger : activity.ledger = true := by simpa using ledger
  split at h
  · rename_i asked
    obtain rfl := Option.some.inj (Except.ok.inj h)
    exact .compositeKeys ledger asked
  split at h
  · rename_i asked
    obtain rfl := Option.some.inj (Except.ok.inj h)
    exact .hashes ledger asked
  split at h
  · cases h
  · cases h
  · rename_i declares
    obtain ⟨value, expands, h⟩ := bind_eq_ok_iff.mp h
    obtain ⟨_, checked, h⟩ := bind_eq_ok_iff.mp h
    obtain rfl := Option.some.inj (Except.ok.inj h)
    split
    · exact .history ledger declares expands checked
    · exact .records ledger declares expands checked

theorem annotates_of_stepSchemas {schemas : StepSchemas}
    (h : (stepSchemas documents action activity).result = .ok schemas) :
    ∀ f ∈ schemas.flowSchemas, ∃ schema, f = .ofSchema schema ∧
      Annotates documents action activity schema := by
  obtain ⟨input, hinput, h⟩ := Traced.bind_result_ok_iff.mp h
  obtain ⟨ledger, hledger, h⟩ := Traced.bind_result_ok_iff.mp h
  obtain rfl := Except.ok.inj h
  intro f hf
  rcases List.mem_append.mp hf with hf | hf
  · obtain ⟨entry, hentry, rfl⟩ := List.mem_map.mp hf
    exact annotates_of_inputSchemas hinput entry hentry
  · obtain ⟨schema, rfl, rfl⟩ := Option.map_eq_some_iff.mp (Option.mem_toList.mp hf)
    exact ⟨schema, rfl, annotates_of_ledgerSchema hledger⟩

end

theorem Annotates.resolved {activity : Activity} {schema : Json}
    (h : Annotates documents action activity schema) : Schema.Resolved schema := by
  cases h with
  | declared _ _ expands _ => exact (expandDocument_refFree expands).resolved
  | inferred _ _ => exact resolved_infer _
  | compositeKeys _ _ => exact resolved_compositeKeySchema
  | hashes _ _ => exact resolved_recordSchema (resolved_ofType "string")
  | records _ _ expands _ => exact resolved_recordSchema (expandDocument_refFree expands).resolved
  | history _ _ expands _ => exact resolved_historySchema (expandDocument_refFree expands).resolved

end

end LedgerFlow
