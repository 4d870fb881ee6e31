import LedgerFlow.Proofs.App.Independence

/-!
The schemas of a handler, where each of them comes from, and the forms in which the handler and its
flow carry them.
-/
namespace LedgerFlow
open Schema

/-- Where a schema of the handler of a transaction comes from. -/
inductive Described (documents : Table Json) (t : Transaction) : HandlerSchema → Prop
  | parameters {pairs : List (String × Json)}
      (each : parameterSchemas documents t.parameters = .ok pairs) :
      Described documents t (.schema (objectOf (Table.ofPairs pairs)))
  | transient {values : Json}
      (expands : expandDocument documents (.object t.transient) = .ok values) :
      Described documents t (.schema (.object [("type", .text "object"), ("properties", values)]))
  | named {ref : String} {document : Json} (top : t.returns.get? refKey = some (.text ref))
      (found : documents.get? ref = some document) :
      Described documents t (.reference (schemaUri ref))
  | returned {schema : Json} (top : ∀ ref, t.returns.get? refKey ≠ some (.text ref))
      (expands : expandDocument documents (.object t.returns) = .ok schema) :
      Described documents t (.schema schema)

def HandlerSchemas.all (schemas : HandlerSchemas) : List HandlerSchema :=
  schemas.flatMap fun part => part.2.map (·.2)

theorem HandlerSchemas.mem_all_of_find? {schemas : HandlerSchemas} {part name : String}
    {schema : HandlerSchema}
    (h : schemas.find? part name = some schema) : schema ∈ schemas.all := by
  unfold HandlerSchemas.find? at h
  cases found : schemas.get? part with
  | none =>
    rw [found] at h
    cases h
  | some entries =>
    rw [found] at h
    exact List.mem_flatMap.mpr
      ⟨_, Table.mem_of_get? found, List.mem_map_of_mem (Table.mem_of_get? h)⟩

section
variable {documents : Table Json} {t : Transaction}

theorem described_of_returnSchema {reply : Table HandlerSchema}
    (h : returnSchema documents t = .ok reply) :
    ∀ entry ∈ reply, Described documents t entry.2 := by
  unfold returnSchema at h
  split at h
  · obtain rfl := Except.ok.inj h
    exact nofun
  · split at h
    · rename_i ref top
      obtain ⟨⟨key, document⟩, hresolve, h⟩ := bind_eq_ok_iff.mp h
      obtain rfl := Except.ok.inj h
      obtain ⟨same, found⟩ := resolve_eq_ok_iff.mp hresolve
      obtain rfl := Json.text.inj same
      exact List.forall_mem_singleton.mpr (.named top found)
    · rename_i top
      obtain ⟨schema, expands, h⟩ := bind_eq_ok_iff.mp h
      obtain rfl := Except.ok.inj h
      exact List.forall_mem_singleton.mpr (.returned top expands)

def parameterEntry (documents : Table Json) (t : Transaction) :
    Except Error (Table HandlerSchema) :=
  if t.parameters.isEmpty then .ok []
  else (parameterSchemas documents t.parameters).map fun pairs =>
    [("parameters", .schema (objectOf (Table.ofPairs pairs)))]

def transientEntry (documents : Table Json) (t : Transaction) :
    Except Error (Table HandlerSchema) :=
  if t.transient.isEmpty then .ok []
  else (expandDocument documents (.object t.transient)).map fun values =>
    [("transient", .schema (.object [("type", .text "object"), ("properties", values)]))]

theorem handlerSchemas_eq : handlerSchemas documents t = do
    let reply ← returnSchema documents t
    let parameters ← parameterEntry documents t
    let transient ← transientEntry documents t
    return [("output", parameters ++ transient), ("reply", reply)] := by
  unfold handlerSchemas parameterEntry transientEntry
  cases t.parameters.isEmpty <;> cases t.transient.isEmpty <;>
    cases parameterSchemas documents t.parameters <;>
    cases expandDocument documents (.object t.transient) <;> rfl

theorem described_of_handlerSchemas {schemas : HandlerSchemas}
    (h : handlerSchemas documents t = .ok schemas) :
    ∀ schema ∈ schemas.all, Described documents t schema := by
  rw [handlerSchemas_eq] at h
  obtain ⟨reply, hreply, h⟩ := bind_eq_ok_iff.mp h
  obtain ⟨parameters, hparameters, h⟩ := bind_eq_ok_iff.mp h
  obtain ⟨transient, htransient, h⟩ := bind_eq_ok_iff.mp h
  obtain rfl := Except.ok.inj h
  have parameters : ∀ entry ∈ parameters, Described documents t entry.2 := by
    unfold parameterEntry at hparameters
    split at hparameters
    · obtain rfl := Except.ok.inj hparameters
      exact nofun
    · obtain ⟨pairs, each, rfl⟩ := map_eq_ok_iff.mp hparameters
      exact List.forall_mem_singleton.mpr (.parameters each)
  have transient : ∀ entry ∈ transient, Described documents t entry.2 := by
    unfold transientEntry at htransient
    split at htransient
    · obtain rfl := Except.ok.inj htransient
      exact nofun
    · obtain ⟨values, expands, rfl⟩ := map_eq_ok_iff.mp htransient
      exact List.forall_mem_singleton.mpr (.transient expands)
  intro schema hmem
  simp only [HandlerSchemas.all, List.flatMap_cons, List.flatMap_nil, List.append_nil,
    List.map_append, List.mem_append, List.mem_map] at hmem
  rcases hmem with (⟨entry, hentry, rfl⟩ | ⟨entry, hentry, rfl⟩) | ⟨entry, hentry, rfl⟩
  · exact parameters entry hentry
  · exact transient entry hentry
  · exact described_of_returnSchema hreply entry hentry

end

/-! The forms of these schemas in the handler and in the metadata of the flow. -/

def Handler.flowSchemas (h : Handler) : List FlowSchema :=
  (h.schemas.getD []).flatMap fun part => part.2.map (·.2)

theorem exists_of_mem_carriedSchemas {schemas : HandlerSchemas} {f : FlowSchema}
    (h : f ∈ (carriedSchemas schemas).flatMap fun part => part.2.map (·.2)) :
    ∃ schema ∈ schemas.all, HandlerSchema.carried schema = f := by
  obtain ⟨part, hpart, hf⟩ := List.mem_flatMap.mp h
  obtain ⟨own, hown, rfl⟩ := List.mem_map.mp hpart
  obtain ⟨entry, hentry, rfl⟩ := List.mem_map.mp hf
  obtain ⟨schema, hschema, rfl⟩ := List.mem_map.mp hentry
  exact ⟨_, List.mem_flatMap.mpr ⟨own, List.mem_of_mem_filter hown, List.mem_map_of_mem hschema⟩,
    rfl⟩

theorem flowSchema_reference {schema : Option HandlerSchema} {uri : String}
    (h : (flowSchema schema).1 = some (.reference uri)) :
    schema = some (.reference uri) ∨
      ∃ e ∈ (flowSchema schema).2, uri = uriPrefix ++ e.key := by
  unfold flowSchema at h ⊢
  split at h
  · cases h
  · simp only [Option.ite_none_right_eq_some, Option.some.injEq, FlowSchema.reference.injEq] at h
    exact .inl (h.2 ▸ rfl)
  · split at h
    · refine .inr ⟨_, List.mem_singleton_self _, ?_⟩
      exact (FlowSchema.reference.inj (Option.some.inj h)).symm
    · cases h
    · cases h

theorem of_mem_exports {schema : Option HandlerSchema} {e : Export}
    (h : e ∈ (flowSchema schema).2) :
    schema = some (.schema e.schema) ∧ e.schema.get? "type" = some (.text "array") ∧
      e.text = e.schema.compactText := by
  unfold flowSchema at h
  split at h
  · cases h
  · cases h
  · split at h
    · rename_i array
      obtain rfl := List.mem_singleton.mp h
      exact ⟨rfl, array, rfl⟩
    · cases h
    · cases h

def FlowMetadata.flowSchemas (m : FlowMetadata) : List FlowSchema :=
  (m.input ++ m.output).filterMap (·.schema)

def metadataForms (schemas : Option HandlerSchemas) : List (Option FlowSchema × List Export) :=
  [("output", "parameters"), ("output", "transient"), ("reply", "returns")].map fun (part, name) =>
    flowSchema (schemas.bind (·.find? part name))

theorem exists_of_mem_metadataForms {schemas : HandlerSchemas}
    {form : Option FlowSchema × List Export} (h : form ∈ metadataForms (some schemas)) :
    ∃ schema : Option HandlerSchema, (∀ own ∈ schema, own ∈ schemas.all) ∧
      form = flowSchema schema := by
  obtain ⟨⟨part, name⟩, -, rfl⟩ := List.mem_map.mp h
  exact ⟨_, fun own hown => HandlerSchemas.mem_all_of_find? hown, rfl⟩

section
variable {t : Transaction} {c : Contract} {schemas : Option HandlerSchemas}

theorem of_mem_flowMetadata {f : FlowSchema} (h : f ∈ (flowMetadata t c schemas).1.flowSchemas) :
    f = identitySchema c.cidAttributes ∨
      ∃ form ∈ metadataForms schemas, form.1 = some f ∧ form.2 ⊆ (flowMetadata t c schemas).2 := by
  revert h
  unfold flowMetadata FlowMetadata.flowSchemas metadataForms
  cases schemas <;> cases t.parameters.isEmpty <;> cases t.transient.isEmpty <;> simp <;> grind

theorem of_mem_exports_flowMetadata {e : Export} (h : e ∈ (flowMetadata t c schemas).2) :
    ∃ form ∈ metadataForms schemas, e ∈ form.2 := by
  revert h
  unfold flowMetadata metadataForms
  cases t.parameters.isEmpty <;> cases t.transient.isEmpty <;> simp <;> grind

end

end LedgerFlow
