import LedgerFlow.Proofs.App.Annotation
import LedgerFlow.Proofs.App.Compilation

/-!
The schemas that an application carries. They come from expanded documents, from samples and
mappings, and from the schemas around ledger records; none of them refers to anything by text.
-/
namespace LedgerFlow
open Schema

/-! Where schemas stand in an application. -/

def Task.flowSchemas (t : Task) : List FlowSchema := (t.schemas.map StepSchemas.flowSchemas).getD []

def Flow.flowSchemas (f : Flow) : List FlowSchema :=
  f.metadata.flowSchemas ++ f.tasks.flatMap Task.flowSchemas

def App.flowSchemas (a : App) : List FlowSchema :=
  (a.schemas.getD []).map (·.2) ++ a.trigger.handlers.flatMap Handler.flowSchemas ++
    a.flows.flatMap Flow.flowSchemas

/-- A schema that is written out is the text of one that does not refer to anything by text, and
whatever is read from it does not either. -/
def Schema.FlowSchema.Resolved : FlowSchema → Prop
  | .reference _ => True
  | .inline text => (∃ schema : Json, schema.compactText = text ∧ Schema.Resolved schema) ∧
      ∀ read, Json.ofText text = .ok read → Schema.Resolved read

def Schema.FlowSchema.Written (f : FlowSchema) : Prop :=
  ∃ schema : Json, f = .ofSchema schema ∧ Schema.Resolved schema

theorem Schema.FlowSchema.resolved_ofSchema {schema : Json} (h : Schema.Resolved schema) :
    (FlowSchema.ofSchema schema).Resolved :=
  ⟨⟨schema, rfl, h⟩, fun _ hread => h.of_reread (Json.reread_of_ofText hread)⟩

def Schema.HandlerSchema.Resolved : HandlerSchema → Prop
  | .reference _ => True
  | .schema v => Schema.Resolved v

/-! Handlers and the metadata of flows. -/

section
variable {documents : Table Json} {t : Transaction}

theorem parameterSchemas_ok {parameters : List Parameter} {pairs : List (String × Json)}
    (h : parameterSchemas documents parameters = .ok pairs) :
    ∀ entry ∈ pairs, ∃ p ∈ parameters, expandDocument documents (.object p.schema) =
      .ok entry.2 := by
  induction parameters generalizing pairs with
  | nil =>
    obtain rfl := Except.ok.inj h
    exact nofun
  | cons p rest ih =>
    obtain ⟨schema, expands, h⟩ := bind_eq_ok_iff.mp h
    obtain ⟨later, hlater, h⟩ := bind_eq_ok_iff.mp h
    obtain rfl := Except.ok.inj h
    refine List.forall_mem_cons.mpr ⟨⟨p, List.mem_cons_self, expands⟩, fun entry hentry => ?_⟩
    obtain ⟨q, hq, expands⟩ := ih hlater entry hentry
    exact ⟨q, List.mem_cons_of_mem _ hq, expands⟩

theorem Described.resolved (objects : ObjectsOnly documents) {schema : HandlerSchema}
    (h : Described documents t schema) : schema.Resolved := by
  cases h with
  | parameters each =>
    refine resolved_objectOf fun entry hentry => ?_
    obtain ⟨p, -, expands⟩ := parameterSchemas_ok each entry (Table.ofPairs_subset _ hentry)
    have object := expandDocument_isObject objects rfl expands
    exact ⟨Json.text?_of_isObject object, (expandDocument_refFree expands).resolved⟩
  | transient expands => exact resolved_typed (expandDocument_refFree expands).resolved
  | named top found => trivial
  | returned top expands => exact (expandDocument_refFree expands).resolved

theorem flowSchema_resolved {schema : Option HandlerSchema} (h : ∀ own ∈ schema, own.Resolved)
    {f : FlowSchema} (hf : (flowSchema schema).1 = some f) : f.Resolved := by
  unfold flowSchema at hf
  split at hf
  · cases hf
  · simp only [Option.ite_none_right_eq_some, Option.some.injEq] at hf
    obtain ⟨-, rfl⟩ := hf
    trivial
  · rename_i v
    have resolved : Schema.Resolved v := h _ rfl
    split at hf
    · obtain rfl := Option.some.inj hf
      trivial
    · obtain rfl := Option.some.inj hf
      apply FlowSchema.resolved_ofSchema
      split
      · cases found : v.get? "properties" with
        | none => exact (Json.throughout_leaf rfl).mpr nofun
        | some properties => exact resolved.get? found
      · exact resolved_object_of_no_texts nofun
    · obtain rfl := Option.some.inj hf
      exact FlowSchema.resolved_ofSchema resolved

theorem resolved_identitySchema (further : List String) : (identitySchema further).Resolved := by
  apply FlowSchema.resolved_ofSchema
  apply resolved_object_of_no_texts
  intro field hfield
  obtain ⟨name, -, rfl⟩ := List.mem_map.mp hfield
  exact ⟨rfl, resolved_ofType "string"⟩

end

/-! Tasks. -/

theorem Share.Shows.tasks_annotated {share : Share} {context : Context} {c : Contract}
    {t : Transaction} {schemas : HandlerSchemas} (shows : share.Shows context c t schemas) :
    ∀ task ∈ share.flow.tasks, ∀ f ∈ task.flowSchemas, ∃ action activity schema,
      f = .ofSchema schema ∧ Annotates context.documents action activity schema := by
  intro task htask f hf
  unfold Task.flowSchemas at hf
  cases carries : task.schemas with
  | none =>
    rw [carries] at hf
    cases hf
  | some own =>
    rw [carries] at hf
    obtain ⟨action, activity, hown⟩ := shows.tasks task htask own carries
    obtain ⟨schema, hschema, annotates⟩ := annotates_of_stepSchemas hown f hf
    exact ⟨action, activity, schema, hschema, annotates⟩

theorem Share.Shows.tasks_written {share : Share} {context : Context} {c : Contract}
    {t : Transaction} {schemas : HandlerSchemas} (shows : share.Shows context c t schemas) :
    ∀ f ∈ share.flow.tasks.flatMap Task.flowSchemas, f.Written := by
  intro f hf
  obtain ⟨task, htask, hf⟩ := List.mem_flatMap.mp hf
  obtain ⟨_, _, schema, hschema, annotates⟩ := shows.tasks_annotated task htask f hf
  exact ⟨schema, hschema, annotates.resolved⟩

/-! Whole applications. -/

theorem Share.Shows.resolved {share : Share} {context : Context} {c : Contract} {t : Transaction}
    {schemas : HandlerSchemas} (shows : share.Shows context c t schemas)
    (each : ∀ schema ∈ schemas.all, schema.Resolved) :
    (∀ f ∈ share.handler.flowSchemas, f.Resolved) ∧ (∀ f ∈ share.flow.flowSchemas, f.Resolved) ∧
      ∀ e ∈ share.exports, Schema.Resolved e.schema := by
  refine ⟨?_, ?_, ?_⟩
  · intro f hf
    rw [Handler.flowSchemas, shows.handler] at hf
    obtain ⟨schema, hschema, rfl⟩ := exists_of_mem_carriedSchemas hf
    have resolved := each schema hschema
    cases schema with
    | reference uri => trivial
    | schema v => exact FlowSchema.resolved_ofSchema resolved
  · intro f hf
    rcases List.mem_append.mp hf with hf | hf
    · rw [shows.metadata] at hf
      rcases of_mem_flowMetadata hf with rfl | ⟨form, hform, hf, -⟩
      · exact resolved_identitySchema _
      · obtain ⟨schema, known, rfl⟩ := exists_of_mem_metadataForms hform
        exact flowSchema_resolved (fun own hown => each own (known own hown)) hf
    · obtain ⟨schema, rfl, resolved⟩ := shows.tasks_written f hf
      exact FlowSchema.resolved_ofSchema resolved
  · intro e he
    rw [shows.exports] at he
    obtain ⟨form, hform, he⟩ := of_mem_exports_flowMetadata he
    obtain ⟨schema, known, rfl⟩ := exists_of_mem_metadataForms hform
    obtain ⟨rfl, -, -⟩ := of_mem_exports he
    exact each _ (known _ rfl)

/-- No schema that an application carries refers to anything by text, wherever it stands: among the
definitions, at a handler, at a task or in the metadata of a flow. -/
theorem compile_resolved {payload : Payload} {choice : Option String} {activities : Activities}
    {settings : Settings} {given : Table Json} {environment : List (String × String)} {app : App}
    (distinct : payload.Distinct) (decoded : Settings.decode given environment = .ok settings)
    (included : settings.includeSchemas = true)
    (compiled : (compile payload choice activities settings).result = .ok app) :
    ∀ f ∈ app.flowSchemas, f.Resolved := by
  obtain @⟨spec, name, c, registry, replaced, shares, parsed, selected, accepted, expanded,
      shared⟩ :=
    compiled_of_compile compiled
  have nodup := Spec.nodup_allComponents distinct parsed
  have passes : 1 ≤ registry.maxPasses := by
    rw [Registry.maxPasses_ofComponents accepted]
    exact Settings.one_le_maxRefPasses decoded
  have objects := Registry.objectsOnly_expandAll accepted
  have plain := Registry.ofComponents_plainTops accepted
  have each : ∀ share ∈ shares, (∀ f ∈ share.handler.flowSchemas, f.Resolved) ∧
      (∀ f ∈ share.flow.flowSchemas, f.Resolved) ∧
        ∀ e ∈ share.exports, Schema.Resolved e.schema := by
    intro share hshare
    obtain ⟨t, -, h⟩ := exists_mem_of_forall₂ shared.flip hshare
    obtain ⟨schemas, hschemas, shows⟩ := Share.exists_shows included h
    exact shows.resolved fun schema hschema =>
      (described_of_handlerSchemas hschemas schema hschema).resolved objects
  intro f hf
  simp only [App.flowSchemas, App.ofShares, if_pos included, Option.getD_some, List.mem_append,
    List.mem_flatMap, List.mem_map] at hf
  rcases hf with (⟨entry, hentry, rfl⟩ | ⟨handler, ⟨share, hshare, rfl⟩, hf⟩) | ⟨flow,
    ⟨share, hshare, rfl⟩, hf⟩
  · obtain ⟨⟨key, v⟩, hv, rfl⟩ := List.mem_map.mp hentry
    have grown := (@Registry.Grows.refl registry).expand.exporting (shares.flatMap (·.exports))
    apply FlowSchema.resolved_ofSchema
    cases exported_of_mem_definitions nodup accepted grown hv with
    | component declared named current =>
      rw [Registry.documents_exporting] at current
      exact (Registry.refFree_expandAll passes plain expanded current).resolved
    | derived hderived =>
      obtain ⟨e, he, heq⟩ := List.mem_map.mp hderived
      obtain ⟨rfl, rfl⟩ := Prod.mk.inj heq
      obtain ⟨share, hshare, he⟩ := List.mem_flatMap.mp he
      exact (each share hshare).2.2 e he
  · exact (each share hshare).1 f hf
  · exact (each share hshare).2.1 f hf

theorem compile_resolved_warehouse : ∃ app, (compile .warehouse none .builtin {}).result = .ok app ∧
    app.flowSchemas.length = 10 ∧ ∀ f ∈ app.flowSchemas, f.Resolved := by
  obtain ⟨app, happ, count⟩ : ∃ app,
      (App.ofContract .warehouse "warehouse" .warehouse .warehouse .builtin {}).result = .ok app ∧
        app.flowSchemas.length = 10 := by
    apply exists_ok_of_observed
    rw [App.result_ofContract, Registry.context]
    simp only [App.ofParts, Registry.expandAll_warehouse]
    decide +kernel
  have compiled := compile_warehouse happ
  have decoded : Settings.decode [] [] = .ok {} := rfl
  exact ⟨app, compiled, count, compile_resolved Payload.distinct_warehouse decoded rfl compiled⟩

end LedgerFlow
