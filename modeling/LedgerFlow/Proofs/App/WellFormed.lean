import LedgerFlow.Proofs.App.References
import LedgerFlow.Proofs.Schema.KeptShape

/-!
The schemas of an application are well formed. Components are only looked at with their references,
and what an action declares about its records without the lists and objects that are put around
them; neither of this breaks a schema.
-/
namespace LedgerFlow
open Schema

/-! Schemas of tasks. -/

theorem wellFormed_of_checkDeclared {schema : Json} {label : String}
    (h : checkDeclared schema label = .ok ()) : WellFormed schema := by
  unfold checkDeclared at h
  split at h
  · exact check_eq_ok_iff.mp h
  · exact check_eq_ok_iff.mp h
  · cases h

theorem wellFormed_compositeKeySchema : WellFormed compositeKeySchema := by
  have string : WellFormed (ofType "string") := wellFormed_ofType (by decide)
  have strings := wellFormed_arrayOf string
  apply wellFormed_arrayOf
  apply wellFormed_objectOf
  simp only [List.forall_mem_cons]
  refine ⟨string, strings, wellFormed_arrayOf (wellFormed_objectOf ?_), nofun⟩
  simp only [List.forall_mem_cons]
  exact ⟨string, strings, string, nofun⟩

theorem wellFormed_recordSchema {value : Json} (h : WellFormed value) :
    WellFormed (recordSchema value) := by
  apply wellFormed_arrayOf
  apply wellFormed_objectOf
  simp only [List.forall_mem_cons]
  exact ⟨wellFormed_ofType (by decide), h, nofun⟩

theorem wellFormed_historySchema {value : Json} (h : WellFormed value) :
    WellFormed (historySchema value) := by
  apply wellFormed_recordSchema
  apply wellFormed_arrayOf
  apply wellFormed_objectOf
  simp only [List.forall_mem_cons]
  exact ⟨wellFormed_ofType (by decide), wellFormed_ofType (by decide),
    wellFormed_ofType (by decide), h, nofun⟩

theorem Annotates.wellFormed {documents : Table Json} {action : Action} {activity : Activity}
    {schema : Json} (h : Annotates documents action activity schema) : WellFormed schema := by
  cases h with
  | declared _ _ _ checked => exact wellFormed_of_checkDeclared checked
  | inferred _ _ => exact wellFormed_infer _
  | compositeKeys _ _ => exact wellFormed_compositeKeySchema
  | hashes _ _ => exact wellFormed_recordSchema (wellFormed_ofType (by decide))
  | records _ _ _ checked => exact wellFormed_recordSchema (wellFormed_of_checkDeclared checked)
  | history _ _ _ checked => exact wellFormed_historySchema (wellFormed_of_checkDeclared checked)

/-! Definitions. -/

theorem get?_definitions_of_component {components : Components} {maxPasses : Int}
    {registry r : Registry} {made : List (String × Json)} (distinct : components.schemas.keys.Nodup)
    (accepted : Registry.ofComponents (some components) maxPasses = .ok registry)
    (grown : registry.Grows made r)
    (slashless : ∀ name ∈ components.schemas.keys, '/' ∉ name.toList) {name : String}
    (declared : name ∈ components.schemas.keys) (unnamed : name ∉ made.map (·.1)) {document : Json}
    (current : r.documents.get? (refPrefix ++ name) = some document) :
    r.definitions.get? name = some document := by
  have bare : schemaUri (refPrefix ++ name) = uriPrefix ++ name :=
    schemaUri_eq_iff.mpr (refName_of_no_slash (slashless name declared))
  obtain ⟨w, exported, found⟩ :=
    exists_definition distinct accepted grown (.component declared bare current)
  rw [found]
  cases exported with
  | @component other _ _ declared' named' current' =>
    have same := schemaUri_eq_iff.mp named'
    rw [refName_of_no_slash (slashless other declared')] at same
    subst same
    exact current'.symm.trans current
  | derived derived => exact absurd (List.mem_map_of_mem derived) unnamed

/-- Every schema that an application gives to a task is well formed and refers to nothing by text.
So is every definition of a component, which is what a reference to the component came to, provided
that the names of components hold no slashes and no array that is returned has a hash that is called
like the component. -/
theorem compile_wellFormed {payload : Payload} {choice : Option String} {activities : Activities}
    {settings : Settings} {given : Table Json} {environment : List (String × String)} {app : App}
    (distinct : payload.Distinct) (decoded : Settings.decode given environment = .ok settings)
    (included : settings.includeSchemas = true)
    (compiled : (compile payload choice activities settings).result = .ok app) :
    ∃ spec name c registry table, Spec.parse payload = .ok spec ∧
      spec.select choice = .ok (name, c) ∧
      Registry.ofComponents spec.components settings.maxRefPasses = .ok registry ∧
        app.schemas = some table ∧
      (∀ flow ∈ app.flows, ∀ task ∈ flow.tasks, ∀ f ∈ task.flowSchemas, ∃ action activity schema,
        f = .ofSchema schema ∧ Annotates registry.expandAll.1.documents action activity schema ∧
          Schema.Resolved schema ∧ ∀ label, Schema.check schema label = .ok ()) ∧
      ((∀ own ∈ componentNames spec.components, '/' ∉ own.toList) →
        ∀ own ∈ componentNames spec.components,
          (∀ text, ArrayText registry c text → Text.hashKey text ≠ own) →
          ∃ schema, table.get? own = some (.ofSchema schema) ∧
            registry.expand (reference (refPrefix ++ own)) = .ok schema ∧ RefFree schema ∧
            ∀ label, Schema.check schema label = .ok ()) := by
  obtain @⟨spec, name, c, registry, replaced, shares, parsed, selected, accepted, expanded,
      shared⟩ :=
    compiled_of_compile compiled
  refine ⟨spec, name, c, registry, _, parsed, selected,
    (spec.ofComponents_allComponents _).symm.trans accepted, if_pos included, ?_, ?_⟩
  · intro flow hflow task htask f hf
    obtain ⟨share, hshare, rfl⟩ := List.mem_map.mp hflow
    obtain ⟨t, -, h⟩ := exists_mem_of_forall₂ shared.flip hshare
    obtain ⟨schemas, -, shows⟩ := Share.exists_shows included h
    obtain ⟨action, activity, schema, hschema, annotates⟩ := shows.tasks_annotated task htask f hf
    have good := annotates.wellFormed
    exact ⟨action, activity, schema, hschema, annotates, annotates.resolved,
      fun _ => check_eq_ok_iff.mpr good⟩
  · rw [← Spec.keys_allComponents]
    intro slashless own declared unnamed
    have passes : 1 ≤ registry.maxPasses := by
      rw [Registry.maxPasses_ofComponents accepted]
      exact Settings.one_le_maxRefPasses decoded
    have plain := Registry.ofComponents_plainTops accepted
    have grown := (@Registry.Grows.refl registry).expand.exporting (shares.flatMap (·.exports))
    obtain ⟨document, current⟩ := exists_current accepted grown declared
    have apart : own ∉ ((shares.flatMap (·.exports)).map fun e : Export => (e.key, e.schema)).map
        (·.1) := by
      intro hmem
      obtain ⟨_, hentry, rfl⟩ := List.mem_map.mp hmem
      obtain ⟨e, he, rfl⟩ := List.mem_map.mp hentry
      exact unnamed e.text (arrayText_of_mem_exports accepted expanded included shared he).1 rfl
    have defined := get?_definitions_of_component (Spec.nodup_allComponents distinct parsed)
      accepted grown slashless declared apart current
    rw [Registry.documents_exporting] at current
    refine ⟨document, ?_, Registry.expand_reference passes plain expanded current,
      Registry.refFree_expandAll passes plain expanded current, fun _ => check_eq_ok_iff.mpr ?_⟩
    · rw [Table.get?_mapValues, defined]
      rfl
    · exact Registry.wellFormed_expandAll accepted passes expanded current

theorem compile_wellFormed_warehouse :
    ∃ app table item, (compile .warehouse none .builtin {}).result = .ok app ∧
    app.flows.map (fun flow => flow.tasks.map (·.flowSchemas.length)) = [[1], [0, 1]] ∧
    (∀ flow ∈ app.flows, ∀ task ∈ flow.tasks, ∀ f ∈ task.flowSchemas, ∃ schema,
      f = .ofSchema schema ∧
      Schema.check schema none = .ok ()) ∧
    app.schemas = some table ∧ table.get? "Item" = some (.ofSchema item) ∧
      Schema.check item none = .ok () := by
  obtain ⟨app, happ, carried⟩ : ∃ app,
      (App.ofContract .warehouse "warehouse" .warehouse .warehouse .builtin {}).result = .ok app ∧
        app.flows.map (fun flow => flow.tasks.map (·.flowSchemas.length)) = [[1], [0, 1]] := by
    apply exists_ok_of_observed
    rw [App.result_ofContract, Registry.context, Registry.expandAll_warehouse]
    decide +kernel
  have compiled := compile_warehouse happ
  have decoded : Settings.decode [] [] = .ok {} := rfl
  obtain ⟨spec, name, c, registry, table, parsed, selected, accepted, defined, tasks, components⟩ :=
    compile_wellFormed Payload.distinct_warehouse decoded rfl compiled
  obtain rfl := Except.ok.inj (Spec.parse_warehouse.symm.trans parsed)
  obtain ⟨rfl, rfl⟩ := Prod.mk.inj (Except.ok.inj selected)
  obtain rfl := Except.ok.inj accepted
  have declared : "Item" ∈ componentNames Spec.warehouse.components := List.mem_cons_self
  have unnamed (text : String) (array : ArrayText .warehouse .warehouse text) :
      Text.hashKey text ≠ "Item" := by
    intro same
    exact keysApart_warehouse.unnamed text array (same ▸ declared)
  obtain ⟨item, hitem, -, -, good⟩ :=
    components keysApart_warehouse.slashless "Item" declared unnamed
  refine ⟨app, table, item, compiled, carried, ?_, defined, hitem, good none⟩
  intro flow hflow task htask f hf
  obtain ⟨_, _, schema, hschema, -, -, good⟩ := tasks flow hflow task htask f hf
  exact ⟨schema, hschema, good none⟩

end LedgerFlow
