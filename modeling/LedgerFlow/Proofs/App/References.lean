import LedgerFlow.Proofs.App.Carried

/-!
References to definitions. A handler and its flow refer to what their transaction returns, to a
component by its bare name and to an array by the hash of its text. Whatever is referred to is
defined, and where names and hashes are kept apart the definition is the expansion of what the
transaction returns.
-/
namespace LedgerFlow
open Schema

def ArrayText (registry : Registry) (c : Contract) (text : String) : Prop :=
  ∃ t ∈ c.transactions, ∃ schema, registry.expand (.object t.returns) = .ok schema ∧
    schema.get? "type" = some (.text "array") ∧ text = schema.compactText

/-- Components with these names and the arrays that the transactions of a contract return all have
keys of their own: names are their own bare names, arrays with different texts have different
hashes, and none of these is a name. -/
structure KeysApart (names : List String) (registry : Registry) (c : Contract) : Prop where
  slashless : ∀ name ∈ names, '/' ∉ name.toList
  hashes : ∀ text other, ArrayText registry c text → ArrayText registry c other →
    Text.hashKey text = Text.hashKey other → text = other
  unnamed : ∀ text, ArrayText registry c text → Text.hashKey text ∉ names

/-! What a handler and its flow refer to. -/

section
variable {documents : Table Json} {t : Transaction}

theorem Described.of_reference {uri : String} (h : Described documents t (.reference uri)) :
    ∃ ref document, t.returns.get? refKey = some (.text ref) ∧ documents.get? ref = some document ∧
      uri = schemaUri ref := by
  generalize hschema : HandlerSchema.reference uri = schema at h
  cases h with
  | named top found => exact ⟨_, _, top, found, HandlerSchema.reference.inj hschema⟩
  | _ => cases hschema

theorem Described.of_array {v : Json} (h : Described documents t (.schema v))
    (array : v.get? "type" = some (.text "array")) :
    expandDocument documents (.object t.returns) = .ok v := by
  generalize hschema : HandlerSchema.schema v = schema at h
  cases h with
  | returned top expands => exact HandlerSchema.schema.inj hschema ▸ expands
  | named => cases hschema
  | _ =>
    obtain rfl := HandlerSchema.schema.inj hschema
    have types : "object" = "array" := Json.text.inj (Option.some.inj array)
    exact absurd types (by decide)

end

section
variable {share : Share} {context : Context} {c : Contract} {t : Transaction}
    {schemas : HandlerSchemas}

theorem Share.Shows.of_mem_exports (shows : share.Shows context c t schemas)
    (described : ∀ schema ∈ schemas.all, Described context.documents t schema) {e : Export}
    (h : e ∈ share.exports) :
    expandDocument context.documents (.object t.returns) = .ok e.schema ∧
      e.schema.get? "type" = some (.text "array") ∧ e.text = e.schema.compactText := by
  rw [shows.exports] at h
  obtain ⟨form, hform, he⟩ := of_mem_exports_flowMetadata h
  obtain ⟨schema, known, rfl⟩ := exists_of_mem_metadataForms hform
  obtain ⟨rfl, array, text⟩ := LedgerFlow.of_mem_exports he
  exact ⟨(described _ (known _ rfl)).of_array array, array, text⟩

theorem Share.Shows.of_reference (shows : share.Shows context c t schemas)
    (described : ∀ schema ∈ schemas.all, Described context.documents t schema) {uri : String}
    (h : .reference uri ∈ share.handler.flowSchemas ++ share.flow.flowSchemas) :
    (∃ ref document, t.returns.get? refKey = some (.text ref) ∧
      context.documents.get? ref = some document ∧
      uri = schemaUri ref) ∨ ∃ e ∈ share.exports, uri = uriPrefix ++ e.key := by
  rcases List.mem_append.mp h with h | h
  · rw [Handler.flowSchemas, shows.handler] at h
    obtain ⟨schema, hschema, carried⟩ := exists_of_mem_carriedSchemas h
    cases schema with
    | reference own =>
      obtain rfl := FlowSchema.reference.inj carried
      exact .inl (described _ hschema).of_reference
    | schema v => cases carried
  rcases List.mem_append.mp h with h | h
  · rw [shows.metadata] at h
    rcases of_mem_flowMetadata h with identity | ⟨form, hform, hf, exported⟩
    · cases identity
    · obtain ⟨schema, known, rfl⟩ := exists_of_mem_metadataForms hform
      rcases flowSchema_reference hf with rfl | ⟨e, he, huri⟩
      · exact .inl (described _ (known _ rfl)).of_reference
      · exact .inr ⟨e, shows.exports ▸ exported he, huri⟩
  · obtain ⟨_, written, -⟩ := shows.tasks_written _ h
    cases written

end

theorem text_eq_of_exported {components : Components} {registry r : Registry} {c : Contract}
    {exports : List Export} (apart : KeysApart components.schemas.keys registry c)
    (arrays : ∀ e ∈ exports, ArrayText registry c e.text ∧ e.text = e.schema.compactText)
    {key : String} {v w : Json}
    (hv : Exported components r (exports.map fun e => (e.key, e.schema)) key v)
    (hw : Exported components r (exports.map fun e => (e.key, e.schema)) key w) :
    v.compactText = w.compactText := by
  have bare {name : String} (declared : name ∈ components.schemas.keys)
      (named : schemaUri (refPrefix ++ name) = uriPrefix ++ key) : name = key := by
    rw [← refName_of_no_slash (apart.slashless name declared)]
    exact schemaUri_eq_iff.mp named
  have hashed {schema : Json} (derived : (key, schema) ∈ exports.map fun e => (e.key, e.schema)) :
      ArrayText registry c schema.compactText ∧ Text.hashKey schema.compactText = key := by
    obtain ⟨e, he, heq⟩ := List.mem_map.mp derived
    obtain ⟨rfl, rfl⟩ := Prod.mk.inj heq
    obtain ⟨array, text⟩ := arrays e he
    rw [← text]
    exact ⟨array, rfl⟩
  cases hv with
  | component declared named current =>
    obtain rfl := bare declared named
    cases hw with
    | component declared' named' current' =>
      obtain rfl := bare declared' named'
      rw [Option.some.inj (current.symm.trans current')]
    | derived derived =>
      obtain ⟨array, rfl⟩ := hashed derived
      exact absurd declared (apart.unnamed _ array)
  | derived derived =>
    obtain ⟨array, hkey⟩ := hashed derived
    cases hw with
    | component declared named current =>
      obtain rfl := bare declared named
      exact absurd (hkey ▸ declared) (apart.unnamed _ array)
    | derived derived' =>
      obtain ⟨array', hkey'⟩ := hashed derived'
      exact apart.hashes _ _ array array' (hkey.trans hkey'.symm)

section
variable {components : Components} {maxPasses : Int} {registry : Registry} {replaced : Nat}
    {activities : Activities}
  {settings : Settings} {c : Contract} {shares : List Share}

theorem arrayText_of_mem_exports
    (accepted : Registry.ofComponents (some components) maxPasses = .ok registry)
    (expanded : registry.expandAll.2.result = .ok replaced)
    (included : settings.includeSchemas = true)
    (shared : List.Forall₂ (fun t share => Share.ofTransaction
      (registry.context activities settings) c t = .ok share) c.transactions shares)
    {e : Export} (h : e ∈ shares.flatMap (·.exports)) :
    ArrayText registry c e.text ∧ e.text = e.schema.compactText := by
  obtain ⟨share, hshare, he⟩ := List.mem_flatMap.mp h
  obtain ⟨t, ht, h⟩ := exists_mem_of_forall₂ shared.flip hshare
  obtain ⟨schemas, hschemas, shows⟩ := Share.exists_shows included h
  obtain ⟨returned, array, text⟩ := shows.of_mem_exports (described_of_handlerSchemas hschemas) he
  have stable := (Registry.ofComponents_plainTops accepted).stableTops
  exact ⟨⟨t, ht, e.schema, Registry.expand_of_expandAll stable expanded returned, array, text⟩,
    text⟩

theorem exists_exported_of_reference
    (accepted : Registry.ofComponents (some components) maxPasses = .ok registry)
    (passes : 1 ≤ maxPasses) (expanded : registry.expandAll.2.result = .ok replaced)
    (included : settings.includeSchemas = true) {t : Transaction} {share : Share}
    (hshare : share ∈ shares)
    (h : Share.ofTransaction (registry.context activities settings) c t = .ok share) {uri : String}
    (refers : .reference uri ∈ share.handler.flowSchemas ++ share.flow.flowSchemas) :
    ∃ key v, uri = uriPrefix ++ key ∧ registry.expand (.object t.returns) = .ok v ∧
      Exported components (registry.expandAll.1.exporting (shares.flatMap (·.exports)))
        ((shares.flatMap (·.exports)).map fun e => (e.key, e.schema)) key v := by
  have plain := Registry.ofComponents_plainTops accepted
  obtain ⟨schemas, hschemas, shows⟩ := Share.exists_shows included h
  have described := described_of_handlerSchemas hschemas
  rcases shows.of_reference described refers with ⟨ref, document, top, found, rfl⟩ | ⟨e, he, rfl⟩
  · have known := Table.mem_keys_of_get? found
    rw [Registry.context, Registry.keys_expandAll, Registry.keys_ofComponents accepted] at known
    obtain ⟨name, declared, rfl⟩ := List.mem_map.mp known
    rw [← Registry.maxPasses_ofComponents accepted] at passes
    have free := Registry.refFree_expandAll passes plain expanded found
    have top : (Json.object t.returns).get? refKey = some (.text (refPrefix ++ name)) := top
    have returned := expandDocument_reference found free top
    refine ⟨_, document, rfl, Registry.expand_of_expandAll plain.stableTops expanded returned, ?_⟩
    refine .component declared rfl ?_
    rwa [Registry.documents_exporting]
  · obtain ⟨returned, -, -⟩ := shows.of_mem_exports described he
    refine ⟨e.key, e.schema, rfl, Registry.expand_of_expandAll plain.stableTops expanded returned,
      ?_⟩
    exact .derived (List.mem_map_of_mem (List.mem_flatMap.mpr ⟨share, hshare, he⟩))

end

/-- Whatever a handler or a flow of an application refers to is defined there. If keys are kept
apart, the definition is the text of what the schema of the returned value expands to, against the
components as they stand in the description. -/
theorem compile_references_defined {payload : Payload} {choice : Option String}
    {activities : Activities} {settings : Settings} {given : Table Json}
    {environment : List (String × String)} {app : App} (distinct : payload.Distinct)
    (decoded : Settings.decode given environment = .ok settings)
    (included : settings.includeSchemas = true)
    (compiled : (compile payload choice activities settings).result = .ok app) :
    ∃ spec name c registry table, Spec.parse payload = .ok spec ∧
      spec.select choice = .ok (name, c) ∧
      Registry.ofComponents spec.components settings.maxRefPasses = .ok registry ∧
      app.schemas = some table ∧ app.trigger.handlers.length = c.transactions.length ∧
      app.flows.length = c.transactions.length ∧
      ∀ (i : Nat) (t : Transaction) (handler : Handler) (flow : Flow), c.transactions[i]? = some t →
        app.trigger.handlers[i]? = some handler → app.flows[i]? = some flow →
        ∀ uri, .reference uri ∈ handler.flowSchemas ++ flow.flowSchemas →
          ∃ key text, uri = uriPrefix ++ key ∧ table.get? key = some (.inline text) ∧
            (KeysApart (componentNames spec.components) registry c →
              ∃ schema, registry.expand (.object t.returns) = .ok schema ∧
                text = schema.compactText) := by
  obtain @⟨spec, name, c, registry, replaced, shares, parsed, selected, accepted, expanded,
      shared⟩ :=
    compiled_of_compile compiled
  refine ⟨spec, name, c, registry, _, parsed, selected,
    (spec.ofComponents_allComponents _).symm.trans accepted, if_pos included, ?_, ?_, ?_⟩
  · rw [App.ofShares, List.length_map, shared.length_eq]
  · rw [App.ofShares, List.length_map, shared.length_eq]
  intro i t handler flow ht hhandler hflow uri refers
  obtain ⟨share, hshare, h⟩ := getElem?_of_forall₂ shared ht
  rw [App.ofShares, List.getElem?_map, hshare] at hhandler hflow
  obtain rfl := Option.some.inj hhandler
  obtain rfl := Option.some.inj hflow
  have passes := Settings.one_le_maxRefPasses decoded
  obtain ⟨key, v, rfl, returned, exported⟩ :=
    exists_exported_of_reference accepted passes expanded included
    (List.mem_of_getElem? hshare) h refers
  have nodup := Spec.nodup_allComponents distinct parsed
  have grown := (@Registry.Grows.refl registry).expand.exporting (shares.flatMap (·.exports))
  obtain ⟨w, other, defined⟩ := exists_definition nodup accepted grown exported
  refine ⟨key, w.compactText, rfl, ?_, ?_⟩
  · rw [Table.get?_mapValues, defined]
    rfl
  · intro apart
    rw [← Spec.keys_allComponents] at apart
    have arrays (e : Export) (he : e ∈ shares.flatMap (·.exports)) :=
      arrayText_of_mem_exports accepted expanded included shared he
    exact ⟨v, returned, text_eq_of_exported apart arrays other exported⟩

def itemsSchema : Json := arrayOf (objectOf [("size", ofType "integer")])

theorem expand_listItems :
    Registry.warehouse.expand (.object Transaction.listItems.returns) = .ok itemsSchema := rfl

theorem hashKey_itemsSchema : Text.hashKey itemsSchema.compactText = "a71edaa5" := by cbv

theorem keysApart_warehouse :
    KeysApart (componentNames Spec.warehouse.components) .warehouse .warehouse := by
  have only {text : String} (h : ArrayText .warehouse .warehouse text) :
      text = itemsSchema.compactText := by
    obtain ⟨t, ht, schema, expands, array, rfl⟩ := h
    rcases List.mem_cons.mp ht with rfl | ht
    · rw [Except.ok.inj (expands.symm.trans expand_listItems)]
    · obtain rfl := List.mem_singleton.mp ht
      obtain rfl := Except.ok.inj expands
      cases array
  refine ⟨by decide, ?_, ?_⟩
  · intro text other htext hother _
    rw [only htext, only hother]
  · intro text htext
    rw [only htext, hashKey_itemsSchema]
    decide

theorem compile_references_defined_warehouse : ∃ app table schema,
    (compile .warehouse none .builtin {}).result = .ok app ∧ app.schemas = some table ∧
      table.get? "a71edaa5" = some (.inline schema.compactText) ∧
      Registry.warehouse.expand (.object Transaction.listItems.returns) = .ok schema := by
  obtain ⟨app, happ, refers⟩ : ∃ app,
      (App.ofContract .warehouse "warehouse" .warehouse .warehouse .builtin {}).result = .ok app ∧
        app.flows.map (fun flow => flow.flowSchemas.contains (.reference "schema://a71edaa5")) =
          [true, false] := by
    apply exists_ok_of_observed
    rw [App.result_ofContract, Registry.context, Registry.expandAll_warehouse]
    decide +kernel
  have compiled := compile_warehouse happ
  have decoded : Settings.decode [] [] = .ok {} := rfl
  obtain ⟨spec, name, c, registry, table, parsed, selected, accepted, defined, handlers, -,
      resolve⟩ :=
    compile_references_defined Payload.distinct_warehouse decoded rfl compiled
  obtain rfl := Except.ok.inj (Spec.parse_warehouse.symm.trans parsed)
  obtain ⟨rfl, rfl⟩ := Prod.mk.inj (Except.ok.inj selected)
  obtain rfl := Except.ok.inj accepted
  obtain ⟨flow, rest, flows, first, -⟩ := List.map_eq_cons_iff.mp refers
  have present : 0 < app.trigger.handlers.length := handlers ▸ Nat.zero_lt_two
  have href : .reference "schema://a71edaa5" ∈ app.trigger.handlers[0].flowSchemas ++
      flow.flowSchemas :=
    List.mem_append_right _ (List.contains_iff_mem.mp first)
  obtain ⟨key, text, huri, found, expansion⟩ :=
    resolve 0 .listItems _ flow rfl (List.getElem?_eq_getElem present) (by rw [flows]; rfl) _ href
  have keyed : uriPrefix ++ "a71edaa5" = uriPrefix ++ key := huri
  obtain rfl := Text.append_left_cancel keyed
  obtain ⟨schema, expands, rfl⟩ := expansion keysApart_warehouse
  exact ⟨app, table, schema, compiled, defined, found, expands⟩

end LedgerFlow
