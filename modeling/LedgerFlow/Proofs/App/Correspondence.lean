import LedgerFlow.Proofs.App.Compilation

/-!
Handlers and flows of an application correspond. Both come in the order of the transactions. Since
no two transactions become one flow, the address in a handler leads to the flow of its own
transaction, and what is looked up for a handler by name is what its own transaction gives.
-/
namespace LedgerFlow
open Schema

/-- The handler and the flow of a transaction, where `table` holds the schemas of handlers by
name. -/
structure Corresponds (context : Context) (c : Contract) (table : Option (Table HandlerSchemas))
    (t : Transaction) (handler : Handler) (flow : Flow) : Prop where
  handlerName : handler.name = t.name
  flowName : flow.name = t.name
  address : handler.flowUri = "res://" ++ flow.id
  own : ownSchemas context t = .ok (table.bind (·.get? t.name))
  carried : handler.schemas = (table.bind (·.get? t.name)).map carriedSchemas
  compiled : ∃ exports, (compileTransaction context c (table.bind (·.get? t.name)) t).result =
    .ok (flow, exports)

section
variable {context : Context} {c : Contract} {table : Option (Table HandlerSchemas)}
    {transactions : List Transaction}

theorem of_compileTransactions {flows : List Flow} {exports : List Export}
    (h : (compileTransactions context c table transactions).result = .ok (flows, exports)) :
    List.Forall₂ (fun t flow => ∃ own,
      (compileTransaction context c (table.bind (·.get? t.name)) t).result = .ok (flow, own))
        transactions flows := by
  induction transactions generalizing flows exports with
  | nil =>
    obtain ⟨rfl, -⟩ := Prod.mk.inj (Except.ok.inj h)
    exact .nil
  | cons t rest ih =>
    rw [compileTransactions] at h
    obtain ⟨⟨flow, own⟩, hflow, h⟩ := Traced.bind_result_ok_iff.mp h
    obtain ⟨⟨later, more⟩, hlater, h⟩ := Traced.bind_result_ok_iff.mp h
    obtain ⟨rfl, -⟩ := Prod.mk.inj (Except.ok.inj h)
    rw [Traced.result_onError] at hflow
    exact .cons ⟨own, hflow⟩ (ih hlater)

theorem ids_of_compileTransactions {flows : List Flow} {exports : List Export}
    (h : (compileTransactions context c table transactions).result = .ok (flows, exports)) :
    flows.map (·.id) = transactions.map (·.resourceId) := by
  have each := of_compileTransactions h
  clear h
  induction each with
  | nil => rfl
  | cons compiled _ ih =>
    obtain ⟨own, compiled⟩ := compiled
    obtain ⟨⟨id, -⟩, -⟩ := of_compileTransaction compiled
    rw [List.map_cons, List.map_cons, id, ih]

theorem eq_of_same_id {flows : List Flow} (ids : (flows.map (·.id)).Nodup) {i j : Nat}
    {flow other : Flow} (hi : flows[i]? = some flow) (hj : flows[j]? = some other)
    (same : flow.id = other.id) : i = j := by
  have inRange : i < (flows.map (·.id)).length := by
    rw [List.length_map]
    exact (List.getElem?_eq_some_iff.mp hi).1
  refine (List.getElem?_inj inRange ids).mp ?_
  rw [List.getElem?_map, List.getElem?_map, hi, hj, Option.map_some, Option.map_some, same]

theorem corresponds_of_compileTransaction {t : Transaction} (own : FindsOwn context table t)
    {flow : Flow} {exports : List Export}
    (h : (compileTransaction context c (table.bind (·.get? t.name)) t).result =
      .ok (flow, exports)) :
    Corresponds context c table t (.ofTransaction context.settings t (table.bind (·.get? t.name)))
      flow := by
  obtain ⟨⟨id, name⟩, -⟩ := of_compileTransaction h
  have address : t.flowUri = "res://" ++ flow.id := by
    rw [id]
    rfl
  exact ⟨rfl, name, address, own, rfl, exports, h⟩

end

/-- Each transaction has a handler and a flow in its own place, and no others. The handler leads to
this flow and to no other one, and its schemas, although looked up by name, are those of the
transaction. -/
theorem compile_corresponds {payload : Payload} {choice : Option String} {activities : Activities}
    {settings : Settings} {app : App}
    (h : (compile payload choice activities settings).result = .ok app) :
    ∃ spec name c registry table, Spec.parse payload = .ok spec ∧
      spec.select choice = .ok (name, c) ∧
      Registry.ofComponents spec.components settings.maxRefPasses = .ok registry ∧
      contractSchemas settings registry.expandAll.1.documents c.transactions = .ok table ∧
      app.trigger = .ofContract settings c table ∧
      (app.trigger.handlers.length = c.transactions.length ∧
        app.flows.length = c.transactions.length) ∧
      ((app.trigger.handlers.map (·.name)).Nodup ∧ (app.flows.map (·.id)).Nodup) ∧
      ∀ (i : Nat) (t : Transaction), c.transactions[i]? = some t → ∃ handler flow,
        app.trigger.handlers[i]? = some handler ∧ app.flows[i]? = some flow ∧
        Corresponds (registry.context activities settings) c table t handler flow ∧
        ∀ (j : Nat) (other : Flow), app.flows[j]? = some other →
          handler.flowUri = "res://" ++ other.id → j = i := by
  unfold compile at h
  obtain ⟨spec, parsed, h⟩ := Traced.bind_result_ok_iff.mp h
  obtain ⟨⟨name, c⟩, selected, h⟩ := Traced.bind_result_ok_iff.mp h
  obtain ⟨registry, accepted, h⟩ := Traced.bind_result_ok_iff.mp h
  obtain ⟨_, -, table, gathered, ⟨flows, exports⟩, compiled, rfl⟩ := App.ofContract_ok_iff.mp h
  have distinct := Spec.distinct_flows_of_parse parsed selected
  have own : ∀ t ∈ c.transactions, FindsOwn (registry.context activities settings) table t :=
    findsOwn_of_contractSchemas (nodup_names_of_flows distinct) gathered
  have names : (c.transactions.map fun t =>
    Handler.ofTransaction settings t (table.bind (·.get? t.name))).map
      (·.name) = c.transactions.map (·.name) := by
    rw [List.map_map]
    rfl
  have ids : (flows.map (·.id)).Nodup := ids_of_compileTransactions compiled ▸ distinct
  have each := of_compileTransactions compiled
  refine ⟨spec, name, c, registry, table, parsed, selected, accepted, gathered, rfl,
    ⟨List.length_map _, each.length_eq.symm⟩, ⟨names ▸ nodup_names_of_flows distinct, ids⟩, ?_⟩
  intro i t ht
  obtain ⟨flow, hflow, _, hcompiled⟩ := getElem?_of_forall₂ each ht
  have corresponds := corresponds_of_compileTransaction (own t (List.mem_of_getElem? ht)) hcompiled
  have handler : (c.transactions.map fun t =>
      Handler.ofTransaction settings t (table.bind (·.get? t.name)))[i]? =
        some (.ofTransaction settings t (table.bind (·.get? t.name))) := by
    rw [List.getElem?_map, ht, Option.map_some]
  refine ⟨_, flow, handler, hflow, corresponds, fun j other hother same => ?_⟩
  exact eq_of_same_id ids hother hflow
    (Text.append_left_cancel (same.symm.trans corresponds.address))

theorem compile_corresponds_warehouse :
    ∃ app, (compile .warehouse none .builtin {}).result = .ok app ∧
    app.trigger.handlers.length = 2 ∧ app.flows.length = 2 ∧
    ∃ handler flow, app.trigger.handlers[1]? = some handler ∧ app.flows[1]? = some flow ∧
      handler.name = "putItem" ∧ flow.name = "putItem" ∧ handler.flowUri = "res://" ++ flow.id := by
  obtain ⟨app, ofContract, -⟩ := App.exists_ofContract_warehouse
  have compiled := compile_warehouse ofContract
  obtain ⟨spec, name, c, registry, table, parsed, selected, -, -, -, ⟨handlers, flows⟩, -, each⟩ :=
    compile_corresponds compiled
  obtain rfl := Except.ok.inj (Spec.parse_warehouse.symm.trans parsed)
  obtain ⟨-, rfl⟩ := Prod.mk.inj (Except.ok.inj selected)
  obtain ⟨handler, flow, hhandler, hflow, corresponds, -⟩ := each 1 .putItem rfl
  exact ⟨app, compiled, handlers, flows, handler, flow, hhandler, hflow, corresponds.handlerName,
    corresponds.flowName, corresponds.address⟩

end LedgerFlow
