import LedgerFlow.App
import LedgerFlow.Proofs.Result
import LedgerFlow.Proofs.Schema.InPlace

/-!
What an application that comes out is made of: the expanded registry, the schemas of the handlers,
and the flows with what they export.
-/
namespace LedgerFlow
open Schema

def contractSchemas (settings : Settings) (documents : Table Json)
    (transactions : List Transaction) :
    Except Error (Option (Table HandlerSchemas)) :=
  if settings.includeSchemas then (transactionSchemas documents transactions).map fun schemas =>
    some (.ofPairs schemas)
  else .ok none

/-- What the parts of a compilation share once the registry is expanded. -/
def Schema.Registry.context (registry : Registry) (activities : Activities)
    (settings : Settings) : Context :=
  { documents := registry.expandAll.1.documents, activities, settings }

def App.ofParts (spec : Spec) (name : String) (c : Contract) (registry : Registry)
    (settings : Settings) (schemas : Option (Table HandlerSchemas)) (flows : List Flow)
    (exports : List Export) : App where
  name
  version := spec.info.version
  description := c.name
  appModel := settings.appModel
  imports := spec.imports
  trigger := .ofContract settings c schemas
  flows
  schemas :=
    if settings.includeSchemas then
      some ((registry.expandAll.1.exporting exports).definitions.mapValues FlowSchema.ofSchema)
    else none

theorem App.result_ofContract [Library] (spec : Spec) (name : String) (c : Contract)
    (registry : Registry) (activities : Activities) (settings : Settings) :
    (App.ofContract spec name c registry activities settings).result = do
      let _ ← registry.expandAll.2.result
      let schemas ← contractSchemas settings registry.expandAll.1.documents c.transactions
      let flows ← (compileTransactions (registry.context activities settings) c schemas
        c.transactions).result
      return App.ofParts spec name c registry settings schemas flows.1 flows.2 := by
  unfold App.ofContract contractSchemas App.ofParts
  cases settings.includeSchemas with
  | false =>
    simp only [Bool.false_eq_true, ↓reduceIte, Traced.result_bind, Traced.result_record,
      Traced.result_pure]
    rfl
  | true =>
    simp only [↓reduceIte, Traced.result_bind, Traced.result_record, Traced.result_pure]
    cases registry.expandAll.2.result with
    | error e => rfl
    | ok replaced => cases transactionSchemas registry.expandAll.1.documents c.transactions <;> rfl

theorem App.ofContract_ok_iff {spec : Spec} {name : String} {c : Contract} {registry : Registry}
    {activities : Activities} {settings : Settings} {app : App} :
    (App.ofContract spec name c registry activities settings).result = .ok app ↔
      ∃ replaced, registry.expandAll.2.result = .ok replaced ∧
        ∃ schemas, contractSchemas settings registry.expandAll.1.documents c.transactions =
          .ok schemas ∧
          ∃ flows, (compileTransactions (registry.context activities settings) c schemas
            c.transactions).result = .ok flows ∧
            App.ofParts spec name c registry settings schemas flows.1 flows.2 = app := by
  rw [App.result_ofContract]
  simp only [bind_eq_ok_iff, pure, Except.pure, Except.ok.injEq]

theorem compile_of_ofContract {payload : Payload} {choice : Option String} {activities : Activities}
    {settings : Settings} {spec : Spec} {name : String} {c : Contract} {registry : Registry}
    {app : App} (parsed : Spec.parse payload = .ok spec)
    (selected : spec.select choice = .ok (name, c))
    (accepted : Registry.ofComponents spec.components settings.maxRefPasses = .ok registry)
    (h : (App.ofContract spec name c registry activities settings).result = .ok app) :
    (compile payload choice activities settings).result = .ok app := by
  unfold compile
  exact Traced.bind_result_ok_iff.mpr ⟨spec, parsed, Traced.bind_result_ok_iff.mpr
    ⟨(name, c), selected, Traced.bind_result_ok_iff.mpr ⟨registry, accepted, h⟩⟩⟩

/-! A description with a component, a query of it and an update under a guard. -/

def Payload.warehouse : Payload := .value (.object
  [("info", .object []),
   ("components", .object [("schemas", .object
     [("Item", .object [("properties",
       .object [("size", .object [("type", .text "integer")])])])])]),
   ("contracts", .object [("warehouse", .object
     [("cid", .text "email"),
      ("transactions", .array
        [.object
          [("name", .text "listItems"),
           ("returns", .object
             [("type", .text "array"),
               ("items", .object [("$ref", .text "#/components/schemas/Item")])]),
           ("rules", .array [.object [("actions", .array [.object
             [("activity", .text "#get"),
               ("ledger", .object [("$ref", .text "#/components/schemas/Item")])]])]])],
         .object
          [("name", .text "putItem"),
           ("parameters", .array [.object
             [("name", .text "item"), ("schema",
               .object [("$ref", .text "#/components/schemas/Item")])]]),
           ("rules", .array [.object
             [("condition", .object [("expr", .text "$flow.cid.email != null")]),
              ("actions", .array [.object
                [("activity", .text "#put"),
                 ("input", .object [("sample", .object [("key", .text "i1")])])]])]])]])])])])

def Transaction.listItems : Transaction where
  name := "listItems"
  returns := [("type", .text "array"),
    ("items", .object [("$ref", .text "#/components/schemas/Item")])]
  rules := [{ actions :=
    [{ activity := "#get", ledger := some [("$ref", .text "#/components/schemas/Item")] }] }]

def Transaction.putItem : Transaction where
  name := "putItem"
  parameters := [{ name := "item", schema := [("$ref", .text "#/components/schemas/Item")] }]
  rules :=
    [{ condition := some { expr := "$flow.cid.email != null" }
       actions := [{ activity := "#put", input := some { sample := [("key", .text "i1")] } }] }]

def Contract.warehouse : Contract where
  cid := "email"
  transactions := [.listItems, .putItem]

def Spec.warehouse : Spec where
  info := {}
  contracts := [("warehouse", .warehouse)]
  components := some { schemas := [("Item",
    { properties := [("size", .object [("type", .text "integer")])] })] }

def Schema.Registry.warehouse : Registry where
  documents :=
    [("#/components/schemas/Item", .object
      [("type", .text "object"),
       ("properties", .object [("size", .object [("type", .text "integer")])])])]

theorem Spec.parse_warehouse : Spec.parse .warehouse = .ok .warehouse := rfl

theorem Schema.Registry.expandAll_warehouse :
    Registry.warehouse.expandAll = (.warehouse, ⟨[passRecord 1 0], .ok 0⟩) := by
  have free : ∀ entry ∈ Registry.warehouse.documents, collectRefs entry.2 = [] := by decide
  have ends : checkCycles Registry.warehouse.documents = .ok () := by
    refine checkCycles_of_collectRefs_eq_nil (fun entry hentry target htarget => ?_)
      fun key document found => ?_
    · rw [free entry hentry] at htarget
      cases htarget
    · exact free _ (Table.mem_of_get? found)
  rw [Registry.expandAll_of_checkCycles ends]
  rfl

theorem App.exists_ofContract_warehouse : ∃ app,
    (App.ofContract .warehouse "warehouse" .warehouse .warehouse .builtin {}).result = .ok app ∧
      app.flows.map (fun flow =>
          (flow.metadata.input.map
            (·.name), flow.tasks.map fun task => (task.id, task.schemas.isSome))) =
        [(["cid", "txID", "txTime"], [("get_1", true)]),
          (["parameters", "cid", "txID", "txTime"], [("noop_1", false), ("put_1", true)])] := by
  apply exists_ok_of_observed
  rw [App.result_ofContract, Registry.context, Registry.expandAll_warehouse]
  decide +kernel

theorem compile_warehouse {app : App}
    (h : (App.ofContract .warehouse "warehouse" .warehouse .warehouse .builtin {}).result =
      .ok app) :
    (compile .warehouse none .builtin {}).result = .ok app :=
  compile_of_ofContract Spec.parse_warehouse rfl rfl h

end LedgerFlow
