import LedgerFlow.Graph.Builder
import LedgerFlow.Schema.Components
import LedgerFlow.Spec.Payload
import LedgerFlow.Trigger
/-!
Compilation of a contract description into an application: a trigger with a handler for each
transaction, a flow for each transaction, and the schema definitions that they refer to.
-/
namespace LedgerFlow
open Schema

variable [Library]

structure App where
  name : String
  version : String
  description : String
  appModel : String
  imports : List String
  trigger : Trigger
  flows : List Flow
  schemas : Option (Table FlowSchema) := none

def App.toJson (a : App) : Json :=
  .object
    ([("name", .text a.name), ("type", .text "flogo:app"), ("version", .text a.version),
      ("description", .text a.description), ("appModel", .text a.appModel),
      ("imports", .array (a.imports.map .text)), ("triggers", .array [a.trigger.toJson]),
      ("resources", .array (a.flows.map Flow.toJson))] ++
      Json.optionalField "schemas" (a.schemas.map fun schemas =>
        .object (schemas.mapValues FlowSchema.toJson)))

def dumpText (app : Json) : String := Json.toText .indented app ++ "\n"

def flowRecord (t : Transaction) (flow : Flow) (graph : Graph) : Log.Record :=
  ⟨.info, .app, s!"compiled transaction {t.name} into {flow.id}: {flow.tasks.length} tasks, " ++
    s!"{flow.links.length} links, {graph.branchNodes.length} branch nodes"⟩

def compileTransaction (context : Context) (c : Contract) (schemas : Option HandlerSchemas)
    (t : Transaction) : Traced (Flow × List Export) := do
  let graph ← (Graph.ofTransaction context.activities t : Except Error Graph)
  let (flow, exports) ← Flow.ofGraph context t c graph schemas
  let record := flowRecord t flow graph
  .record record.severity record.component record.message
  return (flow, exports)

def transactionSchemas (documents : Table Json) :
    List Transaction → Except Error (List (String × HandlerSchemas))
  | [] => .ok []
  | t :: rest => do
    let schemas ← handlerSchemas documents t
    let rest ← transactionSchemas documents rest
    return (t.name, schemas) :: rest

def compileTransactions (context : Context) (c : Contract)
    (schemas : Option (Table HandlerSchemas)) :
    List Transaction → Traced (List Flow × List Export)
  | [] => pure ([], [])
  | t :: rest => do
    let (flow, exports) ←
      (compileTransaction context c (schemas.bind (·.get? t.name)) t).onError fun e =>
        ⟨.error, .app, s!"failed to compile transaction {t.name}: {e.message}"⟩
    let (flows, more) ← compileTransactions context c schemas rest
    return (flow :: flows, exports ++ more)

/-- The application of a contract. The last record tells the time taken, which has a mark in its
place. -/
def App.ofContract (spec : Spec) (name : String) (c : Contract) (registry : Registry)
    (activities : Activities) (settings : Settings) : Traced App := do
  .record .info .app
    s!"compiling contract {name} ({c.name}) with {c.transactions.length} transactions"
  let (registry, expansion) := registry.expandAll
  let replaced ← expansion
  .record .debug .app
    s!"expanded {replaced} schema documents in {registry.documents.length} app schemas"
  let context : Context := { documents := registry.documents, activities, settings }
  let schemas : Option (Table HandlerSchemas) ←
    if settings.includeSchemas then do
      let schemas ← (transactionSchemas registry.documents c.transactions : Except Error _)
      pure (some (.ofPairs schemas))
    else pure none
  let trigger := Trigger.ofContract settings c schemas
  let (flows, exports) ← compileTransactions context c schemas c.transactions
  let definitions :=
    if settings.includeSchemas then
      some ((registry.exporting exports).definitions.mapValues FlowSchema.ofSchema)
    else none
  .record .info .app s!"compiled contract {name}: {flows.length} resources in <t>s"
  return { name, version := spec.info.version, description := c.name, appModel := settings.appModel,
           imports := spec.imports, trigger, flows, schemas := definitions }

def compile (payload : Payload) (contractName : Option String) (activities : Activities)
    (settings : Settings) : Traced App := do
  let spec ← (Spec.parse payload : Except Error Spec)
  let (name, c) ← (spec.select contractName : Except Error (String × Contract))
  let registry ← (Registry.ofComponents spec.components settings.maxRefPasses :
    Except Error Registry)
  App.ofContract spec name c registry activities settings

end LedgerFlow
