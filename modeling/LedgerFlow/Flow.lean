import LedgerFlow.Context
import LedgerFlow.Graph.Walk
import LedgerFlow.Step
/-!
Flows. The graph of a transaction becomes a list of tasks and a list of numbered links, both in
walking order; in front stand the inputs and outputs of the flow with their schemas.
-/
namespace LedgerFlow
open Schema

variable [Library]

structure FlowAttribute where
  name : String
  type : String
  value : Option Json := none
  schema : Option FlowSchema := none

structure FlowMetadata where
  input : List FlowAttribute
  output : List FlowAttribute

structure Task where
  id : String
  description : Option String := none
  ref : String
  settings : Option (Table Json) := none
  input : Option (Table Json) := none
  schemas : Option StepSchemas := none

structure FlowLink where
  id : Nat
  source : String
  target : String
  expr : Option String := none

structure Flow where
  id : String
  name : String
  metadata : FlowMetadata
  tasks : List Task
  links : List FlowLink

abbrev HandlerSchemas := Table (Table HandlerSchema)

def HandlerSchemas.find? (schemas : HandlerSchemas) (part name : String) : Option HandlerSchema :=
  ((schemas.get? part).getD []).get? name

namespace Json

def optionalField (name : String) (v : Option Json) : List (String × Json) :=
  match v with
  | some v => [(name, v)]
  | none => []

end Json

open Json (optionalField)

def FlowAttribute.toJson (a : FlowAttribute) : Json :=
  .object ([("name", .text a.name), ("type", .text a.type)] ++ optionalField "value" a.value ++
    optionalField "schema" (a.schema.map FlowSchema.toJson))

def FlowMetadata.toJson (m : FlowMetadata) : Json :=
  .object [("input", .array (m.input.map FlowAttribute.toJson)),
    ("output", .array (m.output.map FlowAttribute.toJson))]

def Task.toJson (t : Task) : Json :=
  .object ([("id", .text t.id), ("name", .text t.id)] ++
    optionalField "description" (t.description.map .text) ++
    [("activity", .object ([("ref", .text t.ref)] ++
      optionalField "settings" (t.settings.map .object) ++
      optionalField "input" (t.input.map .object) ++
      optionalField "schemas" (t.schemas.map StepSchemas.toJson)))])

def FlowLink.toJson (l : FlowLink) : Json :=
  .object ([("id", .int l.id), ("from", .text l.source), ("to", .text l.target)] ++
    match l.expr with
    | some expr => [("type", .text "expression"), ("value", .text expr)]
    | none => [("type", .text "default")])

def Flow.toJson (f : Flow) : Json :=
  .object [("id", .text f.id),
    ("data", .object [("name", .text f.name), ("metadata", f.metadata.toJson),
      ("tasks", .array (f.tasks.map Task.toJson)),
        ("links", .array (f.links.map FlowLink.toJson))])]

def asMapping (v : Json) : Json := .object [("mapping", v)]

def taskSettings (node : Node) : Option (Table Json) :=
  match node.action with
  | some action =>
    if action.config.isEmpty then none
    else some (action.config.mapValues fun v => if v.isContainer then asMapping v else v)
  | none => none

def Node.mapping (node : Node) : Table Json :=
  ((node.action.bind (·.input)).map (·.mapping)).getD []

def taskInput (node : Node) : Option (Table Json) :=
  if node.mapping.isEmpty then none
  else some (node.mapping.mapValues fun v => if v.isObject then asMapping v else v)

def Task.ofNode (context : Context) (name : String) (node : Node) : Traced Task := do
  let task : Task :=
    { id := name, ref := node.activity.ref
      description := (node.action.bind (·.description)).filter (· ≠ "") }
  if node.activity.returnsMappings then
    return { task with settings := some [("mappings", .object node.mapping)] }
  else
    match node.action with
    | none => return task
    | some action =>
      let task := { task with settings := taskSettings node, input := taskInput node }
      if context.settings.includeSchemas then
        let schemas ← stepSchemas context.documents action node.activity
        return { task with schemas := some schemas }
      else return task

def tasksOf (context : Context) (graph : Graph) : List String → Traced (List Task)
  | [] => pure []
  | name :: rest => do
    match graph.nodes.get? name with
    | none => tasksOf context graph rest
    | some node =>
      let task ← Task.ofNode context name node
      let rest ← tasksOf context graph rest
      return task :: rest

def FlowLink.ofEdge (id : Nat) (source : String) (link : Link) : FlowLink :=
  { id, source, target := link.target, expr := link.expr.filter (· ≠ "") }

def linksOfEdges (edges : List (String × Link)) : List FlowLink :=
  edges.zipIdx.map fun ((source, link), id) => .ofEdge id source link

/-- The inputs and outputs of a flow, and what has to be exported for their schemas. Without handler
schemas there are none here either. -/
def flowMetadata (transaction : Transaction) (contract : Contract)
    (schemas : Option HandlerSchemas) :
    FlowMetadata × List Export :=
  let find (part name : String) := flowSchema (schemas.bind (·.find? part name))
  let (parameters, parameterExports) :=
    if transaction.parameters.isEmpty then (none, []) else find "output" "parameters"
  let (transient, transientExports) :=
    if transaction.transient.isEmpty then (none, []) else find "output" "transient"
  let (returns, returnExports) := find "reply" "returns"
  let input : List FlowAttribute :=
    (if transaction.parameters.isEmpty then []
      else [{ name := "parameters", type := "object", schema := parameters }]) ++
    (if transaction.transient.isEmpty then []
      else [{ name := "transient", type := "object", schema := transient }]) ++
    (if schemas.isNone then []
      else
        [{ name := "cid", type := "object", schema :=
          some (identitySchema contract.cidAttributes) },
         { name := "txID", type := "string", value := some (.text "") },
         { name := "txTime", type := "string", value := some (.text "") }])
  let output : List FlowAttribute :=
    [{ name := "status", type := "integer", value := some (.int 0) },
     { name := "message", type := "string", value := some (.text "") },
     { name := "returns", type := "any", schema := returns }]
  (⟨input, output⟩, parameterExports ++ transientExports ++ returnExports)

def Flow.ofGraph (context : Context) (transaction : Transaction) (contract : Contract)
    (graph : Graph) (schemas : Option HandlerSchemas) : Traced (Flow × List Export) := do
  let (names, edges) := graph.walk
  let (metadata, exports) := flowMetadata transaction contract schemas
  let tasks ← tasksOf context graph names
  return ({ id := transaction.resourceId, name := transaction.name, metadata, tasks,
            links := linksOfEdges edges }, exports)

end LedgerFlow
