import LedgerFlow.Flow
/-!
The trigger of an application: one handler for each transaction, which declares the arguments of the
transaction and points to its flow.
-/
namespace LedgerFlow
open Schema

inductive ArgumentList where
  | delimited (text : String)
  | attributes (arguments : List Attribute)
  deriving DecidableEq, Repr

structure Handler where
  name : String
  arguments : ArgumentList
  flowUri : String
  schemas : Option (Table (Table FlowSchema)) := none

structure Trigger where
  id : String
  cid : Option String
  handlers : List Handler

/-- The literal behind an argument that tells how its text is decoded. -/
def typeDefault? : Option String → Option String
  | some "boolean" => some "false"
  | some "integer" => some "0"
  | some "number" => some "0.0"
  | _ => none

def delimitedArgument (p : Parameter) : String :=
  match typeDefault? p.type? with
  | some literal => p.name ++ ":" ++ literal
  | none => p.name

def delimitedArguments (t : Transaction) : String :=
  Text.join "," (t.parameters.map delimitedArgument)

def primitiveTypes : List String := ["string", "integer", "number", "boolean"]

def argumentType (p : Parameter) : String := (p.type?.filter primitiveTypes.contains).getD "string"

def argumentAttributes (t : Transaction) : List Attribute :=
  t.parameters.map fun p => { name := p.name, type := argumentType p }

def parameterSchemas (documents : Table Json) : List Parameter → Except Error (List (String × Json))
  | [] => .ok []
  | p :: rest => do
    let schema ← expandDocument documents (.object p.schema)
    let rest ← parameterSchemas documents rest
    return (p.name, schema) :: rest

/-- The schema of what a transaction returns. A reference stays one, but it must name a document. -/
def returnSchema (documents : Table Json) (t : Transaction) : Except Error (Table HandlerSchema) :=
  if t.returns.isEmpty then .ok []
  else
    match t.returns.get? refKey with
    | some (.text ref) => do
      let _ ← resolve documents (.text ref)
      return [("returns", .reference (schemaUri ref))]
    | _ => do
      let schema ← expandDocument documents (.object t.returns)
      return [("returns", .schema schema)]

def handlerSchemas (documents : Table Json) (t : Transaction) : Except Error HandlerSchemas := do
  let reply ← returnSchema documents t
  let parameters : Table HandlerSchema ←
    if t.parameters.isEmpty then pure []
    else do
      let schemas ← parameterSchemas documents t.parameters
      pure [("parameters", .schema (objectOf (Table.ofPairs schemas)))]
  let transient : Table HandlerSchema ←
    if t.transient.isEmpty then pure []
    else do
      let schemas ← expandDocument documents (.object t.transient)
      pure [("transient", .schema (.object [("type", .text "object"), ("properties", schemas)]))]
  return [("output", parameters ++ transient), ("reply", reply)]

def HandlerSchema.carried : HandlerSchema → FlowSchema
  | .reference uri => .reference uri
  | .schema schema => .ofSchema schema

def carriedSchemas (schemas : HandlerSchemas) : Table (Table FlowSchema) :=
  Table.mapValues (Table.mapValues HandlerSchema.carried)
    (schemas.filter fun (_, entries) => !entries.isEmpty)

def Handler.ofTransaction (settings : Settings) (t : Transaction)
    (schemas : Option HandlerSchemas) :
    Handler :=
  { name := t.name
    arguments :=
      match settings.argumentStyle with
      | .attributes => .attributes (argumentAttributes t)
      | .delimited => .delimited (delimitedArguments t)
    flowUri := t.flowUri
    schemas := schemas.map carriedSchemas }

def Trigger.ofContract (settings : Settings) (c : Contract)
    (schemas : Option (Table HandlerSchemas)) : Trigger :=
  { id := settings.triggerId
    cid := if c.cid = "" then none else some c.cid
    handlers := c.transactions.map fun t =>
      .ofTransaction settings t (schemas.bind (·.get? t.name)) }

open Json (optionalField)

def Attribute.toJson (a : Attribute) : Json :=
  .object [("name", .text a.name), ("type", .text a.type)]

def ArgumentList.field : ArgumentList → String × Json
  | .delimited text => ("parameters", .text text)
  | .attributes arguments => ("arguments", .array (arguments.map Attribute.toJson))

def Handler.settings (h : Handler) : Table Json := [("name", .text h.name), h.arguments.field]

def Handler.toJson (h : Handler) : Json :=
  .object
    ([("name", .text h.name), ("settings", .object h.settings),
      ("action", .object
        [("ref", .text "#flow"), ("settings", .object [("flowURI", .text h.flowUri)]),
         ("input", .object
           [("parameters", .text "=$.parameters"), ("transient", .text "=$.transient")]),
         ("output", .object
           [("message", .text "=$.message"), ("returns", .text "=$.returns"),
            ("status", .text "=$.status")])])] ++
      optionalField "schemas" (h.schemas.map fun schemas =>
        .object (schemas.mapValues fun entries => .object (entries.mapValues FlowSchema.toJson))))

def Trigger.toJson (t : Trigger) : Json :=
  .object [("id", .text t.id), ("ref", .text "#transaction"),
    ("settings", .object (optionalField "cid" (t.cid.map .text))),
    ("handlers", .array (t.handlers.map Handler.toJson))]

def HandlerSchema.toJson : HandlerSchema → Json
  | .reference uri => .text uri
  | .schema schema => schema

def HandlerSchemas.toJson (schemas : HandlerSchemas) : Json :=
  .object (schemas.mapValues fun entries => .object (entries.mapValues HandlerSchema.toJson))

end LedgerFlow
