import LedgerFlow.Graph.Basic
import LedgerFlow.Schema.FlowSchema
import LedgerFlow.Schema.Library
/-!
The schemas of a task. An input is described by its declared schema, else by the schema of its
sample, else by that of its mapping where the mapping is an object or an array. A sample that does
not fit a declared schema is a warning, but one that cannot be validated ends the work. A task on
the ledger also describes its result and the settings that are not scalar.
-/
namespace LedgerFlow
open Schema

variable [Library]

def Action.label (a : Action) : String := (a.name.filter (· ≠ "")).getD a.activity

/-- A schema that an action declares must be an object or a boolean, and well formed. -/
def checkDeclared (schema : Json) (label : String) : Except Error Unit :=
  match schema with
  | .object _ => Schema.check schema (some label)
  | .bool _ => Schema.check schema (some label)
  | v => .error (.schemaNotObject label v.kindWord)

def checkSample (action : Action) (key : String) (schema sample : Json) : Traced Unit := do
  match ← (validate schema sample : Except Error (Option Violation)) with
  | none => return
  | some violation =>
    .record .warning .steps
      s!"sample input {key} of {action.label} does not match its schema: {violation.text}"

def declaredSchemas (documents : Table Json) (action : Action) (input : ActionInput) :
    List (String × Json) → Traced (Table FlowSchema)
  | [] => pure []
  | (key, declared) :: rest => do
    let schema ← (expandDocument documents declared : Except Error Json)
    (checkDeclared schema (action.label ++ "." ++ key) : Except Error Unit)
    match input.sample.get? key with
    | some sample => checkSample action key schema sample
    | none => pure ()
    let rest ← declaredSchemas documents action input rest
    return (key, .ofSchema schema) :: rest

def addInferred (schemas : Table FlowSchema) (values : Table Json) : Table FlowSchema :=
  schemas ++ (values.filter fun (key, _) => !schemas.contains key).map fun (key, v) =>
    (key, .ofSchema (infer v))

/-- The schemas of the inputs of an action: declared ones first, then those of samples, then those
of mappings. -/
def inputSchemas (documents : Table Json) (action : Action) : Traced (Table FlowSchema) := do
  match action.input with
  | none => return []
  | some input =>
    let declared ← declaredSchemas documents action input input.schema
    return addInferred (addInferred declared input.sample)
      (input.mapping.filter fun (_, v) => v.isContainer)

def compositeKeySchema : Json :=
  arrayOf (objectOf
    [("name", ofType "string"), ("attributes", arrayOf (ofType "string")),
     ("keys", arrayOf (objectOf
       [("name", ofType "string"), ("fields", arrayOf (ofType "string")),
         ("key", ofType "string")]))])

def recordSchema (value : Json) : Json :=
  arrayOf (objectOf [("key", ofType "string"), ("value", value)])

/-- The schema of a list of records whose value is the list of the changes made to it. -/
def historySchema (value : Json) : Json :=
  recordSchema (arrayOf (objectOf
    [("txID", ofType "string"), ("txTime", ofType "string"), ("isDeleted", ofType "boolean"),
     ("value", value)]))

/-- Whether a setting is true, and not merely filled. -/
def isOn (config : Table Json) (name : String) : Bool :=
  match config.get? name with
  | some (.bool b) => b
  | _ => false

def ledgerSchema (documents : Table Json) (action : Action) (activity : Activity) :
    Except Error (Option Json) :=
  if !activity.ledger then .ok none
  else if isOn action.config "keysOnly" then .ok (some compositeKeySchema)
  else if isOn action.config "privateHash" then .ok (some (recordSchema (ofType "string")))
  else
    match action.ledger with
    | none => .ok none
    | some [] => .ok none
    | some ledger => do
      let value ← expandDocument documents (.object ledger)
      checkDeclared value (action.label ++ ".ledger")
      return some (if isOn action.config "history" then historySchema value else recordSchema value)

def settingTexts (action : Action) (activity : Activity) : Table String :=
  if activity.ledger then
    Table.mapValues (Json.toText .spaced) (action.config.filter fun (_, v) => v.isContainer)
  else []

structure StepSchemas where
  input : Table FlowSchema := []
  result : Option FlowSchema := none
  settings : Table String := []

def StepSchemas.toJson (s : StepSchemas) : Json :=
  .object
    ((if s.input.isEmpty then [] else [("input", .object (s.input.mapValues FlowSchema.toJson))]) ++
      (match s.result with
        | some schema => [("output", .object [("result", schema.toJson)])]
        | none => []) ++
      (if s.settings.isEmpty then []
        else
          [("settings", .object (s.settings.mapValues fun text =>
            .object [("type", .text "json"), ("fe_metadata", .text text)]))]))

def stepSchemas (documents : Table Json) (action : Action) (activity : Activity) :
    Traced StepSchemas := do
  let input ← inputSchemas documents action
  let ledger ← (ledgerSchema documents action activity : Except Error (Option Json))
  return { input, result := ledger.map .ofSchema, settings := settingTexts action activity }

end LedgerFlow
