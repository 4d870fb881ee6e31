import LedgerFlow.Spec.Decoded
import LedgerFlow.Spec.Model
/-!
Decoders of the parts of a contract description. Names of parameters are distinct within a
transaction, and so are the flows that the transactions of a contract become; fields that are not
known are passed over.
-/
namespace LedgerFlow
open Spec Spec.Decoder
open Text

def Info.decode : Decoder Info := record "Info" fun f =>
  Info.mk <$> defaulting f "title" text "" <*> defaulting f "version" text "" <*>
    defaulting f "description" (optional text) none

def Parameter.decode : Decoder Parameter := record "Parameter" fun f =>
  Parameter.mk <$> mandatory f "name" nonEmptyText <*> aliased f "schema" "json_schema" (table any)
    [] <*> defaulting f "description" (optional text) none <*> defaulting f "required" flag false

def Condition.decode : Decoder Condition := record "Condition" fun f =>
  Condition.mk <$> defaulting f "name" (optional text) none <*> defaulting f "description"
    text "" <*> defaulting f "prerequisite" text "" <*> defaulting f "expr" text ""

def ActionInput.decode : Decoder ActionInput := record "Input" fun f =>
  ActionInput.mk <$> aliased f "schema" "json_schema" (table any) [] <*>
    defaulting f "sample" (table any) [] <*> defaulting f "mapping" (table any) []

/-- A blank name is no name. -/
def actionName : Decoder (Option String)
  | .text s => .ok (if (trim s.toList).isEmpty then none else some s)
  | v => optional text v

def Action.decode : Decoder Action := record "Action" fun f =>
  Action.mk <$> mandatory f "activity" nonEmptyText <*>
    defaulting f "description" (optional text) none <*> defaulting f "name" actionName none <*>
    defaulting f "ledger" (optional (table any)) none <*> defaulting f "config" (table any) [] <*>
    defaulting f "input" (optional ActionInput.decode) none

def Rule.decode : Decoder Rule := record "Rule" fun f =>
  Rule.mk <$> defaulting f "description" (optional text) none <*>
    defaulting f "condition" (optional Condition.decode) none <*>
    defaulting f "actions" (list Action.decode) []

def Transaction.parameterFault? (t : Transaction) : Option Spec.Fault :=
  (firstRepeated? [] (t.parameters.map (·.name))).map fun name => .repeatedParameter t.name name

def Transaction.decode : Decoder Transaction := fun v =>
  (record "Transaction" (fun f =>
    Transaction.mk <$> mandatory f "name" nonEmptyText <*> defaulting f "tag" (list text) [] <*>
      defaulting f "parameters" (list Parameter.decode) [] <*>
      defaulting f "transient" (table any) [] <*> defaulting f "returns" (table any) [] <*>
      defaulting f "rules" (list Rule.decode) []) v).obeying Transaction.parameterFault?

/-- The first transaction that becomes the same flow as an earlier one; `seen` holds the names of
the earlier ones by flow. -/
def sharedFlow? (seen : Table String) : List Transaction → Option Spec.Fault
  | [] => none
  | t :: rest =>
    match seen.get? t.resourceId with
    | some other => some (.sharedFlow other t.name t.resourceId)
    | none => sharedFlow? (seen.insert t.resourceId t.name) rest

def Contract.decode : Decoder Contract := fun v =>
  (record "Contract" (fun f =>
    Contract.mk <$> defaulting f "name" text "" <*> defaulting f "cid" text "" <*>
      defaulting f "transactions" (list Transaction.decode) [] <*>
      defaulting f "info" (optional Info.decode) none) v).obeying
    fun c => sharedFlow? [] c.transactions

def Component.decode : Decoder Component := record "Schema" fun f =>
  Component.mk <$> aliased f "$id" "id" (optional text) none <*>
    defaulting f "properties" (table any) [] <*> defaulting f "required" (list text) []

def Components.decode : Decoder Components := record "Components" fun f =>
  Components.mk <$> defaulting f "schemas" (table Component.decode) []

def Spec.decode : Decoder Spec := record "Spec" fun f =>
  Spec.mk <$> mandatory f "info" Info.decode <*> defaulting f "imports" (list text) [] <*>
    defaulting f "contracts" (table Contract.decode) [] <*>
    defaulting f "components" (optional Components.decode) none

end LedgerFlow
