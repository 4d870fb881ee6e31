import LedgerFlow.Json.Basic
import LedgerFlow.Text.Blank
import LedgerFlow.Text.Split
import LedgerFlow.Text.SnakeCase
/-!
The description of smart contracts. A contract is made of transactions; a transaction has
parameters, transient values, a returned value and rules in order; a rule is a condition, if it has
one, and the actions to take in its branch. Reusable object schemas stand beside the contracts.
-/
namespace LedgerFlow
open Text

structure Info where
  title : String := ""
  version : String := ""
  description : Option String := none

structure Parameter where
  name : String
  schema : Table Json := []
  description : Option String := none
  required : Bool := false

def Parameter.type? (p : Parameter) : Option String :=
  match p.schema.get? "type" with
  | some (.text s) => if s = "" then none else some s
  | _ => none

structure Condition where
  name : Option String := none
  description : String := ""
  prerequisite : String := ""
  expr : String := ""

structure ActionInput where
  schema : Table Json := []
  sample : Table Json := []
  mapping : Table Json := []

structure Action where
  activity : String
  description : Option String := none
  name : Option String := none
  ledger : Option (Table Json) := none
  config : Table Json := []
  input : Option ActionInput := none

structure Rule where
  description : Option String := none
  condition : Option Condition := none
  actions : List Action := []

structure Transaction where
  name : String
  tag : List String := []
  parameters : List Parameter := []
  transient : Table Json := []
  returns : Table Json := []
  rules : List Rule := []

def Transaction.resourceId (t : Transaction) : String := "flow:" ++ snakeCase t.name

def Transaction.flowUri (t : Transaction) : String := "res://" ++ t.resourceId

def Transaction.hasParameter (t : Transaction) (name : String) : Bool :=
  t.parameters.any (·.name == name)

structure Contract where
  name : String := ""
  cid : String := ""
  transactions : List Transaction := []
  info : Option Info := none

def Contract.cidAttributes (c : Contract) : List String :=
  ((splitAll ',' c.cid.toList).map trim).filterMap fun entry =>
    if entry.isEmpty then none else some (String.ofList entry)

structure Component where
  id : Option String := none
  properties : Table Json := []
  required : List String := []

structure Components where
  schemas : Table Component := []

structure Spec where
  info : Info
  imports : List String := []
  contracts : Table Contract := []
  components : Option Components := none

def firstRepeated? (seen : List String) : List String → Option String
  | [] => none
  | name :: rest => if seen.contains name then some name else firstRepeated? (name :: seen) rest

end LedgerFlow
