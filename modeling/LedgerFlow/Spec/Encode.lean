import LedgerFlow.Spec.Model
/-!
Descriptions as JSON values, with every field present.
-/
namespace LedgerFlow

namespace Json

def ofOption {α : Type} (encode : α → Json) : Option α → Json
  | some a => encode a
  | none => .null

def ofTexts (names : List String) : Json := .array (names.map .text)

end Json

def Info.toJson (i : Info) : Json :=
  .object [("title", .text i.title), ("version", .text i.version),
    ("description", .ofOption .text i.description)]

def Parameter.toJson (p : Parameter) : Json :=
  .object [("name", .text p.name), ("schema", .object p.schema),
    ("description", .ofOption .text p.description), ("required", .bool p.required)]

def Condition.toJson (c : Condition) : Json :=
  .object [("name", .ofOption .text c.name), ("description", .text c.description),
    ("prerequisite", .text c.prerequisite), ("expr", .text c.expr)]

def ActionInput.toJson (i : ActionInput) : Json :=
  .object [("schema", .object i.schema), ("sample", .object i.sample),
    ("mapping", .object i.mapping)]

def Action.toJson (a : Action) : Json :=
  .object [("activity", .text a.activity), ("description", .ofOption .text a.description),
    ("name", .ofOption .text a.name), ("ledger", .ofOption .object a.ledger),
    ("config", .object a.config), ("input", .ofOption ActionInput.toJson a.input)]

def Rule.toJson (r : Rule) : Json :=
  .object [("description", .ofOption .text r.description),
    ("condition", .ofOption Condition.toJson r.condition),
    ("actions", .array (r.actions.map Action.toJson))]

def Transaction.toJson (t : Transaction) : Json :=
  .object [("name", .text t.name), ("tag", .ofTexts t.tag),
    ("parameters", .array (t.parameters.map Parameter.toJson)), ("transient", .object t.transient),
    ("returns", .object t.returns), ("rules", .array (t.rules.map Rule.toJson))]

def Contract.toJson (c : Contract) : Json :=
  .object [("name", .text c.name), ("cid", .text c.cid),
    ("transactions", .array (c.transactions.map Transaction.toJson)),
    ("info", .ofOption Info.toJson c.info)]

def Component.toJson (c : Component) : Json :=
  .object [("$id", .ofOption .text c.id), ("properties", .object c.properties),
    ("required", .ofTexts c.required)]

def Components.toJson (c : Components) : Json :=
  .object [("schemas", .object (c.schemas.mapValues Component.toJson))]

def Spec.toJson (s : Spec) : Json :=
  .object [("info", s.info.toJson), ("imports", .ofTexts s.imports),
    ("contracts", .object (s.contracts.mapValues Contract.toJson)),
    ("components", .ofOption Components.toJson s.components)]

end LedgerFlow
