import LedgerFlow.Spec.Model
import LedgerFlow.Step
/-!
The registry of a contract description: one object schema for each component, under the key that
references use.
-/
namespace LedgerFlow.Schema
variable [Library]

def componentSchema (c : Component) : Json :=
  .object ([("type", .text "object"), ("properties", .object c.properties)] ++
    if c.required.isEmpty then [] else [("required", .array (c.required.map .text))])

/-- A component may only require properties that it declares, and its schema must be well formed. -/
def checkComponent (name : String) (c : Component) : Except Error Json :=
  match c.required.filter fun key => !c.properties.contains key with
  | [] => do
    check (componentSchema c) (some name)
    return componentSchema c
  | undeclared => .error (.undeclaredProperties name undeclared)

def componentDocuments : List (String × Component) → Except Error (List (String × Json))
  | [] => .ok []
  | (name, c) :: rest => do
    let document ← checkComponent name c
    let rest ← componentDocuments rest
    return (refPrefix ++ name, document) :: rest

def Registry.ofComponents (components : Option Components) (maxPasses : Int) :
    Except Error Registry := do
  let documents ← componentDocuments ((components.map (·.schemas)).getD [])
  return { documents, maxPasses }

end LedgerFlow.Schema
