import LedgerFlow.Activity
import LedgerFlow.Spec.Model
import LedgerFlow.Json.Writer
/-!
Task graphs. Nodes go by name, and a link names the node it leads to; a node without an action is
one that the linking of rules put in.
-/
namespace LedgerFlow

structure Link where
  target : String
  /-- The condition of the link; an empty one is none. -/
  expr : Option String := none
  deriving DecidableEq, Repr

def Link.to (target : String) (expr : Option String) : Link :=
  { target, expr := expr.filter (· ≠ "") }

structure Node where
  activity : Activity
  action : Option Action := none
  links : List Link := []
  /-- The node below this one that branching rules start from. -/
  branchPoint : Option String := none
  /-- Whether the node has a place in the graph yet. -/
  linked : Bool := false

def Node.synthetic (n : Node) : Bool := n.action.isNone

structure Graph where
  transaction : String
  root : Option String
  nodes : Table Node

def Graph.linksOf (g : Graph) (name : String) : List Link :=
  ((g.nodes.get? name).map (·.links)).getD []

def Graph.branchNodes (g : Graph) : List String :=
  Table.keys (g.nodes.filter fun (_, node) => node.synthetic)

/-- A condition in place of one that is still to be written: it compares a fixed text with the
description of that one. -/
def placeholder (description : String) : String :=
  "\"changeme\" == " ++ String.ofList (Json.writeText false description)

end LedgerFlow
