import LedgerFlow.Graph.Basic
import LedgerFlow.Number.Integer
/-!
Linking the rules of a transaction into a graph. Nodes with a name of their own are entered first;
the others get the prefix of their activity and the next free number. A rule with a prerequisite
hangs below it, by way of a single branch node where the prerequisite cannot carry several links
itself; a rule that branches from nothing hangs below the start node, which is then the root. A
builder builds once, and keeps its state when it fails.
-/
namespace LedgerFlow
open Number Text

structure Builder where
  transaction : Transaction
  activities : Activities
  nodes : Table Node := []
  /-- The last number used with each prefix. -/
  sequence : Table Nat := []
  root : Option String := none
  start : Option String := none
  built : Bool := false

abbrev Build (α : Type) := ExceptT Error (StateM Builder) α

namespace Builder

def lastNumber (b : Builder) (stem : String) : Nat := (b.sequence.get? stem).getD 0

def numberedName (stem : String) (n : Nat) : String :=
  stem ++ "_" ++ String.ofList (decimalDigits n)

def explicitDigits? (stem name : String) : Option (List Nat) :=
  let lead := stem.toList ++ ['_']
  let cs := name.toList
  if lead.isPrefixOf cs then
    let digits := cs.drop lead.length
    if digits.isEmpty then none else digits.mapM digitValue?
  else none

/-- The first number after `n` whose name is free, within `fuel` more steps. -/
def freeNumber (nodes : Table Node) (stem : String) : Nat → Nat → Nat
  | 0, n => n + 1
  | fuel + 1, n =>
    if nodes.contains (numberedName stem (n + 1)) then freeNumber nodes stem fuel (n + 1) else n + 1

/-- Numbers below this one can be written. -/
def writableLimit : Nat := Nat.pow 10 digitLimit

def setNode (name : String) (node : Node) : Build Unit :=
  modify fun b => { b with nodes := b.nodes.insert name node }

def updateNode (name : String) (f : Node → Node) : Build Unit :=
  modify fun b => { b with nodes := b.nodes.update name f }

def setNumber (stem : String) (n : Nat) : Build Unit :=
  modify fun b => { b with sequence := b.sequence.insert stem n }

def findActivity (ref : String) : Build Activity := do
  match (← get).activities.find ref with
  | .ok activity => return activity
  | .error e => throw e

def nextName (activity : Activity) : Build String := do
  let b ← get
  let stem := activity.sequencePrefix
  let last := b.lastNumber stem
  let n := freeNumber b.nodes stem b.nodes.length last
  if n < writableLimit then
    setNumber stem n
    return numberedName stem n
  else
    setNumber stem (max (last + 1) writableLimit)
    throw .integerUnwritable

/-- Enters the node of an action with a name of its own. A name that looks like a generated one
keeps the numbering behind it. -/
def register (action : Action) : Build Unit := do
  let activity ← findActivity action.activity
  match action.name with
  | none => return ()
  | some name =>
    let b ← get
    if b.nodes.contains name then throw (.duplicateName name b.transaction.name)
    setNode name { activity, action := some action }
    let stem := activity.sequencePrefix
    match explicitDigits? stem name with
    | none => return ()
    | some digits =>
      if digits.length ≤ digitLimit then
        if b.lastNumber stem < ofDigits digits then setNumber stem (ofDigits digits)
      else throw (.integerTooLong digits.length)

def newNoop : Build String := do
  let activity ← (do
    match (← get).activities.noop with
    | .ok activity => return activity
    | .error e => throw e : Build Activity)
  let name ← nextName activity
  setNode name { activity, linked := true }
  return name

def startNode : Build String := do
  let b ← get
  match b.start with
  | some name => return name
  | none =>
    match b.root with
    | some root => throw (.lateStart b.transaction.name root)
    | none =>
      let name ← newNoop
      modify fun b => { b with start := some name, root := some name }
      return name

def resolveBranch (prerequisite : String) : Build String := do
  if prerequisite = "" then startNode
  else
    let b ← get
    match b.nodes.get? prerequisite with
    | none => throw (.undefinedPrerequisite prerequisite b.transaction.name)
    | some node =>
      if !node.linked then throw (.undefinedPrerequisite prerequisite b.transaction.name)
      else if node.activity.fansOut then return prerequisite
      else
        match node.branchPoint with
        | some name => return name
        | none =>
          let name ← newNoop
          updateNode prerequisite fun node =>
            { node with links := node.links ++ [.to name none], branchPoint := some name }
          return name

def nodeOf (action : Action) : Build String := do
  match action.name with
  | some name => return name
  | none =>
    let activity ← findActivity action.activity
    let name ← nextName activity
    setNode name { activity, action := some action }
    return name

def linkAction (previous : Option String) (expr : Option String)
    (action : Action) : Build String := do
  let name ← nodeOf action
  match previous with
  | none =>
    let b ← get
    match b.root with
    | some root => throw (.secondEntry b.transaction.name root name)
    | none => modify fun b => { b with root := some name }
  | some source =>
    updateNode source fun node => { node with links := node.links ++ [.to name expr] }
  updateNode name fun node => { node with linked := true }
  return name

/-- Links actions one below the other. Only the first link carries the condition. -/
def linkActions (previous : Option String) (expr : Option String) : List Action → Build Unit
  | [] => return ()
  | action :: rest => do
    let name ← linkAction previous expr action
    linkActions (some name) none rest

def guardText (rule : Rule) (condition : Condition) : String :=
  if condition.expr ≠ "" then condition.expr
  else if condition.description ≠ "" then placeholder condition.description
  else placeholder (rule.description.getD "")

def linkRule (rule : Rule) : Build Unit := do
  match rule.condition with
  | none => linkActions none none rule.actions
  | some condition =>
    let source ← resolveBranch condition.prerequisite
    linkActions (some source) (some (guardText rule condition)) rule.actions

def build : Build Graph := do
  if (← get).built then throw .graphAlreadyBuilt
  modify fun b => { b with built := true }
  let transaction := (← get).transaction
  for rule in transaction.rules do
    for action in rule.actions do
      register action
  for rule in transaction.rules do
    linkRule rule
  let b ← get
  return { transaction := transaction.name, root := b.root, nodes := b.nodes }

end Builder

def Graph.ofTransaction (activities : Activities)
    (transaction : Transaction) : Except Error Graph :=
  (Builder.build.run { transaction, activities }).1

end LedgerFlow
