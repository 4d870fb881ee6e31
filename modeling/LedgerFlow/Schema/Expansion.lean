import LedgerFlow.Schema.Reference
/-!
Documents with their references followed. A marker gives way to the document it names, itself
expanded; a reference that comes up again on the way to itself closes a cycle and fails. The way can
hold each key only once, so there is never more to follow than there are documents.
-/
namespace LedgerFlow.Schema

mutual

def expandWith (follow : Json → Except Error Json) : Json → Except Error Json
  | .array items => (expandItems follow items).map .array
  | .object fields =>
    match Table.get? fields refKey with
    | some ref => follow ref
    | none => (expandFields follow fields).map .object
  | v => .ok v

def expandItems (follow : Json → Except Error Json) : List Json → Except Error (List Json)
  | [] => .ok []
  | v :: rest => do
    let v ← expandWith follow v
    let rest ← expandItems follow rest
    return v :: rest

def expandFields (follow : Json → Except Error Json) :
    List (String × Json) → Except Error (List (String × Json))
  | [] => .ok []
  | (name, v) :: rest => do
    let v ← expandWith follow v
    let rest ← expandFields follow rest
    return (name, v) :: rest

end

/-- The expansion of the document that a reference names, reached by way of `path`. `left` bounds
how much longer the way can get. -/
def follow (documents : Table Json) : Nat → List String → Json → Except Error Json
  | 0, path, ref => do
    let (key, _) ← resolve documents ref
    .error (cycleError path key)
  | left + 1, path, ref => do
    let (key, document) ← resolve documents ref
    if path.contains key then .error (cycleError path key)
    else expandWith (follow documents left (path ++ [key])) document

def expandDocument (documents : Table Json) (document : Json) : Except Error Json :=
  expandWith (follow documents documents.length []) document

end LedgerFlow.Schema
