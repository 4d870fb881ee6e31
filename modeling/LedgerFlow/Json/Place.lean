import LedgerFlow.Json.Basic
/-!
Places inside a value, as the numbers of the items and fields on the way from the outside. Putting a
value at a place keeps everything else and all names.
-/
namespace LedgerFlow.Json

abbrev Place := List Nat

def children : Json → List Json
  | .array items => items
  | .object fields => fields.map (·.2)
  | _ => []

def setChild (v : Json) (i : Nat) (child : Json) : Json :=
  match v with
  | .array items => .array (items.set i child)
  | .object fields => .object (fields.modify i fun (name, _) => (name, child))
  | v => v

def at? (v : Json) : Place → Option Json
  | [] => some v
  | i :: place =>
    match v.children[i]? with
    | some child => child.at? place
    | none => none

def putAt (v : Json) (new : Json) : Place → Json
  | [] => new
  | i :: place =>
    match v.children[i]? with
    | some child => v.setChild i (child.putAt new place)
    | none => v

@[simp] theorem at?_nil (v : Json) : v.at? [] = some v := rfl

@[simp] theorem putAt_nil (v new : Json) : v.putAt new [] = new := rfl

end LedgerFlow.Json
