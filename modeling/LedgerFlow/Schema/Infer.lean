import LedgerFlow.Json.Basic
/-!
A schema from a sample. Lists are taken to be alike throughout, so the first item speaks for all; a
mapping writes a loop over items as one field named `@foreach(…)`, which stands for a list.
-/
namespace LedgerFlow.Schema

def loopMark : List Char := "@foreach(".toList

def isLoop (name : String) : Bool := loopMark.isPrefixOf name.toList

def ofType (name : String) : Json := .object [("type", .text name)]

def arrayOf (items : Json) : Json := .object [("type", .text "array"), ("items", items)]

def objectOf (properties : List (String × Json)) : Json :=
  .object [("type", .text "object"), ("properties", .object properties)]

mutual

def infer : Json → Json
  | .array [] => ofType "array"
  | .array (v :: _) => arrayOf (infer v)
  | .object [(name, v)] =>
    if isLoop name then arrayOf (infer v) else objectOf [(name, infer v)]
  | .object fields => objectOf (inferFields fields)
  | .bool _ => ofType "boolean"
  | .int _ => ofType "number"
  | .float _ => ofType "number"
  | .null => ofType "string"
  | .text _ => ofType "string"

def inferFields : List (String × Json) → List (String × Json)
  | [] => []
  | (name, v) :: rest => (name, infer v) :: inferFields rest

end

theorem inferFields_eq_map (fields : List (String × Json)) :
    inferFields fields = fields.map fun (name, v) => (name, infer v) := by
  induction fields with
  | nil => rfl
  | cons field rest ih => simp [inferFields, ih]

end LedgerFlow.Schema
