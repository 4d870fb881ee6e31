import LedgerFlow.Json.Order
import LedgerFlow.Sorting
/-!
The types that schemas know by name, and what schemas ask of lists: a whole number is an integer
however it is written, and items differ when their values do.
-/
namespace LedgerFlow.Schema

def isNumber : Json → Bool
  | .int _ => true
  | .float _ => true
  | _ => false

/-- Whether a value has the type of this name; a name that schemas do not know has no values. -/
def hasType (name : String) (v : Json) : Bool :=
  match name, v with
  | "array", .array _ => true
  | "boolean", .bool _ => true
  | "integer", .int _ => true
  | "integer", .float x => x.isWhole
  | "null", .null => true
  | "number", v => isNumber v
  | "object", .object _ => true
  | "string", .text _ => true
  | _, _ => false

def typeNames : List String :=
  ["array", "boolean", "integer", "null", "number", "object", "string"]

def noneSame : List Json → Bool
  | [] => true
  | v :: rest => rest.all (fun w => !v.same w) && noneSame rest

def noNeighboursSame : List Json → Bool
  | v :: w :: rest => !v.same w && noNeighboursSame (w :: rest)
  | _ => true

def isBool : Json → Bool
  | .bool _ => true
  | _ => false

def inOrder? (items : List Json) : Option (List Json) :=
  if items.any isBool then none else Sorting.sort? Json.before? items

/-- Whether the items of a list count as distinct. Items that have an order are put in it, and then
only neighbours are compared; arrays that differ in nothing but booleans and numbers may keep equal
ones apart. -/
def allDistinct (items : List Json) : Bool :=
  match inOrder? items with
  | some sorted => noNeighboursSame sorted
  | none => noneSame items

end LedgerFlow.Schema
