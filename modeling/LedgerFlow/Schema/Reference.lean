import LedgerFlow.Error
import LedgerFlow.Json.Place
import LedgerFlow.Text.Split
/-!
References between schema documents. An object with a `$ref` field is a marker: it stands for the
document whose key the field holds, and its other fields do not count.
-/
namespace LedgerFlow.Schema
open Text
open Json (Place)

def refKey : String := "$ref"

def refPrefix : String := "#/components/schemas/"

def refName (ref : String) : String := String.ofList (afterLast '/' ref.toList)

def isMarker (v : Json) : Bool := (v.get? refKey).isSome

mutual

/-- The references by text anywhere in a value, apart from those inside of references. -/
def collectRefs : Json → List String
  | .array items => collectItemRefs items
  | .object fields =>
    (match Table.get? fields refKey with
      | some (.text ref) => [ref]
      | _ => []) ++ collectFieldRefs fields
  | _ => []

def collectItemRefs : List Json → List String
  | [] => []
  | v :: rest => collectRefs v ++ collectItemRefs rest

def collectFieldRefs : List (String × Json) → List String
  | [] => []
  | (name, v) :: rest => (if name = refKey then [] else collectRefs v) ++ collectFieldRefs rest

end

mutual

/-- The places of the markers below the top of a value; nothing inside of a marker counts. -/
def markerPlaces : Json → List Place
  | .array items => itemMarkerPlaces 0 items
  | .object fields => fieldMarkerPlaces 0 fields
  | _ => []

def itemMarkerPlaces (i : Nat) : List Json → List Place
  | [] => []
  | v :: rest =>
    (if isMarker v then [[i]] else (markerPlaces v).map (i :: ·)) ++ itemMarkerPlaces (i + 1) rest

def fieldMarkerPlaces (i : Nat) : List (String × Json) → List Place
  | [] => []
  | (_, v) :: rest =>
    (if isMarker v then [[i]] else (markerPlaces v).map (i :: ·)) ++ fieldMarkerPlaces (i + 1) rest

end

def resolve (documents : Table Json) (ref : Json) : Except Error (String × Json) :=
  match ref with
  | .text key =>
    match documents.get? key with
    | some document => .ok (key, document)
    | none => .error (.unresolvedRef key)
  | ref => .error (.refNotText ref)

/-- The cycle that closes when `key` comes up again on a path of keys. -/
def cycleError (path : List String) (key : String) : Error :=
  .refCycle ((path.dropWhile (· ≠ key) ++ [key]).map refName)

theorem resolve_text_of_get? {documents : Table Json} {key : String} {document : Json}
    (h : documents.get? key = some document) :
    resolve documents (.text key) = .ok (key, document) := by
  simp [resolve, h]

end LedgerFlow.Schema
