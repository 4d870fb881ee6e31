import LedgerFlow.Json.Writer
import LedgerFlow.Log.Traced
import LedgerFlow.Schema.Dependency
import LedgerFlow.Schema.Expansion
import LedgerFlow.Text.Hash
/-!
The registry of schema documents. Expanding it replaces markers in place, pass by pass: a pass goes
through the documents in order and replaces each marker it finds by the document as it stands at
that moment. A pass that fails leaves behind what it has replaced so far. Schemas derived while
flows are written are kept apart, under the hash of their text.
-/
namespace LedgerFlow.Schema
open Json (Place)

structure Registry where
  documents : Table Json
  derived : Table Json := []
  maxPasses : Int := 10

def replaceMarker (documents : Table Json) (key : String) (place : Place) :
    Except Error (Table Json) :=
  match documents.get? key with
  | none => .ok documents
  | some document =>
    match (document.at? place).bind (·.get? refKey) with
    | none => .ok documents
    | some ref => do
      let (_, target) ← resolve documents ref
      return documents.insert key (document.putAt target place)

/-- The documents after the replacements that could be made, and whether all could. -/
def replaceMarkers (key : String) : List Place → Table Json → Table Json × Except Error Unit
  | [], documents => (documents, .ok ())
  | place :: rest, documents =>
    match replaceMarker documents key place with
    | .ok documents => replaceMarkers key rest documents
    | .error e => (documents, .error e)

def replacePass : List String → Table Json → Table Json × Except Error Nat
  | [], documents => (documents, .ok 0)
  | key :: rest, documents =>
    let places := ((documents.get? key).map markerPlaces).getD []
    match replaceMarkers key places documents with
    | (documents, .error e) => (documents, .error e)
    | (documents, .ok ()) =>
      match replacePass rest documents with
      | (documents, .error e) => (documents, .error e)
      | (documents, .ok n) => (documents, .ok (if places.isEmpty then n else n + 1))

def unexpanded (documents : Table Json) : List String :=
  Table.keys (documents.filter fun (_, document) => !(collectRefs document).isEmpty)

def passRecord (pass count : Nat) : Log.Record :=
  ⟨.debug, .registry, s!"pass {pass} replaced schema refs in {count} documents"⟩

/-- Up to `left` more passes, until one changes nothing. `total` counts the changed documents of the
passes before number `pass`. -/
def replacePasses (maxPasses : Int) : Nat → Nat → Nat → Table Json → Table Json × Traced Nat
  | 0, _, total, documents =>
    match unexpanded documents with
    | [] => (documents, pure total)
    | keys => (documents, .fail (.unexpandedRefs maxPasses keys))
  | left + 1, pass, total, documents =>
    match replacePass documents.keys documents with
    | (documents, .error e) => (documents, .fail e)
    | (documents, .ok count) =>
      if count = 0 then (documents, ⟨[passRecord pass count], .ok total⟩)
      else
        let (documents, rest) := replacePasses maxPasses left (pass + 1) (total + count) documents
        (documents, ⟨passRecord pass count :: rest.records, rest.result⟩)

namespace Registry

def register (r : Registry) (key : String) (document : Json) : Registry :=
  { r with documents := r.documents.insert key document }

def contains (r : Registry) (key : String) : Bool := r.documents.contains key

def resolve (r : Registry) (ref : Json) : Except Error Json :=
  (Schema.resolve r.documents ref).map (·.2)

def expand (r : Registry) (document : Json) : Except Error Json :=
  expandDocument r.documents document

/-- The registry with references replaced in all documents, and how often a pass changed a document.
Missing and cyclic references are refused before anything is replaced. -/
def expandAll (r : Registry) : Registry × Traced Nat :=
  match checkCycles r.documents with
  | .error e => (r, .fail e)
  | .ok () =>
    let (documents, outcome) := replacePasses r.maxPasses r.maxPasses.toNat 1 0 r.documents
    ({ r with documents }, outcome)

def derive (r : Registry) (schema : Json) (text : String) : Registry × String :=
  let key := Text.hashKey text
  ({ r with derived := r.derived.insert key schema }, key)

def definitions (r : Registry) : Table Json :=
  .ofPairs (r.documents.map (fun (key, document) => (refName key, document)) ++ r.derived)

end Registry

end LedgerFlow.Schema
