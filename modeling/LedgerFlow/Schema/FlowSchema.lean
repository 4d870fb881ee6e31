import LedgerFlow.Schema.Infer
import LedgerFlow.Schema.Registry
/-!
Schemas in the form in which flows carry them: the JSON text of a schema, or a reference to a
definition of the application. Where a flow describes an object only its properties are written, and
an array is exported as a definition under the hash of its text.
-/
namespace LedgerFlow.Schema

inductive FlowSchema where
  | reference (uri : String)
  | inline (text : String)
  deriving DecidableEq, Repr

def uriPrefix : String := "schema://"

def schemaUri (ref : String) : String := uriPrefix ++ refName ref

def FlowSchema.ofSchema (schema : Json) : FlowSchema := .inline schema.compactText

def FlowSchema.toJson : FlowSchema → Json
  | .reference uri => .text uri
  | .inline text => .object [("type", .text "json"), ("value", .text text)]

inductive HandlerSchema where
  | reference (uri : String)
  | schema (schema : Json)

structure Export where
  schema : Json
  text : String

def Export.key (e : Export) : String := Text.hashKey e.text

def Registry.exporting (r : Registry) (exports : List Export) : Registry :=
  exports.foldl (fun r e => (r.derive e.schema e.text).1) r

def startsWithUriPrefix (uri : String) : Bool := uriPrefix.toList.isPrefixOf uri.toList

def flowSchema : Option HandlerSchema → Option FlowSchema × List Export
  | none => (none, [])
  | some (.reference uri) => (if startsWithUriPrefix uri then some (.reference uri) else none, [])
  | some (.schema schema) =>
    match schema.get? "type" with
    | some (.text "array") =>
      let e : Export := ⟨schema, schema.compactText⟩
      (some (.reference (uriPrefix ++ e.key)), [e])
    | some (.text "object") =>
      let properties := (schema.get? "properties").getD .null
      (some (.ofSchema (if properties.isFilled then properties else .object [])), [])
    | _ => (some (.ofSchema schema), [])

def standardIdentity : List String := ["id", "mspid", "cn"]

def identityNames (further : List String) : List String :=
  further.foldl (fun names name => if names.contains name then names else names ++ [name])
    standardIdentity

def identitySchema (further : List String) : FlowSchema :=
  .ofSchema (.object ((identityNames further).map fun name => (name, ofType "string")))

end LedgerFlow.Schema
