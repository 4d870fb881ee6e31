import LedgerFlow.Json.Reading
import LedgerFlow.Pattern.Parser
import LedgerFlow.Schema.Type
import LedgerFlow.Schema.Violation
/-!
Well-formed Draft 7 schemas. Each keyword has a shape that its value must have, and the schemas
inside a schema must be well formed too. Whether texts that stand for patterns are patterns is
looked at only on demand. A text that is malformed as a pattern is complained of; one that is
refused for another reason makes the validation fail.
-/
namespace LedgerFlow.Schema
open Number
open Json (Reading)

inductive Shape where
  | anything
  | text
  | pattern
  | flag
  | number
  | positive
  | count
  | schema
  | schemaOrList
  | schemaList
  | schemaTable
  | patternTable
  | dependencyTable
  | nameList
  | list
  | types
  deriving DecidableEq, Repr

def keywordShapes : List (String × Shape) :=
  [("$id", .text), ("$schema", .text), ("$ref", .text), ("$comment", .text), ("title", .text),
   ("description", .text), ("default", .anything), ("readOnly", .flag), ("examples", .list),
   ("multipleOf", .positive), ("maximum", .number), ("exclusiveMaximum", .number),
   ("minimum", .number), ("exclusiveMinimum", .number), ("maxLength", .count),
   ("minLength", .count), ("pattern", .pattern), ("additionalItems", .schema),
   ("items", .schemaOrList), ("maxItems", .count), ("minItems", .count), ("uniqueItems", .flag),
   ("contains", .schema), ("maxProperties", .count), ("minProperties", .count),
   ("required", .nameList), ("additionalProperties", .schema), ("definitions", .schemaTable),
   ("properties", .schemaTable), ("patternProperties", .patternTable),
   ("dependencies", .dependencyTable), ("propertyNames", .schema), ("const", .anything),
   ("enum", .list), ("type", .types), ("format", .text), ("contentMediaType", .text),
   ("contentEncoding", .text), ("if", .schema), ("then", .schema), ("else", .schema),
   ("allOf", .schemaList), ("anyOf", .schemaList), ("oneOf", .schemaList), ("not", .schema)]

def requireType (name : String) (v : Json) : List Violation :=
  require (hasType name v) (.notOfType v [.text name])

def strayPattern (s : String) : Cause :=
  match Pattern.refusal? s with
  | none | some .malformed => .notPattern s
  | some refusal => .failed (.pattern refusal)

def requirePattern (v : Json) : List Violation :=
  match v with
  | .text s => require (Pattern.isPattern s) (strayPattern s)
  | _ => []

def requirePositive (v : Json) : List Violation :=
  match v.numeral? with
  | some n => require (!n.le (.whole 0)) (.notAboveMinimum v (.int 0))
  | none => []

def requireNonNegative (v : Json) : List Violation :=
  match v.numeral? with
  | some n => require (!n.lt (.whole 0)) (.belowMinimum v (.int 0))
  | none => []

def requireSome (v : Json) : List Violation :=
  match v with
  | .array items => require (!items.isEmpty) (.tooShort v (.int 1))
  | _ => []

def requireDistinct (v : Json) : List Violation :=
  match v with
  | .array items => require (allDistinct items) (.repeatedItems v)
  | _ => []

def eachItem (check : Json → List Violation) (v : Json) : List Violation :=
  match v with
  | .array items => items.zipIdx.flatMap fun (item, i) => (check item).map (·.under (.item i))
  | _ => []

def requireNames (v : Json) : List Violation :=
  requireType "array" v ++ eachItem (requireType "string") v ++ requireDistinct v

def requireTypeName (v : Json) : List Violation :=
  let options := typeNames.map Json.text
  require (options.any fun option => option.same v) (.notOneOf v (.array options))

def requireTypeNames (v : Json) : List Violation :=
  requireType "array" v ++ eachItem requireTypeName v ++ requireSome v ++ requireDistinct v

/-- One of two demands must hold; what is wrong with each is not told, but that the validation fails
is. -/
def requireEither (a b : List Violation) (v : Json) : List Violation :=
  require (a.isEmpty || b.isEmpty)
    (match (a ++ b).findSome? Violation.failure? with
      | some failure => .failed failure
      | none => .noAlternative v)

def itemComplaints (r : Reading (List Violation)) : List Violation :=
  r.items.zipIdx.flatMap fun ((_, complaints), i) => complaints.map (·.under (.item i))

def fieldComplaints (r : Reading (List Violation)) : List Violation :=
  r.fields.flatMap fun (name, _, complaints) => complaints.map (·.under (.field name))

def schemaListComplaints (r : Reading (List Violation)) : List Violation :=
  requireType "array" r.value ++ requireSome r.value ++ itemComplaints r

def Shape.complaints (patterns : Bool) (r : Reading (List Violation)) : Shape → List Violation
  | .anything => []
  | .text => requireType "string" r.value
  | .pattern => requireType "string" r.value ++ if patterns then requirePattern r.value else []
  | .flag => requireType "boolean" r.value
  | .number => requireType "number" r.value
  | .positive => requireType "number" r.value ++ requirePositive r.value
  | .count => requireType "integer" r.value ++ requireNonNegative r.value
  | .schema => r.meaning
  | .schemaOrList => requireEither r.meaning (schemaListComplaints r) r.value
  | .schemaList => schemaListComplaints r
  | .schemaTable => requireType "object" r.value ++ fieldComplaints r
  | .patternTable =>
    requireType "object" r.value ++ fieldComplaints r ++
      if patterns then r.fields.flatMap fun (name, _) => requirePattern (.text name) else []
  | .dependencyTable =>
    requireType "object" r.value ++
      r.fields.flatMap fun (name, v, complaints) =>
        (requireEither complaints (requireNames v) v).map (·.under (.field name))
  | .nameList => requireNames r.value
  | .list => requireType "array" r.value
  | .types => requireEither (requireTypeName r.value) (requireTypeNames r.value) r.value

def leafComplaints : Json → List Violation
  | .bool _ => []
  | v => [.here (.notOfType v [.text "object", .text "boolean"])]

def nodeComplaints (patterns : Bool) (node : Table (Reading (List Violation))) : List Violation :=
  keywordShapes.flatMap fun (keyword, shape) =>
    match Table.get? node keyword with
    | some r => (shape.complaints patterns r).map (·.under (.field keyword))
    | none => []

/-- Everything that is wrong with a schema, in the order of the keywords; with `patterns` also what
is no pattern and should be one. -/
def complaints (patterns : Bool) (schema : Json) : List Violation :=
  (Json.reading leafComplaints (nodeComplaints patterns) schema).meaning

def pathLe (a b : Violation) : Bool :=
  !List.lex (b.path.map Json.Step.label) (a.path.map Json.Step.label) fun s t =>
    (String.decidableLT s t).decide

end LedgerFlow.Schema
