import LedgerFlow.Json.Reading
import LedgerFlow.Json.Sorted
import LedgerFlow.Pattern.Search
import LedgerFlow.Schema.Type
import LedgerFlow.Schema.Violation
/-!
What a Draft 7 schema says about an instance. The meaning of a schema is a function from instances
to the list of what is found, built from the meanings of the schemas inside it; a keyword that asks
about another kind of value than the instance says nothing, and neither does one with a value that
is malformed.
-/
namespace LedgerFlow.Schema
open Number
open Json (Reading Step)

abbrev Check := Json → List Violation

/-- Whether nothing is found wrong; the first complaint settles it. -/
def Check.accepts (check : Check) (v : Json) : Except Failure Bool :=
  (first? (check v)).map (·.isNone)

def sizeNumeral (n : Nat) : Numeral := .whole n

def withinLimit (holds : Numeral → Numeral → Bool) (n : Numeral) (limit : Json) : Bool :=
  match limit.numeral? with
  | some m => holds n m
  | none => true

def atLeast (n m : Numeral) : Bool := !n.lt m

def atMost (n m : Numeral) : Bool := !m.lt n

def above (n m : Numeral) : Bool := !n.le m

def below (n m : Numeral) : Bool := !m.le n

def limitNumber (holds : Numeral → Numeral → Bool) (cause : Json → Json → Cause)
    (limit : Json) : Check :=
  fun v =>
    match v.numeral? with
    | some n => require (withinLimit holds n limit) (cause v limit)
    | none => []

def limitText (holds : Numeral → Numeral → Bool) (cause : Json → Json → Cause)
    (limit : Json) : Check :=
  fun v =>
    match v with
    | .text s => require (withinLimit holds (sizeNumeral s.length) limit) (cause v limit)
    | _ => []

def limitItems (holds : Numeral → Numeral → Bool) (cause : Json → Json → Cause)
    (limit : Json) : Check :=
  fun v =>
    match v with
    | .array items => require (withinLimit holds (sizeNumeral items.length) limit) (cause v limit)
    | _ => []

def limitFields (holds : Numeral → Numeral → Bool) (cause : Json → Json → Cause)
    (limit : Json) : Check :=
  fun v =>
    match v with
    | .object fields => require (withinLimit holds (sizeNumeral fields.length) limit)
        (cause v limit)
    | _ => []

def namedTypes : Json → List Json
  | .array names => names
  | name => [name]

def hasSomeType (v : Json) : List Json → Except Failure Bool
  | [] => .ok false
  | .text name :: rest =>
    if name ∈ typeNames then if hasType name v then .ok true else hasSomeType v rest
    else .error (.unknownType (.text name))
  | name :: _ => .error (.unknownType name)

def checkType (types : Json) : Check := fun v =>
  decided (hasSomeType v (namedTypes types)) fun holds =>
    require holds (.notOfType v (namedTypes types))

def checkOptions (options : Json) : Check := fun v =>
  match options with
  | .array choices => require (choices.any fun choice => choice.same v) (.notOneOf v options)
  | _ => []

def checkConst (expected : Json) : Check := fun v => require (v.same expected) (.notEqual expected)

def checkMultiple (step : Json) : Check := fun v =>
  match v.numeral?, step.numeral? with
  | some n, some m =>
    decided ((n.isMultipleOf m).mapError .division) fun holds => require holds (.notMultiple v step)
  | _, _ => []

def search (pattern text : String) : Except Failure Bool :=
  (Pattern.search pattern text).mapError .pattern

def checkPattern (pattern : Json) : Check := fun v =>
  match v, pattern with
  | .text s, .text p => decided (search p s) fun found => require found (.noMatch v pattern)
  | _, _ => []

def checkDistinct (wanted : Json) : Check := fun v =>
  match v with
  | .array items => require (!wanted.isFilled || allDistinct items) (.repeatedItems v)
  | _ => []

def checkRequired (names : Json) : Check := fun v =>
  match v, names with
  | .object fields, .array names =>
    names.flatMap fun name =>
      require ((name.text?).any (Table.contains fields)) (.missingField name)
  | _, _ => []

/--
The complaints about a part, seen from the whole. A schema `false` says that there must be no such
part, which is a complaint about the whole.
-/
def checkPart (schema : Json) (check : Check) (step : Step) (part : Json) : List Violation :=
  match schema with
  | .bool false => check part
  | _ => (check part).map (·.under step)

def checkEach (schema : Reading Check) (start : Nat) (items : List Json) : List Violation :=
  (items.zipIdx start).flatMap fun (item, i) => checkPart schema.value schema.meaning (.item i) item

def checkItems (schema : Reading Check) : Check := fun v =>
  match v, schema.value with
  | .array items, .array _ =>
    ((items.zip schema.items).zipIdx).flatMap fun ((item, s, check), i) =>
      checkPart s check (.item i) item
  | .array items, _ => checkEach schema 0 items
  | _, _ => []

def checkFurtherItems (itemSchemas : Option Json) (schema : Reading Check) : Check := fun v =>
  match v, itemSchemas with
  | .array items, some (.array schemas) =>
    let further := items.drop schemas.length
    if schema.value.isObject then checkEach schema schemas.length further
    else require (schema.value.isFilled || further.isEmpty) (.extraItems further)
  | .array _, some (.bool _) => [.here (.failed .uncountable)]
  | _, _ => []

def acceptsSome (check : Check) : List Json → Except Failure Bool
  | [] => .ok false
  | v :: rest => do if ← check.accepts v then return true else acceptsSome check rest

def checkContains (schema : Reading Check) : Check := fun v =>
  match v with
  | .array items => decided (acceptsSome schema.meaning items) fun holds =>
      require holds (.noItemValid v)
  | _ => []

def checkFields (schemas : Reading Check) : Check := fun v =>
  match v with
  | .object fields =>
    schemas.fields.flatMap fun (name, s, check) =>
      match Table.get? fields name with
      | some w => checkPart s check (.field name) w
      | none => []
  | _ => []

def checkPatternFields (schemas : Reading Check) : Check := fun v =>
  match v with
  | .object fields =>
    schemas.fields.flatMap fun (pattern, s, check) =>
      fields.flatMap fun (name, w) =>
        decided (search pattern name) fun found =>
          if found then checkPart s check (.field name) w else []
  | _ => []

/-- The fields of an instance that neither a name nor a pattern of the schema speaks of. The
patterns are joined to one with alternatives, which may be no pattern though each of them is one. -/
def furtherFields (node : Table (Reading Check)) (fields : Table Json) :
    Except Failure (Table Json) :=
  let named := ((Table.get? node "properties").map (·.value.fieldsOf)).getD []
  let patterns := ((Table.get? node "patternProperties").map (Table.keys ·.value.fieldsOf)).getD []
  let joined := Text.join "|" patterns
  fields.filterM fun (name, _) => do
    if Table.contains named name then return false
    if joined = "" then return true
    return !(← search joined name)

def sortedNames (names : List String) : List String := names.mergeSort fun a b => decide (a ≤ b)

def checkFurtherFields (node : Table (Reading Check)) (schema : Reading Check) : Check := fun v =>
  match v with
  | .object fields =>
    decided (furtherFields node fields) fun further =>
      if schema.value.isObject then
        further.flatMap fun (name, w) => checkPart schema.value schema.meaning (.field name) w
      else
        let names := sortedNames (Table.keys further)
        require (schema.value.isFilled || further.isEmpty)
          (match Table.get? node "patternProperties" with
            | some patterns => .unmatchedFields names
                (sortedNames (Table.keys patterns.value.fieldsOf))
            | none => .extraFields names)
  | _ => []

def checkNames (schema : Reading Check) : Check := fun v =>
  match v with
  | .object fields => fields.flatMap fun (name, _) => schema.meaning (.text name)
  | _ => []

def checkDependencies (schemas : Reading Check) : Check := fun v =>
  match v with
  | .object fields =>
    schemas.fields.flatMap fun (name, dependency, check) =>
      if Table.contains fields name then
        match dependency with
        | .array names =>
          names.flatMap fun other =>
            require ((other.text?).any (Table.contains fields)) (.missingDependency other name)
        | _ => check v
      else []
  | _ => []

def checkAll (schemas : Reading Check) : Check := fun v =>
  schemas.items.flatMap fun (_, check) => check v

def firstAccepting? (v : Json) :
    List (Json × Check) → Except Failure (Option (Json × List (Json × Check)))
  | [] => .ok none
  | (schema, check) :: rest => do
    if (← everything (check v)).isEmpty then return some (schema, rest) else firstAccepting? v rest

def checkAny (schemas : Reading Check) : Check := fun v =>
  decided (firstAccepting? v schemas.items) fun accepting =>
    require accepting.isSome (.noAlternative v)

/-- Exactly one alternative must hold; the complaint about several names the first one last. -/
def checkOne (schemas : Reading Check) : Check := fun v =>
  decided (firstAccepting? v schemas.items) fun
    | none => [.here (.noAlternative v)]
    | some (first, rest) =>
      decided (rest.filterM fun (_, check) => check.accepts v) fun others =>
        require others.isEmpty (.severalAlternatives v (others.map (·.1) ++ [first]))

def checkNot (schema : Reading Check) : Check := fun v =>
  decided (schema.meaning.accepts v) fun holds => require (!holds) (.forbidden v schema.value)

def checkIf (node : Table (Reading Check)) (condition : Reading Check) : Check := fun v =>
  decided (condition.meaning.accepts v) fun holds =>
    match Table.get? node (if holds then "then" else "else") with
    | some schema => schema.meaning v
    | none => []

def checkKeyword (node : Table (Reading Check)) (keyword : String) (r : Reading Check) : Check :=
  match keyword with
  | "additionalItems" => checkFurtherItems ((Table.get? node "items").map (·.value)) r
  | "additionalProperties" => checkFurtherFields node r
  | "allOf" => checkAll r
  | "anyOf" => checkAny r
  | "const" => checkConst r.value
  | "contains" => checkContains r
  | "dependencies" => checkDependencies r
  | "enum" => checkOptions r.value
  | "exclusiveMaximum" => limitNumber below .notBelowMaximum r.value
  | "exclusiveMinimum" => limitNumber above .notAboveMinimum r.value
  | "if" => checkIf node r
  | "items" => checkItems r
  | "maxItems" => limitItems atMost .tooLong r.value
  | "maxLength" => limitText atMost .tooLong r.value
  | "maxProperties" => limitFields atMost .tooManyFields r.value
  | "maximum" => limitNumber atMost .aboveMaximum r.value
  | "minItems" => limitItems atLeast .tooShort r.value
  | "minLength" => limitText atLeast .tooShort r.value
  | "minProperties" => limitFields atLeast .tooFewFields r.value
  | "minimum" => limitNumber atLeast .belowMinimum r.value
  | "multipleOf" => checkMultiple r.value
  | "not" => checkNot r
  | "oneOf" => checkOne r
  | "pattern" => checkPattern r.value
  | "patternProperties" => checkPatternFields r
  | "properties" => checkFields r
  | "propertyNames" => checkNames r
  | "required" => checkRequired r.value
  | "type" => checkType r.value
  | "uniqueItems" => checkDistinct r.value
  | _ => fun _ => []

def checkLeaf : Json → Check
  | .bool false => fun v => [.here (.nothingAllowed v)]
  | _ => fun _ => []

def checkNode (node : Table (Reading Check)) : Check := fun v =>
  node.flatMap fun (keyword, r) => checkKeyword node keyword r v

def meaning (schema : Json) : Check := (Json.reading checkLeaf checkNode schema).meaning

end LedgerFlow.Schema
