import LedgerFlow.Argument.Attribute
import LedgerFlow.Json.Reader
import LedgerFlow.Schema.Violation
import LedgerFlow.Spec.Problem
/-!
Why a compilation fails, one constructor for each cause, with the wording in one place. Most causes
lie in the description of the contract; `isForeign` tells the few that do not.
-/
namespace LedgerFlow
open Text

inductive Error where
  | unreadableFile (path : String) (directory : Bool)
  | undecodableBytes
  | malformedSpec (fault : Json.Fault) (text : String) (remaining : Nat)
  | malformedSample (fault : Json.Fault) (text : String) (remaining : Nat)
  | integerTooLong (digits : Nat)
  /-- An integer with too many digits to be written. -/
  | integerUnwritable
  | unsupportedPayload (kind : String)
  | specNotObject (kind : String)
  | invalidSpec (problems : List Spec.Problem)
  | invalidModel (problems : List Spec.Problem)
  | noContract
  | severalContracts (names : List String)
  | unknownContract (name : String) (available : List String)
  | unknownActivity (ref : String)
  | unknownActivityKind (kind : String)
  | undeclaredProperties (schema : String) (names : List String)
  | refNotText (ref : Json)
  | unresolvedRef (ref : String)
  | unexpandedRefs (passes : Int) (documents : List String)
  | refCycle (names : List String)
  | malformedSchema (name : Option String) (violations : List Schema.Violation)
  | schemaNotObject (label kind : String)
  | validation (failure : Schema.Failure)
  | duplicateName (name transaction : String)
  | lateStart (transaction entry : String)
  | secondEntry (transaction entry name : String)
  | undefinedPrerequisite (name transaction : String)
  | graphAlreadyBuilt
  | argumentNotObject (item : Json)
  | argumentWithoutName (item : Json)
  | argumentCount (expected : List Attribute) (given : Nat)
  | unknownLevel (name : String)

namespace Error

def schemaLabel : Option String → String
  | none => "Schema"
  | some name => if name = "" then "Schema" else s!"Schema '{name}'"

def message : Error → String
  | unreadableFile path false =>
    s!"Cannot read contract file {path}: [Errno 2] No such file or directory: {quoted path}"
  | unreadableFile path true =>
    s!"Cannot read contract file {path}: [Errno 21] Is a directory: {quoted path}"
  | undecodableBytes => "the bytes are no text"
  | malformedSpec fault text remaining =>
    "Invalid contract JSON payload: " ++ fault.describe text remaining
  | malformedSample fault text remaining => "Invalid JSON sample: " ++ fault.describe text remaining
  | integerTooLong digits => Number.tooManyDigits digits
  | integerUnwritable =>
    "Exceeds the limit (4300 digits) for integer string conversion; " ++
      "use sys.set_int_max_str_digits() to increase the limit"
  | unsupportedPayload kind =>
    s!"Unsupported payload type {kind}; expected str, bytes, Path or Mapping"
  | specNotObject kind => s!"Contract spec must be a JSON object, got {kind}"
  | invalidSpec _ => "Contract spec validation failed"
  | invalidModel _ => "validation failed"
  | noContract => "No contract is defined in the spec"
  | severalContracts names =>
    "Spec defines more than one contract (" ++ join ", " names ++ "); select one by name"
  | unknownContract name available =>
    s!"Contract '{name}' is not defined; available: " ++ join ", " available
  | unknownActivity ref => s!"Activity '{ref}' is not registered"
  | unknownActivityKind kind => s!"{quoted kind} is not a valid ActivityKind"
  | undeclaredProperties schema names =>
    s!"Schema '{schema}' requires undeclared properties: " ++ join ", " names
  | refNotText ref => "Schema reference must be a string, received " ++ ref.literal
  | unresolvedRef ref => s!"Schema ref '{ref}' is not found"
  | unexpandedRefs passes documents =>
    s!"Schema refs remain after {passes} expansion passes in: " ++ join ", " documents
  | refCycle names => "Schema refs form a cycle: " ++ join " -> " names
  | malformedSchema name violations =>
    schemaLabel name ++ " is not valid JSON Schema: " ++ join "; " (violations.map (·.text))
  | schemaNotObject label kind => s!"Schema '{label}' must be a JSON object, got {kind}"
  | validation failure => failure.message
  | duplicateName name transaction =>
    s!"Action name '{name}' is used more than once in transaction '{transaction}'"
  | lateStart transaction entry =>
    s!"Transaction '{transaction}' branches from the start after '{entry}' " ++
      "was already used as its entry point"
  | secondEntry transaction entry name =>
    s!"Transaction '{transaction}' has more than one entry point: '{entry}' and '{name}'"
  | undefinedPrerequisite name transaction =>
    s!"Prerequisite action '{name}' is not defined before it is " ++
      s!"referenced in transaction '{transaction}'"
  | graphAlreadyBuilt => "GraphBuilder instances build a single graph"
  | argumentNotObject item => "Argument definition must be an object, got " ++ item.literal
  | argumentWithoutName item => "Argument definition has no name: " ++ item.literal
  | argumentCount expected given =>
    "transaction parameters do not match required argument list: " ++
      s!"expected {expected.length} (" ++ join ", " (expected.map (·.text)) ++ s!"), got {given}"
  | unknownLevel name => "Unknown level: " ++ quoted name

def problems : Error → List Spec.Problem
  | invalidSpec problems => problems
  | invalidModel problems => problems
  | _ => []

/-- A failure that is not about the contract: bytes without text, integers beyond the digit limit, a
schema library that fails, a log level or an activity kind that does not exist, a second use of a
builder, or settings that cannot be decoded. -/
def isForeign : Error → Bool
  | undecodableBytes | integerTooLong _ | integerUnwritable | validation _ | unknownLevel _
  | unknownActivityKind _ | graphAlreadyBuilt | invalidModel _ => true
  | _ => false

end Error

end LedgerFlow
