import LedgerFlow.Argument.Declared
import LedgerFlow.Json.Reader
import LedgerFlow.Log.Traced
import LedgerFlow.Number.Decimal
import LedgerFlow.Number.Integer
/-!
Values of arguments from their texts. A text that does not fit the type of its argument gives the
zero value of the type and a warning; only an integer in JSON with too many digits is a failure.
-/
namespace LedgerFlow.Argument
open Number Text

def calledName : Option String → String
  | some name => name
  | none => "None"

def warn (message : String) : Traced Unit := .record .warning .arguments message

def fallback (name : Option String) (kind data : String) (zero : Json) : Traced Json := do
  warn s!"failed to convert parameter {calledName name} to {kind}: data '{data}'"
  return zero

def trueWords : List String := ["1", "t", "T", "TRUE", "true", "True"]

def falseWords : List String := ["0", "f", "F", "FALSE", "false", "False"]

def decodeBoolean (name : Option String) (data : String) : Traced Json :=
  let word := trimmed data
  if trueWords.contains word then pure (.bool true)
  else if falseWords.contains word then pure (.bool false)
  else fallback name "boolean" data (.bool false)

def decodeInteger (name : Option String) (data : String) : Traced Json :=
  match integer? (trim data.toList) with
  | some n => pure (.int n)
  | none => fallback name "integer" data (.int 0)

def zeroFloat : Binary64 := .finite false 0 Binary64.leastExponent

/-- A text without a point is read as an integer, and one with a point as a floating-point
number. -/
def decodeNumber (name : Option String) (data : String) : Traced Json :=
  let cs := trim data.toList
  if cs.contains '.' then
    match float? cs with
    | some x => pure (.float x)
    | none => fallback name "float" data (.float zeroFloat)
  else decodeInteger name data

def decodeJson (name : Option String) (kind : String) (isKind : Json → Bool) (data : String) :
    Traced Json :=
  match Json.ofText data with
  | .error (.tooManyDigits count) => .fail (.integerTooLong count)
  | .error (.fault fault _) => do
    warn (s!"failed to parse parameter {calledName name} as JSON {kind}: " ++
      s!"data '{data}' error {fault.message}")
    return .null
  | .ok v =>
    if isKind v then pure v
    else do
      warn s!"parameter {calledName name} is not a JSON {kind}: data '{data}'"
      return .null

def isArray : Json → Bool
  | .array _ => true
  | _ => false

/-- The value of a text as an argument of a type. Types without a rule keep the text, without blanks
at its ends. -/
def decodeValue (type : String) (name : Option String) (data : String) : Traced Json :=
  match type with
  | "array" => decodeJson name "array" isArray data
  | "object" => decodeJson name "object" Json.isObject data
  | "boolean" => decodeBoolean name data
  | "integer" => decodeInteger name data
  | "number" => decodeNumber name data
  | _ => pure (.text (trimmed data))

def decodeEach : List (Attribute × String) → Table Json → Traced (Table Json)
  | [], values => pure values
  | (a, data) :: rest, values => do
    let v ← decodeValue a.type (some a.name) data
    decodeEach rest (values.insert a.name v)

def decodeAll (arguments : List Attribute) (values : List String) : Traced (Table Json) :=
  if values.length = arguments.length then decodeEach (arguments.zip values) []
  else .fail (.argumentCount arguments values.length)

end LedgerFlow.Argument
