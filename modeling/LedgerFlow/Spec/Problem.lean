import LedgerFlow.Json.Step
/-!
What can be wrong with a document that should describe something: a fault, and the place of the part
it is about.
-/
namespace LedgerFlow.Spec
open Json (Step)

inductive Fault where
  | missing
  | notText
  | emptyText
  | notTable
  | notList
  /-- Not an object, where the parts of a `record` should be. -/
  | notRecord (record : String)
  | notFlag
  | unreadableFlag
  | notInteger
  | unreadableInteger
  | fractionalInteger
  | oversizedInteger
  | notFinite
  | belowOne
  | unknownArgumentStyle
  | repeatedParameter (transaction parameter : String)
  | sharedFlow (first second flow : String)
  deriving DecidableEq, Repr

def Fault.code : Fault → String
  | .missing => "missing"
  | .notText => "string_type"
  | .emptyText => "string_too_short"
  | .notTable => "dict_type"
  | .notList => "list_type"
  | .notRecord _ => "model_type"
  | .notFlag => "bool_type"
  | .unreadableFlag => "bool_parsing"
  | .notInteger => "int_type"
  | .unreadableInteger => "int_parsing"
  | .fractionalInteger => "int_from_float"
  | .oversizedInteger => "int_parsing_size"
  | .notFinite => "finite_number"
  | .belowOne => "greater_than_equal"
  | .unknownArgumentStyle => "enum"
  | .repeatedParameter .. => "value_error"
  | .sharedFlow .. => "value_error"

def Fault.message : Fault → String
  | .missing => "Field required"
  | .notText => "Input should be a valid string"
  | .emptyText => "String should have at least 1 character"
  | .notTable => "Input should be a valid dictionary"
  | .notList => "Input should be a valid list"
  | .notRecord record => s!"Input should be a valid dictionary or instance of {record}"
  | .notFlag => "Input should be a valid boolean"
  | .unreadableFlag => "Input should be a valid boolean, unable to interpret input"
  | .notInteger => "Input should be a valid integer"
  | .unreadableInteger => "Input should be a valid integer, unable to parse string as an integer"
  | .fractionalInteger => "Input should be a valid integer, got a number with a fractional part"
  | .oversizedInteger => "Unable to parse input string as an integer, exceeded maximum size"
  | .notFinite => "Input should be a finite number"
  | .belowOne => "Input should be greater than or equal to 1"
  | .unknownArgumentStyle => "Input should be 'delimited' or 'attributes'"
  | .repeatedParameter transaction parameter =>
    s!"Value error, transaction '{transaction}' declares parameter '{parameter}' more than once"
  | .sharedFlow first second flow =>
    s!"Value error, transactions '{first}' and '{second}' map to the same flow '{flow}'"

structure Problem where
  place : List Step
  fault : Fault
  deriving DecidableEq, Repr

def Problem.here (fault : Fault) : Problem := ⟨[], fault⟩

def Problem.under (step : Step) (p : Problem) : Problem := { p with place := step :: p.place }

end LedgerFlow.Spec
