import LedgerFlow.Json.Literal
import LedgerFlow.Json.Step
import LedgerFlow.Number.Integer
import LedgerFlow.Pattern.Progress
/-!
What a validation comes upon, one after the other: complaints, each with a cause and the path to the
value it is about, and failures of the validation itself. A failure ends it, so what is listed
behind one is never looked at.
-/
namespace LedgerFlow.Schema
open Text
open Json (Step pathText literal)

inductive Failure where
  | pattern (refusal : Pattern.Refusal)
  | division (fault : Number.DivisionFault)
  | unknownType (name : Json)
  /-- The number of item schemas is asked for where one flag stands for all of them. -/
  | uncountable
  /-- A draft is looked for in a schema that names nothing. -/
  | notIterable (kind : String)
  | notIndexable (kind : String)
  /-- Any other exception. -/
  | raised (name message : String)

def Failure.message : Failure → String
  | .pattern .malformed => "not a pattern"
  | .pattern .countTooLarge => "the repetition number is too large"
  | .pattern (.countTooLong digits) => Number.tooManyDigits digits
  | .pattern .bothRepertoires => "ASCII and UNICODE flags are incompatible"
  | .division .zeroStep => "division by zero"
  | .division .tooLarge => "int too large to convert to float"
  | .division .notANumber => "cannot convert float NaN to integer"
  | .division .infinite => "cannot convert Infinity to integer ratio"
  | .unknownType name => s!"Unknown type {name.literal}"
  | .uncountable => "object of type 'bool' has no len()"
  | .notIterable kind => s!"argument of type '{kind}' is not iterable"
  | .notIndexable kind => s!"{kind} indices must be integers"
  | .raised _ message => message

inductive Cause where
  | notOfType (value : Json) (types : List Json)
  | notOneOf (value options : Json)
  | notEqual (expected : Json)
  | belowMinimum (value limit : Json)
  | aboveMaximum (value limit : Json)
  | notAboveMinimum (value limit : Json)
  | notBelowMaximum (value limit : Json)
  | notMultiple (value step : Json)
  | tooShort (value limit : Json)
  | tooLong (value limit : Json)
  | tooFewFields (value limit : Json)
  | tooManyFields (value limit : Json)
  | noMatch (value pattern : Json)
  | repeatedItems (value : Json)
  | missingField (name : Json)
  | extraFields (names : List String)
  | unmatchedFields (names patterns : List String)
  | extraItems (items : List Json)
  | noItemValid (value : Json)
  | missingDependency (name : Json) (field : String)
  | noAlternative (value : Json)
  | severalAlternatives (value : Json) (schemas : List Json)
  | forbidden (value schema : Json)
  | nothingAllowed (value : Json)
  | notPattern (pattern : String)
  | failed (failure : Failure)

def isLimit (limit : Json) (n : Int) : Bool := limit.same (.int n)

def literalList (values : List Json) : String := join ", " (values.map literal)

def quotedList (names : List String) : String := join ", " (names.map quoted)

def agree {α : Type} (culprits : List α) (one many : String) : String :=
  if culprits.length = 1 then one else many

def Cause.message : Cause → String
  | .notOfType value types => s!"{value.literal} is not of type {literalList types}"
  | .notOneOf value options => s!"{value.literal} is not one of {options.literal}"
  | .notEqual expected => s!"{expected.literal} was expected"
  | .belowMinimum value limit => s!"{value.literal} is less than the minimum of {limit.literal}"
  | .aboveMaximum value limit => s!"{value.literal} is greater than the maximum of {limit.literal}"
  | .notAboveMinimum value limit =>
    s!"{value.literal} is less than or equal to the minimum of {limit.literal}"
  | .notBelowMaximum value limit =>
    s!"{value.literal} is greater than or equal to the maximum of {limit.literal}"
  | .notMultiple value step => s!"{value.literal} is not a multiple of {step.literal}"
  | .tooShort value limit =>
    value.literal ++ if isLimit limit 1 then " should be non-empty" else " is too short"
  | .tooLong value limit =>
    value.literal ++ if isLimit limit 0 then " is expected to be empty" else " is too long"
  | .tooFewFields value limit =>
    value.literal ++
      if isLimit limit 1 then " should be non-empty" else " does not have enough properties"
  | .tooManyFields value limit =>
    value.literal ++
      if isLimit limit 0 then " is expected to be empty" else " has too many properties"
  | .noMatch value pattern => s!"{value.literal} does not match {pattern.literal}"
  | .repeatedItems value => s!"{value.literal} has non-unique elements"
  | .missingField name => s!"{name.literal} is a required property"
  | .extraFields names =>
    "Additional properties are not allowed (" ++ quotedList names ++ " " ++
      agree names "was" "were" ++ " unexpected)"
  | .unmatchedFields names patterns =>
    quotedList names ++ " " ++ agree names "does" "do" ++ " not match any of the regexes: " ++
      quotedList patterns
  | .extraItems items =>
    "Additional items are not allowed (" ++ literalList items ++ " " ++
      agree items "was" "were" ++ " unexpected)"
  | .noItemValid value => s!"None of {value.literal} are valid under the given schema"
  | .missingDependency name field => s!"{name.literal} is a dependency of {quoted field}"
  | .noAlternative value => s!"{value.literal} is not valid under any of the given schemas"
  | .severalAlternatives value schemas =>
    s!"{value.literal} is valid under each of {literalList schemas}"
  | .forbidden value schema => s!"{value.literal} should not be valid under {schema.literal}"
  | .nothingAllowed value => s!"False schema does not allow {value.literal}"
  | .notPattern pattern => s!"{quoted pattern} is not a 'regex'"
  | .failed failure => failure.message

structure Violation where
  path : List Step
  cause : Cause

def Violation.here (cause : Cause) : Violation := ⟨[], cause⟩

def Violation.under (step : Step) (v : Violation) : Violation := { v with path := step :: v.path }

def Violation.text (v : Violation) : String := pathText v.path ++ ": " ++ v.cause.message

def require (holds : Bool) (cause : Cause) : List Violation :=
  if holds then [] else [.here cause]

@[simp] theorem require_true (cause : Cause) : require true cause = [] := rfl

theorem require_eq_nil_iff {holds : Bool} {cause : Cause} :
    require holds cause = [] ↔ holds = true := by
  cases holds <;> simp [require]

/-! Failures among what is found. -/

def Violation.failure? (v : Violation) : Option Failure :=
  match v.cause with
  | .failed failure => some failure
  | _ => none

def first? : List Violation → Except Failure (Option Violation)
  | [] => .ok none
  | v :: _ =>
    match v.failure? with
    | some failure => .error failure
    | none => .ok (some v)

theorem first?_eq_ok_none_iff {found : List Violation} : first? found = .ok none ↔ found = [] := by
  cases found with
  | nil => simp [first?]
  | cons v rest => cases h : v.failure? <;> simp [first?, h]

theorem mem_of_first?_eq_ok_some {found : List Violation} {v : Violation}
    (h : first? found = .ok (some v)) : v ∈ found := by
  cases found with
  | nil => simp [first?] at h
  | cons w rest =>
    cases failed : w.failure? with
    | some failure => simp [first?, failed] at h
    | none => simp_all [first?]

theorem mem_of_first?_eq_error {found : List Violation} {failure : Failure}
    (h : first? found = .error failure) : ∃ v ∈ found, v.failure? = some failure := by
  cases found with
  | nil => simp [first?] at h
  | cons w rest =>
    cases failed : w.failure? with
    | none => simp [first?, failed] at h
    | some other => exact ⟨w, List.mem_cons_self, by simp_all [first?]⟩

theorem first?_eq_error {found : List Violation} {failure : Failure}
    (h : found.head?.bind Violation.failure? = some failure) : first? found = .error failure := by
  cases found with
  | nil => cases h
  | cons v rest =>
    have failed : v.failure? = some failure := h
    rw [first?, failed]

def everything (found : List Violation) : Except Failure (List Violation) :=
  match found.findSome? Violation.failure? with
  | some failure => .error failure
  | none => .ok found

def decided {α : Type} (decision : Except Failure α) (next : α → List Violation) : List Violation :=
  match decision with
  | .ok a => next a
  | .error failure => [.here (.failed failure)]

@[simp] theorem decided_ok {α : Type} (a : α) (next : α → List Violation) :
    decided (.ok a) next = next a := rfl

end LedgerFlow.Schema
