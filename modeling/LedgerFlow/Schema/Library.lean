import LedgerFlow.Error
import LedgerFlow.Schema.Instance
import LedgerFlow.Schema.WellFormed
/-!
Validation as a schema library offers it. A library tells in which draft a schema is written, and
the draft what is wrong with the schema and what the schema finds wrong with a value. Either may
fail. What is said of an arbitrary library holds whatever drafts it has; the one that is used where
no other is at hand has Draft 7 alone.
-/
namespace LedgerFlow.Schema

structure Draft where
  /-- The first thing that is wrong with a schema, patterns included. -/
  fault? (schema : Json) : Except Failure (Option Violation)
  /-- Everything that is wrong with a schema, where patterns are not looked at. -/
  faults (schema : Json) : Except Failure (List Violation)
  /-- The first thing that a schema finds wrong with a value. -/
  violation? (schema v : Json) : Except Failure (Option Violation)

class Library where
  draft (schema : Json) : Except Failure Draft

namespace Draft

def seven : Draft where
  fault? schema := first? (complaints true schema)
  faults schema := everything (complaints false schema)
  violation? schema v := first? (meaning schema v)

def key : String := "$schema"

def isWithin (word : List Char) : List Char → Bool
  | [] => word.isEmpty
  | c :: rest => word.isPrefixOf (c :: rest) || isWithin word rest

/-- Why no draft is found for what is neither an object nor a boolean: the name is looked for in it
all the same. -/
def failure? : Json → Option Failure
  | .text s => if isWithin key.toList s.toList then some (.notIndexable "string") else none
  | .array items => if items.any (·.same (.text key)) then some (.notIndexable "list") else none
  | .object _ | .bool _ => none
  | v => some (.notIterable v.kindWord)

end Draft

instance : Library where
  draft schema :=
    match Draft.failure? schema with
    | some failure => .error failure
    | none => .ok .seven

section
variable [Library]

def problems (schema : Json) : Except Error (List Violation) :=
  (do
    let draft ← Library.draft schema
    let faults ← draft.faults schema
    return faults.mergeSort pathLe : Except Failure (List Violation)).mapError .validation

def check (schema : Json) (name : Option String) : Except Error Unit := do
  let fault? ← (do (← Library.draft schema).fault? schema : Except Failure _).mapError .validation
  match fault? with
  | none => return
  | some fault =>
    match ← problems schema with
    | [] => throw (.malformedSchema name [fault])
    | all => throw (.malformedSchema name all)

/-- The first thing that a schema finds wrong with a value. Validators are made from the canonical
texts of schemas, so the order of fields has no influence. -/
def validate (schema v : Json) : Except Error (Option Violation) :=
  (do
    let draft ← Library.draft schema.sorted
    draft.violation? schema.sorted v : Except Failure _).mapError .validation

end

end LedgerFlow.Schema
