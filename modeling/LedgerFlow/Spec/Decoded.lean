import LedgerFlow.Error
import LedgerFlow.Number.WrittenInteger
/-!
Decoding of JSON values into the parts of a description. Decoding several parts side by side
collects the problems of all of them, in order; a rule about the whole is looked at only where all
parts are in order.
-/
namespace LedgerFlow.Spec
open Number
open Json (Step)

inductive Decoded (α : Type) where
  | ok (value : α)
  | failed (problems : List Problem)

namespace Decoded
variable {α β : Type}

def problems : Decoded α → List Problem
  | .ok _ => []
  | .failed problems => problems

def map (f : α → β) : Decoded α → Decoded β
  | .ok a => .ok (f a)
  | .failed problems => .failed problems

/-- Both sides are decoded, whatever becomes of the first. -/
def both (f : Decoded (α → β)) (x : Decoded α) : Decoded β :=
  match f, x with
  | .ok f, .ok a => .ok (f a)
  | .ok _, .failed problems => .failed problems
  | .failed problems, x => .failed (problems ++ x.problems)

instance : Functor Decoded where
  map := map

instance : Applicative Decoded where
  pure := .ok
  seq f x := both f (x ())

def under (step : Step) : Decoded α → Decoded α
  | .ok a => .ok a
  | .failed problems => .failed (problems.map (·.under step))

def fault (f : Fault) : Decoded α := .failed [.here f]

def obeying (rule : α → Option Fault) : Decoded α → Decoded α
  | .ok a =>
    match rule a with
    | none => .ok a
    | some f => fault f
  | .failed problems => .failed problems

def toExcept (onFailure : List Problem → Error) : Decoded α → Except Error α
  | .ok a => .ok a
  | .failed problems => .error (onFailure problems)

end Decoded

abbrev Decoder (α : Type) := Json → Decoded α

namespace Decoder
variable {α : Type}

def any : Decoder Json := .ok

def text : Decoder String
  | .text s => .ok s
  | _ => .fault .notText

def nonEmptyText : Decoder String
  | .text s => if s = "" then .fault .emptyText else .ok s
  | _ => .fault .notText

def optional (decode : Decoder α) : Decoder (Option α)
  | .null => .ok none
  | v => (decode v).map some

def items (decode : Decoder α) (i : Nat) : List Json → Decoded (List α)
  | [] => .ok []
  | v :: rest => List.cons <$> (decode v).under (.item i) <*> items decode (i + 1) rest

def list (decode : Decoder α) : Decoder (List α)
  | .array values => items decode 0 values
  | _ => .fault .notList

def entries (decode : Decoder α) : List (String × Json) → Decoded (Table α)
  | [] => .ok []
  | (name, v) :: rest =>
    (fun a t => (name, a) :: t) <$> (decode v).under (.field name) <*> entries decode rest

def table (decode : Decoder α) : Decoder (Table α)
  | .object fields => entries decode fields
  | _ => .fault .notTable

def record (name : String) (decode : Table Json → Decoded α) : Decoder α
  | .object fields => decode fields
  | _ => .fault (.notRecord name)

def mandatory (fields : Table Json) (name : String) (decode : Decoder α) : Decoded α :=
  match fields.get? name with
  | some v => (decode v).under (.field name)
  | none => (Decoded.fault .missing).under (.field name)

def defaulting (fields : Table Json) (name : String) (decode : Decoder α) (default : α) :
    Decoded α :=
  match fields.get? name with
  | some v => (decode v).under (.field name)
  | none => .ok default

/-- A field that goes by two names, of which the first counts where both are there. -/
def aliased (fields : Table Json) (name other : String) (decode : Decoder α) (default : α) :
    Decoded α :=
  if fields.contains name then defaulting fields name decode default
  else defaulting fields other decode default

def flagWord? (s : String) : Option Bool :=
  let word := s.map Char.toLower
  if ["0", "off", "f", "false", "n", "no"].contains word then some false
  else if ["1", "on", "t", "true", "y", "yes"].contains word then some true
  else none

def isWord (n : Int) : Bool := -(Int.pow 2 63) ≤ n && n < Int.pow 2 63

def wordOfFloat? (x : Binary64) : Option Int := x.toInt?.filter fun n => n.natAbs < Nat.pow 2 63

def flagOfInt (n : Int) : Decoded Bool :=
  if n = 0 then .ok false else if n = 1 then .ok true else .fault .unreadableFlag

def flag : Decoder Bool
  | .bool b => .ok b
  | .int n => if isWord n then flagOfInt n else .fault .notFlag
  | .float x =>
    match wordOfFloat? x with
    | some n => flagOfInt n
    | none => .fault .notFlag
  | .text s =>
    match flagWord? s with
    | some b => .ok b
    | none => .fault .unreadableFlag
  | _ => .fault .notFlag

def integerOfFloat (x : Binary64) : Decoded Int :=
  if !x.isFinite then .fault .notFinite
  else if !x.isWhole then .fault .fractionalInteger
  else match wordOfFloat? x with
    | some n => .ok n
    | none => .fault .oversizedInteger

def integer : Decoder Int
  | .bool b => .ok (if b then 1 else 0)
  | .int n => .ok n
  | .float x => integerOfFloat x
  | .text s =>
    match writtenInteger s.toList with
    | .value n => .ok n
    | .tooLong => .fault .oversizedInteger
    | .unreadable => .fault .unreadableInteger
  | _ => .fault .notInteger

end Decoder

end LedgerFlow.Spec
