import LedgerFlow.Table
import LedgerFlow.Number.Numeral
/-!
JSON values. An object is a list of named values in the order of their first appearance; integers
are unbounded and distinct from floating-point numbers. Equality of values, `same`, compares numbers
by value and objects without regard to order, and keeps booleans apart from numbers; every value
equals itself, the one that is no number too.
-/
namespace LedgerFlow
open Number

inductive Json where
  | null
  | bool (b : Bool)
  | int (n : Int)
  | float (x : Binary64)
  | text (s : String)
  | array (items : List Json)
  | object (fields : List (String × Json))

namespace Json

instance : Inhabited Json := ⟨.null⟩

def fieldsOf : Json → Table Json
  | .object fields => fields
  | _ => []

def get? (v : Json) (key : String) : Option Json := Table.get? v.fieldsOf key

def isObject : Json → Bool
  | .object _ => true
  | _ => false

def isContainer : Json → Bool
  | .object _ => true
  | .array _ => true
  | _ => false

def text? : Json → Option String
  | .text s => some s
  | _ => none

def numeral? : Json → Option Numeral
  | .int n => some (.whole n)
  | .float x => some (.float x)
  | _ => none

/-- Whether a value says something: it is not null, false, zero or empty. -/
def isFilled : Json → Bool
  | .null => false
  | .bool b => b
  | .int n => n != 0
  | .float x => !x.isZero
  | .text s => s != ""
  | .array items => !items.isEmpty
  | .object fields => !fields.isEmpty

mutual

def same : Json → Json → Bool
  | .null, .null => true
  | .bool a, .bool b => a == b
  | .int a, .int b => a == b
  | .int a, .float y => Numeral.same (.whole a) (.float y)
  | .float x, .int b => Numeral.same (.float x) (.whole b)
  | .float x, .float y => x == y || Numeral.same (.float x) (.float y)
  | .text a, .text b => a == b
  | .array xs, .array ys => sameItems xs ys
  | .object fs, .object gs => fs.length == gs.length && sameFields fs gs
  | _, _ => false

def sameItems : List Json → List Json → Bool
  | [], [] => true
  | x :: xs, y :: ys => same x y && sameItems xs ys
  | _, _ => false

def sameFields : List (String × Json) → List (String × Json) → Bool
  | [], _ => true
  | (k, v) :: fs, gs =>
    (match Table.get? gs k with
      | some w => same v w
      | none => false) && sameFields fs gs

end

theorem induct {P : Json → Prop} (null : P .null) (bool : ∀ b, P (.bool b)) (int : ∀ n, P (.int n))
    (float : ∀ x, P (.float x)) (text : ∀ s, P (.text s))
    (array : ∀ items, (∀ v ∈ items, P v) → P (.array items))
    (object : ∀ fields, (∀ field ∈ fields, P field.2) → P (.object fields)) : ∀ v, P v
  | .null => null
  | .bool b => bool b
  | .int n => int n
  | .float x => float x
  | .text s => text s
  | .array items => array items fun v _ => induct null bool int float text array object v
  | .object fields => object fields fun field h =>
    have : sizeOf field.2 < 1 + sizeOf fields := by
      have := List.sizeOf_lt_of_mem h
      cases field
      simp at *
      omega
    induct null bool int float text array object field.2

end Json

end LedgerFlow
