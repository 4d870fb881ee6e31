import LedgerFlow.Pattern.Syntax
import LedgerFlow.Pattern.Token
/-!
The state of reading a pattern: the tokens ahead and what is known of the groups so far.
-/
namespace LedgerFlow.Pattern

structure Groups where
  /-- The widths in the order of the numbers, which start at one; an open group has none yet. -/
  widths : Array (Option Width) := #[]
  names : List (List Char × Nat) := []
  /-- The number of groups at the start of the outermost look back around this place. -/
  beforeLook : Option Nat := none
  /-- The highest number that a condition has asked for. -/
  asked : Nat := 0

namespace Groups

def width? (g : Groups) (number : Nat) : Option Width :=
  if number = 0 then none else (g.widths[number - 1]?).join

def widthOf (g : Groups) (number : Nat) : Width := (g.width? number).getD (.exactly 0)

def isClosed (g : Groups) (number : Nat) : Bool := (g.width? number).isSome

/-- Within a look back only groups may be asked for that were closed before it. -/
def isVisible (g : Groups) (number : Nat) : Bool :=
  match g.beforeLook with
  | some count => g.isClosed number && number ≤ count
  | none => true

def canRefer (g : Groups) (number : Nat) : Bool := g.isClosed number && g.isVisible number

end Groups

structure Progress where
  rest : List Token
  groups : Groups := {}
  /-- Something was read that cannot be put together; this shows only when all is read. -/
  unsound : Bool := false

/-- Why a text is no pattern. All refusals but the first are about single numbers or options. -/
inductive Refusal where
  | malformed
  | countTooLarge
  | countTooLong (digits : Nat)
  /-- Both the characters of ASCII and all characters are asked for. -/
  | bothRepertoires
  deriving DecidableEq, Repr

abbrev Reading := StateT Progress (Except Refusal)

namespace Reading

def fail {α : Type} : Reading α := throw .malformed

/-- The next token, if there is one. Behind the last backslash there must be one. -/
def peek? : Reading (Option Token) := do
  match (← get).rest with
  | .stray :: _ => fail
  | rest => return rest.head?

def skip : Reading Unit := modify fun s => { s with rest := s.rest.drop 1 }

def next : Reading Token := do
  match ← peek? with
  | some token => skip; return token
  | none => fail

def accept (c : Char) : Reading Bool := do
  if (← peek?) = some (.plain c) then
    skip
    return true
  else return false

def expect (c : Char) : Reading Unit := do
  unless ← accept c do fail

def takeUpTo (limit : Nat) (isTaken : Char → Bool) : Reading (List Char) := do
  match limit, ← peek? with
  | limit + 1, some (.plain c) =>
    if isTaken c then
      skip
      return c :: (← takeUpTo limit isTaken)
    else return []
  | _, _ => return []

def takeAll (isTaken : Char → Bool) : Reading (List Char) := do
  takeUpTo (← get).rest.length isTaken

def textBefore (c : Char) : Reading (List Char) := do
  let tokens := (← get).rest
  let text := (tokens.takeWhile (· ≠ .plain c)).flatMap Token.chars
  match tokens.dropWhile (· ≠ .plain c) with
  | [] => fail
  | _ :: rest =>
    if text.isEmpty then fail
    modify fun s => { s with rest }
    return text

def groups : Reading Groups := do return (← get).groups

def changeGroups (change : Groups → Groups) : Reading Unit :=
  modify fun s => { s with groups := change s.groups }

def spoil : Reading Unit := modify fun s => { s with unsound := true }

end Reading

end LedgerFlow.Pattern
