/-!
Search patterns as trees: what a pattern is made of, under which options, and between which widths
its matches lie.
-/
namespace LedgerFlow.Pattern

structure Options where
  /-- Letters count in either case. -/
  fold : Bool := false
  /-- The line anchors hold at every line. -/
  multiline : Bool := false
  /-- The dot takes a line feed too. -/
  dotAll : Bool := false
  /-- Blanks and remarks between the items are passed over. -/
  verbose : Bool := false
  /-- Digits, blanks, words and cases are those of ASCII. -/
  ascii : Bool := false
  /-- No repetition may be written. -/
  plain : Bool := false
  deriving DecidableEq, Repr

inductive Kind where
  | digit
  | blank
  | word
  deriving DecidableEq, Repr

/-- A part of a character class. Code points need not be those of a character. -/
inductive Part where
  | code (n : Nat)
  | range (low high : Nat)
  | kind (k : Kind) (negated : Bool)
  deriving DecidableEq, Repr

inductive Anchor where
  | textStart
  | textEnd
  | lineStart
  | lineEnd
  | boundary (negated : Bool)
  deriving DecidableEq, Repr

inductive Greed where
  | greedy
  | lazy
  | possessive
  deriving DecidableEq, Repr

inductive Node where
  | char (negated : Bool) (code : Nat)
  | any
  | set (negated : Bool) (parts : List Part)
  | anchor (a : Anchor)
  | group (number : Nat) (body : List Node)
  /-- A body with options of its own. -/
  | scope (options : Options) (body : List Node)
  | choice (alternatives : List (List Node))
  | loop (least : Nat) (most : Option Nat) (greed : Greed) (body : List Node)
  /-- The text that a group has taken, once more. -/
  | same (number : Nat)
  /-- One body if a group has taken a text, and another if not. -/
  | given (number : Nat) (yes : List Node) (no : List Node)
  /-- The body stands, or does not stand, `back` characters before this place. -/
  | look (negated : Bool) (back : Nat) (body : List Node)
  /-- The first match of the body only. -/
  | atomic (body : List Node)
  deriving Repr

/-- The least and the most characters that a match takes; without a most there is no bound. -/
structure Width where
  least : Nat
  most : Option Nat
  deriving DecidableEq, Repr

namespace Width

def exactly (n : Nat) : Width := ⟨n, some n⟩

def plus (a b : Width) : Width :=
  ⟨a.least + b.least, do return (← a.most) + (← b.most)⟩

def either (a b : Width) : Width :=
  ⟨min a.least b.least, do return max (← a.most) (← b.most)⟩

def times (w : Width) (least : Nat) (most : Option Nat) : Width :=
  ⟨w.least * least,
    if w.most = some 0 ∨ most = some 0 then some 0 else do return (← w.most) * (← most)⟩

end Width

mutual

def Node.width (groups : Nat → Width) : Node → Width
  | .char .. | .any | .set .. => .exactly 1
  | .anchor _ | .look .. => .exactly 0
  | .group _ body | .scope _ body | .atomic body => sequenceWidth groups body
  | .choice alternatives => choiceWidth groups alternatives
  | .loop least most _ body => (sequenceWidth groups body).times least most
  | .same number => groups number
  | .given _ yes no => (sequenceWidth groups yes).either (sequenceWidth groups no)

def sequenceWidth (groups : Nat → Width) : List Node → Width
  | [] => .exactly 0
  | node :: rest => (node.width groups).plus (sequenceWidth groups rest)

def choiceWidth (groups : Nat → Width) : List (List Node) → Width
  | [] => .exactly 0
  | [body] => sequenceWidth groups body
  | body :: rest => (sequenceWidth groups body).either (choiceWidth groups rest)

end

def Node.isSame : Node → Node → Bool
  | .char negated code, .char negated' code' => negated == negated' && code == code'
  | .any, .any => true
  | .set negated parts, .set negated' parts' => negated == negated' && parts == parts'
  | .anchor a, .anchor a' => a == a'
  | .same number, .same number' => number == number'
  | _, _ => false

/-- The items with which a sequence and all others start, and what is left of each. -/
def splitCommon : List Node → List (List Node) → List Node × List (List Node)
  | [], others => ([], [] :: others)
  | node :: rest, others =>
    if others.all fun other => other.head?.any node.isSame then
      let (common, left) := splitCommon rest (others.map (·.drop 1))
      (node :: common, left)
    else ([], (node :: rest) :: others)

def singleParts? : List Node → Option (List Part)
  | [.char false code] => some [.code code]
  | [.set false parts] => some parts
  | _ => none

/-- Alternatives as a sequence: what they start with in common stands before them, and single
characters make up one class. -/
def ofAlternatives : List (List Node) → List Node
  | [] => []
  | [body] => body
  | body :: others =>
    let (common, left) := splitCommon body others
    match left.mapM singleParts? with
    | some parts => common ++ [.set false parts.flatten.eraseDups]
    | none => common ++ [.choice left]

end LedgerFlow.Pattern
