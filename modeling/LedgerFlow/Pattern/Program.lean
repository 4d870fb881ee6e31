import LedgerFlow.Pattern.CharTest
/-!
Patterns as steps to take in a text: options are settled, groups are marked where they start and
end, and each repetition says how it is to be run.
-/
namespace LedgerFlow.Pattern

inductive Spot where
  | textStart
  | lineStart
  | textEnd
  | lineEnd
  /-- The end of the text, or the line feed that ends it. -/
  | lastLineEnd
  | boundary (negated ascii : Bool)
  deriving DecidableEq, Repr

inductive Op where
  | one (test : CharTest)
  | spot (s : Spot)
  /-- Marks are numbered two to a group, for its start and its end. -/
  | mark (number : Nat)
  | same (fold : Fold) (group : Nat)
  | given (group : Nat) (yes no : List Op)
  | choice (alternatives : List (List Op))
  /-- The place where alternatives come together. -/
  | join
  /-- A repetition of a test of one character. -/
  | span (least : Nat) (most : Option Nat) (greed : Greed) (test : CharTest)
  | loop (least : Nat) (most : Option Nat) (greed : Greed) (body : List Op)
  | look (negated : Bool) (back : Nat) (body : List Op)
  | atomic (body : List Op)
  deriving Repr

def Anchor.spot (options : Options) : Anchor → Spot
  | .textStart => .textStart
  | .textEnd => .textEnd
  | .lineStart => if options.multiline then .lineStart else .textStart
  | .lineEnd => if options.multiline then .lineEnd else .lastLineEnd
  | .boundary negated => .boundary negated options.ascii

def isUnit : List Node → Bool
  | [.char ..] | [.any] | [.set ..] => true
  | [.scope _ body] => isUnit body
  | _ => false

mutual

def Node.ops (options : Options) : Node → List Op
  | .char negated code => [.one (.ofCode options negated code)]
  | .any => [.one (.any options.dotAll)]
  | .set negated parts => [.one (.ofParts options negated parts)]
  | .anchor a => [.spot (a.spot options)]
  | .group number body =>
    .mark (2 * (number - 1)) :: (sequenceOps options body ++ [.mark (2 * (number - 1) + 1)])
  | .scope inner body => sequenceOps inner body
  | .choice alternatives => [.choice (choiceOps options alternatives)]
  | .loop least most greed body =>
    match isUnit body, sequenceOps options body with
    | true, [.one test] => [.span least most greed test]
    | _, ops => [.loop least most greed ops]
  | .same number => [.same options.folding number]
  | .given number yes no =>
    let yes := sequenceOps options yes
    if no.isEmpty then [.given number yes []]
    else [.given number (yes ++ [.join]) (sequenceOps options no)]
  | .look negated back body => [.look negated back (sequenceOps options body)]
  | .atomic body => [.atomic (sequenceOps options body)]

def sequenceOps (options : Options) : List Node → List Op
  | [] => []
  | node :: rest => node.ops options ++ sequenceOps options rest

def choiceOps (options : Options) : List (List Node) → List (List Op)
  | [] => []
  | body :: rest => (sequenceOps options body ++ [.join]) :: choiceOps options rest

end

mutual

/-- A bound on the steps that an operation takes at one place of the text. -/
def Op.weight : Op → Nat
  | .one _ | .spot _ | .mark _ | .same .. | .join => 1
  | .span .. => 2
  | .given _ yes no => 1 + opsWeight yes + opsWeight no
  | .choice alternatives => 1 + choiceWeight alternatives
  | .loop least _ _ body => 2 + (least + 2) * (opsWeight body + 2)
  | .look _ _ body | .atomic body => 2 + opsWeight body

def opsWeight : List Op → Nat
  | [] => 1
  | op :: rest => op.weight + opsWeight rest

def choiceWeight : List (List Op) → Nat
  | [] => 0
  | body :: rest => opsWeight body + choiceWeight rest

end

end LedgerFlow.Pattern
