import LedgerFlow.Number.Integer
import LedgerFlow.Pattern.Escape
import LedgerFlow.Pattern.Flag
import LedgerFlow.Text.Blank
import LedgerFlow.Text.Identifier
/-!
Patterns from text. A text that is no pattern has none: an open class or group, a repetition of
nothing, of an anchor or of a repetition, a range that runs backwards, an escape without a meaning,
a reference to a group that is not closed, options behind the start, or a look back of no fixed
width.
-/
namespace LedgerFlow.Pattern
open Text

/-- An item of a sequence; a group that only brackets its body is not yet part of the sequence. -/
inductive Item where
  | single (node : Node)
  | bracketed (body : List Node)

def Item.nodes : Item → List Node
  | .single node => [node]
  | .bracketed body => body

def sequenceOf (items : List Item) : List Node := items.reverse.flatMap Item.nodes

def Item.repeatable? : Item → Option (List Node)
  | .single (.anchor _) => none
  | .single (.loop ..) => none
  | item => some item.nodes

def countBound : Nat := 4294967295

def groupBound : Nat := 1073741823

def isLayout (c : Char) : Bool := c = ' ' || (9 ≤ c.toNat && c.toNat ≤ 13)

def skipLine : Reading Unit := do
  let (remark, rest) := (← get).rest.span (· ≠ .plain '\n')
  if remark.contains .stray then Reading.fail
  modify fun s => { s with rest := rest.drop 1 }

def skipRemark : Reading Unit := do
  match (← get).rest.dropWhile (· ≠ .plain ')') with
  | [] => Reading.fail
  | _ :: rest => modify fun s => { s with rest }

def classPart : Token → Reading Part
  | .plain c => return .code c.toNat
  | .escaped c => classEscape c
  | .stray => Reading.fail

/-- The parts of a class up to its closing bracket, which is plain in the first place. -/
def classParts : Nat → Bool → Reading (List Part)
  | 0, _ => Reading.fail
  | fuel + 1, isFirst => do
    let token ← Reading.next
    if token = .plain ']' ∧ !isFirst then return []
    let part ← classPart token
    if ← Reading.accept '-' then
      let last ← Reading.next
      if last = .plain ']' then return [part, .code '-'.toNat]
      match part, ← classPart last with
      | .code low, .code high =>
        if low ≤ high then return .range low high :: (← classParts fuel false) else Reading.fail
      | _, _ => Reading.fail
    else return part :: (← classParts fuel false)

/-- A class behind its opening bracket; a class of one character is that character. -/
def classNode : Reading Node := do
  let negated ← Reading.accept '^'
  let parts ← classParts ((← get).rest.length + 1) true
  match parts.eraseDups with
  | [.code code] => return .char negated code
  | parts => return .set negated parts

def countOf (digits : List Char) : Reading (Option Nat) := do
  if digits.isEmpty then return none
  if Number.digitLimit < digits.length then throw (.countTooLong digits.length)
  let count := numberIn 10 digits
  if countBound ≤ count then throw .countTooLarge
  return some count

/-- A number of repetitions in braces, behind the opening one; without it the brace stands for
itself. -/
def braceCount : Reading (Option (Nat × Option Nat)) := do
  let start := (← get).rest
  if start.head? = some (.plain '}') then return none
  let low ← Reading.takeAll isAsciiDigit
  let high ← if ← Reading.accept ',' then Reading.takeAll isAsciiDigit else pure low
  if ← Reading.accept '}' then
    -- What follows the brace is looked at before the numbers are.
    let _ ← Reading.peek?
    let least := (← countOf low).getD 0
    let most ← countOf high
    if most.any (· < least) then Reading.fail
    return some (least, most)
  else
    modify fun s => { s with rest := start }
    return none

def count : Char → Reading (Option (Nat × Option Nat))
  | '?' => return some (0, some 1)
  | '*' => return some (0, none)
  | '+' => return some (1, none)
  | '{' => braceCount
  | _ => return none

def greed : Reading Greed := do
  if ← Reading.accept '?' then return .lazy
  if ← Reading.accept '+' then return .possessive
  return .greedy

/-- A repetition of the last of the items. Where none may be written, this is found out at the
end. -/
def loopOf (options : Options) (items : List Item) (least : Nat) (most : Option Nat) :
    Reading (List Item) := do
  match items with
  | item :: before =>
    match item.repeatable? with
    | some body =>
      if options.plain then Reading.spoil
      return .single (.loop least most (← greed) body) :: before
    | none => Reading.fail
  | [] => Reading.fail

def namedGroup (name : List Char) : Reading Nat := do
  match (← Reading.groups).names.lookup name with
  | some number => return number
  | none => Reading.fail

/-- The group that a condition asks for, by name or by number; a number may belong to a later
group. -/
def askedGroup (name : List Char) : Reading Nat := do
  let number ← if isIdentifier name then namedGroup name else
    match Number.integer? (trim name) with
    | some (.ofNat (n + 1)) => if n + 1 < groupBound then pure (n + 1) else Reading.fail
    | _ => Reading.fail
  unless (← Reading.groups).isVisible number do Reading.fail
  Reading.changeGroups fun g => { g with asked := max g.asked number }
  return number

def openGroup (name : Option (List Char)) : Reading Nat := do
  let g ← Reading.groups
  let number := g.widths.size + 1
  match name with
  | some name =>
    if !isIdentifier name || (g.names.lookup name).isSome then Reading.fail
    Reading.changeGroups fun g =>
      { g with widths := g.widths.push none, names := (name, number) :: g.names }
  | none => Reading.changeGroups fun g => { g with widths := g.widths.push none }
  return number

def closeGroup (number : Nat) (body : List Node) : Reading Unit :=
  Reading.changeGroups fun g =>
    { g with widths := g.widths.set! (number - 1) (some (sequenceWidth g.widthOf body)) }

/-- The width of a body that is looked for before a place. That there is more than one, or that it
is too large, is found out at the end. -/
def backWidth (body : List Node) : Reading Nat := do
  let width := sequenceWidth (← Reading.groups).widthOf body
  unless width.most = some width.least ∧ width.least ≤ countBound do Reading.spoil
  return width.least

inductive Opening where
  | capture (name : Option (List Char))
  | look (negated behind : Bool)
  | atomic
  | bracket
  | scope (options : Options)
  | condition (number : Nat)
  /-- The text of a named group again, which has no body. -/
  | again (number : Nat)

def namedOpening : Reading Opening := do
  if ← Reading.accept '<' then return .capture (← Reading.textBefore '>')
  Reading.expect '='
  let name ← Reading.textBefore ')'
  unless isIdentifier name do Reading.fail
  let number ← namedGroup name
  if (← Reading.groups).canRefer number then return .again number else Reading.fail

def behindOpening : Reading Opening := do
  if ← Reading.accept '=' then return .look false true
  Reading.expect '!'
  return .look true true

def opening (options : Options) : Reading (Option Opening) := do
  unless ← Reading.accept '?' do return some (.capture none)
  match ← Reading.peek? with
  | some (.plain '#') =>
    Reading.skip
    skipRemark
    return none
  | some (.plain 'P') =>
    Reading.skip
    return some (← namedOpening)
  | some (.plain '<') =>
    Reading.skip
    return some (← behindOpening)
  | some (.plain '(') =>
    Reading.skip
    return some (.condition (← askedGroup (← Reading.textBefore ')')))
  | some (.plain ':') =>
    Reading.skip
    return some .bracket
  | some (.plain '>') =>
    Reading.skip
    return some .atomic
  | some (.plain '=') =>
    Reading.skip
    return some (.look false false)
  | some (.plain '!') =>
    Reading.skip
    return some (.look true false)
  | _ =>
    match ← optionMark options with
    | .inner options => return some (.scope options)
    | .whole _ => Reading.fail

def plainNode : Char → Node
  | '.' => .any
  | '^' => .anchor .lineStart
  | '$' => .anchor .lineEnd
  | c => .char false c.toNat

mutual

def alternatives : Nat → Options → Reading (List Node)
  | 0, _ => Reading.fail
  | fuel + 1, options => return ofAlternatives (← branches fuel options)

def branches : Nat → Options → Reading (List (List Node))
  | 0, _ => Reading.fail
  | fuel + 1, options => do
    let body ← sequence fuel options []
    if ← Reading.accept '|' then return body :: (← branches fuel options) else return [body]

/-- A sequence of items, of which those before this place are given last first. -/
def sequence : Nat → Options → List Item → Reading (List Node)
  | 0, _, _ => Reading.fail
  | fuel + 1, options, items => do
    match ← Reading.peek? with
    | none | some (.plain '|') | some (.plain ')') => return sequenceOf items
    | some .stray => Reading.fail
    | some (.escaped c) =>
      Reading.skip
      let node ← itemEscape c
      sequence fuel options (.single node :: items)
    | some (.plain c) =>
      Reading.skip
      if options.verbose && isLayout c then sequence fuel options items
      else if options.verbose && c = '#' then
        skipLine
        sequence fuel options items
      else if c = '[' then
        let node ← classNode
        sequence fuel options (.single node :: items)
      else if c = '(' then
        match ← opening options with
        | some what =>
          let item ← body fuel options what
          sequence fuel options (item :: items)
        | none => sequence fuel options items
      else
        match ← count c with
        | some (least, most) => sequence fuel options (← loopOf options items least most)
        | none => sequence fuel options (.single (plainNode c) :: items)

def body : Nat → Options → Opening → Reading Item
  | 0, _, _ => Reading.fail
  | fuel + 1, options, what => do
    match what with
    | .again number => return .single (.same number)
    | .capture name =>
      let number ← openGroup name
      let nodes ← alternatives fuel options
      Reading.expect ')'
      closeGroup number nodes
      return .single (.group number nodes)
    | .look negated false =>
      let nodes ← alternatives fuel options
      Reading.expect ')'
      return .single (.look negated 0 nodes)
    | .look negated true =>
      let outer := (← Reading.groups).beforeLook
      Reading.changeGroups fun g => { g with beforeLook := outer <|> some g.widths.size }
      let nodes ← alternatives fuel options
      Reading.changeGroups fun g => { g with beforeLook := outer }
      Reading.expect ')'
      return .single (.look negated (← backWidth nodes) nodes)
    | .atomic =>
      let nodes ← alternatives fuel options
      Reading.expect ')'
      return .single (.atomic nodes)
    | .bracket =>
      let nodes ← alternatives fuel options
      Reading.expect ')'
      return .bracketed nodes
    | .scope options =>
      let nodes ← alternatives fuel options
      Reading.expect ')'
      return .single (.scope options nodes)
    | .condition number =>
      let yes ← sequence fuel options []
      let no ← if ← Reading.accept '|' then sequence fuel options [] else pure []
      Reading.expect ')'
      return .single (.given number yes no)

end

/-- The flags for the whole pattern, which stand at its start, perhaps among remarks and, once the
pattern is verbose, blanks. -/
def leadingFlags : Nat → List Flag → Reading (List Flag)
  | 0, flags => return flags
  | fuel + 1, flags => do
    let start ← get
    match start.rest with
    | .plain '(' :: .plain '?' :: .plain '#' :: rest =>
      set { start with rest }
      skipRemark
      leadingFlags fuel flags
    | .plain '(' :: .plain '?' :: rest =>
      match (optionMark {}).run { start with rest } with
      | .ok (.whole more, after) =>
        set after
        leadingFlags fuel (flags ++ more)
      | _ => return flags
    | .plain c :: _ =>
      if flags.contains .verbose && (isLayout c || c = '#') then
        if c = '#' then skipLine else Reading.skip
        leadingFlags fuel flags
      else return flags
    | _ => return flags

structure Tree where
  options : Options
  body : List Node
  width : Width

/-- A whole pattern: its flags agree, nothing is left, all groups that conditions ask for are there,
and all of it can be put together. -/
def whole : Reading Tree := do
  let length := (← get).rest.length
  let flags ← leadingFlags length []
  let options := Options.setAll {} true flags
  let body ← alternatives (4 * length + 8) options
  unless agree flags do throw .bothRepertoires
  let final ← get
  if final.rest.isEmpty && final.groups.asked ≤ final.groups.widths.size && !final.unsound then
    return { options, body, width := sequenceWidth final.groups.widthOf body }
  else Reading.fail

def Tree.ofText (s : String) : Except Refusal Tree := do
  return (← whole.run { rest := tokens s.toList }).1

def isPattern (s : String) : Bool := (Tree.ofText s).isOk

def refusal? (s : String) : Option Refusal :=
  match Tree.ofText s with
  | .ok _ => none
  | .error refusal => some refusal

end LedgerFlow.Pattern
