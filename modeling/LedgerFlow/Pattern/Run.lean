import LedgerFlow.Pattern.Program
/-!
Running the steps of a pattern at a place of a text. Ways to match are tried in their order until
one leads to the end; a way that fails hands on what it leaves behind, the place it came to and the
marks it made.
-/
namespace LedgerFlow.Pattern
open Text

abbrev Marks := Array (Option Nat)

/-- What tries leave behind: the place come to last, and the marks made so far. -/
structure Trail where
  place : Nat := 0
  marks : Marks := #[]
  deriving Repr

structure Outcome where
  isMatch : Bool
  trail : Trail

namespace Trail

def matched (t : Trail) : Outcome := ⟨true, t⟩

def failed (t : Trail) : Outcome := ⟨false, t⟩

def movedTo (t : Trail) (place : Nat) : Trail := { t with place }

def mark (t : Trail) (number place : Nat) : Trail :=
  let marks := t.marks ++ Array.replicate (number + 1 - t.marks.size) none
  { t with marks := marks.set! number (some place) }

def group? (t : Trail) (number : Nat) : Option (Nat × Nat) :=
  match (t.marks[2 * (number - 1)]?).join, (t.marks[2 * (number - 1) + 1]?).join with
  | some first, some last => if first ≤ last then some (first, last) else none
  | _, _ => none

/-- The marks as they were saved. Outside of repetitions only the marks made since are taken back,
and a mark that was moved stays where it is. -/
def restored (t : Trail) (saved : Marks) (inLoop : Bool) : Trail :=
  if inLoop then { t with marks := saved }
  else if t.marks.size ≤ saved.size then t
  else { t with marks := t.marks.take saved.size }

/-- The first of several tries that matches; those ruled out are not tried, and after each other one
the marks are taken back. -/
def firstOf {α : Type} (t : Trail) (isOut : α → Bool) (back : Trail → Trail)
    (attempt : α → Trail → Outcome) : List α → Outcome
  | [] => t.failed
  | a :: rest =>
    if isOut a then t.firstOf isOut back attempt rest
    else
      let result := attempt a t
      if result.isMatch then result else (back result.trail).firstOf isOut back attempt rest

def downFrom (t : Trail) (isOut : Nat → Bool) (back : Trail → Trail)
    (attempt : Nat → Trail → Outcome) (place : Nat) : Nat → Outcome
  | 0 =>
    if isOut place then t.failed
    else
      let result := attempt place t
      if result.isMatch then result else (back result.trail).failed
  | n + 1 =>
    if isOut place then t.downFrom isOut back attempt (place - 1) n
    else
      let result := attempt place t
      if result.isMatch then result
      else (back result.trail).downFrom isOut back attempt (place - 1) n

def upFrom (t : Trail) (back : Trail → Trail) (attempt more : Nat → Trail → Outcome) (place : Nat) :
    Nat → Outcome
  | 0 =>
    let result := attempt place t
    if result.isMatch then result else (more place (back result.trail)).trail.failed
  | n + 1 =>
    let result := attempt place t
    if result.isMatch then result
    else
      let next := more place (back result.trail)
      if next.isMatch then next.trail.upFrom back attempt more (place + 1) n else next

def rounds (t : Trail) (round : Trail → Outcome) : Nat → Outcome
  | 0 => t.matched
  | n + 1 =>
    let result := round t
    if result.isMatch then result.trail.rounds round n else result

/-- Rounds as long as they match and move on, at most so many. A round that fails takes its marks
back but not its place. -/
def roundsWhile (t : Trail) (round : Trail → Outcome) : Nat → Trail
  | 0 => t
  | n + 1 =>
    let result := round t
    if !result.isMatch then { result.trail with marks := t.marks }
    else if result.trail.place = t.place then result.trail
    else result.trail.roundsWhile round n

end Trail

/-- A repetition under way: the rounds done, and the place where the last optional one started. -/
structure Round where
  least : Nat
  most : Option Nat
  isLazy : Bool
  body : List Op
  rest : List Op
  done : Nat
  last : Option Nat

inductive Continuation where
  /-- Nothing: the try has matched. It may be part of a round of a repetition. -/
  | finish (inLoop : Bool)
  /-- The next round of a repetition, or what follows it. -/
  | again (round : Round) (outer : Continuation)

def Continuation.inLoop : Continuation → Bool
  | .finish inLoop => inLoop
  | .again .. => true

section
variable (text : Array Char)

def wordAt (ascii : Bool) (place : Nat) : Bool := (text[place]?).any (Kind.word.holds ascii)

def isBoundary (ascii : Bool) (place : Nat) : Bool :=
  (0 < place && wordAt text ascii (place - 1)) != wordAt text ascii place

def Spot.holds (place : Nat) : Spot → Bool
  | .textStart => place = 0
  | .lineStart => place = 0 || text[place - 1]? = some '\n'
  | .textEnd => place = text.size
  | .lineEnd => place = text.size || text[place]? = some '\n'
  | .lastLineEnd => place = text.size || (place + 1 = text.size && text[place]? = some '\n')
  | .boundary negated ascii => !text.isEmpty && isBoundary text ascii place != negated

def CharTest.holdsAt (test : CharTest) (place : Nat) : Bool :=
  if h : place < text.size then test.holds text[place] else false

def CharTest.endAt (test : CharTest) : Nat → Nat → Nat
  | 0, place => place
  | limit + 1, place => if test.holdsAt text place then test.endAt limit (place + 1) else place

def sameText (fold : Fold) (first place : Nat) : Nat → Bool
  | 0 => true
  | n + 1 =>
    match text[first]?, text[place]? with
    | some a, some b =>
      fold.apply a.toNat == fold.apply b.toNat && sameText fold (first + 1) (place + 1) n
    | _, _ => false

def isRuledOut (place : Nat) : List Op → Bool
  | .one test :: _ => (test.isLiteral || test.isExactSet) && !test.holdsAt text place
  | _ => false

def isNotNext (ops : List Op) (place : Nat) : Bool :=
  match ops with
  | .one test :: _ => test.isLiteral && !test.holdsAt text place
  | _ => false

/-- Runs steps from a place; the first number bounds how deep tries are nested. -/
def run : Nat → List Op → Continuation → Nat → Trail → Outcome
  | 0, _, _, _, t => t.failed
  | fuel + 1, [], k, place, t =>
    match k with
    | .finish _ => (t.movedTo place).matched
    | .again round outer =>
      let t := t.movedTo place
      let next (last : Option Nat) : Continuation :=
        .again { round with done := round.done + 1, last } outer
      let leave (t : Trail) : Outcome := run fuel round.rest outer place t
      let mayRepeat := round.most.all (round.done < ·) && round.last ≠ some place
      if round.done < round.least then
        let result := run fuel round.body (next round.last) place t
        if result.isMatch then result else (result.trail.movedTo place).failed
      else if round.isLazy then
        let result := leave t
        if result.isMatch then result
        else
          let t := (result.trail.restored t.marks outer.inLoop).movedTo place
          if mayRepeat then
            let result := run fuel round.body (next (some place)) place t
            if result.isMatch then result else (result.trail.movedTo place).failed
          else t.failed
      else if mayRepeat then
        let result := run fuel round.body (next (some place)) place t
        if result.isMatch then result
        else
          let result := leave ((result.trail.restored t.marks true).movedTo place)
          if result.isMatch then result else (result.trail.movedTo place).failed
      else
        let result := leave t
        if result.isMatch then result else (result.trail.movedTo place).failed
  | fuel + 1, op :: rest, k, place, t =>
    let saved := t.marks
    let back (t : Trail) : Trail := t.restored saved k.inLoop
    match op with
    | .join => run fuel rest k place t
    | .one test => if test.holdsAt text place then run fuel rest k (place + 1) t else t.failed
    | .spot s => if s.holds text place then run fuel rest k place t else t.failed
    | .mark number => run fuel rest k place (t.mark number place)
    | .same fold group =>
      match t.group? group with
      | some (first, last) =>
        if sameText text fold first place (last - first) then run fuel rest k
          (place + (last - first)) t
        else t.failed
      | none => t.failed
    | .given group yes no =>
      run fuel ((if (t.group? group).isSome then yes else no) ++ rest) k place t
    | .choice alternatives =>
      t.firstOf (isRuledOut text place) back
        (fun alternative t => run fuel (alternative ++ rest) k place (t.movedTo place)) alternatives
    | .span least most greed test =>
      let left := text.size - place
      if left < least then t.failed
      else
        let limit := min left (most.getD left)
        let last := test.endAt text (if greed = .lazy then least else limit) place
        let t := t.movedTo (if test.isFoldedSet then last else place)
        let onward (place : Nat) (t : Trail) : Outcome := run fuel rest k place (t.movedTo place)
        if last < place + least then t.failed
        else match greed with
          | .possessive => onward last t
          | .greedy => t.downFrom (isNotNext text rest) back onward last (last - (place + least))
          | .lazy =>
            let more (place : Nat) (t : Trail) : Outcome :=
              if test.holdsAt text place then
                (t.movedTo (if test.isFoldedSet then place + 1 else place)).matched
              else (t.movedTo place).failed
            t.upFrom back onward more last (limit - least)
    | .loop least most .possessive body =>
      let alone (t : Trail) : Outcome := run fuel body (.finish k.inLoop) t.place t
      let result := (t.movedTo place).rounds alone least
      if result.isMatch then
        let limit := min (text.size + 1) (most.getD (least + text.size + 1) - least)
        let t := result.trail.roundsWhile alone limit
        run fuel rest k t.place t
      else (result.trail.movedTo place).failed
    | .loop least most greed body =>
      let round : Round :=
        { least, most, isLazy := greed = .lazy, body, rest, done := 0, last := none }
      run fuel [] (.again round k) place t
    | .look negated before body =>
      if place < before then if negated then run fuel rest k place t else t.failed
      else
        let result := run fuel body (.finish k.inLoop) (place - before) (t.movedTo (place - before))
        if negated then
          if result.isMatch then result.trail.failed else run fuel rest k place (back result.trail)
        else if result.isMatch then run fuel rest k place result.trail
        else result.trail.failed
    | .atomic body =>
      let result := run fuel body (.finish k.inLoop) place (t.movedTo place)
      if result.isMatch then run fuel rest k result.trail.place result.trail
      else (result.trail.movedTo place).failed

end

end LedgerFlow.Pattern
