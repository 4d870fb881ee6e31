import LedgerFlow.Pattern.Progress
/-!
Option letters, which stand in marks such as `(?i)` for the whole pattern or `(?i-s:` for a group.
-/
namespace LedgerFlow.Pattern

inductive Flag where
  | fold
  | multiline
  | dotAll
  | verbose
  | ascii
  | unicode
  | plain
  deriving DecidableEq, Repr

namespace Flag

def ofChar? : Char → Option Flag
  | 'i' => some .fold
  | 'm' => some .multiline
  | 's' => some .dotAll
  | 'x' => some .verbose
  | 'a' => some .ascii
  | 'u' => some .unicode
  | 't' => some .plain
  | _ => none

/-- Whether a flag says of which set the characters are; of these only one may be on, and none
off. -/
def isRepertoire : Flag → Bool
  | .ascii | .unicode => true
  | _ => false

end Flag

def Options.set (options : Options) (value : Bool) : Flag → Options
  | .fold => { options with fold := value }
  | .multiline => { options with multiline := value }
  | .dotAll => { options with dotAll := value }
  | .verbose => { options with verbose := value }
  | .ascii => { options with ascii := value }
  | .unicode => { options with ascii := !value }
  | .plain => { options with plain := value }

def Options.setAll (options : Options) (value : Bool) (flags : List Flag) : Options :=
  flags.foldl (fun options flag => options.set value flag) options

def agree (flags : List Flag) : Bool := !(flags.contains .ascii && flags.contains .unicode)

inductive OptionMark where
  | whole (flags : List Flag)
  | inner (options : Options)

def takeFlags : Reading (List Flag) := do
  let letters ← Reading.takeAll fun c => (Flag.ofChar? c).isSome
  return letters.filterMap Flag.ofChar?

/-- Option letters and the mark behind them: a parenthesis for the whole pattern, or a colon for a
group, perhaps with letters to turn off behind a minus. -/
def optionMark (options : Options) : Reading OptionMark := do
  let on ← takeFlags
  unless agree on do Reading.fail
  if !on.isEmpty && (← Reading.accept ')') then return .whole on
  if on.contains .plain then Reading.fail
  let inner := options.setAll true on
  if !on.isEmpty && (← Reading.accept ':') then return .inner inner
  Reading.expect '-'
  let off ← takeFlags
  if off.isEmpty || off.any
    (fun flag => flag.isRepertoire || flag = .plain || on.contains flag) then Reading.fail
  Reading.expect ':'
  return .inner (inner.setAll false off)

end LedgerFlow.Pattern
