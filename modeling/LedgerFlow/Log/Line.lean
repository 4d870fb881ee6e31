import LedgerFlow.Log.Level
/-!
Log lines: time, logger, level and message between bars. On a terminal the common levels are
colored.
-/
namespace LedgerFlow.Log

structure Date where
  year : Int
  month : Nat
  day : Nat
  deriving DecidableEq, Repr

/-- The date of a day counted from the first of January 1970, in years that start in March: a cycle
of 400 years has 146097 days. -/
def Date.ofDays (days : Int) : Date :=
  let shifted := days + 719468
  let cycle := shifted.fdiv 146097
  let dayOfCycle := (shifted.fmod 146097).toNat
  let yearOfCycle :=
    (dayOfCycle - dayOfCycle / 1460 + dayOfCycle / 36524 - dayOfCycle / 146096) / 365
  let dayOfYear := dayOfCycle - (365 * yearOfCycle + yearOfCycle / 4 - yearOfCycle / 100)
  let monthFromMarch := (5 * dayOfYear + 2) / 153
  let month := if monthFromMarch < 10 then monthFromMarch + 3 else monthFromMarch - 9
  { year := cycle * 400 + yearOfCycle + (if month ≤ 2 then 1 else 0)
    month
    day := dayOfYear - (153 * monthFromMarch + 2) / 5 + 1 }

def padded (width : Nat) (n : Nat) : String :=
  let digits := toString n
  String.ofList (List.replicate (width - digits.length) '0') ++ digits

def timeText (second : Int) : String :=
  let date := Date.ofDays (second.fdiv 86400)
  let rest := (second.fmod 86400).toNat
  toString date.year ++ "-" ++ padded 2 date.month ++ "-" ++ padded 2 date.day ++ " " ++
    padded 2 (rest / 3600) ++ ":" ++ padded 2 (rest / 60 % 60) ++ ":" ++ padded 2 (rest % 60)

def escapeCode (code : String) : String := "\x1b[" ++ code ++ "m"

def levelColor? (word : String) : Option String :=
  match word with
  | "DEBUG" => some "36"
  | "INFO" => some "32"
  | "WARNING" => some "33"
  | "ERROR" => some "31"
  | "CRITICAL" => some "35"
  | _ => none

def line (terminal : Bool) (level : Int) (second : Int) (logger message : String) : String :=
  let word := levelWord level
  let shown :=
    match terminal, levelColor? word with
    | true, some color => escapeCode color ++ word ++ escapeCode "0"
    | _, _ => word
  timeText second ++ " | " ++ logger ++ " | " ++ shown ++ " | " ++ message

end LedgerFlow.Log
