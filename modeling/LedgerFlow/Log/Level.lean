import LedgerFlow.Error
import LedgerFlow.Text.Upper
/-!
Log levels by number and by name, and the table of loggers with the level of each.
-/
namespace LedgerFlow.Log
open Text

def levelNames : Table Int :=
  [("CRITICAL", 50), ("FATAL", 50), ("ERROR", 40), ("WARN", 30), ("WARNING", 30), ("INFO", 20),
   ("DEBUG", 10), ("NOTSET", 0)]

def defaultLevel : Int := 20

inductive LevelChoice where
  | named (name : String)
  | numbered (number : Int)
  deriving DecidableEq, Repr

/-- The number of a level; names count exactly as they stand in the table. -/
def LevelChoice.number : LevelChoice → Except Error Int
  | .numbered n => .ok n
  | .named name =>
    match levelNames.get? name with
    | some n => .ok n
    | none => .error (.unknownLevel name)

def LevelChoice.capitalized : LevelChoice → LevelChoice
  | .named name => .named (uppered name)
  | choice => choice

def levelWord (n : Int) : String :=
  if n = 50 then "CRITICAL"
  else if n = 40 then "ERROR"
  else if n = 30 then "WARNING"
  else if n = 20 then "INFO"
  else if n = 10 then "DEBUG"
  else if n = 0 then "NOTSET"
  else s!"Level {n}"

abbrev Loggers := Table Int

/-- The level of the logger with this name. A new one takes the level asked for, or the default. -/
def Loggers.open (loggers : Loggers) (name : String) (choice : Option LevelChoice) :
    Except Error (Loggers × Int) :=
  match loggers.get? name with
  | some level => .ok (loggers, level)
  | none => do
    let level ← (choice.getD (.numbered defaultLevel)).number
    return (loggers.insert name level, level)

def Loggers.setAll (loggers : Loggers) (choice : LevelChoice) : Except Error Loggers := do
  let level ← choice.capitalized.number
  return loggers.mapValues fun _ => level

/-- The least level that a logger of this level records; level zero leaves it to the root, which
records warnings. -/
def threshold (level : Int) : Int := if level = 0 then 30 else level

end LedgerFlow.Log
