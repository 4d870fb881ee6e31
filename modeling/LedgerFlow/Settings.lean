import LedgerFlow.Log.Level
import LedgerFlow.Spec.Decoded
import LedgerFlow.Text.Case
/-!
Settings of a compilation. Each is looked up among the values given for this compilation, then in
the environment under its prefixed name in any case, and has a default.
-/
namespace LedgerFlow
open Spec Spec.Decoder

inductive ArgumentStyle where
  | delimited
  | attributes
  deriving DecidableEq, Repr

def ArgumentStyle.word : ArgumentStyle → String
  | .delimited => "delimited"
  | .attributes => "attributes"

structure Settings where
  includeSchemas : Bool := true
  argumentStyle : ArgumentStyle := .delimited
  appModel : String := "1.1.1"
  triggerId : String := "fabric_transaction"
  maxRefPasses : Int := 10
  logLevel : String := "INFO"

namespace Settings

def environmentPrefix : String := "contract2flow_"

def decodeStyle : Decoder ArgumentStyle
  | .text "delimited" => .ok .delimited
  | .text "attributes" => .ok .attributes
  | _ => .fault .unknownArgumentStyle

def decodePasses : Decoder Int := fun v =>
  (integer v).obeying fun n => if n < 1 then some .belowOne else none

def fieldNames : List String :=
  ["include_schemas", "argument_style", "app_model", "trigger_id", "max_ref_passes", "log_level"]

/-- The environment by name in lower case; of names that differ in case only, the last counts. -/
def foldedEnvironment (environment : List (String × String)) : Table String :=
  .ofPairs (environment.map fun (name, value) => (Text.lowered name, value))

def sources (given : Table Json) (environment : List (String × String)) : Table Json :=
  let folded := foldedEnvironment environment
  fieldNames.filterMap fun name =>
    match given.get? name with
    | some v => some (name, v)
    | none => (folded.get? (environmentPrefix ++ name)).map fun value => (name, .text value)

def ofFields (f : Table Json) : Decoded Settings :=
  Settings.mk <$> defaulting f "include_schemas" flag true <*>
    defaulting f "argument_style" decodeStyle .delimited <*>
    defaulting f "app_model" text "1.1.1" <*>
    defaulting f "trigger_id" text "fabric_transaction" <*>
    defaulting f "max_ref_passes" decodePasses 10 <*> defaulting f "log_level" text "INFO"

def decode (given : Table Json) (environment : List (String × String)) : Decoded Settings :=
  ofFields (sources given environment)

def level (s : Settings) : Except Error Int := (Log.LevelChoice.named s.logLevel).capitalized.number

def toJson (s : Settings) : Json :=
  .object [("include_schemas", .bool s.includeSchemas),
    ("argument_style", .text s.argumentStyle.word), ("app_model", .text s.appModel),
    ("trigger_id", .text s.triggerId), ("max_ref_passes", .int s.maxRefPasses),
    ("log_level", .text s.logLevel)]

end Settings

end LedgerFlow
