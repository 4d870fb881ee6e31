import LedgerFlow.Json.Basic
import LedgerFlow.Number.FloatText
import LedgerFlow.Text.Quoted
import LedgerFlow.Text.Split
/-!
Values as they stand in messages: quoted text, `True`, `False` and `None`, and brackets around what
a container holds.
-/
namespace LedgerFlow.Json
open Number Text

mutual

def literal : Json → String
  | .null => "None"
  | .bool true => "True"
  | .bool false => "False"
  | .int n => String.ofList (decimalText n)
  | .float x => String.ofList (x.text .message)
  | .text s => quoted s
  | .array items => "[" ++ join ", " (literals items) ++ "]"
  | .object fields => "\x7b" ++ join ", " (literalFields fields) ++ "\x7d"

def literals : List Json → List String
  | [] => []
  | v :: rest => literal v :: literals rest

def literalFields : List (String × Json) → List String
  | [] => []
  | (name, v) :: rest => (quoted name ++ ": " ++ literal v) :: literalFields rest

end

def plainText : Json → String
  | .text s => s
  | v => literal v

def kindWord : Json → String
  | .null => "NoneType"
  | .bool _ => "bool"
  | .int _ => "int"
  | .float _ => "float"
  | .text _ => "str"
  | .array _ => "list"
  | .object _ => "dict"

end LedgerFlow.Json
