import LedgerFlow.Argument.Attribute
import LedgerFlow.Error
import LedgerFlow.Text.Blank
import LedgerFlow.Text.Case
import LedgerFlow.Text.Digit
import LedgerFlow.Text.Split
/-!
The arguments that the settings of a handler declare: a text of entries between commas, each a name
and perhaps a literal that tells its type, or a list of names and types.
-/
namespace LedgerFlow
open Text

namespace Argument

def hasDecimalPoint : List Char → Bool
  | c :: d :: rest => (isDecimal c && d = '.') || hasDecimalPoint (d :: rest)
  | _ => false

def literalType (literal : List Char) : String :=
  let word := lower literal
  if word = "true".toList || word = "false".toList then "boolean"
  else if hasDecimalPoint literal then "number"
  else if literal.any isDecimal then "integer"
  else "string"

/-- Name and literal of an entry; an entry without a name declares nothing. -/
def parseEntry (entry : List Char) : Option Attribute :=
  let (before, after) := splitFirst ':' (trim entry)
  let name := trim before
  if name.isEmpty then none
  else some { name := String.ofList name, type := literalType (trim after) }

def parseDelimited (text : String) : List Attribute :=
  (splitAll ',' (trim text.toList)).filterMap parseEntry

inductive Item where
  | ready (a : Attribute)
  | described (v : Json)

def fieldText (v : Json) (name : String) : Option String :=
  ((v.get? name).filter (·.isFilled)).map Json.plainText

def Item.attribute : Item → Except Error Attribute
  | .ready a => .ok a
  | .described (.object fields) =>
    let name := trimmed ((fieldText (.object fields) "name").getD "")
    if name = "" then .error (.argumentWithoutName (.object fields))
    else
      .ok { name, type := trimmed ((fieldText (.object fields) "type").getD "string") }
  | .described v => .error (.argumentNotObject v)

def parseItems : List Item → Except Error (List Attribute)
  | [] => .ok []
  | item :: rest => do
    let a ← item.attribute
    let rest ← parseItems rest
    return a :: rest

/-- What the members of a list of arguments are; a text has its characters, and an object its
names. -/
def members : Json → List Json
  | .array items => items
  | .text s => s.toList.map fun c => .text (String.singleton c)
  | .object fields => fields.map fun (name, _) => .text name
  | _ => []

def ofHandlerSettings (settings : Table Json) : Except Error (List Attribute) :=
  let delimited := parseDelimited (((settings.get? "parameters").bind (·.text?)).getD "")
  match settings.get? "arguments" with
  | none => .ok delimited
  | some .null => .ok delimited
  | some items => parseItems ((members items).map .described)

def parseIdentity (text : String) : List String :=
  (splitAll ',' (trim text.toList)).filterMap fun entry =>
    let name := trim entry
    if name.isEmpty then none else some (String.ofList name)

end Argument

end LedgerFlow
