import LedgerFlow.Spec.Decode
import LedgerFlow.Text.Encoding
import LedgerFlow.Text.Path
import LedgerFlow.Json.Literal
/-!
Where descriptions come from: JSON text, bytes that hold such text, the contents of a file, or a
value that is already read. Then the contract to compile is chosen; its name may be left out where
there is only one.
-/
namespace LedgerFlow

inductive FileContents where
  | missing
  | directory
  | bytes (bytes : List UInt8)

inductive Payload where
  | value (v : Json)
  | text (s : String)
  | bytes (bytes : List UInt8)
  | file (path : String) (contents : FileContents)

def readJson (malformed : Json.Fault → String → Nat → Error)
    (read : String → Except Json.Refusal Json) (s : String) : Except Error Json :=
  match read s with
  | .ok v => .ok v
  | .error (.fault fault remaining) => .error (malformed fault s remaining)
  | .error (.tooManyDigits count) => .error (.integerTooLong count)

def readJsonBytes (malformed : Json.Fault → String → Nat → Error) (bytes : List UInt8) :
    Except Error Json :=
  match Text.ofBytes? bytes with
  | some s => readJson malformed (fun s => Json.readChars s.toList) s
  | none => .error .undecodableBytes

def Payload.read : Payload → Except Error Json
  | .value (.text s) => readJson .malformedSpec Json.ofText s
  | .value (.object fields) => .ok (.object fields)
  | .value v => .error (.unsupportedPayload v.kindWord)
  | .text s => readJson .malformedSpec Json.ofText s
  | .bytes content => readJsonBytes .malformedSpec content
  | .file path .missing => .error (.unreadableFile (Text.normalPath path) false)
  | .file path .directory => .error (.unreadableFile (Text.normalPath path) true)
  | .file _ (.bytes content) =>
    match Text.ofFileBytes? content with
    | some s => readJson .malformedSpec Json.ofText s
    | none => .error .undecodableBytes

def Spec.parse (payload : Payload) : Except Error Spec := do
  let v ← payload.read
  if v.isObject then (Spec.decode v).toExcept .invalidSpec
  else .error (.specNotObject v.kindWord)

def Spec.select (spec : Spec) (name : Option String) : Except Error (String × Contract) :=
  match spec.contracts, name with
  | [], _ => .error .noContract
  | contracts, some name =>
    match contracts.get? name with
    | some c => .ok (name, c)
    | none => .error (.unknownContract name contracts.keys)
  | [only], none => .ok only
  | contracts, none => .error (.severalContracts contracts.keys)

end LedgerFlow
