import LedgerFlow.Error
/-!
The activities that the actions of a contract may use, by reference. What an activity can do is told
by its flags; nothing else depends on which one it is.
-/
namespace LedgerFlow

inductive ActivityKind where
  | get
  | put
  | delete
  | getHistory
  | endorsement
  | setEvent
  | invokeChaincode
  | noop
  | log
  | actReturn
  deriving DecidableEq, Repr

def ActivityKind.word : ActivityKind → String
  | .get => "get"
  | .put => "put"
  | .delete => "delete"
  | .getHistory => "gethistory"
  | .endorsement => "endorsement"
  | .setEvent => "setevent"
  | .invokeChaincode => "invokechaincode"
  | .noop => "noop"
  | .log => "log"
  | .actReturn => "actreturn"

def ActivityKind.all : List ActivityKind :=
  [.get, .put, .delete, .getHistory, .endorsement, .setEvent, .invokeChaincode, .noop, .log,
   .actReturn]

def ActivityKind.ofWord (word : String) : Except Error ActivityKind :=
  match ActivityKind.all.find? fun kind => kind.word = word with
  | some kind => .ok kind
  | none => .error (.unknownActivityKind word)

structure Activity where
  kind : ActivityKind
  ref : String
  /-- Several links without a condition may leave it. -/
  fansOut : Bool := false
  /-- It declares the shape of a result from the ledger. -/
  ledger : Bool := false
  /-- Its input mapping becomes its `mappings` setting. -/
  returnsMappings : Bool := false
  deriving DecidableEq, Repr

def Activity.sequencePrefix (a : Activity) : String :=
  String.ofList (a.ref.toList.dropWhile (· = '#'))

def noopRef : String := "#noop"

abbrev Activities := Table Activity

namespace Activities

def register (activities : Activities) (a : Activity) : Activities := activities.insert a.ref a

def ofList (definitions : List Activity) : Activities := definitions.foldl register []

def builtin : Activities := ofList
  [{ kind := .get, ref := "#get", ledger := true },
   { kind := .put, ref := "#put", ledger := true },
   { kind := .delete, ref := "#delete", ledger := true },
   { kind := .getHistory, ref := "#gethistory" },
   { kind := .endorsement, ref := "#endorsement" },
   { kind := .setEvent, ref := "#setevent" },
   { kind := .invokeChaincode, ref := "#invokechaincode" },
   { kind := .noop, ref := noopRef, fansOut := true },
   { kind := .log, ref := "#log", fansOut := true },
   { kind := .actReturn, ref := "#actreturn", returnsMappings := true }]

def find (activities : Activities) (ref : String) : Except Error Activity :=
  match activities.get? ref with
  | some a => .ok a
  | none => .error (.unknownActivity ref)

def noop (activities : Activities) : Except Error Activity := activities.find noopRef

end Activities

end LedgerFlow
