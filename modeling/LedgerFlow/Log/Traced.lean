import LedgerFlow.Log.Level
/-!
Computations that leave log records and may fail. What is recorded before a failure stays, and
records never influence a result: the result of a sequence depends on the results of its parts only.
-/
namespace LedgerFlow

namespace Log

inductive Severity where
  | debug
  | info
  | warning
  | error
  deriving DecidableEq, Repr

def Severity.level : Severity → Int
  | .debug => 10
  | .info => 20
  | .warning => 30
  | .error => 40

inductive Component where
  | registry
  | steps
  | app
  | arguments
  deriving DecidableEq, Repr

structure Record where
  severity : Severity
  component : Component
  message : String
  deriving DecidableEq, Repr

def shown (level : Int) (records : List Record) : List Record :=
  records.filter fun r => threshold level ≤ r.severity.level

end Log

structure Traced (α : Type) where
  records : List Log.Record
  result : Except Error α

namespace Traced
variable {α β : Type}

instance : Monad Traced where
  pure a := ⟨[], .ok a⟩
  bind x f :=
    match x.result with
    | .error e => ⟨x.records, .error e⟩
    | .ok a => ⟨x.records ++ (f a).records, (f a).result⟩

def of (result : Except Error α) : Traced α := ⟨[], result⟩

instance : MonadLift (Except Error) Traced := ⟨of⟩

def fail (e : Error) : Traced α := ⟨[], .error e⟩

def record (severity : Log.Severity) (component : Log.Component) (message : String) : Traced Unit :=
  ⟨[⟨severity, component, message⟩], .ok ()⟩

/-- One more record if the computation fails for the contract. -/
def onError (x : Traced α) (record : Error → Log.Record) : Traced α :=
  match x.result with
  | .error e => ⟨if e.isForeign then x.records else x.records ++ [record e], .error e⟩
  | .ok a => ⟨x.records, .ok a⟩

@[simp] theorem result_pure (a : α) : (pure a : Traced α).result = .ok a := rfl

@[simp] theorem result_bind (x : Traced α) (f : α → Traced β) :
    (x >>= f).result = x.result >>= fun a => (f a).result := by
  obtain ⟨records, result⟩ := x
  cases result <;> rfl

@[simp] theorem result_of (r : Except Error α) : (of r).result = r := rfl

@[simp] theorem result_record (s : Log.Severity) (c : Log.Component) (m : String) :
    (record s c m).result = .ok () := rfl

@[simp] theorem result_onError (x : Traced α) (r : Error → Log.Record) :
    (x.onError r).result = x.result := by
  obtain ⟨records, result⟩ := x
  cases result <;> rfl

end Traced

end LedgerFlow
