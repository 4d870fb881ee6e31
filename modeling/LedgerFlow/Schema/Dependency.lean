import LedgerFlow.Schema.Reference
/-!
Which documents refer to which. The search for a cycle goes depth first through the documents in
order, never twice into one that is done.
-/
namespace LedgerFlow.Schema

abbrev Dependencies := Table (List String)

def dependencies (documents : Table Json) : Dependencies := documents.mapValues collectRefs

def Dependencies.of (deps : Dependencies) (key : String) : List String := (deps.get? key).getD []

def checkTargets (documents : Table Json) : List String → Except Error Unit
  | [] => .ok ()
  | key :: rest => do
    let _ ← resolve documents (.text key)
    checkTargets documents rest

mutual

/-- The keys done after a visit to `key`, which is reached by way of `path`. `left` bounds how much
longer the way can get. -/
def visit (deps : Dependencies) : Nat → List String → List String → String →
    Except Error (List String)
  | 0, _, done, _ => .ok done
  | left + 1, path, done, key => do
    let done ← visitAll deps left (path ++ [key]) done (deps.of key)
    return key :: done

def visitAll (deps : Dependencies) : Nat → List String → List String → List String →
    Except Error (List String)
  | _, _, done, [] => .ok done
  | left, path, done, target :: rest =>
    if path.contains target then .error (cycleError path target)
    else if done.contains target then visitAll deps left path done rest
    else do
      let done ← visit deps left path done target
      visitAll deps left path done rest

end

def checkCycles (documents : Table Json) : Except Error Unit := do
  let deps := dependencies documents
  checkTargets documents (deps.flatMap (·.2))
  let _ ← visitAll deps documents.length [] [] deps.keys
  return ()

end LedgerFlow.Schema
