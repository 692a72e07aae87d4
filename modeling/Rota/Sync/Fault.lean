import Rota.OsError

namespace Rota.Sync

inductive Primitive
  | mutex
  | condition
  | semaphore
  deriving DecidableEq, Repr

def Primitive.name : Primitive → String
  | .mutex => "mutex"
  | .condition => "condition variable"
  | .semaphore => "semaphore"

inductive Fault
  | uninitialised (primitive : Primitive)
  | os (call : String) (error : OsError)
  deriving DecidableEq, Repr

def Fault.message : Fault → String
  | .uninitialised p => s!"{p.name} used before initialisation in a shared region"
  | .os call error => s!"{call} failed: {error.message}"

/-- The message of the fault, and that of what lies under it. -/
def Fault.chain (f : Fault) : List String :=
  f.message :: match f with
    | .uninitialised _ => []
    | .os _ error => [error.message]

end Rota.Sync
