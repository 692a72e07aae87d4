import Rota.Region.Fault
import Rota.Sync.Fault

namespace Rota.Log

inductive Fault
  | region (fault : Region.Fault)
  | primitive (fault : Sync.Fault)
  | file (error : OsError)
  deriving DecidableEq, Repr

def Fault.message : Fault → String
  | .region f => s!"log queue region: {f.message}"
  | .primitive f => s!"log queue primitive: {f.message}"
  | .file e => s!"log file I/O: {e.message}"

/-- The message of the fault, and those of what lies under it. -/
def Fault.chain (f : Fault) : List String :=
  f.message :: match f with
    | .region f => f.chain
    | .primitive f => f.chain
    | .file e => [e.message]

end Rota.Log
