import Rota.Sync.Fault

namespace Rota.Sync

structure Condition where
  ready : Bool := false
  deriving DecidableEq, Repr

namespace Condition

def init : Condition := ⟨true⟩

def check (c : Condition) : Except Fault Unit :=
  if c.ready then .ok () else .error (.uninitialised .condition)

def destroy (c : Condition) : Except Fault Condition := c.check.map fun _ => ⟨false⟩

end Condition
end Rota.Sync
