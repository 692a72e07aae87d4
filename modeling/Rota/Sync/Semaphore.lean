import Rota.Sync.Fault

namespace Rota.Sync

/-- A counting semaphore; memory that is still zero holds none that is ready. -/
structure Semaphore where
  ready : Bool := false
  value : Nat := 0
  deriving DecidableEq, Repr

namespace Semaphore

def most : Nat := UInt32.size / 2 - 1

abbrev Step (α : Type) := Semaphore → Except Fault α × Semaphore

def guarded {α : Type} (step : Step α) : Step α := fun s =>
  if s.ready then step s else (.error (.uninitialised .semaphore), s)

/-- Starts over with the value `n`, ready or not. -/
def init (n : UInt32) : Step Unit := fun s =>
  if n.toNat ≤ most then (.ok (), ⟨true, n.toNat⟩) else (.error (.os "sem_init" .invalid), s)

def post : Step Unit := guarded fun s =>
  if s.value < most then (.ok (), { s with value := s.value + 1 })
  else (.error (.os "sem_post" .overflow), s)

/-- Counts down and answers whether there was anything to count down from. A wait with a deadline
does the same: nobody posts in the meantime. -/
def tryWait : Step Bool := guarded fun s =>
  if s.value = 0 then (.ok false, s) else (.ok true, { s with value := s.value - 1 })

def get : Step Nat := guarded fun s => (.ok s.value, s)

def destroy : Step Unit := guarded fun s => (.ok (), { s with ready := false })

end Semaphore
end Rota.Sync
