import Rota.Sync.Fault

namespace Rota.Sync

/-- A lock of the operating system that outlives its holder. -/
inductive Hold
  | free
  | held (who : Nat)
  /-- The holder died without unlocking. -/
  | orphaned
  /-- Taken over from a dead holder, and not repaired. -/
  | unrepaired (who : Nat)
  /-- Let go of without being repaired: nobody gets it any more. -/
  | lost
  deriving DecidableEq, Repr

namespace Hold

/-- Takes the lock unless somebody alive has it. A call that may wait waits as long as it is busy,
and goes by the same codes. -/
def take (who : Nat) : Hold → Option OsError × Hold
  | .free => (none, .held who)
  | .orphaned => (some .ownerDead, .unrepaired who)
  | .lost => (some .notRecoverable, .lost)
  | h => (some .busy, h)

/-- Declares what the lock protects consistent again, after its holder died. -/
def repair : Hold → Option OsError × Hold
  | .unrepaired who => (none, .held who)
  | h => (some .invalid, h)

def release (who : Nat) (h : Hold) : Bool × Hold :=
  if h = .held who then (true, .free)
  else if h = .unrepaired who then (true, .lost)
  else (false, h)

def afterDeath (who : Nat) (h : Hold) : Hold :=
  if h = .held who ∨ h = .unrepaired who then .orphaned else h

end Hold

/-- A lock that the next one to come recovers if its holder dies. -/
structure Mutex where
  ready : Bool := false
  hold : Hold := .free
  deriving DecidableEq, Repr

namespace Mutex

abbrev Step (α : Type) := Mutex → Except Fault α × Mutex

def guarded {α : Type} (step : Step α) : Step α := fun m =>
  if m.ready then step m else (.error (.uninitialised .mutex), m)

def init : Step Unit := fun _ => (.ok (), ⟨true, .free⟩)

def check (call : String) : Option OsError → Except Fault Unit
  | none => .ok ()
  | some e => .error (.os call e)

/-- What to make of the code by which the system has answered the call for the lock. -/
def acquired (call : String) (code : Option OsError) : Step Unit := fun m =>
  if code = some .ownerDead then
    let (code, hold) := m.hold.repair
    (check "pthread_mutex_consistent" code, { m with hold })
  else (check call code, m)

/-- Calls for the lock on behalf of `who`, and answers whether it was free to have. -/
def take (call : String) (who : Nat) : Step Bool := guarded fun m =>
  let (code, hold) := m.hold.take who
  if code = some .busy then (.ok false, m)
  else
    let (answer, m) := acquired call code { m with hold }
    (answer.map fun _ => true, m)

/-- Locks, unless it has to wait for somebody. -/
def lock : Nat → Step Bool := take "pthread_mutex_lock"

def tryLock : Nat → Step Bool := take "pthread_mutex_trylock"

def unlock (who : Nat) (m : Mutex) : Bool × Mutex :=
  let (had, hold) := m.hold.release who
  (had, { m with hold })

def orphan (who : Nat) (m : Mutex) : Mutex := { m with hold := m.hold.afterDeath who }

def destroy : Step Unit := guarded fun m => (.ok (), { m with ready := false })

end Mutex
end Rota.Sync
