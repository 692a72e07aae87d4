import Rota.World.Objects

namespace Rota.World

/-- Whether an object whose region goes by the name of `m` holds the lock of its gate. -/
def lockHeld (w : World) (m : Region.Mapping) : Bool :=
  w.objects.entries.any fun (_, serial, o) =>
    o.laidOut?.any fun (n, _) =>
      Region.bareName? n.name = Region.bareName? m.name &&
        (w.gate n.cell).mutex.hold = .held serial

def gateView (o : Object) : Option Region.Mapping := do
  let (m, l) ← o.laidOut?
  if l = gateLayout then some m else none

def gateAt (label : String) : Act (Nat × Region.Mapping) := pick gateView label

/-- The gate under a label, for a call that would wait until nobody holds the lock. -/
def freeGate (label : String) : Act (Nat × Region.Mapping) := do
  let (serial, m) ← gateAt label
  if (← get).lockHeld m then throw .blocks
  return (serial, m)

def onMutex {α : Type} (cell : Nat) (step : Sync.Mutex.Step α) : Act α := do
  let g := (← get).gate cell
  let (answer, mutex) := step g.mutex
  setGate cell { g with mutex }
  ofSync answer

def onSemaphore {α : Type} (label : String) (step : Sync.Semaphore.Step α) : Act α := do
  let (_, m) ← gateAt label
  let g := (← get).gate m.cell
  let (answer, semaphore) := step g.semaphore
  setGate m.cell { g with semaphore }
  ofSync answer

namespace Mutex

def init (label : String) : Act Unit := do
  let (_, m) ← freeGate label
  onMutex m.cell Sync.Mutex.init

def lock (label : String) : Act Unit := do
  let (serial, m) ← freeGate label
  if ← onMutex m.cell (Sync.Mutex.lock serial) then return
  throw .blocks

def tryLock (label : String) : Act Bool := do
  let (serial, m) ← gateAt label
  onMutex m.cell (Sync.Mutex.tryLock serial)

def unlock (label : String) : Act Bool := do
  let (serial, m) ← gateAt label
  let g := (← get).gate m.cell
  let (held, mutex) := g.mutex.unlock serial
  setGate m.cell { g with mutex }
  return held

def destroy (label : String) : Act Unit := do
  let (_, m) ← freeGate label
  onMutex m.cell Sync.Mutex.destroy

def abandon (label : String) : Act Unit := do
  let (serial, m) ← freeGate label
  let _ ← onMutex m.cell (Sync.Mutex.lock serial)
  onMutex m.cell fun mutex => (.ok (), mutex.orphan serial)

/-- Somebody takes the lock, if it can be had, and fails, which lets go of it. -/
def failHolding (label : String) : Act Unit := do
  let (serial, m) ← freeGate label
  ignore (onMutex m.cell (Sync.Mutex.lock serial))
  onMutex m.cell fun mutex => (.ok (), (mutex.unlock serial).2)

/-- Some threads count the word up under the lock, each the given number of times; the word goes
round at its end. Answers the word. -/
def contend (label : String) (threads times : Nat) : Act UInt32 := do
  let (serial, m) ← freeGate label
  if threads * times ≠ 0 then
    let _ ← onMutex m.cell (Sync.Mutex.lock serial)
    onMutex m.cell fun mutex => (.ok (), (mutex.unlock serial).2)
    modify fun w => { w with
      space := w.space.setValue m.cell (w.space.value m.cell + .ofNat (threads * times)) }
  return (← get).space.value m.cell

end Mutex

namespace Condition

def checkAt (cell : Nat) : Act Unit := do ofSync ((← get).gate cell).condition.check

def init (label : String) : Act Unit := do
  let (_, m) ← gateAt label
  setGate m.cell { (← get).gate m.cell with condition := Sync.Condition.init }

def notify (label : String) : Act Unit := do checkAt (← gateAt label).2.cell

def destroy (label : String) : Act Unit := do
  let (_, m) ← gateAt label
  let g := (← get).gate m.cell
  let condition ← ofSync g.condition.destroy
  setGate m.cell { g with condition }

def heldGate (label : String) : Act Region.Mapping := do
  let (serial, m) ← gateAt label
  if ((← get).gate m.cell).mutex.hold = .held serial then return m else throw .lockNotHeld

/-- Waits until the deadline, as nobody notifies. -/
def waitTimeout (label : String) : Act Unit := do checkAt (← heldGate label).cell

/-- Waits until the word is `wanted`, which it is now or never. -/
def waitFor (label : String) (wanted : UInt32) : Act Unit := do
  let m ← heldGate label
  if (← get).space.value m.cell = wanted then return
  checkAt m.cell
  throw .blocks

/-- Hands a value to a thread that waits for it; the value stays in the word. -/
def handOff (label : String) (v : UInt32) : Act UInt32 := do
  let (serial, m) ← freeGate label
  let _ ← onMutex m.cell (Sync.Mutex.lock serial)
  onMutex m.cell fun mutex => (.ok (), (mutex.unlock serial).2)
  checkAt m.cell
  modify fun w => { w with space := w.space.setValue m.cell v }
  return v

end Condition

namespace Semaphore

def wait (label : String) : Act Unit := do
  if ← onSemaphore label Sync.Semaphore.tryWait then return
  throw .blocks

end Semaphore

end Rota.World
