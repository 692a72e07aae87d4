import Rota.World.Objects

namespace Rota.World

def ofLog {α : Type} : Except Region.Fault α → Act α
  | .ok a => pure a
  | .error f => throw (.log (.region f))

def openOrMakeQueue (name : String) : Act Region.Mapping := do
  let (answer, sp) := (← get).space.createAs name queueLayout fun sp _ => (sp, none)
  setSpace sp
  let (m, fresh) ← ofLog answer
  if fresh then setQueue m.cell ((← get).queue m.cell).init
  return m

def openQueue (name : String) : Act Region.Mapping := do
  ofLog ((← get).space.openAs name queueLayout)

def createQueue (label name : String) : Act Unit := do put label (.queue (← openOrMakeQueue name))

def attachQueue (label name : String) : Act Unit := do put label (.queue (← openQueue name))

def queueAt (label : String) : Act Region.Mapping := do return (← pick Object.queue? label).2

def tryPush (label : String) (r : Log.Record) : Act Bool := do
  onQueue (← queueAt label).cell (Log.Queue.tryPush r)

/-- Puts a record in, if there is room before the deadline. -/
def pushTimeout (label : String) (r : Log.Record) : Act Bool := do
  onQueue (← queueAt label).cell (Log.Queue.offer r)

def push (label : String) (r : Log.Record) : Act Unit := do
  if ← pushTimeout label r then return
  throw .blocks

def pop (label : String) : Act Log.Record := do
  match ← onQueue (← queueAt label).cell Log.Queue.pop with
  | some r => return r
  | none => throw .blocks

def popAll (label : String) : Act (List Log.Record) := do
  onQueue (← queueAt label).cell Log.Queue.popAll

structure QueueView where
  name : String
  pending : Nat
  dropped : UInt64

def QueueView.text (v : QueueView) : String :=
  s!"LogQueue \x7b name: {Text.quoted v.name}, dropped: {v.dropped} \x7d"

def viewQueue (label : String) : Act QueueView := do
  let m ← queueAt label
  let pending ← onQueue m.cell fun q => (q.pending, q)
  return ⟨m.name, pending, ((← get).queue m.cell).dropped⟩

def openProducer (label name : String) : Act Unit := do put label (.producer (← openQueue name))

def shareLogger (label logger : String) : Act Unit := do
  put label (.producer (← pick Object.logger? logger).2.queue)

/-- Tells a line, and answers whether it found room. -/
def tellTo (label text : String) : Act Bool := do
  let (_, m) ← pick Object.outlet? label
  tell m.cell text

def dropped (label : String) : Act UInt64 := do
  let (_, m) ← pick Object.outlet? label
  return ((← get).queue m.cell).dropped

def openLogger (queue : Region.Mapping) (path : String) (ownsName : Bool) : Act Logger := do
  match (← get).files.openToAppend path with
  | .error e => throw (.log (.file e))
  | .ok files =>
    modify ({ · with files })
    return { queue, path, ownsName }

/-- The first line of every log that comes with a queue of its own. -/
def banner (name : String) : String := s!"game log started (queue {name})"

/-- Starts a logger with a queue of its own. -/
def beginLog (name path : String) : Act Logger := do
  let queue ← openOrMakeQueue name
  let l ← openLogger queue path true
  let _ ← tell queue.cell (banner name)
  return l

def startLogger (label name path : String) : Act Logger := do
  let l ← beginLog name path
  put label (.logger l)
  return l

/-- Starts a logger on a queue that is there, which it takes over. -/
def spawnLogger (label queue path : String) : Act Logger := do
  let m ← queueAt queue
  take queue
  let l ← openLogger m path false
  put label (.logger l)
  return l

/-- Stops a logger and answers how many lines it has written. -/
def shutDown (label : String) : Act Nat := do
  let (_, l) ← pick Object.logger? label
  take label
  stop l

end Rota.World
