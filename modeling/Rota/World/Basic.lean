import Rota.Game.Call
import Rota.Log.Fault
import Rota.Log.Queue
import Rota.Region.Layout
import Rota.Sync.Condition
import Rota.Sync.Mutex
import Rota.Table.Fault

namespace Rota

/-- What a gate region holds beside its word: one primitive of each kind. -/
structure Gate where
  mutex : Sync.Mutex := {}
  condition : Sync.Condition := {}
  semaphore : Sync.Semaphore := {}
  deriving DecidableEq, Repr

structure Logger where
  queue : Region.Mapping
  path : String
  written : Nat := 0
  /-- Whether no marker has come yet. -/
  reading : Bool := true
  /-- Whether the name of the queue goes when the logger is shut down. -/
  ownsName : Bool
  deriving DecidableEq, Repr

structure Station where
  table : Region.Mapping
  /-- The store that the scores are kept in by this station. -/
  store : Option String := none
  /-- The queue that events are told to. -/
  log : Option Region.Mapping := none
  deriving DecidableEq, Repr

inductive Object
  | region (m : Region.Mapping)
  | laidOut (m : Region.Mapping) (l : Region.Layout)
  | queue (m : Region.Mapping)
  | producer (queue : Region.Mapping)
  | logger (l : Logger)
  | station (s : Station)
  deriving DecidableEq, Repr

namespace Object

def region? : Object → Option Region.Mapping
  | .region m => some m
  | _ => none

def laidOut? : Object → Option (Region.Mapping × Region.Layout)
  | .laidOut m l => some (m, l)
  | _ => none

def queue? : Object → Option Region.Mapping
  | .queue m => some m
  | _ => none

def logger? : Object → Option Logger
  | .logger l => some l
  | _ => none

def outlet? : Object → Option Region.Mapping
  | .producer m => some m
  | .logger l => some l.queue
  | _ => none

def station? : Object → Option Station
  | .station s => some s
  | _ => none

end Object

structure Waiter where
  label : String
  cell : Nat
  seat : Nat
  /-- Whether they have still to look at the table: on arrival, and each time that all who wait
  there are roused. -/
  roused : Bool := true
  deriving DecidableEq, Repr

/-- All regions and what lies in them, the scratch files, and everything that maps or waits. -/
structure World where
  space : Region.Space := {}
  /-- What memory holds when it is taken for a gate, by the number of the memory. -/
  gates : Register Nat Gate := {}
  queues : Register Nat Log.Queue := {}
  /-- The tables that have been set up. -/
  games : Register Nat Game := {}
  files : Files := {}
  stores : Register String Score.Store := {}
  /-- The objects under their labels, each with a number of its own. -/
  objects : Register String (Nat × Object) := {}
  /-- How many objects there have been. -/
  made : Nat := 0
  waiters : List Waiter := []

namespace World

/-- The process that everything in the world belongs to. -/
def pid : UInt32 := 2

/-- The time that lines are written at. -/
def now : Int64 := 0

/-- A gate has room for its primitives behind its word. -/
def gateLayout : Region.Layout := ⟨1, 176⟩
def queueLayout : Region.Layout := ⟨1, 10696⟩
def tableLayout : Region.Layout := ⟨1, 816⟩

inductive Fault
  /-- There is no object of that label, or none that the call is for. -/
  | missing (label : String)
  | outOfRange
  | lockNotHeld
  /-- The call would wait for ever. -/
  | blocks
  | region (fault : Region.Fault)
  | sync (fault : Sync.Fault)
  | log (fault : Log.Fault)
  | table (fault : Table.Fault)
  deriving DecidableEq, Repr

/-- The message of the fault, and those of what lies under it; what lies under the fault of a table
is not told. -/
def Fault.chain : Fault → List String
  | .missing label => [s!"no such object {label}"]
  | .outOfRange => ["out of range"]
  | .lockNotHeld => ["lock not held"]
  | .blocks => ["nothing will end the wait"]
  | .region f => f.chain
  | .sync f => f.chain
  | .log f => f.chain
  | .table f => [f.message]

/-- A call on the world, which may change it even if it fails. -/
abbrev Act := ExceptT Fault (StateM World)

/-- Does a call whose failure changes nothing for the caller. -/
def ignore {α : Type} (act : Act α) : StateM World Unit := do
  let _ ← (act.run : StateM World (Except Fault α))

def ofRegion {α : Type} : Except Region.Fault α → Act α
  | .ok a => pure a
  | .error f => throw (.region f)

def ofSync {α : Type} : Except Sync.Fault α → Act α
  | .ok a => pure a
  | .error f => throw (.sync f)

def gate (w : World) (cell : Nat) : Gate := (w.gates.get? cell).getD {}

def queue (w : World) (cell : Nat) : Log.Queue := (w.queues.get? cell).getD {}

def setGate (cell : Nat) (g : Gate) : StateM World Unit :=
  modify fun w => { w with gates := w.gates.set cell g }

def setSpace (sp : Region.Space) : StateM World Unit := modify ({ · with space := sp })

def setQueue (cell : Nat) (q : Log.Queue) : StateM World Unit :=
  modify fun w => { w with queues := w.queues.set cell q }

def onQueue {α : Type} (cell : Nat) (step : Log.Queue.Step α) : Act α := do
  let (answer, q) := step ((← get).queue cell)
  setQueue cell q
  match answer with
  | .ok a => return a
  | .error f => throw (.log (.primitive f))

/-- Tells a line to a queue; a line that cannot be told is lost. Says whether it was told. -/
def tell (cell : Nat) (text : String) : StateM World Bool := do
  match ← (onQueue cell (Log.Queue.tryPush (.message pid now text))).run with
  | .ok told => return told
  | .error _ => return false

end World
end Rota
