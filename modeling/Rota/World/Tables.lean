import Rota.World.Logs

namespace Rota.World

def ofTable {α : Type} : Except Table.Fault α → Act α
  | .ok a => pure a
  | .error f => throw (.table f)

def ofGame {α : Type} (answer : Except Game.Fault α) : Act α := ofTable (answer.mapError .game)

def storeAt (label : String) : Act Score.Store := do
  match (← get).stores.get? label with
  | some s => return s
  | none => throw (.missing label)

/-- Saves a board, and answers what becomes of the store. -/
def saveIn (s : Score.Store) (b : Score.Board) : Act Score.Store := do
  let (s, files) ← ofTable ((s.save (← get).files b).mapError .store)
  modify ({ · with files })
  return s

def saveBoard (store : String) (b : Score.Board) : Act Unit := do
  let s ← saveIn (← storeAt store) b
  modify fun w => { w with stores := w.stores.set store s }

def loadBoard (s : Score.Store) : Act (Option Score.Board) := do
  ofTable ((s.load (← get).files).mapError .store)

def setUpTable (cell : Nat) (rules : Rules) (saved : Option Score.Board) : StateM World Unit :=
  modify fun w => { w with
    games := w.games.set cell (((w.games.get? cell).getD .blank).setUp rules saved) }

/-- Maps the table of that name; one that does not exist is made and set up by `rules`, which have
to be valid in any case. -/
def openOrMakeTable (name : String) (rules : Rules) (saved : Option Score.Board) :
    Act Region.Mapping := do
  match rules.fault? with
  | some f => throw (.table (.rules f))
  | none => pure ()
  let (answer, sp) := (← get).space.createAs name tableLayout fun sp _ => (sp, none)
  setSpace sp
  let (m, fresh) ← ofTable (answer.mapError .region)
  if fresh then setUpTable m.cell rules saved
  return m

def openTable (name : String) : Act Region.Mapping := do
  ofTable (((← get).space.openAs name tableLayout).mapError .region)

def game (w : World) (cell : Nat) : Game := (w.games.get? cell).getD .blank

/-- The table's game for a call that takes its lock. -/
def lockedGame (cell : Nat) : Act Game := do
  match (← get).games.get? cell with
  | some g => return g
  | none => throw (.table (.uninitialised .mutex))

def setGame (cell : Nat) (g : Game) : StateM World Unit :=
  modify fun w => { w with games := w.games.set cell g }

def seatStation (label : String) (table : Region.Mapping) (store log : Option String) :
    Act Unit := do
  let log ← log.mapM openQueue
  put label (.station { table, store, log })

def createTable (label name : String) (rules : Rules) (store : Option String) (load : Bool)
    (log : Option String) : Act Unit := do
  let saved ← match ← store.mapM storeAt with
    | some s => if load then loadBoard s else pure none
    | none => pure none
  seatStation label (← openOrMakeTable name rules saved) store log

def attachTable (label name : String) (store log : Option String) : Act Unit := do
  let _ ← store.mapM storeAt
  seatStation label (← openTable name) store log

def stationAt (label : String) : Act Station := do return (← pick Object.station? label).2

def stationText (name : String) (g : Game) : String :=
  s!"TurnCoordinator \x7b region: {Text.quoted name}, status: {g.phase.text} \x7d"

/-- The game at a station, for looking at without its lock. -/
def gameAt (label : String) : Act Game := do
  let s ← stationAt label
  return (← get).game s.table.cell

/-- The scores of a table, for which its lock is taken. -/
def board (s : Station) : Act Score.Board := do return (← lockedGame s.table.cell).scores.toBoard

/-- Saves the scores in the store of the station, if it has one. -/
def keepScores (s : Station) : Act Unit := do
  match s.store with
  | some store => saveBoard store (← board s)
  | none => pure ()

def announce (s : Station) (events : List Event) : StateM World Unit :=
  match s.log with
  | some log => events.forM fun e => do let _ ← tell log.cell e.text
  | none => pure ()

/-- All who wait at the table of a station are to look at it, if a call there woke everyone. -/
def rouse (s : Station) (r : Game.Reply Game.Done) : StateM World Unit :=
  modify fun w => { w with
    waiters := w.waiters.map fun x =>
      if r.woke && x.cell = s.table.cell then { x with roused := true } else x }

/-- What comes with a call at a station: those who wait are roused if need be, events are told to
its log, and the scores of a game that ends are kept, as far as they can be. -/
def follow (s : Station) (r : Game.Reply Game.Done) : StateM World Unit := do
  rouse s r
  announce s r.events
  if r.ended then ignore (keepScores s)

def playAt (s : Station) (call : Game.Call) : Act Game.Done := do
  let r := (← lockedGame s.table.cell).perform call
  setGame s.table.cell r.game
  follow s r
  ofGame r.answer

def play (label : String) (call : Game.Call) : Act Game.Done := do playAt (← stationAt label) call

/-- What a move of `seat` is shown, if it may move at all. -/
def shown (label : String) (seat : Nat) : Act (Option Purse) := do
  let s ← stationAt label
  match (← get).games.get? s.table.cell with
  | some g => return (g.mover seat).toOption.map Seat.purse
  | none => return none

def waitTurn (label : String) (seat : Nat) : Act Game.Wake := do
  let g ← lockedGame (← stationAt label).table.cell
  let _ ← ofGame (g.seated seat)
  match g.wake? seat with
  | some wake => return wake
  | none => throw .blocks

/-- Takes the signal of `seat` at a station, and answers whether it was up. -/
def takeAt (s : Station) (seat : Nat) : Act Bool := do
  let (up, g) ← ofGame (((← get).game s.table.cell).takeSignal seat)
  if up then setGame s.table.cell g
  return up

def takeSignal (label : String) (seat : Nat) : Act Bool := do takeAt (← stationAt label) seat

def waitSignal (label : String) (seat : Nat) : Act Unit := do
  if ← takeSignal label seat then return
  throw .blocks

def isOver (label : String) : Act Bool := do
  return (← lockedGame (← stationAt label).table.cell).isOver

def scores (label : String) : Act Score.Board := do board (← stationAt label)

def saveScores (label : String) : Act Unit := do keepScores (← stationAt label)

/-- The game at a station, looked at under its lock. -/
def snapshot (label : String) : Act Game := do lockedGame (← stationAt label).table.cell

/-- Passes the turn on again and again until the game is over or nobody can take the turn. Answers
how often it was passed on. -/
def tickUpTo (s : Station) : Nat → StateM World Nat
  | 0 => return 0
  | limit + 1 => do
    match ← (playAt s .advance).run with
    | .ok (.turn (.next _)) => return (← tickUpTo s limit) + 1
    | .ok _ => return 1
    | .error _ => return 0

/-- Lets the turn pass by itself until the game is over. Answers how often it was passed on. -/
def tick (label : String) : Act Nat := do
  let s ← stationAt label
  let g := (← get).game s.table.cell
  if g.phase = .playing then tickUpTo s g.movesLeft else return 0

end Rota.World
