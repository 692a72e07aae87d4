import Rota.Cli.Command
import Rota.Service.Failure
import Rota.Service.Report
import Rota.World.Regions
import Rota.World.Waiters

namespace Rota.Service.Host

open Cli (HostOptions)

def stationLabel (game : String) : String := s!"host of {game}"

def loggerLabel (game : String) : String := s!"logger of {game}"

def removeLeftover (name : String) : Act Unit := do
  match (← get).space.remove name with
  | .ok sp => World.setSpace sp
  | .error (.notFound _) => return
  | .error f => throw ⟨some (.removeLeftover name), .world (.region f)⟩

def leave (o : HostOptions) : StateM World Unit := do
  World.ignore (World.drop (stationLabel o.name))
  World.ignore (World.drop (loggerLabel o.name))

def takeStation (o : HostOptions) (rules : Rules) (queue : Region.Mapping) : Act Unit := do
  let saved ← attempt (some (.loadScores o.scoresFile)) (World.loadBoard (.file o.scoresFile))
  let table ← attempt (some .createGame) (World.openOrMakeTable o.name rules saved)
  World.put (stationLabel o.name) (.station { table, log := some queue })

/-- Opens the game: its log comes first, so that whoever finds the game finds the log. -/
def begin (o : HostOptions) : Act Rules := do
  let rules ← match o.rules.resolve (← get).files with
    | .ok r => pure r
    | .error f => throw ⟨none, .rules f⟩
  if o.reset then
    removeLeftover o.name
    removeLeftover (logName o.name)
  let logger ← attempt (some (.startLog o.logFile))
    (World.startLogger (loggerLabel o.name) (logName o.name) o.logFile)
  try takeStation o rules logger.queue
  catch f =>
    leave o
    throw f
  return rules

def conclude (o : HostOptions) : Act (Option String) := do
  let station := stationLabel o.name
  if ← attempt none (World.isOver station) then
    let board ← attempt none (World.scores station)
    let _ ← attempt (some (.saveScores o.scoresFile)) (World.saveIn (.file o.scoresFile) board)
    return some (report (← attempt none (World.snapshot station)) board)
  else return none

def shutDown (o : HostOptions) : Act Unit := do
  let _ ← attempt (some .stopLog) (World.shutDown (loggerLabel o.name))
  attempt none (World.destroy (stationLabel o.name))

/-- Ends the service. A game that is not over by now is given up. -/
def finish (o : HostOptions) (rules : Rules) : StateM World Outcome := do
  if rules.tickMillis.isSome then World.ignore (World.tick (stationLabel o.name))
  match ← (conclude o).run with
  | .error f =>
    leave o
    return { failure := f }
  | .ok printed =>
    let text := printed.getD ""
    match ← (shutDown o).run with
    | .error f =>
      leave o
      return ⟨text, f⟩
    | .ok () => return ⟨text, if printed.isNone then some ⟨none, .gameTimeout⟩ else none⟩

/-- Hosts a game while others play. Answers what comes of their play, if there is a game at all. -/
def run {α : Type} (o : HostOptions) (play : StateM World α) :
    StateM World (Option α × Outcome) := do
  match ← (begin o).run with
  | .error f => return (none, { failure := f })
  | .ok rules =>
    let played ← play
    return (some played, ← finish o rules)

end Rota.Service.Host
