import Rota.Rules.Document
import Rota.World.Basic

namespace Rota.Service

inductive Task
  | removeLeftover (name : String)
  | startLog (path : String)
  | loadScores (path : String)
  | createGame
  | saveScores (path : String)
  | stopLog
  | attachGame (name : String)
  deriving DecidableEq, Repr

def Task.message : Task → String
  | .removeLeftover name => s!"remove leftover region {name}"
  | .startLog path => s!"start game log at {path}"
  | .loadScores path => s!"load scores from {path}"
  | .createGame => "create game region"
  | .saveScores path => s!"save scores to {path}"
  | .stopLog => "stop game log"
  | .attachGame name => s!"attach game region {name}"

inductive Cause
  | rules (fault : Rules.DocumentFault)
  | world (fault : World.Fault)
  /-- The game has not come to its end. -/
  | gameTimeout
  /-- A simulation for so many players. -/
  | players (got : UInt64)
  | simulationTimeout (secs : UInt64)
  | hostExit (code : Nat)
  | playersFailed (count : Nat)
  deriving DecidableEq, Repr

def Cause.chain : Cause → List String
  | .rules f => [Table.invalidArgument f.message]
  | .world f => f.chain
  | .gameTimeout => ["game did not finish in time"]
  | .players got => [s!"--players must be within {fewestPlayers}..={mostSeats}, got {got}"]
  | .simulationTimeout secs => [s!"simulation did not finish within {secs}s"]
  | .hostExit code => [s!"host exited with exit status: {code}"]
  | .playersFailed count => [s!"{count} player process(es) failed"]

structure Failure where
  task : Option Task := none
  cause : Cause
  deriving DecidableEq, Repr

/-- All messages, from what the service was about down to what lies under it. -/
def Failure.chain (f : Failure) : List String :=
  (f.task.map Task.message).toList ++ f.cause.chain

abbrev Act := ExceptT Failure (StateM World)

/-- Does a call on the world for a task. -/
def attempt {α : Type} (task : Option Task) (act : World.Act α) : Act α := do
  match ← (act.run : StateM World _) with
  | .ok a => return a
  | .error f => throw ⟨task, .world f⟩

/-- What a service leaves behind: what it has printed, and why it has failed, if it has. -/
structure Outcome where
  printed : String := ""
  failure : Option Failure := none
  deriving DecidableEq, Repr

def logName (game : String) : String := s!"{game}_log"

end Rota.Service
