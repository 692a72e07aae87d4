import Rota.Service.Simulation

namespace Rota.Service

open Cli (Environment)

/-- Removes the regions that the pattern stands for, and prints their names. -/
def cleanUp (pattern : String) : StateM World Outcome := do
  match ← ((World.cleanNames pattern).run : StateM World _) with
  | .ok names => return { printed := String.join (names.map (· ++ "\n")) }
  | .error f => return { failure := some ⟨none, .world f⟩ }

def soleStation : String := "station"

/-- Runs the program on a command line. The dice are numbered, a player has one of them. -/
def runProgram (env : Environment) (process : String) (dice : Nat → Dice.Source)
    (args : List String) : StateM World Ending := do
  match Cli.parse env args with
  | .error f => return .ofFault env f
  | .ok ⟨_, .host o⟩ => return .ofOutcome (← Host.run o (pure ())).2
  | .ok ⟨_, .player o⟩ =>
    let p ← Player.enter soleStation process (dice 0) o
    return .ofOutcome (← p.advance).outcome
  | .ok ⟨_, .simulate o⟩ => Simulation.run env process dice o
  | .ok ⟨_, .cleanShm pattern⟩ => return .ofOutcome (← cleanUp pattern)

end Rota.Service
