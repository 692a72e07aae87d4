import Rota.Service.Ending
import Rota.Service.Host
import Rota.Service.Player

namespace Rota.Service.Simulation

open Cli (SimulateOptions RuleOptions Environment)

/-! The processes of a simulation: a host and its players. -/

/-- The game that is played; without a name it goes by the process. -/
def gameName (o : SimulateOptions) (process : String) : String :=
  o.name.getD s!"{Cli.programName}_sim_{process}"

/-- The rules for the host, who waits for every player. -/
def hostRules (o : SimulateOptions) : RuleOptions := { o.rules with minPlayers := some o.players }

def hostArgs (game : String) (o : SimulateOptions) : List String :=
  ["host", "--name", game, "--log-file", o.logFile, "--scores-file", o.scoresFile, "--reset",
    "--timeout-secs", toString o.timeoutSecs] ++ (hostRules o).toArgs

def playerName (i : Nat) : String := s!"sim-{i}"

def playerArgs (game : String) (i : Nat) : List String :=
  ["player", "--name", game, "--player-name", playerName i]

def playersFault? (o : SimulateOptions) : Option Failure :=
  if o.players.toNat < fewestPlayers ∨ mostSeats < o.players.toNat then
    some ⟨none, .players o.players⟩
  else none

def children (game : String) (o : SimulateOptions) : List (List String) :=
  hostArgs game o :: (List.range o.players.toNat).map (playerArgs game)

/-- Why a simulation has failed whose processes exit with these codes, if it has. -/
def verdict (host : Nat) (players : List Nat) : Option Failure :=
  if host ≠ 0 then some ⟨none, .hostExit host⟩
  else
    match players.countP (· ≠ 0) with
    | 0 => none
    | count => some ⟨none, .playersFailed count⟩

/-! A simulation within one world. -/

/-- A player's process: where the player stands, unless the arguments are at fault. -/
abbrev Child := Except Cli.Fault Progress

def Child.ending (env : Environment) : Child → Ending
  | .ok p => .ofOutcome p.outcome
  | .error f => .ofFault env f

/-- Whether the player would have waited longer for the game. -/
def Child.lingers : Child → Bool
  | .ok (.done { failure := some ⟨some (.attachGame _), .world (.table f)⟩, .. }) => f.recoverable
  | _ => false

def stationLabel (i : Nat) : String := s!"station of {playerName i}"

def enter (env : Environment) (process : String) (dice : Dice.Source) (game : String) (i : Nat) :
    StateM World Child := do
  match Cli.parse env (playerArgs game i) with
  | .error f => return .error f
  | .ok ⟨_, .player o⟩ => return .ok (← Player.enter (stationLabel i) process dice o)
  | .ok _ => return .ok (.done {})

/-- Lets a player play on, and the logs be written. -/
def advance (c : Child) : StateM World Child := do
  match c with
  | .error f => return .error f
  | .ok p =>
    let p ← p.advance
    World.runLoggers
    return .ok p

def playRounds : Nat → List Child → StateM World (List Child)
  | 0, cs => return cs
  | count + 1, cs => do playRounds count (← cs.mapM advance)

/-- The moves after which the game at a label is over at the latest. -/
def movesLeft (label : String) : StateM World Nat := do
  match ← ((World.gameAt label).run : StateM World _) with
  | .ok g => return g.movesLeft
  | .error _ => return 0

def play (env : Environment) (process : String) (dice : Nat → Dice.Source) (game : String)
    (players : Nat) : StateM World (List Child) := do
  let cs ← (List.range players).mapM fun i => enter env process (dice i) game i
  playRounds ((← movesLeft (stationLabel 0)) + 1) cs

/-- Runs the host with its players, and the players alone if there is no game. -/
def runAll (env : Environment) (process : String) (dice : Nat → Dice.Source) (game : String)
    (o : SimulateOptions) : StateM World (Ending × List Child) := do
  let players := play env process dice game o.players.toNat
  let alone := fun host : Ending => do return (host, ← players)
  match Cli.parse env (hostArgs game o) with
  | .error f => alone (.ofFault env f)
  | .ok ⟨_, .host h⟩ =>
    match ← Host.run h players with
    | (some cs, outcome) => return (.ofOutcome outcome, cs)
    | (none, outcome) => alone (.ofOutcome outcome)
  | .ok _ => alone {}

/-- The milliseconds that a player waits for the game. -/
def patience : Nat := 5000

def run (env : Environment) (process : String) (dice : Nat → Dice.Source) (o : SimulateOptions) :
    StateM World Ending := do
  match playersFault? o with
  | some f => return .ofOutcome { failure := f }
  | none =>
    if o.timeoutSecs = 0 then
      return .ofOutcome { failure := some ⟨none, .simulationTimeout o.timeoutSecs⟩ }
    let (host, cs) ← runAll env process dice (gameName o process) o
    let late := cs.any Child.lingers ∧ o.timeoutSecs.toNat * 1000 ≤ patience
    let endings := cs.map (Child.ending env)
    let failure := if late then some ⟨none, .simulationTimeout o.timeoutSecs⟩
      else verdict host.exitCode (endings.map (·.exitCode))
    return (Ending.ofOutcome { failure }).after (host :: endings)

end Rota.Service.Simulation
