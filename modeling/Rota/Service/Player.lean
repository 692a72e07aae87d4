import Rota.Cli.Command
import Rota.Dice
import Rota.Service.Failure
import Rota.World.Tables

namespace Rota.Service

open Cli (PlayerOptions)

structure Player where
  /-- The label of the player's station. -/
  station : String
  name : String
  seat : Nat
  /-- How many turns the player takes at most. -/
  rounds : Option UInt32
  turns : Nat := 0
  dice : Dice.Source
  deriving DecidableEq, Repr

inductive Progress
  | waiting (p : Player)
  | done (outcome : Outcome)
  deriving DecidableEq, Repr

namespace Player

def defaultName (process : String) : String := s!"pid-{process}"

def lateLine (name : String) : String := s!"player ({name}): game already over\n"

def resultText (seat : Nat) : Option Nat → String
  | some winner => if winner = seat then "won" else s!"lost to player {winner}"
  | none => "no winner"

def resultLine (p : Player) (winner : Option Nat) : String :=
  s!"player {p.seat} ({p.name}): {resultText p.seat winner}\n"

def rollLine (seat face : Nat) : String := s!"Player {seat} rolled {face}"

def takeStation (station game : String) : Act Unit := do
  let table ← attempt (some (.attachGame game)) (World.openTable game)
  let log ← ((World.openQueue (logName game)).run : StateM World _)
  World.put station (.station { table, log := log.toOption })

/-- A player who is done leaves the station. -/
def retire (station : String) (progress : Progress) : StateM World Progress := do
  match progress with
  | .waiting _ => pure ()
  | .done _ => World.ignore (World.drop station)
  return progress

/-- Comes to a game and takes a seat, unless the game is over. -/
def join (station process : String) (dice : Dice.Source) (o : PlayerOptions) :
    StateM World Progress := do
  match ← (takeStation station o.name).run with
  | .error f => return .done { failure := f }
  | .ok () =>
    let name := o.playerName.getD (defaultName process)
    match ← ((World.play station (.join name)).run : StateM World _) with
    | .ok (.seat seat) =>
      return .waiting { station, name, seat, rounds := o.rounds, dice }
    | .ok _ => return .done {}
    | .error (.table (.game .over)) => return .done { printed := lateLine name }
    | .error f => return .done { failure := some ⟨none, .world f⟩ }

/-- Comes to a game, and stays at the station if there is a seat. -/
def enter (station process : String) (dice : Dice.Source) (o : PlayerOptions) :
    StateM World Progress := do
  retire station (← join station process dice o)

def quit (p : Player) : StateM World Progress := do
  match ← ((World.play p.station (.disconnect p.seat)).run : StateM World _) with
  | .ok _ => return .done {}
  | .error f => return .done { failure := some ⟨none, .world f⟩ }

def see (p : Player) : StateM World Progress := do
  match ← ((World.gameAt p.station).run : StateM World _) with
  | .ok g => return .done { printed := p.resultLine g.winner? }
  | .error f => return .done { failure := some ⟨none, .world f⟩ }

/-- The roll that the player's turn begins with. One that does not fit changes nothing. -/
def rollFrom (p : Player) (purse : Purse) : Dice.Roll :=
  (Dice.roll p.dice purse).toOption.getD ⟨0, purse, p.dice⟩

def tellRoll (p : Player) (face : Nat) : World.Act Unit := do
  match (← World.stationAt p.station).log with
  | some log => let _ ← World.tell log.cell (rollLine p.seat face)
  | none => return

def move (p : Player) : World.Act Player := do
  match ← World.shown p.station p.seat with
  | some purse =>
    let r := p.rollFrom purse
    let _ ← World.play p.station (.act p.seat fun _ => r.purse)
    p.tellRoll r.face
    return { p with turns := p.turns + 1, dice := r.source }
  | none => return p

def takeTurn (p : Player) : StateM World Progress := do
  if p.rounds.any (·.toNat ≤ p.turns) then p.quit
  else
    match ← (p.move.run : StateM World _) with
    | .ok p => return .waiting p
    | .error (.table (.game .over)) => p.see
    | .error (.table (.game .nobodyEligible)) => p.quit
    | .error f => return .done { failure := some ⟨none, .world f⟩ }

/-- Does what the state of the game calls for, if it calls for anything. -/
def step (p : Player) : StateM World Progress := do
  match ← ((World.waitTurn p.station p.seat).run : StateM World _) with
  | .ok .turn => p.takeTurn
  | .ok .over => p.see
  | .error .blocks => return .waiting p
  | .error f => return .done { failure := some ⟨none, .world f⟩ }

/-- Takes up to `limit` turns, one after the other, as long as the turn is the player's. -/
def playUpTo : Nat → Player → StateM World Progress
  | 0, p => return .waiting p
  | limit + 1, p => do
    match ← p.step with
    | .waiting next => if next.turns = p.turns then return .waiting next else playUpTo limit next
    | done => return done

def play (p : Player) : StateM World Progress := do
  match ← ((World.gameAt p.station).run : StateM World _) with
  | .ok g => playUpTo (g.movesLeft + 1) p
  | .error f => return .done { failure := some ⟨none, .world f⟩ }

end Player

def Progress.advance : Progress → StateM World Progress
  | .waiting p => do Player.retire p.station (← p.play)
  | .done outcome => return .done outcome

/-- What has come of the player by now; one who still waits has printed nothing. -/
def Progress.outcome : Progress → Outcome
  | .waiting _ => {}
  | .done outcome => outcome

end Rota.Service
