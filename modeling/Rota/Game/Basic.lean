import Rota.Game.Event
import Rota.Game.Seat
import Rota.Score.Sheet

namespace Rota

inductive Phase
  | waiting
  | playing
  | over
  deriving DecidableEq, Repr

def Phase.text : Phase → String
  | .waiting => "Waiting"
  | .playing => "Playing"
  | .over => "GameOver"

/-- A table with its game and its scores. -/
structure Game where
  rules : Rules
  phase : Phase := .waiting
  /-- The seat whose turn it is. -/
  current : Nat := 0
  round : UInt32 := 0
  /-- Turns passed on since the game started. -/
  moves : UInt64 := 0
  /-- How many places are taken; they are handed out in order. -/
  taken : Nat := 0
  /-- How many seats are eligible, kept up to date as they change. -/
  eligible : UInt32 := 0
  winner : Option Nat := none
  places : Vector Seat mostSeats := Vector.replicate mostSeats {}
  scores : Score.Sheet := {}
  deriving DecidableEq

namespace Game

inductive Fault
  | notSeated (seat seated : Nat)
  | full (capacity : Nat)
  | notPlaying
  | over
  | notYourTurn (seat current : Nat)
  | nobodyEligible
  deriving DecidableEq, Repr

def Fault.message : Fault → String
  | .notSeated seat seated =>
    s!"invalid argument: player {seat} is not seated ({seated} seats taken)"
  | .full capacity => s!"all {capacity} seats are taken"
  | .notPlaying => "game is not in progress"
  | .over => "game is over"
  | .notYourTurn seat current =>
    s!"player {seat} acted out of turn, current player is {current}"
  | .nobodyEligible => "no eligible player to take the turn"

def Fault.recoverable : Fault → Bool
  | .notSeated .. => false
  | _ => true

/-- Sets a table up by `rules`, with the scores of an earlier board if there is one. All signals go
down; what else the table holds stays. -/
def setUp (g : Game) (rules : Rules) (saved : Option Score.Board) : Game :=
  { g with
    rules := rules.atTable
    places := g.places.map Seat.lower
    scores := saved.elim g.scores g.scores.load }

def blank : Game := { rules := Rules.blank }

def new (rules : Rules) (saved : Option Score.Board := none) : Game := blank.setUp rules saved

def capacity (g : Game) : Nat := min g.rules.maxPlayers.toNat mostSeats

/-- The place numbered `i`, taken or not. -/
def seat (g : Game) (i : Nat) : Seat := g.places[i]?.getD {}

def seats (g : Game) : List Seat := g.places.toList.take g.taken

def mapPlaces (g : Game) (f : Nat → Seat → Seat) : Game := { g with places := g.places.mapIdx f }

def modifySeat (g : Game) (i : Nat) (f : Seat → Seat) : Game :=
  g.mapPlaces fun j s => if j = i then f s else s

def isOver (g : Game) : Bool := g.phase = .over

def winner? (g : Game) : Option Nat := if g.isOver then g.winner else none

def isTurnOf (g : Game) (i : Nat) : Bool := g.phase = .playing && g.current = i

/-- The seat numbered `i`, which has to be taken. -/
def seated (g : Game) (i : Nat) : Except Fault Seat :=
  if i < g.taken then .ok (g.seat i) else .error (.notSeated i g.taken)

/-- Of the taken seats, nothing but the signal of `i` is up. -/
def signalOnly (g : Game) (i : Nat) : Game :=
  g.mapPlaces fun j s => if g.taken ≤ j then s else if j = i then s.raise else s.lower

def signalAll (g : Game) : Game := g.mapPlaces fun j s => if g.taken ≤ j then s else s.raise

/-- The game is decided once one seat at most can pay or the rounds are used up. -/
def decided (g : Game) : Bool := (solvent g.seats).length ≤ 1 || g.rules.lapCap ≤ g.round

/-- The moves after which the rounds are used up at the latest. -/
def movesLeft (g : Game) : Nat := (g.rules.lapCap.toNat - g.round.toNat + 1) * mostSeats

/-- Counts the move that gives `next` the turn; a step not to a later seat begins a round. -/
def handTo (g : Game) (next : Nat) : Game :=
  { g.modifySeat next Seat.countTurn with
    current := next
    round := if next ≤ g.current ∨ next = 0 then g.round + 1 else g.round
    moves := g.moves + 1 }

/-- Ends the game, counts it in the scores and wakes everyone. -/
def finish (g : Game) (winner : Nat) : Game :=
  signalAll
    { g with
      phase := .over
      winner := some winner
      scores := g.scores.count g.taken winner }

inductive Handover
  | next (seat : Nat)
  | over (winner : Nat)
  deriving DecidableEq, Repr

/-- Gives `next` the turn, unless that decides the game. -/
def elect (g : Game) (next : Nat) : Handover × Game × List Event :=
  let g := g.handTo next
  if g.decided then
    let winner := champion g.seats
    (.over winner, g.finish winner, [.won winner g.round (g.seat winner).money])
  else (.next next, g.signalOnly next, [])

/-- Passes the turn to the next eligible seat, which may end the game. -/
def handOver (g : Game) : Except Fault (Handover × Game × List Event) :=
  match g.phase with
  | .waiting => .error .notPlaying
  | .over => .error .over
  | .playing =>
    match nextSeat? g.seats g.current with
    | none => .error .nobodyEligible
    | some next => .ok (g.elect next)

def startWith (g : Game) (first : Nat) : Game :=
  signalOnly
    { g.modifySeat first Seat.countTurn with phase := .playing, current := first, round := 0 } first

/-- Starts the game with the first eligible seat, if there is one. -/
def start (g : Game) : Game × List Event :=
  match g.seats.findIdx? Seat.eligible with
  | none => (g, [])
  | some first => (g.startWith first, [.started g.taken first])

end Game
end Rota
