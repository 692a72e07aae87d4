import Rota.Game.Basic

namespace Rota.Game

structure Reply (α : Type) where
  answer : Except Fault α
  game : Game
  /-- The events in the order in which they happened. -/
  events : List Event := []
  /-- Whether everyone who waits for a change has been woken. -/
  woke : Bool := false
  /-- Whether the call ended the game, so that its scores are due to be kept. -/
  ended : Bool := false

namespace Reply

def refuse {α : Type} (g : Game) (f : Fault) : Reply α := ⟨.error f, g, [], false, false⟩

def map {α β : Type} (f : α → β) (r : Reply α) : Reply β :=
  ⟨r.answer.map f, r.game, r.events, r.woke, r.ended⟩

end Reply

/-- A waiting game starts once enough seats are eligible. -/
def startIfReady (g : Game) : Game × List Event :=
  if g.phase = .waiting ∧ g.rules.minPlayers.toNat ≤ g.eligible.toNat then g.start else (g, [])

/-- Connects a taken seat, and counts it in if it takes part. -/
def arrive (g : Game) (seat : Nat) : Game :=
  { g.modifySeat seat ({ · with connected := true }) with
    eligible := if (g.seat seat).inPlay then g.eligible + 1 else g.eligible }

/-- Disconnects a taken seat, and counts it out if it takes part. -/
def leave (g : Game) (seat : Nat) : Game :=
  { g.modifySeat seat ({ · with connected := false }) with
    eligible := if (g.seat seat).inPlay then g.eligible - 1 else g.eligible }

/-- Reports the connection of a seat just connected and starts the game once enough are there. -/
def greet (g : Game) (seat : Nat) : Reply Unit :=
  let (h, events) := g.startIfReady
  ⟨.ok (), h, .connected seat g.eligible.toNat g.taken :: events, true, false⟩

/-- Connects a taken seat; one already connected stays as it is. -/
def connect (g : Game) (seat : Nat) : Reply Unit :=
  match g.seated seat with
  | .error f => .refuse g f
  | .ok s =>
    if s.connected then ⟨.ok (), g, [], false, false⟩
    else if g.isOver then .refuse g .over
    else greet (g.arrive seat) seat

def seatNext (g : Game) (name : String) : Game :=
  { g.modifySeat g.taken (·.sit g.rules.startingMoney) with
    taken := g.taken + 1
    scores := g.scores.rename g.taken name }

def join (g : Game) (name : String) : Reply Nat :=
  if g.isOver then .refuse g .over
  else if g.capacity ≤ g.taken then .refuse g (.full g.capacity)
  else ((g.seatNext name).connect g.taken).map fun _ => g.taken

def settle (g : Game) (events : List Event) : Reply Handover :=
  match g.handOver with
  | .error f => ⟨.error f, g, events, true, false⟩
  | .ok (h, g, more) => ⟨.ok h, g, events ++ more, true, g.isOver⟩

def advance (g : Game) : Reply Handover :=
  match g.handOver with
  | .error f => .refuse g f
  | .ok _ => g.settle []

/-- Marks a player gone; the turn moves on if it was theirs, or rests if nobody can take it. -/
def disconnect (g : Game) (seat : Nat) : Reply Unit :=
  match g.seated seat with
  | .error f => .refuse g f
  | .ok s =>
    if s.connected then
      if g.isTurnOf seat then
        { ((g.leave seat).settle [.disconnected seat]).map (fun _ => ()) with answer := .ok () }
      else ⟨.ok (), g.leave seat, [.disconnected seat], true, false⟩
    else ⟨.ok (), g, [], false, false⟩

def mover (g : Game) (seat : Nat) : Except Fault Seat :=
  match g.phase with
  | .waiting => .error .notPlaying
  | .over => .error .over
  | .playing => do
    let s ← g.seated seat
    if g.current = seat then .ok s else .error (.notYourTurn seat g.current)

/-- Puts down a purse; a seat that falls below zero is out, and counted out if it was counted. -/
def putPurse (g : Game) (seat : Nat) (p : Purse) : Game × List Event :=
  let s := g.seat seat
  if p.money < 0 ∧ !s.bankrupt then
    ({ g.modifySeat seat (fun s => (s.setPurse p).ruin) with
        eligible := if s.connected && s.active then g.eligible - 1 else g.eligible },
      [.ruined seat p.money])
  else (g.modifySeat seat (·.setPurse p), [])

/-- Makes a move and passes the turn on. The move stands even if nobody can take the turn. -/
def act (g : Game) (seat : Nat) (move : Purse → Purse) : Reply Handover :=
  match g.mover seat with
  | .error f => .refuse g f
  | .ok s =>
    let (g, events) := g.putPurse seat (move s.purse)
    g.settle events

inductive Wake
  | turn
  | over
  deriving DecidableEq, Repr

/-- What ends the wait for the turn of `seat` now, if anything does. -/
def wake? (g : Game) (seat : Nat) : Option Wake :=
  match g.phase with
  | .over => some .over
  | .playing => if g.current = seat then some .turn else none
  | .waiting => none

/-- Takes the signal of `seat` if it is up, and says whether it was. -/
def takeSignal (g : Game) (seat : Nat) : Except Fault (Bool × Game) := do
  let s ← g.seated seat
  if s.signal = 0 then return (false, g)
  else return (true, g.modifySeat seat fun s => { s with signal := s.signal - 1 })

inductive Call
  | join (name : String)
  | connect (seat : Nat)
  | disconnect (seat : Nat)
  | advance
  | act (seat : Nat) (move : Purse → Purse)

inductive Done
  | seat (i : Nat)
  | done
  | turn (h : Handover)
  deriving DecidableEq, Repr

def perform (g : Game) : Call → Reply Done
  | .join name => (g.join name).map .seat
  | .connect seat => (g.connect seat).map fun _ => .done
  | .disconnect seat => (g.disconnect seat).map fun _ => .done
  | .advance => g.advance.map .turn
  | .act seat move => (g.act seat move).map .turn

/-- The game after a run of calls, failing ones included. -/
def run (g : Game) (calls : List Call) : Game := calls.foldl (fun g c => (g.perform c).game) g

end Rota.Game
